import FactoryRegistry.Config.Configuration
import FactoryRegistry.Proofs.Value.Merging
import FactoryRegistry.Proofs.Value.OverlayLaws

/-!
# Laws of merging

Documents that are trees of mappings (`Value.Tree`: no mapping stands at two places, and keys are
found) and that share nothing are overlaid when they are merged (`Tree.mergeInto_eq`), so merging
has the laws of overlays (`merge_laws`).

One of these laws needs more than that. When a document is merged once more, the target has mappings
of the document in it, and those are merged into themselves. A target has then absorbed the document
(`Absorbed`): every change that the merge makes leaves target and document as they are
(`mergeMapping_absorbed`).
-/

namespace FactoryRegistry

namespace Value

variable {Own : Nat → Prop} {l m : Nat} {k : Scalar} {v w u : Value}
  {es ss : List (Scalar × Value)} {inner : Value → Value → Merge}

/-! ## Merging what is there already -/

/-- A value has absorbed another one: it is the same value, or both are mappings, and what it has
under every key of the other has absorbed what the other has there. `Own` tells the labels of
mappings that the other one has nowhere. -/
inductive Absorbed (Own : Nat → Prop) : Value → Value → Prop where
  /-- The same value. -/
  | self (v : Value) : Absorbed Own v v
  /-- A mapping of its own. -/
  | map {l m : Nat} {es ss : List (Scalar × Value)} (own : Own l)
      (found : ∀ e ∈ ss, (lookup e.1 es).isSome)
      (values : ∀ e ∈ ss, ∀ v, lookup e.1 es = some v → Absorbed Own v e.2) :
      Absorbed Own (map l es) (map m ss)

/-- `overlaid old w` has `Absorbed` the value `w`. -/
theorem absorbed_overlaid (hw : w.Keyed) {old : Option Value}
    (hown : ∀ v ∈ old, ∀ i ∈ v.labels, Own i) : Absorbed Own (overlaid old w) w := by
  induction hw generalizing old with
  | @map m ss hkeys _ ih =>
    rcases map_or_not_map old with ⟨i, is, rfl⟩ | hnot
    · -- under each key of the source the overlay has what is overlaid there
      have hfound : ∀ e ∈ ss,
          lookup e.1 (overlay is ss) = some (overlaid (lookup e.1 is) e.2) := fun e he => by
        rw [lookup_overlay_eq_overlaidBy hkeys.distinct, hkeys.lookup_of_mem he, overlaidBy]
      rw [overlaid]
      refine .map (hown _ rfl i (Multiset.mem_cons_self i _)) (fun e he => ?_) fun e he v hv => ?_
      · rw [hfound e he]
        rfl
      · rw [hfound e he, Option.some.injEq] at hv
        rw [← hv]
        exact ih e he fun x hx j hj => hown _ rfl j
          (Multiset.mem_cons_of_mem (Multiset.mem_of_le (labels_le_of_lookup hx) hj))
    · rw [overlaid_of_not_map hnot]
      exact .self _
  | leaf h =>
    rw [overlaid_of_isMap_eq_false old h]
    exact .self _

/-- A change that leaves a value as it is. -/
def Change.Idle (d : Change) (v : Value) : Prop := v.change d = v

theorem changed_of_idle {changes : List Change} (h : ∀ d ∈ changes, Change.Idle d v) :
    v.changed changes = v := by
  induction changes with
  | nil => rfl
  | cons d changes ih =>
    obtain ⟨hd, hchanges⟩ := List.forall_mem_cons.1 h
    rw [changed, List.foldl_cons, hd]
    exact ih hchanges

/-- A change to a mapping in the hole of `f`, and nowhere around it, is `Idle` on the whole if it is
on the mapping. -/
theorem Change.Idle.fill {d : Change} {f : Frame} (hd : Change.Idle d v)
    (hnodup : (f.fill v).labels.Nodup) (hmem : d.label ∈ v.labels) : Change.Idle d (f.fill v) := by
  rw [Frame.labels_fill, Multiset.nodup_add] at hnodup
  rw [Change.Idle, change, assign_fill (Multiset.disjoint_right.1 hnodup.2.2 hmem)]
  exact congrArg f.fill hd

/-- A merge of a source into a target comes to its end and leaves both as they are. It makes changes
to mappings of the target only, which the source has too or has nowhere. -/
def LeavesAlone (Own : Nat → Prop) (r : Merge) (target source : Value) : Prop :=
  ∃ changes, r = (.ok (), changes) ∧ ∀ d ∈ changes, d.label ∈ target.labels ∧
    (d.label ∈ source.labels ∨ Own d.label) ∧ Change.Idle d target ∧ Change.Idle d source

/-- What is assumed of a target that has absorbed a source. -/
structure Absorbing (Own : Nat → Prop) (l : Nat) (es : List (Scalar × Value)) (m : Nat)
    (ss : List (Scalar × Value)) : Prop where
  /-- The source is in the target. -/
  absorbed : Absorbed Own (map l es) (map m ss)
  /-- The keys of the source are found. -/
  keyed : (map m ss).Keyed
  /-- No mapping stands at two places of the target. -/
  target_nodup : (map l es).labels.Nodup
  /-- No mapping stands at two places of the source. -/
  source_nodup : (map m ss).labels.Nodup
  /-- The source has no mapping that is the target's own. -/
  source_not_own : ∀ i ∈ (map m ss).labels, ¬ Own i

namespace Absorbing

theorem lookup_source (h : Absorbing Own l es m ss) (hmem : (k, w) ∈ ss) : lookup k ss = some w :=
  (keyed_map_iff.1 h.keyed).1.lookup_of_mem hmem

/-- Under every key of the source the target has something that has `Absorbed` what is there. -/
theorem exists_lookup (h : Absorbing Own l es m ss) (hmem : (k, w) ∈ ss) :
    ∃ v, lookup k es = some v ∧ Absorbed Own v w := by
  cases h.absorbed with
  | self => exact ⟨w, h.lookup_source hmem, .self w⟩
  | map _ found values =>
    obtain ⟨v, hv⟩ := Option.isSome_iff_exists.1 (found _ hmem)
    exact ⟨v, hv, values _ hmem v hv⟩

/-- The entries of the target are those it is written with: it does not stand inside itself. -/
theorem target_entries (h : Absorbing Own l es m ss) : (map l es).entries = es :=
  entries_map (Multiset.nodup_cons.1 h.target_nodup).1

/-- The entries of the source are those it is written with. -/
theorem source_entries (h : Absorbing Own l es m ss) : (map m ss).entries = ss :=
  entries_map (Multiset.nodup_cons.1 h.source_nodup).1

/-- Setting a key to what the target has there leaves target and source as they are. -/
theorem idle_of_lookup (h : Absorbing Own l es m ss) (hv : lookup k es = some v) :
    LeavesAlone Own (.ok (), [{ label := l, key := k, value := v }]) (map l es) (map m ss) := by
  have hl : l ∉ v.labels := fun hl =>
    (Multiset.nodup_cons.1 h.target_nodup).1 (Multiset.mem_of_le (labels_le_of_lookup hv) hl)
  have htarget : assign l k (v.folded l) (map l es) = map l es := by
    have hroot : (plug [] (map l es)).Unshared l := unshared_of_nodup h.target_nodup l
    have hassign := assign_plug_map hroot k v
    rwa [putEntry_self hv, ← folded_of_not_mem hl] at hassign
  refine ⟨_, rfl, fun d hd => ?_⟩
  rw [List.mem_singleton.1 hd]
  refine ⟨Multiset.mem_cons_self l _, ?_⟩
  -- the two are the same mapping, or the source does not have the target's label
  cases h.absorbed with
  | self => exact ⟨Or.inl (Multiset.mem_cons_self l _), htarget, htarget⟩
  | map own _ _ =>
    have hsource : l ∉ (map m ss).labels := fun hl => h.source_not_own l hl own
    exact ⟨Or.inr own, htarget, assign_of_not_mem l k _ _ hsource⟩

/-- Two mappings under the same key of target and source are `Absorbing` in turn. -/
theorem of_lookup {i n : Nat} {is ns : List (Scalar × Value)} (h : Absorbing Own l es m ss)
    (hold : lookup k es = some (map i is)) (hnew : lookup k ss = some (map n ns))
    (habsorbed : Absorbed Own (map i is) (map n ns)) : Absorbing Own i is n ns where
  absorbed := habsorbed
  keyed := keyed_of_lookup (keyed_map_iff.1 h.keyed).2 hnew
  target_nodup := Multiset.nodup_of_le
    ((labels_le_of_lookup hold).trans (Multiset.le_cons_self _ l)) h.target_nodup
  source_nodup := Multiset.nodup_of_le
    ((labels_le_of_lookup hnew).trans (Multiset.le_cons_self _ m)) h.source_nodup
  source_not_own := fun j hj => h.source_not_own j
    (Multiset.mem_cons_of_mem (Multiset.mem_of_le (labels_le_of_lookup hnew) hj))

/-- A merge that leaves alone what is under a key leaves alone the mappings around it. -/
theorem leavesAlone_of_lookup {r : Merge} (h : Absorbing Own l es m ss)
    (hold : lookup k es = some v) (hnew : lookup k ss = some w) (hr : LeavesAlone Own r v w) :
    LeavesAlone Own r (map l es) (map m ss) := by
  obtain ⟨changes, hrun, hchanges⟩ := hr
  -- what is merged stands in the hole of a mapping on either side
  obtain ⟨f, hf, -⟩ := exists_frame hold l
  obtain ⟨g, hg, -⟩ := exists_frame hnew m
  refine ⟨changes, hrun, fun d hd => ?_⟩
  obtain ⟨hmem, hsource, htarget, hidle⟩ := hchanges d hd
  refine ⟨Multiset.mem_cons_of_mem (Multiset.mem_of_le (labels_le_of_lookup hold) hmem), ?_, ?_, ?_⟩
  · exact hsource.imp_left fun hs =>
      Multiset.mem_cons_of_mem (Multiset.mem_of_le (labels_le_of_lookup hnew) hs)
  · rw [hf]
    exact htarget.fill (hf ▸ h.target_nodup) hmem
  · -- the source has the changed mapping in its hole, or nowhere
    rcases hsource with hs | hown
    · rw [hg]
      exact hidle.fill (hg ▸ h.source_nodup) hs
    · exact assign_of_not_mem _ _ _ _ fun hs => h.source_not_own _ hs hown

/-- `mergeEntry` leaves everything alone, if the merge of mappings under its key does. -/
theorem mergeEntry (h : Absorbing Own l es m ss) (hmem : (k, w) ∈ ss)
    (hinner : ∀ i is n ns, Absorbing Own i is n ns → lookup k ss = some (map n ns) →
      LeavesAlone Own (inner (map i is) (map n ns)) (map i is) (map n ns)) :
    LeavesAlone Own (mergeEntry inner (map l es) k w) (map l es) (map m ss) := by
  obtain ⟨v, hv, habsorbed⟩ := h.exists_lookup hmem
  have hnew := h.lookup_source hmem
  by_cases hmeet : ∃ i is n ns, v = map i is ∧ w = map n ns
  · -- two mappings meet and are merged in turn
    obtain ⟨i, is, n, ns, rfl, rfl⟩ := hmeet
    rw [Value.mergeEntry.eq_def, h.target_entries, hv]
    exact h.leavesAlone_of_lookup hv hnew (hinner i is n ns (h.of_lookup hv hnew habsorbed) hnew)
  · -- one of the two is no mapping, so they are the same value
    have hsame : v = w := by
      cases habsorbed with
      | self => rfl
      | map => exact absurd ⟨_, _, _, _, rfl, rfl⟩ hmeet
    have hnot : ∀ i is n ns, lookup k es = some (map i is) → w ≠ map n ns := fun i is n ns hi hw =>
      hmeet ⟨i, is, n, ns, Option.some.inj (hv.symm.trans hi), hw⟩
    rw [mergeEntry_of_not_meet inner (h.target_entries.symm ▸ hnot), ← hsame]
    exact h.idle_of_lookup hv

end Absorbing

/-- `mergeEntries` leaves everything alone, if `mergeEntry` does for each entry of the source. -/
theorem mergeEntries_leavesAlone {target source : Value} (hentry : ∀ e ∈ source.entries,
      LeavesAlone Own (mergeEntry inner target e.1 e.2) target source)
    {left : Nat} (hleft : left ≤ source.entries.length) :
    LeavesAlone Own (mergeEntries inner source.entries.length left target source) target
      source := by
  induction left with
  | zero =>
    refine ⟨[], ?_, List.forall_mem_nil _⟩
    rw [mergeEntries.eq_def, if_neg (not_not.2 rfl)]
  | succ left ih =>
    have hlt : source.entries.length - (left + 1) < source.entries.length := by omega
    obtain ⟨first, hrun, hfirst⟩ := hentry _ (List.getElem_mem hlt)
    obtain ⟨others, hrest, hothers⟩ := ih (by omega)
    -- so the next entry is merged from the same source into the same target
    have htarget : target.changed first = target := changed_of_idle fun d hd => (hfirst d hd).2.2.1
    have hsource : source.changed first = source :=
      changed_of_idle fun d hd => (hfirst d hd).2.2.2
    refine ⟨first ++ others, ?_, fun d hd => (List.mem_append.1 hd).elim (hfirst d) (hothers d)⟩
    rw [mergeEntries.eq_def, if_neg (not_not.2 rfl)]
    simp only [List.getElem?_eq_getElem hlt, hrun, htarget, hsource, hrest]

/-- `mergeMapping` leaves target and source alone where the target is `Absorbing` the source. -/
theorem mergeMapping_absorbed {fuel : Nat} (hfuel : (map m ss).mappings ≤ fuel)
    (h : Absorbing Own l es m ss) :
    LeavesAlone Own (mergeMapping fuel (map l es) (map m ss)) (map l es) (map m ss) := by
  induction fuel generalizing l es m ss with
  | zero => exact absurd hfuel (by simp [mappings])
  | succ fuel ih =>
    rw [mergeMapping]
    refine mergeEntries_leavesAlone (fun e he => ?_) le_rfl
    refine h.mergeEntry (h.source_entries ▸ he) fun i is n ns hinner hnew => ?_
    obtain ⟨c, hmem⟩ := exists_mem_of_lookup hnew
    have hmappings : (map n ns).mappings ≤ entryMappings ss := mappings_le_of_mem hmem
    rw [mappings] at hfuel
    exact ih (by omega) hinner

/-! ## Trees -/

/-- A mapping in which no mapping stands at two places, and keys are found. -/
structure Tree (v : Value) : Prop where
  /-- It is a mapping. -/
  isMap : v.isMap = true
  /-- No mapping stands at two places. -/
  unshared : v.labels.Nodup
  /-- The keys of every mapping that a path leads to are found. -/
  keyed : v.Keyed

/-- The labels of `overlaid` mappings are those of the two. -/
theorem labels_overlaid_le (hv : v.isMap = true) (hw : w.isMap = true) :
    (overlaid (some v) w).labels ≤ v.labels + w.labels := by
  cases v with
  | map l es =>
    cases w with
    | map m ss =>
      rw [overlaid]
      exact labels_overlay_le l m es ss
    | _ => cases hw
  | _ => cases hv

namespace Tree

theorem exists_map (h : v.Tree) : ∃ l es, v = map l es := by
  cases v with
  | map l es => exact ⟨l, es, rfl⟩
  | _ => cases h.isMap

/-- `mergeInto` overlays one tree by another one that shares nothing with it. -/
theorem mergeInto_eq (hv : v.Tree) (hw : w.Tree) (hdisjoint : Disjoint v.labels w.labels) :
    v.mergeInto w = (.ok (), overlaid (some v) w) := by
  obtain ⟨l, es, rfl⟩ := hv.exists_map
  obtain ⟨m, ss, rfl⟩ := hw.exists_map
  rw [overlaid]
  have hdetached : Detached (map l es) (map m ss) :=
    ⟨hw.keyed.proper, fun i _ => unshared_of_nodup hv.unshared i, hdisjoint⟩
  exact mergeInto_eq_overlay hdetached (loopless_of_nodup _ hw.unshared) defaultDepth

/-- Overlaying a tree by another one that shares nothing with it makes a `Tree`. -/
theorem overlaid (hv : v.Tree) (hw : w.Tree) (hdisjoint : Disjoint v.labels w.labels) :
    (overlaid (some v) w).Tree where
  isMap := by
    obtain ⟨l, es, rfl⟩ := hv.exists_map
    obtain ⟨m, ss, rfl⟩ := hw.exists_map
    rw [Value.overlaid]
    rfl
  unshared := Multiset.nodup_of_le (labels_overlaid_le hv.isMap hw.isMap)
    (Multiset.nodup_add.2 ⟨hv.unshared, hw.unshared, hdisjoint⟩)
  keyed := keyed_overlaid (fun _ hx => Option.some.inj hx ▸ hv.keyed) hw.keyed

/-- `mergeInto` of the same source once more leaves the result as it is. -/
theorem mergeInto_again (hv : v.Tree) (hw : w.Tree) (hdisjoint : Disjoint v.labels w.labels) :
    (Value.overlaid (some v) w).mergeInto w = (.ok (), Value.overlaid (some v) w) := by
  have hmerged := hv.overlaid hw hdisjoint
  have habsorbed : Absorbed (· ∈ v.labels) (Value.overlaid (some v) w) w :=
    absorbed_overlaid hw.keyed fun x hx i hi => Option.some.inj hx ▸ hi
  -- from here on it does not matter how the result came about
  generalize Value.overlaid (some v) w = r at hmerged habsorbed
  obtain ⟨l, es, rfl⟩ := hmerged.exists_map
  obtain ⟨m, ss, rfl⟩ := hw.exists_map
  have habsorbing : Absorbing (· ∈ v.labels) l es m ss := ⟨habsorbed, hw.keyed, hmerged.unshared,
    hw.unshared, fun i hi hown => Multiset.disjoint_left.1 hdisjoint hown hi⟩
  obtain ⟨changes, hrun, hchanges⟩ :=
    mergeMapping_absorbed (Nat.le_add_left _ (defaultDepth + (map l es).mappings)) habsorbing
  rw [mergeInto, hrun]
  exact congrArg (Prod.mk _) (changed_of_idle fun d hd => (hchanges d hd).2.2.1)

/-- Trees that share nothing can be merged from either side, where they are `Compatible`. -/
theorem mergeInto_assoc (hv : v.Tree) (hw : w.Tree) (hu : u.Tree)
    (hvw : Disjoint v.labels w.labels) (hvu : Disjoint v.labels u.labels)
    (hwu : Disjoint w.labels u.labels) (hcvw : Compatible v w) (hcwu : Compatible w u) :
    ∃ vw wu r, v.mergeInto w = (.ok (), vw) ∧ w.mergeInto u = (.ok (), wu) ∧
      vw.mergeInto u = (.ok (), r) ∧ v.mergeInto wu = (.ok (), r) := by
  have hleft : Disjoint (Value.overlaid (some v) w).labels u.labels :=
    (Multiset.disjoint_add_left.2 ⟨hvu, hwu⟩).mono_left (labels_overlaid_le hv.isMap hw.isMap)
  have hright : Disjoint v.labels (Value.overlaid (some w) u).labels :=
    (Multiset.disjoint_add_right.2 ⟨hvw, hvu⟩).mono_right (labels_overlaid_le hw.isMap hu.isMap)
  refine ⟨_, _, _, hv.mergeInto_eq hw hvw, hw.mergeInto_eq hu hwu,
    (hv.overlaid hw hvw).mergeInto_eq hu hleft, ?_⟩
  rw [hv.mergeInto_eq (hw.overlaid hu hwu) hright,
    overlaid_assoc hv.keyed hw.keyed hu.keyed hv.unshared hw.unshared hu.unshared hcvw hcwu]

end Tree

end Value

namespace Config

open Value

/-- The laws of `mergeInto` for trees that share nothing.

The keys of a result are the target's in their order and then the source's new ones in theirs, in
every mapping that both have. Merging the source once more changes nothing, be it the same source or
another one with mappings of its own that holds the same (`unlabelled`).

If documents that are merged after one another are `Compatible`, so that no path leads to a mapping
in one and to another value in the other, three documents can be merged from either side. So a
configuration comes to the same whether two documents are merged into it one by one or merged
before. -/
theorem merge_laws :
    (∀ {target source : Value}, target.Tree → source.Tree →
      Disjoint target.labels source.labels →
      ∃ r, target.mergeInto source = (.ok (), r) ∧
        (∀ path i es m ss, target.at? path = some (.map i es) → source.at? path = some (.map m ss) →
          ∃ rs, r.at? path = some (.map i rs) ∧ rs.map Prod.fst =
            es.map Prod.fst ++ (ss.map Prod.fst).filter fun k => (lookup k es).isNone) ∧
        r.mergeInto source = (.ok (), r) ∧
        ∀ other : Value, other.Tree → other.unlabelled = source.unlabelled →
          Disjoint r.labels other.labels →
          ∃ r', r.mergeInto other = (.ok (), r') ∧ r'.unlabelled = r.unlabelled) ∧
    (∀ {a b c : Value}, a.Tree → b.Tree → c.Tree → Disjoint a.labels b.labels →
      Disjoint a.labels c.labels → Disjoint b.labels c.labels → Compatible a b → Compatible b c →
      ∃ ab bc r, a.mergeInto b = (.ok (), ab) ∧ b.mergeInto c = (.ok (), bc) ∧
        ab.mergeInto c = (.ok (), r) ∧ a.mergeInto bc = (.ok (), r)) ∧
    ∀ {c : Configuration} {first second : Value}, c.root.Tree → first.Tree → second.Tree →
      Disjoint c.root.labels first.labels → Disjoint c.root.labels second.labels →
      Disjoint first.labels second.labels → Compatible c.root first → Compatible first second →
      ∃ both root, first.mergeInto second = (.ok (), both) ∧ ∀ next next' next'', ∃ c',
        c.merge first next = (.ok (), c') ∧
        c'.merge second next' = (.ok (), { root, next := max c'.next next' }) ∧
        c.merge both next'' = (.ok (), { root, next := max c.next next'' }) := by
  refine ⟨fun {t s} ht hs hdisjoint => ?_, fun ha hb hc => ha.mergeInto_assoc hb hc,
    fun {c b d} hc hb hd hcb hcd hbd hcompatible hcompatible' => ?_⟩
  · refine ⟨_, ht.mergeInto_eq hs hdisjoint, fun path i es m ss hes hss => ?_,
      ht.mergeInto_again hs hdisjoint, fun s' hs' hsame hdisjoint' => ?_⟩
    · -- the keys of the result, on a path that leads to mappings on both sides
      have hnodup := Multiset.nodup_add.2 ⟨ht.unshared, hs.unshared, hdisjoint⟩
      refine ⟨_, at?_overlaid hs.keyed.proper hnodup hes hss, keys_overlay ?_ es⟩
      exact (proper_map_iff.1 (proper_of_at? hs.keyed.proper hss)).1
    · -- labels have no part in it, so the copy may be replaced by the source itself
      refine ⟨_, (ht.overlaid hs hdisjoint).mergeInto_eq hs' hdisjoint', ?_⟩
      rw [unlabelled, relabel_overlaid, ← unlabelled, hsame, unlabelled, ← relabel_overlaid,
        overlaid_overlaid_self hs.keyed, unlabelled]
  · obtain ⟨cb, bd, r, hfirst, hboth, hsecond, hmerged⟩ :=
      hc.mergeInto_assoc hb hd hcb hcd hbd hcompatible hcompatible'
    refine ⟨bd, r, hboth, fun n n' n'' => ⟨{ root := cb, next := max c.next n }, ?_, ?_, ?_⟩⟩
    · rw [Configuration.merge, hfirst]
    · rw [Configuration.merge, hsecond]
    · rw [Configuration.merge, hmerged]

/-- A mapping with one entry in it and one beside it. -/
def branch (l : Nat) (name : String) : Value :=
  .map l [(.text "a", .map (l + 1) [(.text name, .null)]), (.text name, .null)]

theorem branch_tree (l : Nat) {name : String} (h : name ≠ "a") : (branch l name).Tree where
  isMap := rfl
  unshared := by simp [branch, labels, entryLabels, null]
  keyed := by
    have hnull : Value.null.Keyed := .leaf rfl
    have hinner : KeysFound [(Scalar.text name, Value.null)] := ⟨by simp [DistinctKeys], by simp⟩
    refine .map ⟨by simp [DistinctKeys, h.symm], by simp⟩ ?_
    simp only [List.forall_mem_cons, List.not_mem_nil, false_implies, implies_true, and_true]
    exact ⟨.map hinner (by simpa using hnull), hnull⟩

theorem branch_compatible (l m : Nat) {name other : String} (h : name ≠ other) :
    Compatible (branch l name) (branch m other) := by
  -- neither beside nor in the inner mapping do the two have a key in common
  have hother : ∀ k, (Scalar.text name).sameKey k = true →
      (Scalar.text other).sameKey k = false := by
    intro k hk
    rw [← Bool.not_eq_true]
    intro hk'
    exact h (by simpa using Scalar.sameKey_trans hk (Scalar.sameKey_symm hk'))
  have hfree : ∀ l name, l ∉ entryLabels
      [(.text "a", .map (l + 1) [(.text name, .null)]), (.text name, .null)] := by
    simp [labels, entryLabels, null]
  have hinner : ∀ l name, l ∉ entryLabels [(.text name, .null)] := by
    simp [labels, entryLabels, null]
  refine .map (hfree l name) (hfree m other) fun k v w hv hw => ?_
  rw [lookup] at hv hw
  by_cases ha : (Scalar.text "a").sameKey k = true
  · rw [if_pos ha, Option.some.injEq] at hv hw
    rw [← hv, ← hw]
    refine .map (hinner _ name) (hinner _ other) fun k v w hv hw => ?_
    by_cases hk : (Scalar.text name).sameKey k = true
    · simp [lookup, hother k hk] at hw
    · simp [lookup, hk] at hv
  · rw [if_neg ha] at hv hw
    by_cases hk : (Scalar.text name).sameKey k = true
    · simp [lookup, hother k hk] at hw
    · simp [lookup, hk] at hv

/-- The laws for three branches that have a mapping under one key, and a copy of the second one. -/
theorem merge_laws_branches :
    (∃ r, (branch 0 "x").mergeInto (branch 2 "y") = (.ok (), r) ∧
      r.mergeInto (branch 2 "y") = (.ok (), r) ∧
      ∃ r', r.mergeInto (branch 4 "y") = (.ok (), r') ∧ r'.unlabelled = r.unlabelled) ∧
    (∃ ab bc r, (branch 0 "x").mergeInto (branch 2 "y") = (.ok (), ab) ∧
      (branch 2 "y").mergeInto (branch 6 "z") = (.ok (), bc) ∧
      ab.mergeInto (branch 6 "z") = (.ok (), r) ∧ (branch 0 "x").mergeInto bc = (.ok (), r)) ∧
    ∃ both root, (branch 2 "y").mergeInto (branch 6 "z") = (.ok (), both) ∧
      ∀ next next' next'', ∃ c',
      Configuration.merge { root := branch 0 "x" } (branch 2 "y") next = (.ok (), c') ∧
      c'.merge (branch 6 "z") next' = (.ok (), { root, next := max c'.next next' }) ∧
      Configuration.merge { root := branch 0 "x" } both next'' =
        (.ok (), { root, next := max 1 next'' }) := by
  have hx : (branch 0 "x").Tree := branch_tree 0 (by decide)
  have hy : (branch 2 "y").Tree := branch_tree 2 (by decide)
  have hz : (branch 6 "z").Tree := branch_tree 6 (by decide)
  have hxy : Disjoint (branch 0 "x").labels (branch 2 "y").labels := by
    rw [Multiset.disjoint_left]
    decide
  have hxz : Disjoint (branch 0 "x").labels (branch 6 "z").labels := by
    rw [Multiset.disjoint_left]
    decide
  have hyz : Disjoint (branch 2 "y").labels (branch 6 "z").labels := by
    rw [Multiset.disjoint_left]
    decide
  have hcxy : Compatible (branch 0 "x") (branch 2 "y") := branch_compatible 0 2 (by decide)
  have hcyz : Compatible (branch 2 "y") (branch 6 "z") := branch_compatible 2 6 (by decide)
  obtain ⟨hagain, hassoc, hconfigured⟩ := merge_laws
  refine ⟨?_, hassoc hx hy hz hxy hxz hyz hcxy hcyz,
    hconfigured (c := { root := branch 0 "x" }) hx hy hz hxy hxz hyz hcxy hcyz⟩
  obtain ⟨r, hmerge, -, hsame, hcopy⟩ := hagain hx hy hxy
  refine ⟨r, hmerge, hsame, hcopy _ (branch_tree 4 (by decide)) rfl ?_⟩
  -- the result has no labels but those of the two that are merged
  have hr := (hx.mergeInto_eq hy hxy).symm.trans hmerge
  rw [Prod.mk.injEq] at hr
  have hle : r.labels ≤ (branch 0 "x").labels + (branch 2 "y").labels :=
    hr.2 ▸ labels_overlaid_le hx.isMap hy.isMap
  refine Disjoint.mono_left hle ?_
  rw [Multiset.disjoint_left]
  decide

end Config

end FactoryRegistry
