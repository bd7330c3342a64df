import FactoryRegistry.Proofs.Value.Overlay
import FactoryRegistry.Proofs.Value.Path

/-!
# Merging where mappings stand at one place

A merge changes its target by labels and reads its source while it does so. If every mapping that it
is merged into stands at one place of the target, and target and source have no mapping in common,
then it comes to its end and leaves the overlay of the two (`mergeMapping_overlaidTo`). The source
may have mappings at several places, and mappings that stand inside themselves.

* `MergedInto` tells which mappings of the target these are, and `Detached` is what is assumed of
  target and source; it is then true of what both have under one key (`Detached.of_lookup`). The
  changes of the merge are to such mappings only, so none of them is to the source, and none is to
  the mappings around the one that is being merged into;
* `at?_overlaidTo`: an overlay holds on each path what the source holds there where the source
  decides it, and otherwise leads to what was there before;
* `mergeInto_at?`: so does a merge, at whatever depth it would be given up;
* `mergeInto_eq_overlay`: where no mapping of the source stands inside itself, a merge overlays the
  two sides by `overlay`.
-/

namespace FactoryRegistry.Value

/-- A label in the first value is that of a mapping which the second one is merged into: keys lead
to it through mappings of both. -/
inductive MergedInto (i : Nat) : Value → Value → Prop where
  /-- Two mappings. -/
  | here {m : Nat} {es ss : List (Scalar × Value)} : MergedInto i (map i es) (map m ss)
  /-- What two mappings have under one key. -/
  | under {k : Scalar} {v w target source : Value} (hold : lookup k target.entries = some v)
      (hnew : (k, w) ∈ source.entries) (h : MergedInto i v w) : MergedInto i target source

variable {i l m fuel : Nat} {k : Scalar} {v w source : Value} {old : Option Value}
  {es ss : List (Scalar × Value)}

/-- What `lookup` finds among the entries of a value has labels of the value. -/
theorem mem_labels_of_lookup (h : lookup k v.entries = some w) (hi : i ∈ w.labels) :
    i ∈ v.labels := by
  obtain ⟨c, hmem⟩ := exists_mem_of_lookup h
  exact mem_labels_of_mem_entries hmem hi

/-- A mapping that is `MergedInto` is one of the target's. -/
theorem MergedInto.mem_labels (h : MergedInto i v w) : i ∈ v.labels := by
  induction h with
  | here => exact Multiset.mem_cons_self _ _
  | under hold _ _ ih => exact mem_labels_of_lookup hold ih

/-- An `Unshared` mapping does not stand inside itself. -/
theorem Unshared.not_mem_entryLabels (h : (map l es).Unshared l) : l ∉ entryLabels es := by
  rw [Unshared, labels, Multiset.count_cons_self] at h
  exact Multiset.count_eq_zero.1 (Nat.le_zero.1 (Nat.le_of_succ_le_succ h))

/-- A merge comes to its end, changes only mappings whose labels satisfy `P`, and makes `w` of
`v`. -/
def Turns (P : Nat → Prop) (r : Merge) (v w : Value) : Prop :=
  ∃ changes, r = (.ok (), changes) ∧ (∀ d ∈ changes, P d.label) ∧ v.changed changes = w

/-- What is assumed of a target and a source. -/
structure Detached (target source : Value) : Prop where
  /-- No mapping of the source has a key twice. -/
  proper : source.Proper
  /-- The mappings that are merged into stand at one place of the target. -/
  unshared : ∀ i, MergedInto i target source → target.Unshared i
  /-- Target and source have no mapping in common. -/
  disjoint : Disjoint target.labels source.labels

namespace Detached

/-- A target that meets a mapping does not stand inside itself. -/
theorem not_mem_entryLabels (h : Detached (map l es) (map m ss)) : l ∉ entryLabels es :=
  (h.unshared l .here).not_mem_entryLabels

/-- What two mappings have under one key is `Detached` if they are. -/
theorem of_lookup (h : Detached (map l es) (map m ss)) (hold : lookup k es = some v)
    (hnew : (k, w) ∈ (map m ss).entries) : Detached v w where
  proper := h.proper.entries.2 _ hnew
  unshared := fun j hj => by
    have hentry : lookup k (map l es).entries = some v :=
      (entries_map h.not_mem_entryLabels).symm ▸ hold
    exact (h.unshared j (.under hentry hnew hj)).of_le
      ((labels_le_of_lookup hold).trans (Multiset.le_cons_self _ l))
  disjoint := Multiset.disjoint_left.2 fun {_} hj hj' => Multiset.disjoint_left.1 h.disjoint
    (Multiset.mem_cons_of_mem (Multiset.mem_of_le (labels_le_of_lookup hold) hj))
    (mem_labels_of_mem_entries hnew hj')

end Detached

/-- What is assumed of a target and a source, and of merges of the mappings in them. -/
structure Separated (fuel l : Nat) (es : List (Scalar × Value)) (source : Value) : Prop extends
    Detached (map l es) source where
  /-- The source is a mapping. -/
  isMap : source.isMap = true
  /-- The mappings below are merged to their overlay. -/
  turns : ∀ k i is n ns, lookup k es = some (map i is) → (k, map n ns) ∈ source.entries →
    Turns (MergedInto · (map i is) (map n ns)) (mergeMapping fuel (map i is) (map n ns)) (map i is)
      (overlaidTo fuel (some (map i is)) (map n ns))

/-! ## One entry -/

section Entries

variable {done rest : List (Scalar × Value)}

namespace Separated

/-- The target itself is `MergedInto`, whatever it has. -/
theorem mergedInto_self (h : Separated fuel l es source) : MergedInto l (map l es) source := by
  have hmap := h.isMap
  cases source with
  | map m ss => exact .here
  | _ => cases hmap

/-- The entries of the target are those it is written with. -/
theorem entries_eq (h : Separated fuel l es source) : (map l es).entries = es :=
  entries_map (h.unshared l h.mergedInto_self).not_mem_entryLabels

/-- No label of the target is one of a value of the source. -/
theorem not_mem_labels (h : Separated fuel l es source) (hi : i ∈ (map l es).labels)
    {e : Scalar × Value} (he : e ∈ source.entries) : i ∉ e.2.labels := fun hmem =>
  Multiset.disjoint_left.1 h.disjoint hi (mem_labels_of_mem_entries he hmem)

/-- While entries are merged, the mappings that are `MergedInto` are still `Unshared`. -/
theorem unshared_overlay (h : Separated fuel l es source) (hdone : done <+: source.entries)
    (hi : MergedInto i (map l es) source) :
    (map l (overlayWith (overlaidTo fuel) es done)).Unshared i := by
  have htarget := h.unshared i hi
  have hle : (entryLabels (overlayWith (overlaidTo fuel) es done)).count i ≤
      (entryLabels es).count i := count_overlayWith_le
    (fun e he => count_overlaidTo_le fuel (h.not_mem_labels hi.mem_labels (hdone.subset he))) es
  rw [Unshared, labels, Multiset.count_cons] at htarget ⊢
  omega

/-- While entries are merged, the target still reads as it is written. -/
theorem entries_overlay (h : Separated fuel l es source) (hdone : done <+: source.entries) :
    (map l (overlayWith (overlaidTo fuel) es done)).entries =
      overlayWith (overlaidTo fuel) es done :=
  entries_map (h.unshared_overlay hdone h.mergedInto_self).not_mem_entryLabels

/-- The entries that are merged before an entry have other keys, so `lookup` finds what was there at
first. -/
theorem lookup_overlay (h : Separated fuel l es source)
    (hsource : source.entries = done ++ (k, v) :: rest) :
    lookup k (overlayWith (overlaidTo fuel) es done) = lookup k es := by
  have hdistinct := h.proper.entries.1
  rw [hsource, DistinctKeys, List.map_append, List.pairwise_append] at hdistinct
  have hnone : lookup k done = none := lookup_eq_none_iff.2 fun c hc =>
    hdistinct.2.2 c hc k (by simp)
  rw [lookup_overlayWith hdistinct.1, hnone]
  rfl

/-- Where two mappings meet under a key, `mergeEntry` merges them in turn. -/
theorem mergeEntry_of_meet {n : Nat} {is ns : List (Scalar × Value)}
    (h : Separated fuel l es source) (hdone : done <+: source.entries)
    (hmem : (k, map n ns) ∈ source.entries) (hold : lookup k es = some (map i is))
    (hcur : lookup k (overlayWith (overlaidTo fuel) es done) = some (map i is)) :
    Turns (MergedInto · (map l es) source)
      (mergeEntry (mergeMapping fuel) (map l (overlayWith (overlaidTo fuel) es done)) k (map n ns))
      (map l (overlayWith (overlaidTo fuel) es done))
      (map l (putEntry k (overlaidTo fuel (some (map i is)) (map n ns))
        (overlayWith (overlaidTo fuel) es done))) := by
  obtain ⟨changes, hrun, hlabels, hchanged⟩ := h.turns k i is n ns hold hmem
  have hinto : ∀ d ∈ changes, MergedInto d.label (map l es) source := fun d hd =>
    .under (h.entries_eq.symm ▸ hold) hmem (hlabels d hd)
  refine ⟨changes, ?_, hinto, ?_⟩
  · rw [Value.mergeEntry.eq_def, h.entries_overlay hdone, hcur]
    exact hrun
  · obtain ⟨f, hfill, hput⟩ := exists_frame hcur l
    -- what changes stands in the inner mapping, and so at no other place around it
    have hframe : ∀ d ∈ changes, d.label ∉ f.labels := fun d hd => by
      have hone := h.unshared_overlay hdone (hinto d hd)
      have hinner := Multiset.one_le_count_iff_mem.2 (hlabels d hd).mem_labels
      rw [hfill, Unshared, Frame.labels_fill, Multiset.count_add] at hone
      rw [← Multiset.count_eq_zero]
      omega
    rw [hfill, changed_fill hframe, hchanged, hput]

end Separated

/-- Where not both sides have a mapping under a key, `mergeEntry` sets the new value. -/
theorem mergeEntry_of_not_meet (inner : Value → Value → Merge)
    (h : ∀ i is n ns, lookup k (map l es).entries = some (map i is) → v ≠ map n ns) :
    mergeEntry inner (map l es) k v = (.ok (), [{ label := l, key := k, value := v }]) := by
  rw [mergeEntry]
  exact h

namespace Separated

/-- Where not both sides have a mapping under a key, the target `Turns` into one with the new value
there. -/
theorem mergeEntry_of_not_meet (h : Separated fuel l es source) (hdone : done <+: source.entries)
    (hmem : (k, v) ∈ source.entries)
    (hnot : ∀ i is n ns, lookup k (overlayWith (overlaidTo fuel) es done) = some (map i is) →
      v ≠ map n ns) :
    Turns (MergedInto · (map l es) source)
      (mergeEntry (mergeMapping fuel) (map l (overlayWith (overlaidTo fuel) es done)) k v)
      (map l (overlayWith (overlaidTo fuel) es done))
      (map l (putEntry k v (overlayWith (overlaidTo fuel) es done))) := by
  have hfree : l ∉ v.labels := h.not_mem_labels (Multiset.mem_cons_self l _) hmem
  have hroot : (plug [] (map l (overlayWith (overlaidTo fuel) es done))).Unshared l :=
    h.unshared_overlay hdone h.mergedInto_self
  refine ⟨_, Value.mergeEntry_of_not_meet _ ((h.entries_overlay hdone).symm ▸ hnot), fun d hd => ?_,
    ?_⟩
  · rw [List.mem_singleton.1 hd]
    exact h.mergedInto_self
  · rw [changed, List.foldl_cons, List.foldl_nil, change, folded_of_not_mem hfree]
    exact assign_plug_map hroot k v

/-- `mergeEntry` after some entries adds its own to the overlay. -/
theorem mergeEntry (h : Separated fuel l es source)
    (hsource : source.entries = done ++ (k, v) :: rest) :
    Turns (MergedInto · (map l es) source)
      (mergeEntry (mergeMapping fuel) (map l (overlayWith (overlaidTo fuel) es done)) k v)
      (map l (overlayWith (overlaidTo fuel) es done))
      (map l (overlayWith (overlaidTo fuel) es (done ++ [(k, v)]))) := by
  have hmem : (k, v) ∈ source.entries := hsource ▸ List.mem_append_right done List.mem_cons_self
  have hdone : done <+: source.entries := ⟨_, hsource.symm⟩
  rw [overlayWith_concat]
  rcases meet_or_not_meet (lookup k (overlayWith (overlaidTo fuel) es done)) v with
    ⟨i, is, n, ns, hcur, rfl⟩ | hnot
  · rw [hcur]
    exact h.mergeEntry_of_meet hdone hmem (h.lookup_overlay hsource ▸ hcur) hcur
  · rw [overlaidTo_of_not_meet hnot]
    exact h.mergeEntry_of_not_meet hdone hmem hnot

/-- `mergeEntries` of the rest of the source completes the overlay. The induction is on `rest`, with
`done` generalized. -/
theorem mergeEntries (h : Separated fuel l es source) (hsource : source.entries = done ++ rest) :
    Turns (MergedInto · (map l es) source)
      (mergeEntries (mergeMapping fuel) source.entries.length rest.length
        (map l (overlayWith (overlaidTo fuel) es done)) source)
      (map l (overlayWith (overlaidTo fuel) es done))
      (map l (overlayWith (overlaidTo fuel) es source.entries)) := by
  induction rest generalizing done with
  | nil =>
    rw [List.append_nil] at hsource
    refine ⟨[], ?_, List.forall_mem_nil _, by rw [hsource]; rfl⟩
    rw [Value.mergeEntries.eq_def, if_neg (not_not.2 rfl)]
    rfl
  | cons e rest ih =>
    obtain ⟨k, v⟩ := e
    have hsplit : source.entries = (done ++ [(k, v)]) ++ rest := by rw [hsource, List.append_cons]
    obtain ⟨first, hentry, hfirst, hput⟩ := h.mergeEntry hsource
    obtain ⟨others, hrest, hothers, hchanged⟩ := ih hsplit
    -- the source is not changed, and the next entry of it is the one after those that are done
    have hkept : source.changed first = source := changed_of_not_mem fun d hd hmem =>
      Multiset.disjoint_left.1 h.disjoint (hfirst d hd).mem_labels hmem
    have hnext : source.entries[source.entries.length - (rest.length + 1)]? = some (k, v) := by
      simp [hsource]
    refine ⟨first ++ others, ?_, ?_, ?_⟩
    · rw [List.length_cons, Value.mergeEntries.eq_def, if_neg (not_not.2 rfl)]
      simp only [hnext, hentry, hput, hkept, hrest]
    · exact fun d hd => (List.mem_append.1 hd).elim (hfirst d) (hothers d)
    · rw [changed_append, hput, hchanged]

end Separated

end Entries

/-! ## Whole mappings -/

/-- What `lookup` finds among entries has no more `mappings` than they do. -/
theorem mappings_le_of_lookup (h : lookup k es = some v) : v.mappings ≤ entryMappings es := by
  obtain ⟨c, hmem⟩ := exists_mem_of_lookup h
  exact mappings_le_of_mem hmem

/-- `mergeMapping` into a mapping that is `Detached` from the source overlays the two. The induction
is on `fuel`: the target has enough mappings for the merge to come to its end. -/
theorem mergeMapping_overlaidTo (hfuel : (map l es).mappings ≤ fuel)
    (hdetached : Detached (map l es) source) (hmap : source.isMap = true) :
    Turns (MergedInto · (map l es) source) (mergeMapping fuel (map l es) source) (map l es)
      (overlaidTo fuel (some (map l es)) source) := by
  induction fuel generalizing l es source with
  | zero => exact absurd hfuel (by simp [mappings])
  | succ fuel ih =>
    cases source with
    | map m ss =>
      -- under each key where mappings meet the hypotheses hold again, with one mapping less to go
      have hseparated : Separated fuel l es (map m ss) := by
        refine ⟨hdetached, rfl, fun k i is n ns hold hnew => ?_⟩
        have hle := mappings_le_of_lookup hold
        exact ih (by rw [mappings] at hfuel; omega) (hdetached.of_lookup hold hnew) rfl
      rw [mergeMapping, overlaidTo]
      exact hseparated.mergeEntries (List.nil_append _).symm
    | _ => cases hmap

/-- `mergeInto` makes of the root what a merge that comes to its end makes of its target. -/
theorem mergeInto_of_turns {P : Nat → Prop} {depth : Nat} {root document : Value}
    (h : Turns P (mergeMapping (depth + root.mappings + document.mappings) root document) root w) :
    mergeInto root document depth = (.ok (), w) := by
  obtain ⟨changes, hrun, -, hchanged⟩ := h
  rw [mergeInto, hrun]
  exact congrArg (Prod.mk _) hchanged

/-- A document that is no mapping changes nothing. -/
theorem mergeInto_of_isMap_eq_false (h : v.isMap = false) (l : Nat) (es : List (Scalar × Value))
    (depth : Nat) : mergeInto (map l es) v depth = (.ok (), map l es) := by
  have hfuel : depth + (map l es).mappings + v.mappings =
      depth + entryMappings es + v.mappings + 1 := by
    rw [mappings]
    omega
  rw [mergeInto, hfuel, mergeMapping, mergeEntries.eq_def, if_neg (not_not.2 rfl),
    entries_of_isMap_eq_false h]
  rfl

/-! ## What paths lead to -/

/-- What is merged over something holds at its end what it is itself. -/
theorem holding_overlaidTo (fuel : Nat) (old : Option Value) (v : Value) :
    Holding.of (some (overlaidTo fuel old v)) = Holding.of (some v) := by
  rcases meet_or_not_meet old v with ⟨i, is, m, ss, rfl, rfl⟩ | hnot
  · cases fuel with
    | zero =>
      rw [overlaidTo]
      rintro _ _ _ _ _ ⟨⟩
    | succ fuel => rw [overlaidTo]; rfl
  · rw [overlaidTo_of_not_meet hnot]

/-- A target that meets a mapping does not stand inside itself after the entries of the mapping have
been merged either. -/
theorem Detached.not_mem_overlayWith (h : Detached (map l es) (map m ss)) (fuel : Nat) :
    l ∉ entryLabels (overlayWith (overlaidTo fuel) es (map m ss).entries) := by
  have hle : (entryLabels (overlayWith (overlaidTo fuel) es (map m ss).entries)).count l ≤
      (entryLabels es).count l := count_overlayWith_le (fun e he => count_overlaidTo_le fuel
    fun hmem => Multiset.disjoint_left.1 h.disjoint (Multiset.mem_cons_self l _)
      (mem_labels_of_mem_entries he hmem)) es
  rw [Multiset.count_eq_zero.2 h.not_mem_entryLabels] at hle
  exact Multiset.count_eq_zero.1 (Nat.le_zero.1 hle)

/-- What is merged over something holds on each path what it holds itself where it `Decides` the
path, and otherwise leads to what was there before. The induction is on the path. -/
theorem at?_overlaidTo (path : List Scalar) (hfuel : ∀ w ∈ old, w.mappings ≤ fuel) (hv : v.Proper)
    (hdetached : ∀ w ∈ old, Detached w v) :
    ((path = [] ∨ v.isMap = false ∨ v.Decides path) →
        Holding.of ((overlaidTo fuel old v).at? path) = Holding.of (v.at? path)) ∧
      (¬ (path = [] ∨ v.isMap = false ∨ v.Decides path) →
        (overlaidTo fuel old v).at? path = old.bind fun w => w.at? path) := by
  -- each key of the path leads one mapping deeper on both sides
  induction path generalizing fuel old v with
  | nil =>
    exact ⟨fun _ => by rw [at?_nil, at?_nil, holding_overlaidTo], fun h => absurd (Or.inl rfl) h⟩
  | cons d path ih =>
    rcases meet_or_not_meet old v with ⟨i, is, m, ss, rfl, rfl⟩ | hnot
    · have hdetached := hdetached _ rfl
      have hl : i ∉ entryLabels is := hdetached.not_mem_entryLabels
      have hsize : entryMappings is + 1 ≤ fuel := hfuel (map i is) rfl
      obtain ⟨fuel, rfl⟩ := Nat.exists_eq_add_one.2 ((Nat.succ_pos _).trans_le hsize)
      rw [overlaidTo, at?_map_cons (hdetached.not_mem_overlayWith fuel),
        lookup_overlayWith hv.entries.1, Option.bind_some, at?_map_cons hl, at?_cons, decides_cons]
      cases hfound : lookup d (map m ss).entries with
      | none => simp [isMap]
      | some w =>
        obtain ⟨_, c, _, hsplit, hsame, -⟩ := exists_entry_of_lookup hfound
        have hmem : (c, w) ∈ (map m ss).entries := hsplit ▸ by simp
        have hfuel' : ∀ x ∈ lookup d is, x.mappings ≤ fuel := fun x hx =>
          (mappings_le_of_lookup hx).trans (Nat.le_of_succ_le_succ hsize)
        have hdetached' : ∀ x ∈ lookup d is, Detached x w := fun x hx =>
          hdetached.of_lookup ((lookup_congr hsame is).trans hx) hmem
        simpa [isMap] using ih hfuel' (hv.entries.2 _ hmem) hdetached'
    · rw [overlaidTo_of_not_meet hnot]
      refine ⟨fun _ => rfl, fun hdecides => ?_⟩
      -- the path leads to nothing on either side
      obtain ⟨-, hmap, hdecides⟩ := not_or.1 hdecides |>.imp_right not_or.1
      have hold : ∀ i is, old ≠ some (map i is) := fun i is hold => by
        cases v with
        | map m ss => exact hnot i is m ss hold rfl
        | _ => exact hmap rfl
      rw [at?_eq_none_of_not_decides hdecides, bind_at?_cons_of_not_map hold]

/-- `mergeInto` comes to its end where the root is `Detached` from the document. On each path the
root holds then what the document holds there if it `Decides` the path, and otherwise leads to what
was there before. -/
theorem mergeInto_at? (h : Detached (map l es) v) (depth : Nat) :
    ∃ root, mergeInto (map l es) v depth = (.ok (), root) ∧ ∀ path ≠ [],
      (v.Decides path → Holding.of (root.at? path) = Holding.of (v.at? path)) ∧
      (¬ v.Decides path → root.at? path = (map l es).at? path) := by
  by_cases hmap : v.isMap = true
  · have hfuel : (map l es).mappings ≤ depth + (map l es).mappings + v.mappings := by omega
    refine ⟨_, mergeInto_of_turns (mergeMapping_overlaidTo hfuel h hmap), fun path hpath => ?_⟩
    -- what is known of the root is asked of the value before, if there was one
    have hroot : ∀ {p : Value → Prop}, p (map l es) → ∀ w ∈ some (map l es), p w := by
      rintro p h _ ⟨⟩
      exact h
    have hat := at?_overlaidTo path (hroot hfuel) h.proper (hroot h)
    simpa [hpath, hmap] using hat
  · have hmap := Bool.eq_false_of_not_eq_true hmap
    refine ⟨_, mergeInto_of_isMap_eq_false hmap l es depth,
      fun path hpath => ⟨fun h => ?_, fun _ => rfl⟩⟩
    exact absurd h (not_decides_of_isMap_eq_false hmap hpath)

/-- `mergeInto` overlays the document at the root, where the root is `Detached` from it and the
document is `Loopless`. -/
theorem mergeInto_eq_overlay (h : Detached (map l es) (map m ss)) (hloopless : (map m ss).Loopless)
    (depth : Nat) :
    mergeInto (map l es) (map m ss) depth = (.ok (), map l (overlay es ss)) := by
  have hfuel : (map l es).mappings ≤ depth + (map l es).mappings + (map m ss).mappings := by omega
  have hturns := mergeMapping_overlaidTo hfuel h rfl
  rw [overlaidTo_eq_overlaid hloopless (by omega), overlaid] at hturns
  exact mergeInto_of_turns hturns

end FactoryRegistry.Value
