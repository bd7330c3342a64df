import FactoryRegistry.Proofs.Value.Overlay
import FactoryRegistry.Proofs.Value.Path

/-!
# Laws of overlays

Mappings whose keys are told apart and found again (`Value.Keyed`; a not-a-number need not be found)
obey these laws when they are overlaid:

* `keys_overlay`, `at?_overlaid`: wherever both sides have a mapping, the keys are the old ones in
  their order and then the new ones in theirs;
* `overlaid_overlaid_self`: overlaying the same once more changes nothing;
* `overlaid_assoc`: three values can be overlaid from either side, if no path leads to a mapping in
  one of them and to another value in another one (`Compatible`);
* `relabel_overlaid`: labels have no part in what an overlay holds.

Two lists of entries are equal if they have the same keys, and under each key the same
(`entries_ext`), so each law comes down to one about the values under a key.
-/

namespace FactoryRegistry.Value

/-- Every key is told apart from the others, and found again. -/
structure KeysFound (es : List (Scalar × Value)) : Prop where
  /-- No key comes twice. -/
  distinct : DistinctKeys es
  /-- Every key is the same as itself. -/
  same_self : ∀ k ∈ es.map Prod.fst, k.sameKey k = true

/-- A value in which every mapping that a path leads to has keys that are found. -/
inductive Keyed : Value → Prop where
  /-- A mapping of such values. -/
  | map {l : Nat} {es : List (Scalar × Value)} (keys : KeysFound es)
      (values : ∀ e ∈ es, Keyed e.2) : Keyed (map l es)
  /-- A value that paths do not lead through. -/
  | leaf {v : Value} (not_map : v.isMap = false) : Keyed v

/-- No path leads to a mapping in one of two values and to a value that is none in the other. -/
def Compatible (v w : Value) : Prop :=
  ∀ path x y, v.at? path = some x → w.at? path = some y → x.isMap = y.isMap

variable {l m : Nat} {k : Scalar} {v w u : Value} {old : Option Value}
  {es fs ss us : List (Scalar × Value)}

/-! ## Entries that are found -/

theorem KeysFound.of_cons {e : Scalar × Value} (h : KeysFound (e :: es)) : KeysFound es where
  distinct := (List.pairwise_cons.1 h.distinct).2
  same_self := fun k hk => h.same_self k (List.mem_cons_of_mem _ hk)

/-- `lookup` finds every entry, where `KeysFound` holds. -/
theorem KeysFound.lookup_of_mem (h : KeysFound es) {e : Scalar × Value} (he : e ∈ es) :
    lookup e.1 es = some e.2 := by
  induction es with
  | nil => cases he
  | cons first es ih =>
    obtain ⟨n, x⟩ := first
    rw [lookup]
    rcases List.mem_cons.1 he with rfl | he
    · rw [if_pos (h.same_self _ List.mem_cons_self)]
    · -- a later entry has another key
      have hne := (List.pairwise_cons.1 h.distinct).1 e.1 (List.mem_map_of_mem he)
      rw [hne, if_neg Bool.false_ne_true, ih h.of_cons he]

/-- Entries with `KeysFound` are told by their keys and by what `lookup` finds under them. -/
theorem entries_ext (hes : KeysFound es) (hkeys : es.map Prod.fst = fs.map Prod.fst)
    (h : ∀ k, lookup k es = lookup k fs) : es = fs := by
  induction es generalizing fs with
  | nil => exact (List.map_eq_nil_iff.1 hkeys.symm).symm
  | cons e es ih =>
    cases fs with
    | nil => cases hkeys
    | cons f fs =>
      obtain ⟨n, x⟩ := e
      obtain ⟨c, y⟩ := f
      obtain ⟨rfl, hrest⟩ : n = c ∧ es.map Prod.fst = fs.map Prod.fst := by simpa using hkeys
      have hself : n.sameKey n = true := hes.same_self n List.mem_cons_self
      -- the other side has the same keys, so they are found there as well
      have hfs : KeysFound ((n, y) :: fs) := by
        refine ⟨?_, ?_⟩
        · rw [DistinctKeys, ← hkeys]
          exact hes.distinct
        · rw [← hkeys]
          exact hes.same_self
      obtain rfl : x = y := by simpa [lookup, hself] using h n
      rw [ih hes.of_cons hrest fun k => ?_]
      -- the rest has nothing under the first key, and under the others what the whole has
      by_cases hk : n.sameKey k = true
      · rw [hes.distinct.lookup_tail hk, hfs.distinct.lookup_tail hk]
      · simpa [lookup, hk] using h k

theorem keyed_map_iff : (map l es).Keyed ↔ KeysFound es ∧ ∀ e ∈ es, e.2.Keyed := by
  constructor
  · rintro (⟨hkeys, hvalues⟩ | h)
    · exact ⟨hkeys, hvalues⟩
    · cases h
  · exact fun h => .map h.1 h.2

/-- A `Keyed` value is `Proper`: keys that are found are distinct. -/
theorem Keyed.proper (h : v.Keyed) : v.Proper := by
  induction h with
  | map hkeys _ ih => exact .map hkeys.distinct ih
  | leaf h => exact .leaf h

theorem keyed_of_lookup (h : ∀ e ∈ es, e.2.Keyed) (hfound : lookup k es = some v) : v.Keyed := by
  obtain ⟨c, hmem⟩ := exists_mem_of_lookup hfound
  exact h (c, v) hmem

theorem overlaid_none (v : Value) : overlaid none v = v :=
  overlaid_of_not_map (by rintro _ _ ⟨⟩) v

/-! ## The keys of an overlay -/

/-- An `overlay` has the old keys and after them the new ones. -/
theorem keys_overlay (hss : DistinctKeys ss) (es : List (Scalar × Value)) :
    (overlay es ss).map Prod.fst =
      es.map Prod.fst ++ (ss.map Prod.fst).filter fun k => (lookup k es).isNone := by
  induction ss generalizing es with
  | nil => simp [overlay]
  | cons e ss ih =>
    obtain ⟨k, v⟩ := e
    obtain ⟨hk, hrest⟩ := List.pairwise_cons.1 hss
    rw [overlay, ih hrest, List.map_cons]
    -- what is put under the key does not count as old for the keys after it
    have hfilter : ∀ x : Value,
        (ss.map Prod.fst).filter (fun n => (lookup n (putEntry k x es)).isNone)
        = (ss.map Prod.fst).filter fun n => (lookup n es).isNone := by
      refine fun x => List.filter_congr fun n hn => ?_
      rw [lookup_putEntry, hk n hn, if_neg Bool.false_ne_true]
    rw [hfilter]
    cases hfound : lookup k es with
    | none =>
      rw [List.filter_cons_of_pos (by rw [hfound]; rfl), putEntry_of_lookup_eq_none hfound]
      simp
    | some x =>
      obtain ⟨before, c, after, rfl, -, hput⟩ := exists_entry_of_lookup hfound
      rw [List.filter_cons_of_neg (by rw [hfound]; simp), hput]
      simp

/-- `KeysFound` holds of an `overlay` if it does of both sides. -/
theorem keysFound_overlay (hes : KeysFound es) (hss : KeysFound ss) :
    KeysFound (overlay es ss) := by
  refine ⟨?_, fun k hk => ?_⟩
  · -- every put keeps the keys apart, whatever is overlaid
    have hdistinct : ∀ rest : List (Scalar × Value), ∀ es, DistinctKeys es →
        DistinctKeys (overlay es rest) := by
      intro rest
      induction rest with
      | nil => exact fun es hes => hes
      | cons e rest ih => exact fun es hes => ih _ (putEntry_distinctKeys hes _ _)
    exact hdistinct ss es hes.distinct
  · rw [keys_overlay hss.distinct, List.mem_append] at hk
    exact hk.elim (hes.same_self k) fun hk => hss.same_self k (List.mem_of_mem_filter hk)

/-- What overlaying leaves under a key, of which either side may have a value. -/
def overlaidBy (old : Option Value) : Option Value → Option Value
  | none => old
  | some v => some (overlaid old v)

/-- `lookup` in an `overlay` is that in the one side, `overlaidBy` that in the other. -/
theorem lookup_overlay_eq_overlaidBy (hss : DistinctKeys ss) (k : Scalar)
    (es : List (Scalar × Value)) :
    lookup k (overlay es ss) = overlaidBy (lookup k es) (lookup k ss) := by
  rw [overlay_eq_overlayWith, lookup_overlayWith hss]
  cases lookup k ss <;> rfl

/-- An `overlaid` value is `Keyed` if both sides are. -/
theorem keyed_overlaid (hold : ∀ w ∈ old, w.Keyed) (hv : v.Keyed) : (overlaid old v).Keyed := by
  induction hv generalizing old with
  | @map m ss hkeys hvalues ih =>
    rcases map_or_not_map old with ⟨i, is, rfl⟩ | hnot
    · obtain ⟨hfound, hinner⟩ := keyed_map_iff.1 (hold _ rfl)
      rw [overlaid]
      have hkeys' := keysFound_overlay hfound hkeys
      refine .map hkeys' fun e he => ?_
      -- an entry of the overlay is what the two sides have under its key
      have hlookup := hkeys'.lookup_of_mem he
      rw [lookup_overlay_eq_overlaidBy hkeys.distinct] at hlookup
      cases hnew : lookup e.1 ss with
      | none =>
        rw [hnew, overlaidBy] at hlookup
        exact keyed_of_lookup hinner hlookup
      | some w =>
        rw [hnew, overlaidBy, Option.some.injEq] at hlookup
        obtain ⟨c, hmem⟩ := exists_mem_of_lookup hnew
        rw [← hlookup]
        exact ih (c, w) hmem fun x hx => keyed_of_lookup hinner hx
    · rw [overlaid_of_not_map hnot]
      exact .map hkeys hvalues
  | leaf h =>
    rw [overlaid_of_isMap_eq_false old h]
    exact .leaf h

/-- What a path leads to in a `Proper` value is `Proper`. -/
theorem proper_of_at? {path : List Scalar} (hv : v.Proper) (h : v.at? path = some w) :
    w.Proper := by
  induction path generalizing v with
  | nil =>
    rw [at?_nil, Option.some.injEq] at h
    exact h ▸ hv
  | cons k path ih =>
    rw [at?_cons, Option.bind_eq_some_iff] at h
    obtain ⟨x, hx, h⟩ := h
    exact ih (proper_of_lookup hv.entries.2 hx) h

/-- Where a path leads to a mapping on both sides, the two are overlaid. No label occurs twice, so
that neither side reads other than it is written. The induction is on the path. -/
theorem at?_overlaid {path : List Scalar} (hproper : w.Proper)
    (hnodup : (v.labels + w.labels).Nodup) (hold : v.at? path = some (map l es))
    (hnew : w.at? path = some (map m ss)) :
    (overlaid (some v) w).at? path = some (map l (overlay es ss)) := by
  induction path generalizing v w with
  | nil =>
    rw [at?_nil] at hold hnew ⊢
    rw [Option.some.inj hold, Option.some.inj hnew, overlaid]
  | cons k path ih =>
    cases v with
    | map i is =>
      cases w with
      | map n ns =>
        have hover := Multiset.nodup_of_le (labels_overlay_le i n is ns) hnodup
        obtain ⟨hv, hw, -⟩ := Multiset.nodup_add.1 hnodup
        rw [at?_map_cons (Multiset.nodup_cons.1 hv).1, Option.bind_eq_some_iff] at hold
        rw [at?_map_cons (Multiset.nodup_cons.1 hw).1, Option.bind_eq_some_iff] at hnew
        obtain ⟨x, hx, hold⟩ := hold
        obtain ⟨y, hy, hnew⟩ := hnew
        obtain ⟨hdistinct, hvalues⟩ := proper_map_iff.1 hproper
        have hle : x.labels + y.labels ≤ (map i is).labels + (map n ns).labels := add_le_add
          ((labels_le_of_lookup hx).trans (Multiset.le_cons_self _ i))
          ((labels_le_of_lookup hy).trans (Multiset.le_cons_self _ n))
        -- under the first key the overlay has the two values overlaid, and the path goes on in both
        rw [overlaid, at?_map_cons (Multiset.nodup_cons.1 hover).1,
          lookup_overlay_eq_overlaidBy hdistinct, hx, hy]
        exact ih (proper_of_lookup hvalues hy) (Multiset.nodup_of_le hle hnodup) hold hnew
      | _ => cases hnew
    | _ => cases hold

/-! ## Overlaying the same again -/

/-- An `overlay` by entries that are there already changes nothing. -/
theorem overlay_eq_self
    (h : ∀ e ∈ ss, ∃ v, lookup e.1 es = some v ∧ overlaid (some v) e.2 = v) :
    overlay es ss = es := by
  induction ss with
  | nil => rw [overlay]
  | cons e ss ih =>
    obtain ⟨k, w⟩ := e
    obtain ⟨⟨v, hfound, hv⟩, hrest⟩ := List.forall_mem_cons.1 h
    rw [overlay, hfound, hv, putEntry_self hfound]
    exact ih hrest

/-- Overlaying the same value once more changes nothing. -/
theorem overlaid_overlaid_self (hv : v.Keyed) (old : Option Value) :
    overlaid (some (overlaid old v)) v = overlaid old v := by
  induction hv generalizing old with
  | @map m ss hkeys _ ih =>
    rcases map_or_not_map old with ⟨i, is, rfl⟩ | hnot
    · -- under each key there is by now what was overlaid there
      rw [overlaid, overlaid, overlay_eq_self fun e he => ?_]
      refine ⟨_, ?_, ih e he (lookup e.1 is)⟩
      rw [lookup_overlay_eq_overlaidBy hkeys.distinct, hkeys.lookup_of_mem he, overlaidBy]
    · -- the value took the place of the old one, and it is overlaid over itself
      rw [overlaid_of_not_map hnot, overlaid, overlay_eq_self fun e he => ?_]
      exact ⟨e.2, hkeys.lookup_of_mem he, by simpa only [overlaid_none] using ih e he none⟩
  | leaf h => rw [overlaid_of_isMap_eq_false _ h, overlaid_of_isMap_eq_false _ h]

/-! ## Overlaying three values -/

namespace Compatible

/-- `Compatible` mappings have `Compatible` values under each key. -/
theorem of_lookup (h : Compatible (map l es) (map m ss)) (hl : l ∉ entryLabels es)
    (hm : m ∉ entryLabels ss) (hv : lookup k es = some v) (hw : lookup k ss = some w) :
    Compatible v w := fun path x y hx hy =>
  h (k :: path) x y (by rw [at?_map_cons hl, hv, Option.bind_some, hx])
    (by rw [at?_map_cons hm, hw, Option.bind_some, hy])

/-- Mappings are `Compatible` if the values under each key are. -/
theorem map (hl : l ∉ entryLabels es) (hm : m ∉ entryLabels ss)
    (h : ∀ k v w, lookup k es = some v → lookup k ss = some w → Compatible v w) :
    Compatible (map l es) (map m ss) := by
  intro path x y hx hy
  cases path with
  | nil =>
    rw [at?_nil, Option.some.injEq] at hx hy
    rw [← hx, ← hy]
    rfl
  | cons k path =>
    rw [at?_map_cons hl, Option.bind_eq_some_iff] at hx
    rw [at?_map_cons hm, Option.bind_eq_some_iff] at hy
    obtain ⟨v, hv, hx⟩ := hx
    obtain ⟨w, hw, hy⟩ := hy
    exact h k v w hv hw path x y hx hy

theorem isMap_eq (h : Compatible v w) : v.isMap = w.isMap := h [] v w (at?_nil v) (at?_nil w)

end Compatible

/-- `overlaidBy` can be taken from either side, if `overlaid` can where there are three values. -/
theorem overlaidBy_assoc {x y z : Option Value}
    (h : ∀ u v w, x = some u → y = some v → z = some w →
      overlaid (some (overlaid (some u) v)) w = overlaid (some u) (overlaid (some v) w)) :
    overlaidBy (overlaidBy x y) z = overlaidBy x (overlaidBy y z) := by
  cases z with
  | none => rfl
  | some w =>
    cases y with
    | none => simp only [overlaidBy, overlaid_none]
    | some v =>
      cases x with
      | none => simp only [overlaidBy, overlaid_none]
      | some u => exact congrArg some (h u v w rfl rfl rfl)

/-- `overlay` can be taken from either side, if `overlaid` can for the values under one key. -/
theorem overlay_assoc (hes : KeysFound es) (hss : KeysFound ss) (hus : KeysFound us)
    (h : ∀ k u v w, lookup k es = some u → lookup k ss = some v → lookup k us = some w →
      overlaid (some (overlaid (some u) v)) w = overlaid (some u) (overlaid (some v) w)) :
    overlay (overlay es ss) us = overlay es (overlay ss us) := by
  have hinner := keysFound_overlay hss hus
  refine entries_ext (keysFound_overlay (keysFound_overlay hes hss) hus) ?_ fun k => ?_
  · -- a key is new to an overlay if it is new to both sides of it
    have hnone : ∀ k, (lookup k (overlay es ss)).isNone =
        ((lookup k es).isNone && (lookup k ss).isNone) := by
      intro k
      rw [lookup_overlay_eq_overlaidBy hss.distinct]
      cases lookup k ss <;> simp [overlaidBy]
    rw [keys_overlay hus.distinct, keys_overlay hss.distinct, keys_overlay hinner.distinct,
      keys_overlay hus.distinct, List.filter_append, List.filter_filter, List.append_assoc]
    simp only [hnone]
  · rw [lookup_overlay_eq_overlaidBy hus.distinct, lookup_overlay_eq_overlaidBy hss.distinct,
      lookup_overlay_eq_overlaidBy hinner.distinct, lookup_overlay_eq_overlaidBy hus.distinct]
    exact overlaidBy_assoc (h k)

/-- Three values can be `overlaid` from either side. The first and the last one need not be
`Compatible`, since what the last one has in the place of a mapping counts either way. -/
theorem overlaid_assoc (hv : v.Keyed) (hw : w.Keyed) (hu : u.Keyed) (hvnodup : v.labels.Nodup)
    (hwnodup : w.labels.Nodup) (hunodup : u.labels.Nodup) (hvw : Compatible v w)
    (hwu : Compatible w u) :
    overlaid (some (overlaid (some v) w)) u = overlaid (some v) (overlaid (some w) u) := by
  induction hu generalizing v w with
  | @map n us hus _ ih =>
    -- a mapping comes last, so all three are mappings
    have hwmap : w.isMap = true := hwu.isMap_eq.trans rfl
    have hvmap : v.isMap = true := hvw.isMap_eq.trans hwmap
    cases w with
    | map m ss =>
      cases v with
      | map l es =>
        obtain ⟨hes, hesvalues⟩ := keyed_map_iff.1 hv
        obtain ⟨hss, hssvalues⟩ := keyed_map_iff.1 hw
        rw [overlaid, overlaid, overlaid, overlaid,
          overlay_assoc hes hss hus fun k a b c ha hb hc => ?_]
        obtain ⟨d, hmem⟩ := exists_mem_of_lookup hc
        obtain ⟨hl, hesnodup⟩ := Multiset.nodup_cons.1 hvnodup
        obtain ⟨hm, hssnodup⟩ := Multiset.nodup_cons.1 hwnodup
        obtain ⟨hn, husnodup⟩ := Multiset.nodup_cons.1 hunodup
        exact ih (d, c) hmem (keyed_of_lookup hesvalues ha) (keyed_of_lookup hssvalues hb)
          (Multiset.nodup_of_le (labels_le_of_lookup ha) hesnodup)
          (Multiset.nodup_of_le (labels_le_of_lookup hb) hssnodup)
          (Multiset.nodup_of_le (labels_le_of_lookup hc) husnodup)
          (hvw.of_lookup hl hm ha hb) (hwu.of_lookup hm hn hb hc)
      | _ => cases hvmap
    | _ => cases hwmap
  | leaf h =>
    -- on either side the last value takes the place of everything
    rw [overlaid_of_isMap_eq_false _ h, overlaid_of_isMap_eq_false _ h,
      overlaid_of_isMap_eq_false _ h]

/-! ## Labels -/

section Relabel

variable (φ : Nat → Nat)

/-- `relabelEntries` commutes with `putEntry`. -/
theorem relabelEntries_putEntry (k : Scalar) (v : Value) (es : List (Scalar × Value)) :
    relabelEntries φ (putEntry k v es) = putEntry k (v.relabel φ) (relabelEntries φ es) := by
  induction es with
  | nil => rfl
  | cons e es ih =>
    obtain ⟨n, x⟩ := e
    rw [putEntry, relabelEntries, putEntry]
    split
    · rw [relabelEntries]
    · rw [relabelEntries, ih]

mutual

/-- `relabel` commutes with `overlaid`. -/
theorem relabel_overlaid (old : Option Value) : ∀ v : Value,
    (overlaid old v).relabel φ = overlaid (old.map (relabel φ)) (v.relabel φ)
  | map m ss => by
    rcases map_or_not_map old with ⟨i, is, rfl⟩ | hnot
    · rw [overlaid, relabel, relabel_overlay is ss, Option.map_some, relabel, relabel, overlaid]
    · -- with other labels the old value is no mapping either
      have hnot' : ∀ i is, old.map (relabel φ) ≠ some (map i is) := by
        intro i is h
        obtain ⟨w, rfl, hw⟩ := Option.map_eq_some_iff.1 h
        cases w with
        | map j js => exact hnot j js rfl
        | _ => simp [relabel] at hw
      rw [overlaid_of_not_map hnot, overlaid_of_not_map hnot']
  | scalar _ | list _ _ | set _ | pair _ _ | loop _ _ => by
    rw [overlaid_of_isMap_eq_false old rfl, overlaid_of_isMap_eq_false _ (by rw [relabel]; rfl)]

/-- `relabelEntries` commutes with `overlay`. -/
theorem relabel_overlay (es : List (Scalar × Value)) : ∀ ss : List (Scalar × Value),
    relabelEntries φ (overlay es ss) = overlay (relabelEntries φ es) (relabelEntries φ ss)
  | [] => by rw [overlay, relabelEntries, overlay]
  | (k, v) :: ss => by
    rw [overlay, relabel_overlay _ ss, relabelEntries_putEntry, relabel_overlaid _ v,
      relabelEntries, overlay, lookup_relabelEntries]

end

end Relabel

end FactoryRegistry.Value
