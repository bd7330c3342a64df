import FactoryRegistry.Proofs.Value.Place

/-!
# Entries merged over entries

Entries are overlaid when they are merged into entries without regard to labels: where both sides
hold a mapping, the two are merged in turn and the old label stays; everywhere else the new value
stands as it is. This is what a merge comes to where no mapping that it changes stands at two
places.

* `overlayWith combine`: entries put over entries, each merged by `combine` with what is there. What
  it holds under a key is told by the two sides under that key (`lookup_overlayWith`);
* `overlaidTo depth`: a value merged over another one, at most `depth` mappings deep. It reads the
  source from outside, so the source may stand inside itself. It brings in labels of the source and
  no others (`count_overlaidTo_le`);
* `overlay`, `overlaid`: the same by recursion on the source, where no mapping of the source stands
  inside itself (`overlaidTo_eq_overlaid`). They have the mappings of both sides and no others
  (`entryLabels_overlay_le`).
-/

namespace FactoryRegistry.Value

/-- The entries `ss` put over the entries `es` one after another, each merged by `combine` with what
is there by then. -/
def overlayWith (combine : Option Value → Value → Value) (es ss : List (Scalar × Value)) :
    List (Scalar × Value) :=
  ss.foldl (fun es e => putEntry e.1 (combine (lookup e.1 es) e.2) es) es

/-- A value merged over what was there before, at most `depth` mappings deep. -/
def overlaidTo : (depth : Nat) → (old : Option Value) → Value → Value
  | depth + 1, some (map l es), map m ss =>
    map l (overlayWith (overlaidTo depth) es (map m ss).entries)
  | _, _, v => v

mutual

/-- A value in which no mapping stands inside itself, merged over what was there before. -/
def overlaid (old : Option Value) : Value → Value
  | map m entries => match old with
    | some (map l current) => map l (overlay current entries)
    | _ => map m entries
  | value => value

/-- Entries with other entries merged over them one after another. -/
def overlay (current : List (Scalar × Value)) : List (Scalar × Value) → List (Scalar × Value)
  | [] => current
  | (k, v) :: entries => overlay (putEntry k (overlaid (lookup k current) v) current) entries

end

variable {k : Scalar} {old : Option Value} {v : Value} {es ss : List (Scalar × Value)}
  {combine : Option Value → Value → Value} {depth i l m : Nat}

/-- Either there was a mapping before or there was none. -/
theorem map_or_not_map (old : Option Value) :
    (∃ i is, old = some (map i is)) ∨ ∀ i is, old ≠ some (map i is) := by
  by_cases h : ∃ i is, old = some (map i is)
  · exact Or.inl h
  · exact Or.inr fun i is hi => h ⟨i, is, hi⟩

/-- What is overlaid on no mapping takes its place. -/
theorem overlaid_of_not_map (h : ∀ i is, old ≠ some (map i is)) (v : Value) :
    overlaid old v = v := by
  cases v with
  | map m entries => rw [overlaid]; exact h
  | _ => rw [overlaid]; rintro _ _ ⟨⟩

theorem overlaid_of_isMap_eq_false (old : Option Value) (h : v.isMap = false) :
    overlaid old v = v := by
  cases v with
  | map m entries => cases h
  | _ => rw [overlaid]; rintro _ _ ⟨⟩

/-- `overlayWith` puts one more entry over what those before it make. -/
theorem overlayWith_concat (combine : Option Value → Value → Value) (es ss : List (Scalar × Value))
    (e : Scalar × Value) : overlayWith combine es (ss ++ [e]) =
      putEntry e.1 (combine (lookup e.1 (overlayWith combine es ss)) e.2)
        (overlayWith combine es ss) := by
  rw [overlayWith, List.foldl_append]
  rfl

/-- `overlay` puts entries over entries, merged by `overlaid`. -/
theorem overlay_eq_overlayWith (es ss : List (Scalar × Value)) :
    overlay es ss = overlayWith overlaid es ss := by
  induction ss generalizing es with
  | nil => rfl
  | cons e ss ih => exact ih _

/-- `overlaidTo` merges nothing where not both sides are mappings. -/
theorem overlaidTo_of_not_meet (h : ∀ i is m ss, old = some (map i is) → v ≠ map m ss)
    (depth : Nat) :
    overlaidTo depth old v = v := by
  rw [overlaidTo]
  exact fun _ i is m ss _ hold hv => h i is m ss hold hv

/-- `overlaid` merges nothing where not both sides are mappings. -/
theorem overlaid_of_not_meet (h : ∀ i is m ss, old = some (map i is) → v ≠ map m ss) :
    overlaid old v = v := by
  rcases map_or_not_map old with ⟨i, is, hold⟩ | hold
  · cases v with
    | map m ss => exact absurd rfl (h i is m ss hold)
    | _ => exact overlaid_of_isMap_eq_false old rfl
  · exact overlaid_of_not_map hold v

/-- Either both sides are mappings or not both are. -/
theorem meet_or_not_meet (old : Option Value) (v : Value) :
    (∃ i is m ss, old = some (map i is) ∧ v = map m ss) ∨
      ∀ i is m ss, old = some (map i is) → v ≠ map m ss := by
  by_cases h : ∃ i is m ss, old = some (map i is) ∧ v = map m ss
  · exact Or.inl h
  · exact Or.inr fun i is m ss hold hv => h ⟨i, is, m, ss, hold, hv⟩

/-- The mappings of an entry are among those that `entryMappings` counts. -/
theorem mappings_le_of_mem {e : Scalar × Value} (h : e ∈ es) : e.2.mappings ≤ entryMappings es := by
  induction es with
  | nil => cases h
  | cons first es ih =>
    rw [entryMappings]
    rcases List.mem_cons.1 h with rfl | h
    · exact Nat.le_add_right _ _
    · exact (ih h).trans (Nat.le_add_left _ _)

/-- Where no mapping of `v` stands inside itself and `depth` covers them all, `overlaidTo` is
`overlaid`. -/
theorem overlaidTo_eq_overlaid (hv : v.Loopless) (hdepth : v.mappings ≤ depth)
    (old : Option Value) : overlaidTo depth old v = overlaid old v := by
  induction depth generalizing v old with
  | zero =>
    rcases meet_or_not_meet old v with ⟨i, is, m, ss, rfl, rfl⟩ | hnot
    · exact absurd hdepth (by simp [mappings])
    · rw [overlaidTo_of_not_meet hnot, overlaid_of_not_meet hnot]
  | succ depth ih =>
    rcases meet_or_not_meet old v with ⟨i, is, m, ss, rfl, rfl⟩ | hnot
    · -- the values of the source have fewer mappings than the source
      have hvalues : ∀ e ∈ ss, ∀ old, overlaidTo depth old e.2 = overlaid old e.2 := fun e he =>
        ih ((loopless_map_iff.1 hv).2 e he) <| by
          have hle := mappings_le_of_mem he
          rw [mappings] at hdepth
          omega
      rw [overlaidTo, overlaid, hv.entries, overlay_eq_overlayWith, overlayWith, overlayWith]
      exact congrArg (map i) (List.foldl_ext _ _ _ fun es e he => by rw [hvalues e he])
    · rw [overlaidTo_of_not_meet hnot, overlaid_of_not_meet hnot]

/-! ## The mappings of an overlay -/

/-- `putEntry` of what overlays the entry before it, in terms of labels. The bound of the inner
`overlay` is a hypothesis, which the induction over the source provides. -/
theorem entryLabels_putEntry_overlaid_le
    (hinner : ∀ m inner is, v = map m inner →
      entryLabels (overlay is inner) ≤ entryLabels is + entryLabels inner) :
    entryLabels (putEntry k (overlaid (lookup k es) v) es) ≤ entryLabels es + v.labels := by
  rcases map_or_not_map (lookup k es) with ⟨i, is, hold⟩ | hold
  · cases v with
    | map m inner =>
      -- two mappings meet, and the label of the old one stays
      rw [hold, overlaid]
      refine (entryLabels_putEntry_map_le hold (hinner m inner is rfl)).trans ?_
      exact add_le_add_right (Multiset.le_cons_self _ m) _
    | _ => exact entryLabels_putEntry_le k _ es
  · rw [overlaid_of_not_map hold]
    exact entryLabels_putEntry_le k v es

mutual

/-- `putEntry` of an `overlaid` value brings in the labels of the value and no others. -/
theorem entryLabels_putOverlaid_le (k : Scalar) (es : List (Scalar × Value)) : ∀ v : Value,
    entryLabels (putEntry k (overlaid (lookup k es) v) es) ≤ entryLabels es + v.labels
  | map _ inner => entryLabels_putEntry_overlaid_le fun _ _ is h => by
    cases h
    exact entryLabels_overlay_le is inner
  | scalar _ | list _ _ | set _ | pair _ _ | loop _ _ =>
    entryLabels_putEntry_overlaid_le fun _ _ _ h => nomatch h

/-- An `overlay` has the labels of both sides and no others. -/
theorem entryLabels_overlay_le (es : List (Scalar × Value)) : ∀ ss : List (Scalar × Value),
    entryLabels (overlay es ss) ≤ entryLabels es + entryLabels ss
  | [] => by rw [overlay, entryLabels, add_zero]
  | (k, v) :: ss => by
    rw [overlay, entryLabels, ← add_assoc]
    refine (entryLabels_overlay_le _ ss).trans ?_
    exact add_le_add_left (entryLabels_putOverlaid_le k es v) _

end

/-- A mapping overlaid by another one has the labels of both and no others. -/
theorem labels_overlay_le (l m : Nat) (es ss : List (Scalar × Value)) :
    (map l (overlay es ss)).labels ≤ (map l es).labels + (map m ss).labels := by
  rw [labels, labels, labels, Multiset.cons_add]
  refine Multiset.cons_le_cons l ((entryLabels_overlay_le es ss).trans ?_)
  exact add_le_add_right (Multiset.le_cons_self _ m) _

/-- `overlayWith` brings in no label that `combine` does not bring in. -/
theorem count_overlayWith_le
    (hcombine : ∀ e ∈ ss, ∀ old, (combine old e.2).labels.count i ≤ (old.elim 0 labels).count i)
    (es : List (Scalar × Value)) :
    (entryLabels (overlayWith combine es ss)).count i ≤ (entryLabels es).count i := by
  induction ss generalizing es with
  | nil => exact le_rfl
  | cons e ss ih =>
    obtain ⟨he, hss⟩ := List.forall_mem_cons.1 hcombine
    exact (ih hss _).trans (count_putEntry_le (he _))

/-- `overlaidTo` brings in labels of the source and no others. -/
theorem count_overlaidTo_le (depth : Nat) (hi : i ∉ v.labels) (old : Option Value) :
    (overlaidTo depth old v).labels.count i ≤ (old.elim 0 labels).count i := by
  induction depth generalizing v old with
  | zero =>
    rw [overlaidTo, Multiset.count_eq_zero.2 hi]
    · exact Nat.zero_le _
    · rintro _ _ _ _ _ ⟨⟩
  | succ depth ih =>
    rcases meet_or_not_meet old v with ⟨l, es, m, ss, rfl, rfl⟩ | hnot
    · -- no value of the source has the label either, also where a loop is unrolled
      have hvalues : ∀ e ∈ (map m ss).entries, ∀ old,
          (overlaidTo depth old e.2).labels.count i ≤ (old.elim 0 labels).count i := fun e he =>
        ih fun hmem => hi (mem_labels_of_mem_entries he hmem)
      rw [overlaidTo, Option.elim_some, labels, labels, Multiset.count_cons, Multiset.count_cons]
      exact add_le_add_left (count_overlayWith_le hvalues es) _
    · rw [overlaidTo_of_not_meet hnot, Multiset.count_eq_zero.2 hi]
      exact Nat.zero_le _

/-! ## Looking up in an overlay -/

/-- Under each key `overlayWith` holds what `combine` makes of the two sides there, and without a
new value what was there before. -/
theorem lookup_overlayWith (h : DistinctKeys ss) (combine : Option Value → Value → Value)
    (c : Scalar) (es : List (Scalar × Value)) :
    lookup c (overlayWith combine es ss) =
      ((lookup c ss).map (combine (lookup c es))).or (lookup c es) := by
  induction ss generalizing es with
  | nil => rfl
  | cons e ss ih =>
    obtain ⟨k, v⟩ := e
    obtain ⟨-, hdistinct⟩ := List.pairwise_cons.1 h
    rw [overlayWith, List.foldl_cons, ← overlayWith, ih hdistinct, lookup_putEntry, lookup]
    by_cases hkc : k.sameKey c = true
    · -- the rest of the source does not have the key again
      have hrest : lookup c ss = none := h.lookup_tail hkc
      rw [hrest, if_pos hkc, if_pos hkc, lookup_congr hkc]
      rfl
    · rw [if_neg hkc, if_neg hkc]

end FactoryRegistry.Value
