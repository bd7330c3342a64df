import Mathlib.Algebra.BigOperators.Group.Multiset.Basic
import Mathlib.Algebra.Order.Group.Multiset
import FactoryRegistry.Proofs.Value.Key
import FactoryRegistry.Value.Label

/-!
# The labels of a value

* `labels`: the labels of all mappings in a value, each as often as it occurs there; a `loop` of a
  mapping is one more occurrence. Where a label does not occur, `assign` changes nothing, and there
  is nothing to `unroll` and nothing to be `folded`;
* `entries_map`: a mapping whose label does not occur in its own entries reads from outside as it is
  written. `mem_labels_of_mem_entries`: whatever is read has labels of the mapping and no others;
* `Loopless`: no mapping that keys lead to stands inside itself.
-/

namespace FactoryRegistry.Value

mutual

/-- The labels of the mappings in a value. -/
def labels : Value → Multiset Nat
  | map l entries => l ::ₘ entryLabels entries
  | list _ items => itemLabels items
  | pair first second => labels first + labels second
  | loop .map l => {l}
  | scalar _ | set _ | loop .list _ => 0

/-- The labels of the mappings in some values. -/
def itemLabels : List Value → Multiset Nat
  | [] => 0
  | v :: items => labels v + itemLabels items

/-- The labels of the mappings in the values of some entries. -/
def entryLabels : List (Scalar × Value) → Multiset Nat
  | [] => 0
  | (_, v) :: entries => labels v + entryLabels entries

end

variable {l i : Nat} {k : Scalar} {v w whole : Value} {vs : List Value}
  {es fs : List (Scalar × Value)} {f : Value → Option Value}

@[simp]
theorem entryLabels_append (es fs : List (Scalar × Value)) :
    entryLabels (es ++ fs) = entryLabels es + entryLabels fs := by
  induction es with
  | nil => rw [List.nil_append, entryLabels, zero_add]
  | cons e es ih => rw [List.cons_append, entryLabels, entryLabels, ih, add_assoc]

theorem mem_itemLabels : i ∈ itemLabels vs ↔ ∃ v ∈ vs, i ∈ v.labels := by
  induction vs with
  | nil => simp [itemLabels]
  | cons v vs ih => simp [itemLabels, ih]

/-- A label of entries is a label of one of their values. -/
theorem mem_entryLabels : i ∈ entryLabels es ↔ ∃ e ∈ es, i ∈ e.2.labels := by
  induction es with
  | nil => simp [entryLabels]
  | cons e es ih => simp [entryLabels, ih]

theorem labels_le_of_mem {e : Scalar × Value} (h : e ∈ es) : e.2.labels ≤ entryLabels es := by
  obtain ⟨before, after, rfl⟩ := List.append_of_mem h
  rw [entryLabels_append, entryLabels]
  exact (Multiset.le_add_right _ _).trans (Multiset.le_add_left _ _)

/-- The labels of what `lookup` finds are among those of the entries. -/
theorem labels_le_of_lookup (h : lookup k es = some v) : v.labels ≤ entryLabels es := by
  obtain ⟨c, hmem⟩ := exists_mem_of_lookup h
  exact labels_le_of_mem hmem

/-! ## Assigning -/

/-- `assignInEntries` goes through entries one after another. -/
theorem assignInEntries_append (l : Nat) (k : Scalar) (w : Value) (es fs : List (Scalar × Value)) :
    assignInEntries l k w (es ++ fs) = assignInEntries l k w es ++ assignInEntries l k w fs := by
  induction es with
  | nil => rfl
  | cons e es ih => rw [List.cons_append, assignInEntries, assignInEntries, ih, List.cons_append]

mutual

/-- `assign` changes nothing where its label does not occur. -/
theorem assign_of_not_mem (l : Nat) (k : Scalar) (w : Value) :
    ∀ v : Value, l ∉ v.labels → assign l k w v = v
  | map m es, h => by
    rw [labels, Multiset.mem_cons, not_or] at h
    rw [assign, assignInEntries_of_not_mem l k w es h.2, if_neg (Ne.symm h.1)]
  | list m items, h => by
    rw [labels] at h
    rw [assign, assignInItems_of_not_mem l k w items h]
  | pair a b, h => by
    rw [labels, Multiset.mem_add, not_or] at h
    rw [assign, assign_of_not_mem l k w a h.1, assign_of_not_mem l k w b h.2]
  | scalar _, _ | set _, _ | loop _ _, _ => rfl

theorem assignInItems_of_not_mem (l : Nat) (k : Scalar) (w : Value) :
    ∀ items : List Value, l ∉ itemLabels items → assignInItems l k w items = items
  | [], _ => rfl
  | v :: items, h => by
    rw [itemLabels, Multiset.mem_add, not_or] at h
    rw [assignInItems, assign_of_not_mem l k w v h.1, assignInItems_of_not_mem l k w items h.2]

/-- Entries without the mapping `l` are left as they are. -/
theorem assignInEntries_of_not_mem (l : Nat) (k : Scalar) (w : Value) :
    ∀ es : List (Scalar × Value), l ∉ entryLabels es → assignInEntries l k w es = es
  | [], _ => rfl
  | (_, v) :: es, h => by
    rw [entryLabels, Multiset.mem_add, not_or] at h
    rw [assignInEntries, assign_of_not_mem l k w v h.1, assignInEntries_of_not_mem l k w es h.2]

end

/-- `assign` leaves every value its `kind`. -/
theorem kind_assign (l : Nat) (k : Scalar) (w v : Value) : (assign l k w v).kind = v.kind := by
  cases v with
  | scalar s => cases s <;> rfl
  | _ => rfl

theorem map_fst_assignInEntries (l : Nat) (k : Scalar) (w : Value) (es : List (Scalar × Value)) :
    (assignInEntries l k w es).map Prod.fst = es.map Prod.fst := by
  induction es with
  | nil => rfl
  | cons e es ih => rw [assignInEntries, List.map_cons, List.map_cons, ih]

/-- `lookup` finds the old value, assigned to. -/
theorem lookup_assignInEntries (l : Nat) (k : Scalar) (w : Value) (es : List (Scalar × Value))
    (c : Scalar) : lookup c (assignInEntries l k w es) = (lookup c es).map (assign l k w) := by
  induction es with
  | nil => rfl
  | cons e es ih =>
    rw [assignInEntries, lookup, lookup, ih]
    split <;> rfl

/-! ## Substituting -/

mutual

/-- `substitute` changes nothing where `f` has no value for any part. -/
theorem substitute_eq_self : ∀ v : Value, (∀ w, w.labels ≤ v.labels → f w = none) →
    substitute f v = v
  | map m es, h => by
    have hentries := substituteEntries_eq_self es fun w hw =>
      h w (hw.trans (Multiset.le_cons_self _ m))
    rw [substitute, h _ le_rfl, Option.getD_none, hentries]
  | list m items, h => by
    rw [substitute, h _ le_rfl, Option.getD_none, substituteItems_eq_self items h]
  | pair a b, h => by
    have hfirst := substitute_eq_self a fun w hw => h w (hw.trans (Multiset.le_add_right _ _))
    have hsecond := substitute_eq_self b fun w hw => h w (hw.trans (Multiset.le_add_left _ _))
    rw [substitute, h _ le_rfl, Option.getD_none, hfirst, hsecond]
  | scalar _, h | set _, h | loop _ _, h => by rw [substitute, h _ le_rfl, Option.getD_none]

theorem substituteItems_eq_self : ∀ items : List Value,
    (∀ w, w.labels ≤ itemLabels items → f w = none) → substituteItems f items = items
  | [], _ => rfl
  | v :: items, h => by
    rw [substituteItems,
      substitute_eq_self v fun w hw => h w (hw.trans (Multiset.le_add_right _ _)),
      substituteItems_eq_self items fun w hw => h w (hw.trans (Multiset.le_add_left _ _))]

theorem substituteEntries_eq_self : ∀ es : List (Scalar × Value),
    (∀ w, w.labels ≤ entryLabels es → f w = none) → substituteEntries f es = es
  | [], _ => rfl
  | (_, v) :: es, h => by
    rw [substituteEntries,
      substitute_eq_self v fun w hw => h w (hw.trans (Multiset.le_add_right _ _)),
      substituteEntries_eq_self es fun w hw => h w (hw.trans (Multiset.le_add_left _ _))]

end

/-- A label of what stands for a value comes from what `f` puts in its place, or otherwise from what
its parts were made into. -/
theorem mem_labels_getD (hi : i ∈ ((f v).getD w).labels) :
    i ∈ w.labels ∨ ∃ x u, f x = some u ∧ i ∈ u.labels := by
  cases hf : f v with
  | some u => exact Or.inr ⟨v, u, hf, by rwa [hf] at hi⟩
  | none => exact Or.inl (by rwa [hf] at hi)

mutual

/-- `substitute` leaves labels of the value and brings in those of what it puts there. -/
theorem mem_labels_substitute : ∀ v : Value, i ∈ (substitute f v).labels →
    i ∈ v.labels ∨ ∃ w u, f w = some u ∧ i ∈ u.labels
  | map m es, hi => by
    rw [substitute] at hi
    refine (mem_labels_getD hi).elim (fun hi => ?_) Or.inr
    rw [labels, Multiset.mem_cons] at hi
    rcases hi with rfl | hi
    · exact Or.inl (Multiset.mem_cons_self _ _)
    · exact (mem_entryLabels_substitute es hi).imp_left (Multiset.mem_cons_of_mem ·)
  | list m items, hi => by
    rw [substitute] at hi
    exact (mem_labels_getD hi).elim (mem_itemLabels_substitute items) Or.inr
  | pair a b, hi => by
    rw [substitute] at hi
    refine (mem_labels_getD hi).elim (fun hi => ?_) Or.inr
    rw [labels, Multiset.mem_add] at hi ⊢
    rcases hi with hi | hi
    · exact (mem_labels_substitute a hi).imp_left Or.inl
    · exact (mem_labels_substitute b hi).imp_left Or.inr
  | scalar s, hi | set members, hi | loop c m, hi => by
    rw [substitute] at hi
    exact mem_labels_getD hi

theorem mem_itemLabels_substitute : ∀ items : List Value,
    i ∈ itemLabels (substituteItems f items) →
      i ∈ itemLabels items ∨ ∃ w u, f w = some u ∧ i ∈ u.labels
  | [], hi => Or.inl hi
  | v :: items, hi => by
    rw [substituteItems, itemLabels, Multiset.mem_add] at hi
    rw [itemLabels, Multiset.mem_add]
    rcases hi with hi | hi
    · exact (mem_labels_substitute v hi).imp_left Or.inl
    · exact (mem_itemLabels_substitute items hi).imp_left Or.inr

/-- A label after a substitution comes from the entries or from what `f` puts in. -/
theorem mem_entryLabels_substitute : ∀ es : List (Scalar × Value),
    i ∈ entryLabels (substituteEntries f es) →
      i ∈ entryLabels es ∨ ∃ w u, f w = some u ∧ i ∈ u.labels
  | [], hi => Or.inl hi
  | (_, v) :: es, hi => by
    rw [substituteEntries, entryLabels, Multiset.mem_add] at hi
    rw [entryLabels, Multiset.mem_add]
    rcases hi with hi | hi
    · exact (mem_labels_substitute v hi).imp_left Or.inl
    · exact (mem_entryLabels_substitute es hi).imp_left Or.inr

end

/-- `looped?` replaces the loop that leads to the whole, and nothing else. -/
theorem looped?_eq_some_iff {c : Container} {u : Value} :
    looped? c l whole w = some u ↔ w = loop c l ∧ u = whole := by
  cases w with
  | loop d m => simp [looped?, and_comm, eq_comm]
  | _ => simp [looped?]

/-- `loop?` replaces the mapping with the label by a loop that leads to it. -/
theorem loop?_eq_some_iff {u : Value} :
    loop? l w = some u ↔ (∃ es, w = map l es) ∧ u = loop .map l := by
  cases w with
  | map m es =>
    by_cases hm : m = l
    · simp [loop?, hm, eq_comm]
    · simp [loop?, hm]
  | _ => simp [loop?]

/-- `substitute` goes through items one by one. -/
theorem substituteItems_eq_map (f : Value → Option Value) (vs : List Value) :
    substituteItems f vs = vs.map (substitute f) := by
  induction vs with
  | nil => rfl
  | cons v vs ih => rw [substituteItems, ih, List.map_cons]

/-- `substitute` goes through the values of entries one by one. -/
theorem substituteEntries_eq_map (f : Value → Option Value) (es : List (Scalar × Value)) :
    substituteEntries f es = es.map fun e => (e.1, substitute f e.2) := by
  induction es with
  | nil => rfl
  | cons e es ih => rw [substituteEntries, ih, List.map_cons]

/-- `unroll` of a mapping other than the whole unrolls each of its values. -/
theorem unroll_map (c : Container) (l : Nat) (whole : Value) (m : Nat)
    (es : List (Scalar × Value)) :
    unroll c l whole (map m es) = map m (es.map fun e => (e.1, unroll c l whole e.2)) :=
  congrArg (map m) (substituteEntries_eq_map _ es)

/-- There is nothing to `unroll` where the label does not occur. -/
theorem unroll_of_not_mem (h : l ∉ v.labels) (whole : Value) : unroll .map l whole v = v := by
  refine substitute_eq_self v fun w hw => Option.eq_none_iff_forall_not_mem.2 fun u hu => h ?_
  obtain ⟨rfl, -⟩ := looped?_eq_some_iff.1 hu
  exact Multiset.mem_of_le hw (Multiset.mem_singleton_self l)

/-- There is nothing to be `folded` where the label does not occur. -/
theorem folded_of_not_mem (h : l ∉ v.labels) : v.folded l = v := by
  refine substitute_eq_self v fun w hw => Option.eq_none_iff_forall_not_mem.2 fun u hu => h ?_
  obtain ⟨⟨es, rfl⟩, -⟩ := loop?_eq_some_iff.1 hu
  exact Multiset.mem_of_le hw (Multiset.mem_cons_self l _)

/-- A label after `unroll` comes from the value or from the whole. -/
theorem mem_labels_unroll {c : Container} (h : i ∈ (unroll c l whole v).labels) :
    i ∈ v.labels ∨ i ∈ whole.labels := by
  refine (mem_labels_substitute v h).imp_right ?_
  rintro ⟨w, u, hw, hi⟩
  exact (looped?_eq_some_iff.1 hw).2 ▸ hi

/-- `folded` brings in no label. -/
theorem mem_labels_folded (h : i ∈ (v.folded l).labels) : i ∈ v.labels := by
  by_cases hl : l ∈ v.labels
  · refine (mem_labels_substitute v h).elim id ?_
    rintro ⟨w, u, hw, hi⟩
    obtain ⟨-, rfl⟩ := loop?_eq_some_iff.1 hw
    exact Multiset.mem_singleton.1 hi ▸ hl
  · rwa [folded_of_not_mem hl] at h

/-- `unroll` leaves the `kind` of a value as it is, if the whole is of the kind of the container. -/
theorem kind_unroll {c : Container} (hwhole : whole.kind = c.kind) (l : Nat) (v : Value) :
    (unroll c l whole v).kind = v.kind := by
  rw [unroll]
  cases v with
  | loop d m =>
    rw [substitute, looped?]
    split
    next h => rw [Option.getD_some, hwhole, h.1, kind]
    next => rfl
  | scalar s => cases s <;> rfl
  | _ => rfl

/-! ## Reading entries -/

/-- A mapping that does not stand inside itself has the entries it is written with. -/
theorem entries_map (h : l ∉ entryLabels es) : (map l es).entries = es := by
  rw [entries]
  refine (List.map_congr_left fun e he => ?_).trans (List.map_id es)
  rw [unroll_of_not_mem fun hl => h (Multiset.mem_of_le (labels_le_of_mem he) hl)]
  rfl

/-- `lookup` among the entries of a mapping finds what is written under the key, with the loops
unrolled that lead to the mapping. -/
theorem lookup_entries_map (k : Scalar) (l : Nat) (es : List (Scalar × Value)) :
    lookup k (map l es).entries = (lookup k es).map (unroll .map l (map l es)) := by
  rw [entries]
  generalize map l es = whole
  induction es with
  | nil => rfl
  | cons e es ih =>
    rw [List.map_cons, lookup, lookup, ih]
    split <;> rfl

theorem map_fst_entries (l : Nat) (es : List (Scalar × Value)) :
    (map l es).entries.map Prod.fst = es.map Prod.fst := by
  rw [entries, List.map_map]
  rfl

/-- The labels of an entry of `v.entries` are labels of `v`. -/
theorem mem_labels_of_mem_entries {e : Scalar × Value} (he : e ∈ v.entries)
    (hi : i ∈ e.2.labels) : i ∈ v.labels := by
  cases v with
  | map l es =>
    obtain ⟨e', he', rfl⟩ := List.mem_map.1 he
    refine (mem_labels_unroll hi).elim (fun hi => ?_) id
    exact Multiset.mem_cons_of_mem (Multiset.mem_of_le (labels_le_of_mem he') hi)
  | _ => cases he

/-- A value in which no mapping that keys lead to stands inside itself. -/
inductive Loopless : Value → Prop where
  /-- A mapping that does not occur in its entries, of such values. -/
  | map {l : Nat} {es : List (Scalar × Value)} (not_inside : l ∉ entryLabels es)
      (values : ∀ e ∈ es, Loopless e.2) : Loopless (map l es)
  /-- A value that keys do not lead through. -/
  | leaf {v : Value} (not_map : v.isMap = false) : Loopless v

/-- A mapping is `Loopless` if it does not stand inside itself and its values are `Loopless`. -/
theorem loopless_map_iff : (map l es).Loopless ↔ l ∉ entryLabels es ∧ ∀ e ∈ es, e.2.Loopless := by
  constructor
  · rintro (⟨hl, hvalues⟩ | h)
    · exact ⟨hl, hvalues⟩
    · cases h
  · exact fun h => .map h.1 h.2

/-- The entries of a `Loopless` mapping are those it is written with. -/
theorem Loopless.entries (h : (Value.map l es).Loopless) : (Value.map l es).entries = es :=
  entries_map (loopless_map_iff.1 h).1

/-- What `lookup` finds in a `Loopless` mapping is `Loopless`. -/
theorem Loopless.of_lookup (h : (Value.map l es).Loopless) (hfound : lookup k es = some v) :
    v.Loopless := by
  obtain ⟨c, hmem⟩ := exists_mem_of_lookup hfound
  exact (loopless_map_iff.1 h).2 (c, v) hmem

mutual

/-- A value is `Loopless` where no label occurs twice. -/
theorem loopless_of_nodup : ∀ v : Value, v.labels.Nodup → v.Loopless
  | map l es, h => by
    obtain ⟨hl, hes⟩ := Multiset.nodup_cons.1 h
    exact .map hl (entries_loopless_of_nodup es hes)
  | scalar _, _ | list _ _, _ | set _, _ | pair _ _, _ | loop _ _, _ => .leaf rfl

/-- The values of entries are `Loopless` where no label occurs twice. -/
theorem entries_loopless_of_nodup : ∀ es : List (Scalar × Value), (entryLabels es).Nodup →
    ∀ e ∈ es, e.2.Loopless
  | [], _, _, he => nomatch he
  | (k, v) :: es, h, e, he => by
    obtain ⟨hv, hes, -⟩ := Multiset.nodup_add.1 h
    rcases List.mem_cons.1 he with rfl | he
    · exact loopless_of_nodup v hv
    · exact entries_loopless_of_nodup es hes e he

end

end FactoryRegistry.Value
