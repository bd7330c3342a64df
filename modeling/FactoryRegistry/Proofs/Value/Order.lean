import Mathlib.Data.List.Perm.Basic
import FactoryRegistry.Value.Order

/-!
# Keys in order

Some keys have a common order exactly if they are all of one class (`Scalar.sorted?_eq_none_iff`).
Putting them in order keeps them all, and texts come by their code points (`Scalar.sorted?_texts`),
however they stood before (`Scalar.sorted?_eq_of_perm`).
-/

namespace FactoryRegistry.Scalar

variable {keys sorted : List Scalar}

/-- `sorted?` fails exactly if two keys are of different `orderClass`es. -/
theorem sorted?_eq_none_iff :
    sorted? keys = none ↔ ∃ a ∈ keys, ∃ b ∈ keys, a.orderClass ≠ b.orderClass := by
  cases keys with
  | nil => exact iff_of_false nofun fun ⟨_, ha, _⟩ => nomatch ha
  | cons k ks =>
    rw [sorted?]
    split
    next hall =>
      -- all keys have the class of the first one
      have hclass : ∀ a ∈ k :: ks, a.orderClass = k.orderClass := by simpa using hall
      exact iff_of_false nofun fun ⟨a, ha, b, hb, hne⟩ =>
        hne ((hclass a ha).trans (hclass b hb).symm)
    next hall =>
      refine iff_of_true rfl ?_
      obtain ⟨a, ha, hne⟩ : ∃ a ∈ ks, a.orderClass ≠ k.orderClass := by simpa using hall
      exact ⟨a, List.mem_cons_of_mem k ha, k, List.mem_cons_self, hne⟩

/-- `sorted?` neither adds keys nor drops any. -/
theorem mem_sorted? (h : sorted? keys = some sorted) {k : Scalar} : k ∈ sorted ↔ k ∈ keys := by
  cases keys with
  | nil =>
    cases h
    rfl
  | cons k ks =>
    rw [sorted?] at h
    split at h <;> cases h
    exact List.mem_mergeSort

/-- Keys that have been sorted are of one `orderClass`. -/
theorem orderClass_eq_of_sorted? (h : sorted? keys = some sorted) {a b : Scalar} (ha : a ∈ sorted)
    (hb : b ∈ sorted) : a.orderClass = b.orderClass := by
  refine Decidable.byContradiction fun hne => ?_
  have hnone := sorted?_eq_none_iff.2
    ⟨a, (mem_sorted? h).1 ha, b, (mem_sorted? h).1 hb, hne⟩
  cases hnone.symm.trans h

/-- `sorted?` sorts texts by their code points. -/
theorem sorted?_texts (names : List String) :
    sorted? (names.map text) = some ((names.mergeSort (· ≤ ·)).map text) := by
  have hle : ∀ a ∈ names, ∀ b ∈ names, decide (a ≤ b) = !(text b).less (text a) := by
    intro a _ b _
    rw [less, ← decide_not]
    exact decide_eq_decide.2 String.not_lt.symm
  rw [List.map_mergeSort (s := fun a b => !b.less a) hle]
  cases names with
  | nil => rw [List.map_nil, List.mergeSort_nil, sorted?]
  | cons name names => exact if_pos (by simp [orderClass])

/-- `mergeSort` puts texts in the order of their code points. -/
theorem pairwise_mergeSort_texts (names : List String) :
    (names.mergeSort (· ≤ ·)).Pairwise (· ≤ ·) := by
  have htrans : ∀ a b c : String, decide (a ≤ b) = true → decide (b ≤ c) = true →
      decide (a ≤ c) = true := by
    simpa using fun a b c : String => String.le_trans
  have htotal : ∀ a b : String, (decide (a ≤ b) || decide (b ≤ a)) = true := by
    simpa using fun a b : String => String.le_total a b
  exact (List.pairwise_mergeSort htrans htotal names).imp fun h => of_decide_eq_true h

/-- `mergeSort` of texts does not depend on how they stand before. -/
theorem mergeSort_texts_eq_of_perm {names names' : List String} (h : names.Perm names') :
    names.mergeSort (· ≤ ·) = names'.mergeSort (· ≤ ·) := by
  have hperm := (List.mergeSort_perm names (· ≤ ·)).trans
    (h.trans (List.mergeSort_perm names' (· ≤ ·)).symm)
  exact hperm.eq_of_pairwise (fun _ _ _ _ => String.le_antisymm) (pairwise_mergeSort_texts names)
    (pairwise_mergeSort_texts names')

theorem exists_texts (h : ∀ k ∈ keys, ∃ s, k = text s) :
    ∃ names : List String, keys = names.map text := by
  induction keys with
  | nil => exact ⟨[], rfl⟩
  | cons k keys ih =>
    obtain ⟨⟨s, rfl⟩, hkeys⟩ := List.forall_mem_cons.1 h
    obtain ⟨names, rfl⟩ := ih hkeys
    exact ⟨s :: names, rfl⟩

/-- Keys with a text among them are sorted the same however they stand: either all of them are
texts, or they have no common order. -/
theorem sorted?_eq_of_perm {keys' : List Scalar} (h : keys.Perm keys') {s : String}
    (hs : text s ∈ keys) : sorted? keys = sorted? keys' := by
  by_cases hall : ∀ k ∈ keys, ∃ t, k = text t
  · obtain ⟨names, rfl⟩ := exists_texts hall
    obtain ⟨names', rfl⟩ := exists_texts fun k hk => hall k (h.mem_iff.2 hk)
    have hnames : names.Perm names' :=
      (List.map_perm_map_iff fun _ _ => text.inj).1 h
    rw [sorted?_texts, sorted?_texts, mergeSort_texts_eq_of_perm hnames]
  · -- a key of another class has no common order with the text
    simp only [not_forall, not_exists] at hall
    obtain ⟨k, hk, hne⟩ := hall
    have hclass : k.orderClass ≠ (text s).orderClass := by
      intro hclass
      cases k with
      | text t => exact hne t rfl
      | moment m =>
        rw [orderClass, orderClass] at hclass
        split at hclass <;> cases hclass
      | _ => cases hclass
    rw [sorted?_eq_none_iff.2 ⟨k, hk, text s, hs, hclass⟩,
      sorted?_eq_none_iff.2 ⟨k, h.mem_iff.1 hk, text s, h.mem_iff.1 hs, hclass⟩]

/-- `sorted?` succeeds on texts. -/
theorem exists_sorted?_texts (names : List String) :
    ∃ keys, sorted? (names.map text) = some keys ∧ ∀ k ∈ keys, ∃ name ∈ names, k = text name := by
  refine ⟨_, sorted?_texts names, fun k hk => ?_⟩
  obtain ⟨name, hname, rfl⟩ := List.mem_map.1 hk
  exact ⟨name, List.mem_mergeSort.1 hname, rfl⟩

end FactoryRegistry.Scalar
