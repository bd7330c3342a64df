import Mathlib.Logic.Function.Basic
import FactoryRegistry.Proofs.Value.Label

/-!
# Other labels

Labels tell lists and mappings apart and play no other part. `relabel` replaces them:

* `labels_relabel`, `lt_labelBound`: the labels that come of it, and a bound on them;
* `entries_relabel`: a mapping reads the same under other labels, if these tell apart what the old
  ones do;
* `nameless`: a value without its labels, in which a `loop` says how far out the list or mapping
  stands that it leads to. `nameless_relabel`: other labels do not change it.
-/

namespace FactoryRegistry.Value

variable {i : Nat} {φ ψ : Nat → Nat}

/-- A value with all labels set to zero. -/
def unlabelled (v : Value) : Value := v.relabel fun _ => 0

mutual

/-- A value without its labels: a `loop` says how far out the list or mapping stands that it leads
to. `around` has the labels of the lists and mappings around the value, from the inside outwards. -/
def nameless (around : List Nat) : Value → Value
  | map l entries => map 0 (namelessEntries (l :: around) entries)
  | list l items => list 0 (namelessItems (l :: around) items)
  | pair first second => pair (nameless around first) (nameless around second)
  | scalar s => scalar s
  | set members => set members
  | loop container l => loop container (around.idxOf l)

/-- `nameless` for some values. -/
def namelessItems (around : List Nat) : List Value → List Value
  | [] => []
  | v :: items => nameless around v :: namelessItems around items

/-- `nameless` for the values of some entries. -/
def namelessEntries (around : List Nat) : List (Scalar × Value) → List (Scalar × Value)
  | [] => []
  | (k, v) :: entries => (k, nameless around v) :: namelessEntries around entries

end

mutual

/-- The labels of `v.relabel φ` are the images of those of `v`. -/
theorem labels_relabel (φ : Nat → Nat) : ∀ v : Value, (v.relabel φ).labels = v.labels.map φ
  | map l es => by rw [relabel, labels, labels, Multiset.map_cons, entryLabels_relabel φ es]
  | list l items => by rw [relabel, labels, labels, itemLabels_relabel φ items]
  | pair a b => by
    rw [relabel, labels, labels, Multiset.map_add, labels_relabel φ a, labels_relabel φ b]
  | loop .map l => by rw [relabel, labels, labels, Multiset.map_singleton]
  | scalar _ | set _ | loop .list _ => rfl

theorem itemLabels_relabel (φ : Nat → Nat) : ∀ items : List Value,
    itemLabels (relabelItems φ items) = (itemLabels items).map φ
  | [] => rfl
  | v :: items => by
    rw [relabelItems, itemLabels, itemLabels, Multiset.map_add, labels_relabel φ v,
      itemLabels_relabel φ items]

theorem entryLabels_relabel (φ : Nat → Nat) : ∀ es : List (Scalar × Value),
    entryLabels (relabelEntries φ es) = (entryLabels es).map φ
  | [] => rfl
  | (_, v) :: es => by
    rw [relabelEntries, entryLabels, entryLabels, Multiset.map_add, labels_relabel φ v,
      entryLabels_relabel φ es]

end

theorem isMap_relabel (φ : Nat → Nat) (v : Value) : (v.relabel φ).isMap = v.isMap := by
  cases v <;> rfl

theorem relabelEntries_eq_map (φ : Nat → Nat) (es : List (Scalar × Value)) :
    relabelEntries φ es = es.map fun e => (e.1, e.2.relabel φ) := by
  induction es with
  | nil => rfl
  | cons e es ih => rw [relabelEntries, ih, List.map_cons]

theorem lookup_relabelEntries (φ : Nat → Nat) (k : Scalar) (es : List (Scalar × Value)) :
    lookup k (relabelEntries φ es) = (lookup k es).map (relabel φ) := by
  induction es with
  | nil => rfl
  | cons e es ih =>
    rw [relabelEntries, lookup, lookup, ih]
    split <;> rfl

mutual

/-- `relabel` commutes with `unroll`, if the new labels tell apart what the old ones do. -/
theorem relabel_unroll (hφ : Function.Injective φ) (c : Container) (l : Nat) (whole : Value) :
    ∀ v : Value, (unroll c l whole v).relabel φ = unroll c (φ l) (whole.relabel φ) (v.relabel φ)
  | map m es => congrArg (Value.map (φ m)) (relabelEntries_unroll hφ c l whole es)
  | list m items => congrArg (Value.list (φ m)) (relabelItems_unroll hφ c l whole items)
  | pair a b => congrArg₂ Value.pair (relabel_unroll hφ c l whole a) (relabel_unroll hφ c l whole b)
  | scalar _ | set _ => rfl
  | loop d m => by
    rw [unroll, unroll, relabel, substitute, substitute, looped?, looped?]
    by_cases h : d = c ∧ m = l
    · rw [if_pos h, if_pos ⟨h.1, congrArg φ h.2⟩]
      rfl
    · rw [if_neg h, if_neg fun h' => h ⟨h'.1, hφ h'.2⟩]
      rfl

theorem relabelItems_unroll (hφ : Function.Injective φ) (c : Container) (l : Nat) (whole : Value) :
    ∀ items : List Value, relabelItems φ (substituteItems (looped? c l whole) items) =
      substituteItems (looped? c (φ l) (whole.relabel φ)) (relabelItems φ items)
  | [] => rfl
  | v :: items => congrArg₂ List.cons (relabel_unroll hφ c l whole v)
      (relabelItems_unroll hφ c l whole items)

/-- `relabelEntries` commutes with unrolling the loops among entries, as `relabel` does. -/
theorem relabelEntries_unroll (hφ : Function.Injective φ) (c : Container) (l : Nat)
    (whole : Value) : ∀ es : List (Scalar × Value),
      relabelEntries φ (substituteEntries (looped? c l whole) es) =
        substituteEntries (looped? c (φ l) (whole.relabel φ)) (relabelEntries φ es)
  | [] => rfl
  | (k, v) :: es => congrArg₂ (fun x xs => (k, x) :: xs) (relabel_unroll hφ c l whole v)
      (relabelEntries_unroll hφ c l whole es)

end

/-- The entries of `v.relabel φ` are those of `v`, relabelled, if `φ` is injective. -/
theorem entries_relabel (hφ : Function.Injective φ) (v : Value) :
    (v.relabel φ).entries = relabelEntries φ v.entries := by
  cases v with
  | map l es =>
    rw [relabelEntries_eq_map, entries, relabel, entries, relabelEntries_eq_map, List.map_map,
      List.map_map]
    refine List.map_congr_left fun e _ => ?_
    rw [Function.comp_apply, Function.comp_apply, relabel_unroll hφ, relabel, relabelEntries_eq_map]
  | _ => rfl

/-- Injective labels stand at the same place in a list of those around. -/
theorem idxOf_map (hφ : Function.Injective φ) (l : Nat) (around : List Nat) :
    (around.map φ).idxOf (φ l) = around.idxOf l := by
  induction around with
  | nil => rfl
  | cons m around ih => rw [List.map_cons, List.idxOf_cons, List.idxOf_cons, hφ.beq_eq, ih]

mutual

/-- Other labels do not change the `nameless` form, if they tell apart what the old ones do. -/
theorem nameless_relabel (hφ : Function.Injective φ) (around : List Nat) : ∀ v : Value,
    (v.relabel φ).nameless (around.map φ) = v.nameless around
  | map l es => congrArg (Value.map 0) (namelessEntries_relabel hφ (l :: around) es)
  | list l items => congrArg (Value.list 0) (namelessItems_relabel hφ (l :: around) items)
  | pair a b => congrArg₂ Value.pair (nameless_relabel hφ around a) (nameless_relabel hφ around b)
  | scalar _ | set _ => rfl
  | loop c l => congrArg (Value.loop c) (idxOf_map hφ l around)

/-- `nameless_relabel` for some values. -/
theorem namelessItems_relabel (hφ : Function.Injective φ) (around : List Nat) :
    ∀ items : List Value,
      namelessItems (around.map φ) (relabelItems φ items) = namelessItems around items
  | [] => rfl
  | v :: items => congrArg₂ List.cons (nameless_relabel hφ around v)
      (namelessItems_relabel hφ around items)

/-- `nameless_relabel` for the values of some entries. -/
theorem namelessEntries_relabel (hφ : Function.Injective φ) (around : List Nat) :
    ∀ es : List (Scalar × Value),
      namelessEntries (around.map φ) (relabelEntries φ es) = namelessEntries around es
  | [] => rfl
  | (k, v) :: es => congrArg₂ (fun x xs => (k, x) :: xs) (nameless_relabel hφ around v)
      (namelessEntries_relabel hφ around es)

end

mutual

/-- No label is as large as `labelBound`. -/
theorem lt_labelBound : ∀ v : Value, i ∈ v.labels → i < v.labelBound
  | map l es, h => by
    rw [labels, Multiset.mem_cons] at h
    rw [labelBound, lt_max_iff]
    exact h.imp (fun h => by rw [h]; exact Nat.lt_succ_self _) (lt_entryLabelBound es)
  | list l items, h => by
    rw [labelBound, lt_max_iff]
    exact Or.inr (lt_itemLabelBound items h)
  | pair a b, h => by
    rw [labels, Multiset.mem_add] at h
    rw [labelBound, lt_max_iff]
    exact h.imp (lt_labelBound a) (lt_labelBound b)
  | loop .map l, h => Multiset.mem_singleton.1 h ▸ Nat.lt_succ_self i
  | scalar _, h | set _, h | loop .list _, h => absurd h (Multiset.notMem_zero i)

theorem lt_itemLabelBound : ∀ items : List Value, i ∈ itemLabels items → i < itemLabelBound items
  | [], h => absurd h (Multiset.notMem_zero i)
  | v :: items, h => by
    rw [itemLabels, Multiset.mem_add] at h
    rw [itemLabelBound, lt_max_iff]
    exact h.imp (lt_labelBound v) (lt_itemLabelBound items)

theorem lt_entryLabelBound : ∀ es : List (Scalar × Value), i ∈ entryLabels es →
    i < entryLabelBound es
  | [], h => absurd h (Multiset.notMem_zero i)
  | (_, v) :: es, h => by
    rw [entryLabels, Multiset.mem_add] at h
    rw [entryLabelBound, lt_max_iff]
    exact h.imp (lt_labelBound v) (lt_entryLabelBound es)

end

end FactoryRegistry.Value
