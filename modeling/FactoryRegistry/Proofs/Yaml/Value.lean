import FactoryRegistry.Proofs.Except
import FactoryRegistry.Proofs.Value.Path
import FactoryRegistry.Yaml.Document

/-!
# The value of a document

A collection has the number of its node for a label, counted from the first label that is free, so
the labels of a `Part.value` are those of the nodes of the document (`Part.value_within`). The keys
of a mapping are set one after another, so that none comes twice (`Part.value_proper`). Hence a
document that is read has labels between the first free one before and the one after
(`read_labels`), and is proper (`read_proper`).
-/

namespace FactoryRegistry.Yaml

open Value

variable {filled : List (Option Collection)} {next next' l : Nat} {text : String} {v : Value}

/-- The labels of a `Part.value` are the numbers of collections that are filled, from `next` on. -/
theorem Part.value_within (fuel : Nat) (around : List Nat) (p : Part)
    (hl : l ∈ (p.value filled next fuel around).labels) :
    next ≤ l ∧ l < next + filled.length := by
  induction fuel generalizing around p with
  | zero => cases p <;> exact absurd hl (Multiset.notMem_zero l)
  | succ fuel ih =>
    cases p with
    | scalar s => exact absurd hl (Multiset.notMem_zero l)
    | collection n =>
      rw [Part.value] at hl
      have hown : ∀ c, filled[n]? = some c → next ≤ next + n ∧ next + n < next + filled.length :=
        fun c hc => ⟨Nat.le_add_right _ _, by
          have hn := (List.getElem?_eq_some_iff.1 hc).1
          omega⟩
      -- a list, a mapping, a set and a list of pairs, each of which may be a reference back
      split at hl
      next items hc =>
        split at hl
        · exact absurd hl (Multiset.notMem_zero l)
        · obtain ⟨v, hv, hl⟩ := mem_itemLabels.1 hl
          obtain ⟨q, -, rfl⟩ := List.mem_map.1 hv
          exact ih _ q hl
      next entries hc =>
        split at hl
        · exact Multiset.mem_singleton.1 hl ▸ hown _ hc
        · rcases Multiset.mem_cons.1 hl with rfl | hl
          · exact hown _ hc
          · obtain ⟨e, he, hl⟩ := mem_entryLabels.1 hl
            obtain ⟨x, hx, heq⟩ := mem_entriesOf he
            obtain ⟨⟨k, q⟩, -, rfl⟩ := List.mem_map.1 hx
            rw [heq] at hl
            exact ih _ q hl
      next => exact absurd hl (Multiset.notMem_zero l)
      next items hc =>
        split at hl
        · exact absurd hl (Multiset.notMem_zero l)
        · obtain ⟨v, hv, hl⟩ := mem_itemLabels.1 hl
          obtain ⟨⟨a, b⟩, -, rfl⟩ := List.mem_map.1 hv
          exact (Multiset.mem_add.1 hl).elim (ih _ a) (ih _ b)
      next => exact absurd hl (Multiset.notMem_zero l)

/-- No mapping in a `Part.value` has a key twice. -/
theorem Part.value_proper (fuel : Nat) (around : List Nat) (p : Part) :
    (p.value filled next fuel around).Proper := by
  induction fuel generalizing around p with
  | zero => cases p <;> exact .leaf rfl
  | succ fuel ih =>
    cases p with
    | scalar s => exact .leaf rfl
    | collection n =>
      rw [Part.value]
      -- only a mapping has keys, and its entries are put one after another
      split
      next => split <;> exact .leaf rfl
      next entries _ =>
        split
        · exact .leaf rfl
        · refine .map (entriesOf_distinctKeys _) fun e he => ?_
          obtain ⟨x, hx, heq⟩ := mem_entriesOf he
          obtain ⟨⟨k, q⟩, -, rfl⟩ := List.mem_map.1 hx
          exact heq ▸ ih _ q
      next => exact .leaf rfl
      next => split <;> exact .leaf rfl
      next => exact .leaf rfl

/-- The value of a text is nothing, or a `Part.value` whose nodes have the labels up to the next. -/
theorem exists_part_of_read (h : read next text = .ok (v, next')) :
    v = .null ∧ next' = next ∨
      ∃ filled fuel p, v = Part.value filled next fuel [] p ∧ next' = next + filled.length := by
  rw [read] at h
  split_ifs at h
  · cases h
  · obtain ⟨⟨root, g⟩, -, h⟩ := bind_eq_ok_iff.1 h
    cases root with
    | none =>
      cases h
      exact Or.inl ⟨rfl, rfl⟩
    | some root =>
      obtain ⟨⟨top, s⟩, -, h⟩ := bind_eq_ok_iff.1 h
      cases h
      exact Or.inr ⟨s.filled, _, top, rfl, rfl⟩

/-- A document that `read` gives has labels from `next` on, up to the one after. -/
theorem read_labels (h : read next text = .ok (v, next')) :
    next ≤ next' ∧ ∀ l ∈ v.labels, next ≤ l ∧ l < next' := by
  rcases exists_part_of_read h with ⟨rfl, rfl⟩ | ⟨filled, fuel, p, rfl, rfl⟩
  · exact ⟨le_rfl, fun l hl => absurd hl (Multiset.notMem_zero l)⟩
  · exact ⟨Nat.le_add_right _ _, fun l => Part.value_within fuel [] p⟩

/-- No mapping in a document that `read` gives has a key twice. -/
theorem read_proper (h : read next text = .ok (v, next')) : v.Proper := by
  rcases exists_part_of_read h with ⟨rfl, rfl⟩ | ⟨filled, fuel, p, rfl, rfl⟩
  · exact .leaf rfl
  · exact Part.value_proper fuel [] p

end FactoryRegistry.Yaml
