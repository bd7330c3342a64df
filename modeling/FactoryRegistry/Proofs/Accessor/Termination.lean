import FactoryRegistry.Proofs.Accessor.Stability

/-!
# The search for an accessor ends

The candidates of a binding never run out, and a search that looks at one after another has no bound
of its own. `Walk` is this search: it passes mismatches and ends at the first candidate that is
none. `findAccessor` is given as many steps as the holder has methods and stops after them. The two
come to the same (`walk_iff_findAccessor`), since the first candidate that is no mismatch comes
after no more mismatches than there are methods (`search_ends`).
-/

namespace FactoryRegistry

variable {holder : TypeDescription} {b : Binding} {i n : Nat} {slot : AccessorSlot}

/-- A search from a candidate on that looks at so many candidates and ends at a slot. -/
inductive Walk (holder : TypeDescription) (b : Binding) : (index looked : Nat) → AccessorSlot → Prop
  /-- The candidate is no mismatch, and the search ends. -/
  | stop {i : Nat} {slot : AccessorSlot} (slotAt : SlotAt holder b i slot) : Walk holder b i 1 slot
  /-- The candidate is a mismatch, and the search goes on with the next one. -/
  | pass {i n : Nat} {slot : AccessorSlot} (mismatch : Mismatch holder b i)
      (rest : Walk holder b (i + 1) n slot) : Walk holder b i (n + 1) slot

namespace Walk

/-- All candidates but the last one of a `Walk` are mismatches. -/
theorem passed (h : Walk holder b i n slot) :
    ∃ k, n = k + 1 ∧ (∀ j < k, Mismatch holder b (i + j)) ∧ SlotAt holder b (i + k) slot := by
  induction h with
  | stop slotAt => exact ⟨0, rfl, fun _ hj => absurd hj (Nat.not_lt_zero _), slotAt⟩
  | @pass i n slot mismatch rest ih =>
    obtain ⟨k, rfl, hpassed, hslot⟩ := ih
    refine ⟨k + 1, rfl, fun j hj => ?_, ?_⟩
    · cases j with
      | zero => exact mismatch
      | succ j => exact (by omega : i + 1 + j = i + (j + 1)) ▸ hpassed j (by omega)
    · exact (by omega : i + 1 + k = i + (k + 1)) ▸ hslot

/-- A `Walk` passes mismatches up to the first candidate that is none. -/
theorem of_passed {k : Nat} (hpassed : ∀ j < k, Mismatch holder b (i + j))
    (hslot : SlotAt holder b (i + k) slot) : Walk holder b i (k + 1) slot := by
  induction k generalizing i with
  | zero => exact .stop hslot
  | succ k ih =>
    refine .pass (hpassed 0 (Nat.succ_pos k)) (ih (fun j hj => ?_) ?_)
    · exact (by omega : i + (j + 1) = i + 1 + j) ▸ hpassed (j + 1) (by omega)
    · exact (by omega : i + (k + 1) = i + 1 + k) ▸ hslot

end Walk

/-- The bounded search `findAccessor` ends where a `Walk` does, and the latter can end nowhere
else. -/
theorem walk_iff_findAccessor {k : Nat} (hpassed : ∀ j < k, Mismatch holder b j)
    (hslot : SlotAt holder b k (findAccessor holder b)) :
    Walk holder b 0 n slot ↔ n = k + 1 ∧ slot = findAccessor holder b := by
  constructor
  · intro h
    obtain ⟨l, rfl, hpassed', hslot'⟩ := h.passed
    simp only [Nat.zero_add] at hpassed' hslot'
    obtain ⟨rfl, rfl⟩ := first_slot_unique hpassed' hslot' hpassed hslot
    exact ⟨rfl, rfl⟩
  · rintro ⟨rfl, rfl⟩
    exact .of_passed (by simpa using hpassed) (by simpa using hslot)

/-- A `Mismatch` differs from the accessor of the binding in the return type or in the body. -/
theorem Mismatch.exists_differing (h : Mismatch holder b i) :
    ∃ m, holder.method? (accessorCandidate b i) = some m ∧
      (m.returnType ≠ b.contract ∨ m.code ≠ accessorBody b) := by
  obtain ⟨m, hfound, hserves⟩ := h
  refine ⟨m, hfound, not_and_or.1 fun hsame => ?_⟩
  rw [servesBinding_iff.2 hsame] at hserves
  cases hserves

/-- The values of `accessorCandidate` for a binding are pairwise different, so the search for its
accessor in a holder looks at no more than one candidate more than the holder has methods. Every
candidate that it passes is the name of a method whose first bearer differs in the return type or in
the body. It ends at the first other candidate: no method bears this name, or its first bearer
returns the contract and makes an instance of the implementation and nothing else. -/
theorem search_ends (holder : TypeDescription) (b : Binding) :
    Function.Injective (accessorCandidate b) ∧
    ∃ last ≤ holder.methods.length,
      (∀ looked slot, Walk holder b 0 looked slot ↔
        looked = last + 1 ∧ slot = findAccessor holder b) ∧
      (∀ j < last, ∃ m, holder.method? (accessorCandidate b j) = some m ∧
        (m.returnType ≠ b.contract ∨ m.code ≠ accessorBody b)) ∧
      (findAccessor holder b = .free (accessorCandidate b last) ∧
          holder.method? (accessorCandidate b last) = none ∨
        findAccessor holder b = .taken (accessorCandidate b last) ∧
          ∃ m, holder.method? (accessorCandidate b last) = some m ∧
            m.returnType = b.contract ∧ m.code = accessorBody b) := by
  obtain ⟨last, hlast, hpassed, hslot⟩ := findAccessor_spec holder b
  refine ⟨accessorCandidate_injective b, last, hlast,
    fun _ _ => walk_iff_findAccessor hpassed hslot,
    fun j hj => (hpassed j hj).exists_differing, ?_⟩
  generalize findAccessor holder b = slot at hslot
  cases hslot with
  | free unused => exact Or.inl ⟨rfl, unused⟩
  | taken found serves => exact Or.inr ⟨rfl, _, found, servesBinding_iff.1 serves⟩

end FactoryRegistry
