import FactoryRegistry.Proofs.Accessor.Search
import FactoryRegistry.Proofs.Holders.Growth

/-!
# Slots stay where they are

A search ends at the first candidate that is no mismatch (`findAccessor_eq`). More methods after the
old ones turn no mismatch into anything else, so a slot that the search once ended at is where it
ends in every class that begins with the same methods, as soon as a method there serves the binding
(`findAccessor_eq_taken`). One method serves no two bindings that differ in the contract or the
implementation (`eq_of_servesBinding`).
-/

namespace FactoryRegistry

attribute [ext] Binding

variable {t u : TypeDescription} {b c : Binding} {i : Nat} {slot slot' : AccessorSlot}

/-! ## Where a search ends -/

/-- A `Mismatch` is still one when more methods follow. -/
theorem Mismatch.mono (h : t.methods <+: u.methods) (hm : Mismatch t b i) :
    Mismatch u b i := by
  obtain ⟨m, hfound, hserves⟩ := hm
  exact ⟨m, TypeDescription.method?_of_prefix h hfound, hserves⟩

/-- A slot stands at no `Mismatch`. -/
theorem SlotAt.not_mismatch (h : SlotAt t b i slot) : ¬ Mismatch t b i := by
  rintro ⟨m, hfound, hserves⟩
  cases h with
  | taken found serves =>
    rw [found] at hfound
    cases hfound
    rw [serves] at hserves
    cases hserves
  | free unused =>
    rw [unused] at hfound
    cases hfound

/-- One candidate has one slot. -/
theorem SlotAt.unique (h : SlotAt t b i slot) (h' : SlotAt t b i slot') : slot = slot' := by
  cases h with
  | taken found _ =>
    cases h' with
    | taken => rfl
    | free unused => rw [found] at unused; cases unused
  | free unused =>
    cases h' with
    | taken found _ => rw [found] at unused; cases unused
    | free => rfl

/-- A slot has the name of the candidate that it stands at. -/
theorem SlotAt.name_eq (h : SlotAt t b i slot) : slot.name = accessorCandidate b i := by
  cases h <;> rfl

/-- There is one first candidate that is no `Mismatch`: of two, the earlier one would be a mismatch
on the way to the later one. -/
theorem first_slot_unique {k : Nat} (hpassed : ∀ j < i, Mismatch t b j) (hslot : SlotAt t b i slot)
    (hpassed' : ∀ j < k, Mismatch t b j) (hslot' : SlotAt t b k slot') :
    i = k ∧ slot = slot' := by
  obtain hlt | rfl | hgt := Nat.lt_trichotomy i k
  · exact absurd (hpassed' i hlt) hslot.not_mismatch
  · exact ⟨rfl, hslot.unique hslot'⟩
  · exact absurd (hpassed k hgt) hslot'.not_mismatch

/-- `findAccessor` ends at the first candidate that is no `Mismatch`. -/
theorem findAccessor_eq (hpassed : ∀ j < i, Mismatch t b j) (hslot : SlotAt t b i slot) :
    findAccessor t b = slot := by
  obtain ⟨k, -, hpassed', hslot'⟩ := findAccessor_spec t b
  exact (first_slot_unique hpassed' hslot' hpassed hslot).2

/-- `findAccessor` ends at the slot it ended at before more methods followed, provided that the
first method of its name serves the binding now. -/
theorem findAccessor_eq_taken (h : t.methods <+: u.methods) {a : String} {m : Method}
    (hslot : (findAccessor t b).name = a) (hfound : u.method? a = some m)
    (hserves : servesBinding b m = true) : findAccessor u b = .taken a := by
  obtain ⟨k, -, hpassed, hslotAt⟩ := findAccessor_spec t b
  obtain rfl : accessorCandidate b k = a := hslotAt.name_eq.symm.trans hslot
  -- the candidates before are mismatches still
  exact findAccessor_eq (fun j hj => (hpassed j hj).mono h) (.taken hfound hserves)

/-- `findAccessor` finds a slot that is `taken` again when more methods follow. -/
theorem findAccessor_taken_mono (h : t.methods <+: u.methods) {a : String}
    (hslot : findAccessor t b = .taken a) : findAccessor u b = .taken a := by
  obtain ⟨m, hfound, hserves⟩ := exists_serving_of_taken hslot
  refine findAccessor_eq_taken h ?_ (TypeDescription.method?_of_prefix h hfound) hserves
  rw [hslot, AccessorSlot.name]

/-! ## What a method serves -/

/-- The `accessorBody` tells the class that it makes an instance of. -/
theorem accessorBody_eq_iff :
    accessorBody b = accessorBody c ↔ b.implementation = c.implementation := by
  simp [accessorBody, toString]

/-- A method serves only bindings of one contract and one implementation. -/
theorem eq_of_servesBinding {m : Method} (hb : servesBinding b m = true)
    (hc : servesBinding c m = true) :
    b.contract = c.contract ∧ b.implementation = c.implementation := by
  obtain ⟨hreturn, hcode⟩ := servesBinding_iff.1 hb
  obtain ⟨hreturn', hcode'⟩ := servesBinding_iff.1 hc
  exact ⟨hreturn.symm.trans hreturn', accessorBody_eq_iff.1 (hcode.symm.trans hcode')⟩

end FactoryRegistry
