import Mathlib.Data.List.Nodup
import FactoryRegistry.Accessor
import FactoryRegistry.Proofs.Number.Decimal

/-!
# The search for an accessor

The candidate names of a binding are pairwise different (`accessorCandidate_injective`), so among
the first `n + 1` of them one is free in a holder with `n` methods. This is why the bound that
`findAccessor` puts on its search never cuts the search off.

* `Mismatch`: a candidate is taken by a method that does not serve the binding;
* `SlotAt`: a slot stands at a candidate that is free or taken by a method that does;
* `findAccessor_spec`: the search ends at a slot, all candidates before it being mismatches.
-/

namespace FactoryRegistry

open Number

variable {holder : TypeDescription} {b : Binding}

/-! ## The candidates -/

/-- What follows the contract in the candidates from the second one on. -/
def candidateNumber : Nat → String
  | 0 => ""
  | n + 1 => natText (n + 2)

/-- The values of `accessorCandidate` after the first one differ only in their number. -/
theorem accessorCandidate_succ (b : Binding) (n : Nat) :
    accessorCandidate b (n + 1) =
      Text.uncapitalize b.simpleName ++ ("For" ++ (b.contractSimpleName ++ candidateNumber n)) := by
  cases n <;> simp [accessorCandidate, candidateNumber, toString, String.append_assoc]

/-- The numbers of the candidates are pairwise different. -/
theorem candidateNumber_injective : Function.Injective candidateNumber := by
  intro m n h
  rcases m with _ | m <;> rcases n with _ | n
  · rfl
  · exact absurd h.symm (natText_ne_empty _)
  · exact absurd h (natText_ne_empty _)
  · have := natText_injective h
    omega

/-- The first candidate is none of the others. -/
theorem accessorCandidate_zero_ne (b : Binding) (n : Nat) :
    accessorCandidate b 0 ≠ accessorCandidate b (n + 1) := by
  intro h
  have hlength := congrArg String.length h
  -- the others are longer by the word `For` at least
  rw [accessorCandidate_succ, accessorCandidate] at hlength
  simp only [String.length_append] at hlength
  have hfor : "For".length = 3 := rfl
  omega

/-- The candidates of a binding are pairwise different. -/
theorem accessorCandidate_injective (b : Binding) : Function.Injective (accessorCandidate b) := by
  intro m n h
  rcases m with _ | m <;> rcases n with _ | n
  · rfl
  · exact absurd h (accessorCandidate_zero_ne b n)
  · exact absurd h.symm (accessorCandidate_zero_ne b m)
  · rw [accessorCandidate_succ, accessorCandidate_succ, String.append_right_inj,
      String.append_right_inj, String.append_right_inj] at h
    rw [candidateNumber_injective h]

/-! ## The search -/

/-- A method `servesBinding` when it returns the contract and makes the instance. -/
theorem servesBinding_iff {m : Method} :
    servesBinding b m = true ↔ m.returnType = b.contract ∧ m.code = accessorBody b := by
  simp [servesBinding]

/-- The first method of a candidate name does not serve the binding. -/
def Mismatch (holder : TypeDescription) (b : Binding) (i : Nat) : Prop :=
  ∃ m, holder.method? (accessorCandidate b i) = some m ∧ servesBinding b m = false

/-- A slot stands at a candidate. -/
inductive SlotAt (holder : TypeDescription) (b : Binding) (i : Nat) : AccessorSlot → Prop
  /-- Its first method serves the binding. -/
  | taken {m : Method} (found : holder.method? (accessorCandidate b i) = some m)
      (serves : servesBinding b m = true) : SlotAt holder b i (.taken (accessorCandidate b i))
  /-- No method has its name. -/
  | free (unused : holder.method? (accessorCandidate b i) = none) :
      SlotAt holder b i (.free (accessorCandidate b i))

/-- A name under which `method?` finds one is the name of one of the methods. -/
theorem TypeDescription.mem_names_of_method? {name : String} {m : Method}
    (h : holder.method? name = some m) : name ∈ holder.methods.map (·.name) := by
  have hname : m.name = name := by simpa using List.find?_some h
  exact List.mem_map.2 ⟨m, List.mem_of_find?_eq_some h, hname⟩

/-- When the first candidates, as many as there are methods, are a `Mismatch`, the next one is free:
the methods have not enough names for one more. -/
theorem method?_eq_none_of_mismatches
    (h : ∀ j < holder.methods.length, Mismatch holder b j) :
    holder.method? (accessorCandidate b holder.methods.length) = none := by
  by_contra htaken
  obtain ⟨last, hlast⟩ := Option.ne_none_iff_exists'.1 htaken
  -- one candidate more than there are methods, all different and all names of methods
  let candidates := (List.range (holder.methods.length + 1)).map (accessorCandidate b)
  have hnodup : candidates.Nodup :=
    List.nodup_range.map (accessorCandidate_injective b)
  have hsubset : candidates ⊆ holder.methods.map (·.name) := by
    intro name hname
    obtain ⟨j, hj, rfl⟩ := List.mem_map.1 hname
    rcases Nat.lt_succ_iff_lt_or_eq.1 (List.mem_range.1 hj) with hlt | rfl
    · obtain ⟨m, hm, -⟩ := h j hlt
      exact TypeDescription.mem_names_of_method? hm
    · exact TypeDescription.mem_names_of_method? hlast
  have hlength : candidates.length ≤ (holder.methods.map (·.name)).length :=
    hnodup.length_le_of_subset hsubset
  simp only [candidates, List.length_map, List.length_range] at hlength
  omega

/-- `findAccessorFrom` ends at a slot, provided that everything before was a `Mismatch` and the
bound counts the methods that are left. The induction is on `fuel`. -/
theorem findAccessorFrom_spec {fuel index : Nat} (hfuel : fuel + index = holder.methods.length)
    (hpassed : ∀ j < index, Mismatch holder b j) :
    ∃ i ≤ holder.methods.length, (∀ j < i, Mismatch holder b j) ∧
      SlotAt holder b i (findAccessorFrom holder b fuel index) := by
  induction fuel generalizing index with
  | zero =>
    rw [Nat.zero_add] at hfuel
    subst hfuel
    exact ⟨_, Nat.le_refl _, hpassed, .free (method?_eq_none_of_mismatches hpassed)⟩
  | succ fuel ih =>
    rw [findAccessorFrom]
    split
    next hunused => exact ⟨index, by omega, hpassed, .free hunused⟩
    next m hfound =>
      split
      next hserves => exact ⟨index, by omega, hpassed, .taken hfound hserves⟩
      next hserves =>
        -- the candidate that was just looked at joins the mismatches
        refine ih (by omega) fun j hj => ?_
        rcases Nat.lt_succ_iff_lt_or_eq.1 hj with hlt | rfl
        · exact hpassed j hlt
        · exact ⟨m, hfound, by simpa using hserves⟩

/-- `findAccessor` ends at a slot whose index is at most the number of methods, and every candidate
before it is a `Mismatch`. -/
theorem findAccessor_spec (holder : TypeDescription) (b : Binding) :
    ∃ i ≤ holder.methods.length, (∀ j < i, Mismatch holder b j) ∧
      SlotAt holder b i (findAccessor holder b) :=
  findAccessorFrom_spec (Nat.add_zero _) fun _ hj => absurd hj (Nat.not_lt_zero _)

/-- A slot that is `taken` names a method that serves the binding. -/
theorem exists_serving_of_taken {name : String} (h : findAccessor holder b = .taken name) :
    ∃ m, holder.method? name = some m ∧ servesBinding b m = true := by
  obtain ⟨i, -, -, hslot⟩ := findAccessor_spec holder b
  rw [h] at hslot
  cases hslot with
  | taken found serves => exact ⟨_, found, serves⟩

/-- A slot that is `free` names no method of the holder. -/
theorem method?_eq_none_of_free {name : String} (h : findAccessor holder b = .free name) :
    holder.method? name = none := by
  obtain ⟨i, -, -, hslot⟩ := findAccessor_spec holder b
  rw [h] at hslot
  cases hslot with
  | free unused => exact unused

end FactoryRegistry
