import FactoryRegistry.Proofs.Generator.Step

/-!
# What a registration changes

A registration writes to the holder of its package, to the static block and to both halves of the
ledger. `register_atomic` says that it writes to all of them or to none, and lists what it writes:
either the holders stay as they are (`HoldersKept`) or one of them gets one method more
(`HolderExtended`).
-/

namespace FactoryRegistry

/-- Nothing changes in the holders: the binding needs no accessor, or an accessor that makes its
instance is there already. -/
structure HoldersKept (h k : Holders) (b : Binding) (r : Registration) : Prop where
  /-- The holders are the same. -/
  same : k = h
  /-- No new accessor is needed. -/
  served : b.accessible = true ∧ r.accessor = none ∨
    b.accessible = false ∧ ∃ a m, r.accessor = some a ∧
      (h.get b.package).method? a = some m ∧ m.returnType = b.contract ∧
      m.code = ⟨[s!"return new {b.implementation}()"]⟩

/-- One method of an unused name is put at the end of the holder of the binding's package, and all
else in that holder stays. A package without a holder gets the default one with that method, after
all other packages. -/
structure HolderExtended (h k : Holders) (b : Binding) (r : Registration) (a : String) : Prop where
  /-- The registry cannot call the constructor itself. -/
  inaccessible : b.accessible = false
  /-- The registration calls the new method. -/
  accessor : r.accessor = some a
  /-- The name was not in use. -/
  unused : (h.get b.package).method? a = none
  /-- The holder has the new method at its end and is otherwise as before. -/
  holder : k.get b.package = { h.get b.package with
    methods := (h.get b.package).methods ++
      [⟨a, b.contract, [.public, .static], ⟨[s!"return new {b.implementation}()"]⟩, ""⟩] }
  /-- The configured name of holders is the same. -/
  className : k.className = h.className
  /-- A new package comes last. -/
  packages : k.packages =
    if b.package ∈ h.packages then h.packages else h.packages ++ [b.package]
  /-- A new package starts from the default holder. -/
  start : b.package ∉ h.packages → h.get b.package = Holders.defaultHolder h.className

namespace Generator

/-- A `Placement` leaves the holders of other packages alone. -/
theorem Placement.get_of_ne {h k : Holders} {b : Binding} {r : Registration}
    (hp : Placement h b r k) {p : String} (hne : p ≠ b.package) : k.get p = h.get p := by
  cases hp with
  | direct => rfl
  | reused => rfl
  | added => rw [Holders.get_put, if_neg hne]

/-- A `Placement` among `Normal` holders keeps them or extends one of them by an accessor. -/
theorem Placement.kept_or_extended {h k : Holders} {b : Binding} {r : Registration}
    (hn : h.Normal) (hp : Placement h b r k) :
    HoldersKept h k b r ∨ ∃ a, HolderExtended h k b r a := by
  cases hp with
  | direct accessible => exact .inl ⟨rfl, .inl ⟨accessible, rfl⟩⟩
  | reused inaccessible slot =>
    obtain ⟨m, hfound, hserves⟩ := exists_serving_of_taken slot
    exact .inl ⟨rfl, .inr ⟨inaccessible, _, m, rfl, hfound, servesBinding_iff.1 hserves⟩⟩
  | added inaccessible slot =>
    -- the old modifiers are in canonical order, so building the holder anew keeps them
    refine .inr ⟨_, inaccessible, rfl, method?_eq_none_of_free slot, ?_, rfl,
      Holders.packages_put h b.package _, Holders.get_of_not_mem⟩
    rw [Holders.get_put, if_pos rfl, TypeDescription.withMethod_eq (hn.modifiers b.package)]
    rfl

/-- `register` fails exactly when the static block is closed, always with the fault `blockFinalized`
and without a change; the fault of a repeated member never comes up. When it succeeds, the static
block gets the two statements of the registration and each half of the ledger one value under the
contract, holders of other packages are left alone, and the holder of the binding's package is kept
or extended by one accessor. -/
theorem register_atomic (options : AotOptions) (output : OutputSettings) (ops : List Operation)
    (b : Binding) :
    let g := reached options output ops
    ((∃ failure, (g.register b).1 = .error failure) ↔ g.block.finalized = true) ∧
    (g.block.finalized = true →
      g.register b = (.error (.fault (.blockFinalized "register")), g)) ∧
    (∀ typeName kind member,
      (g.register b).1 ≠ .error (.fault (.memberDuplicate typeName kind member))) ∧
    (∀ r, (g.register b).1 = .ok r →
      r.contract = b.contract ∧ r.implementation = b.implementation ∧
      ∃ k, (g.register b).2 = { g with
          holders := k
          block := ⟨⟨g.block.block.statements ++
            [s!"factories.add({b.contract}.class, () -> {r.supplier})",
              s!"names.add({b.contract}.class, \"{b.implementation}\")"]⟩, false⟩
          suppliers := g.suppliers.add b.contract r.supplier
          names := g.names.add b.contract b.implementation } ∧
        (∀ p, p ≠ b.package → k.get p = g.holders.get p) ∧
        (HoldersKept g.holders k b r ∨ ∃ a, HolderExtended g.holders k b r a)) := by
  intro g
  cases hblock : g.block.finalized with
  | true =>
    have hregister := register_of_finalized hblock b
    rw [hregister]
    refine ⟨⟨fun _ => rfl, fun _ => ⟨_, rfl⟩⟩, fun _ => rfl, fun _ _ _ h => ?_, fun _ h => ?_⟩
    · cases h
    · cases h
  | false =>
    obtain ⟨r, k, hplacement, hregister⟩ := register_of_open hblock b
    rw [hregister]
    refine ⟨⟨fun ⟨_, h⟩ => ?_, fun h => ?_⟩, fun h => ?_, fun _ _ _ h => ?_, fun r' hr => ?_⟩
    · cases h
    · cases h
    · cases h
    · cases h
    · cases hr
      obtain ⟨hcontract, himplementation⟩ := hplacement.parts
      refine ⟨hcontract, himplementation, k, ?_, fun p => hplacement.get_of_ne,
        hplacement.kept_or_extended (reached_normal options output ops)⟩
      rw [registrationStatements, hcontract, himplementation]

end Generator

end FactoryRegistry
