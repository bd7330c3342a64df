import FactoryRegistry.Proofs.Accessor.Stability
import FactoryRegistry.Proofs.Generator.Supplier

/-!
# The allocation of accessors

Which accessor a binding gets depends on what its holder contains at that moment, and candidates of
different bindings overlap. Allocation is nevertheless a function of the binding over a whole build,
and an injective one: a binding that was registered once finds its accessor ever after
(`Placement.findAccessor_eq_taken`), and two registrations in one package have the same accessor
exactly when they agree on the contract and the implementation (`accessor_eq_iff`).
-/

namespace FactoryRegistry

namespace Generator

variable {h k : Holders} {b : Binding} {r : Registration} {a : String}

/-- A `Placement` lets the holders grow. -/
theorem Placement.grows (hp : Placement h b r k) : h.Grows k := by
  obtain rfl | ⟨program, holder, hupdate⟩ := hp.holders
  · exact .refl k
  · exact Holders.update_grows hupdate

/-- A binding that is not `accessible` is placed `viaAccessor`. -/
theorem Placement.eq_viaAccessor (hp : Placement h b r k) (hb : b.accessible = false) :
    ∃ a, r = viaAccessor h.className b a := by
  cases hp with
  | direct accessible => rw [hb] at accessible; cases accessible
  | reused => exact ⟨_, rfl⟩
  | added => exact ⟨_, rfl⟩

/-- A binding whose search ends at a `taken` slot is placed there, and no holder changes. -/
theorem Placement.of_taken (hp : Placement h b r k) (hb : b.accessible = false)
    (hslot : findAccessor (h.get b.package) b = .taken a) :
    r = viaAccessor h.className b a ∧ k = h := by
  cases hp with
  | direct accessible => rw [hb] at accessible; cases accessible
  | reused _ slot =>
    rw [hslot] at slot
    cases slot
    exact ⟨rfl, rfl⟩
  | added _ slot => rw [hslot] at slot; cases slot

/-- Where a binding was placed through an accessor, `findAccessor` ends there ever after. -/
theorem Placement.findAccessor_eq_taken (hp : Placement h b r k) (ha : r.accessor = some a)
    {l : Holders} (hgrows : k.Grows l) : findAccessor (l.get b.package) b = .taken a := by
  obtain ⟨-, m, hfound, hserves⟩ := hp.accessor_serves ha
  have hname : (findAccessor (h.get b.package) b).name = a := by
    cases hp with
    | direct => cases ha
    | reused _ slot => cases ha; rw [slot]; rfl
    | added _ slot => cases ha; rw [slot]; rfl
  exact FactoryRegistry.findAccessor_eq_taken ((hp.grows.trans hgrows).methods b.package) hname
    (hgrows.method? hfound) hserves

/-- `register` of a binding that was registered once succeeds in the same way, and no holder
changes. -/
theorem register_again {g later : Generator} (hb : b.accessible = false)
    (hr : (g.register b).1 = .ok r)
    (hgrows : (g.register b).2.holders.Grows later.holders)
    (hopen : later.block.finalized = false) :
    (later.register b).1 = .ok r ∧ (later.register b).2.holders = later.holders := by
  have hplacement := placement_of_register hr
  obtain ⟨a, rfl⟩ := hplacement.eq_viaAccessor hb
  obtain ⟨r', k, hplacement', hregister⟩ := register_of_open hopen b
  obtain ⟨rfl, rfl⟩ :=
    hplacement'.of_taken hb (hplacement.findAccessor_eq_taken rfl hgrows)
  rw [hregister, (hplacement.grows.trans hgrows).className]
  exact ⟨rfl, rfl⟩

/-- Two placements through one accessor of a package are of one contract and one implementation. -/
theorem Placement.eq_of_accessor_eq (hp : Placement h b r k) (ha : r.accessor = some a)
    {l m : Holders} {c : Binding} {s : Registration} (hgrows : k.Grows l)
    (hq : Placement l c s m) (hc : s.accessor = some a) (hpackage : c.package = b.package) :
    c.contract = b.contract ∧ c.implementation = b.implementation := by
  obtain ⟨-, method, hfound, hserves⟩ := hp.accessor_serves ha
  obtain ⟨-, method', hfound', hserves'⟩ := hq.accessor_serves hc
  -- the first method of the name is the same one at both times
  have hsame := (hgrows.trans hq.grows).method? hfound
  rw [hpackage, hsame] at hfound'
  cases hfound'
  exact eq_of_servesBinding hserves' hserves

/-- The holders right after `register` grow into those of every later state. -/
theorem register_grows (options : AotOptions) (output : OutputSettings)
    (before : List Operation) (b : Binding) (later : List Operation) :
    ((reached options output before).register b).2.holders.Grows
      (reached options output (before ++ .register b :: later)).holders := by
  have hgrows := reached_grows options output (before ++ [.register b]) later
  rwa [reached_concat, List.append_assoc] at hgrows

/-- A binding that is not `accessible` gets an accessor. Another one that is registered later in the
same package gets the same accessor exactly when the contracts and the implementations are the same.
As long as the static block is not `finalized` the binding can be registered again, with the same
registration and no change in any holder. -/
theorem accessor_eq_iff (options : AotOptions) (output : OutputSettings)
    (before : List Operation) (b : Binding) (hb : b.accessible = false) {r : Registration}
    (hr : ((reached options output before).register b).1 = .ok r) :
    ∃ a, r.accessor = some a ∧ ∀ later : List Operation,
      let g := reached options output (before ++ .register b :: later)
      (∀ (c : Binding) (s : Registration), c.accessible = false → c.package = b.package →
        (g.register c).1 = .ok s →
        ∃ a', s.accessor = some a' ∧
          (a' = a ↔ c.contract = b.contract ∧ c.implementation = b.implementation)) ∧
      (g.block.finalized = false →
        (g.register b).1 = .ok r ∧ (g.register b).2.holders = g.holders) := by
  have hplacement := placement_of_register hr
  obtain ⟨a, rfl⟩ := hplacement.eq_viaAccessor hb
  refine ⟨a, rfl, fun later => ?_⟩
  have hgrows := register_grows options output before b later
  refine ⟨fun c s hc hpackage hs => ?_, register_again hb hr hgrows⟩
  have hplacement' := placement_of_register hs
  obtain ⟨a', rfl⟩ := hplacement'.eq_viaAccessor hc
  refine ⟨a', rfl, fun heq => ?_, fun ⟨hcontract, himplementation⟩ => ?_⟩
  · subst heq
    exact hplacement.eq_of_accessor_eq rfl hgrows hplacement' rfl hpackage
  · -- the two bindings agree in all their parts, so this is a registration again
    obtain rfl : c = b := Binding.ext hcontract himplementation hpackage (hc.trans hb.symm)
    have hagain := (register_again hb hr hgrows (finalized_eq_false_of_register hs)).1
    rw [hs] at hagain
    exact Option.some.inj (congrArg Registration.accessor (Except.ok.inj hagain))

/-- The first candidate of one class is the second one of another. The class that comes later gives
way, and the first one keeps its accessor. -/
theorem accessor_kept_beside_overlap :
    let before : List Operation :=
      [.writeHolder "p" (addMethodProgram ⟨"foo", "void", [], .empty, ""⟩)]
    let b : Binding := ⟨"C", "p.Foo", "p", false⟩
    let c : Binding := ⟨"C", "p.FooForC", "p", false⟩
    let r : Registration := ⟨"C", "p.Foo", "p._FactoryProvider.fooForC()", some "fooForC"⟩
    let s : Registration :=
      ⟨"C", "p.FooForC", "p._FactoryProvider.fooForCForC()", some "fooForCForC"⟩
    let g := reached {} {} (before ++ .register b :: [.writeStaticBlock ⟨["custom()"], none⟩])
    ((reached {} {} before).register b).1 = .ok r ∧ (g.register c).1 = .ok s ∧
      (∃ a a', r.accessor = some a ∧ s.accessor = some a' ∧
        (a' = a ↔ c.contract = b.contract ∧ c.implementation = b.implementation)) ∧
      g.block.finalized = false ∧ (g.register b).1 = .ok r ∧
      (g.register b).2.holders = g.holders := by
  obtain ⟨a, ha, hlater⟩ := accessor_eq_iff {} {}
    [.writeHolder "p" (addMethodProgram ⟨"foo", "void", [], .empty, ""⟩)]
    ⟨"C", "p.Foo", "p", false⟩ rfl rfl
  obtain ⟨hother, hagain⟩ := hlater [.writeStaticBlock ⟨["custom()"], none⟩]
  refine ⟨rfl, rfl, ?_, rfl, hagain rfl⟩
  obtain ⟨a', ha', hiff⟩ := hother ⟨"C", "p.FooForC", "p", false⟩ _ rfl rfl rfl
  exact ⟨a, a', ha, ha', hiff⟩

end Generator

end FactoryRegistry
