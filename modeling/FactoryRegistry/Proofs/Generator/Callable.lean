import FactoryRegistry.Proofs.Generator.Allocation

/-!
# Accessors that can be called

The static block calls accessors from another package and without an instance, so an accessor has to
be public and static. The accessors that registrations add are both. An accessor that was there
before is reused for what it returns and does, whatever its modifiers are, so a program that writes
to the holder first can leave a method there that is called and cannot be.

`accessor_callable_iff` says that this is the only way to an accessor that cannot be called. It
follows the first method of a name back to the operation that added it (`exists_adding_step`), which
is a registration or a program on that holder (`written_or_callable`).
-/

namespace FactoryRegistry

/-- A method can be called from other packages and without an instance. -/
def Method.Callable (m : Method) : Prop := .public ∈ m.modifiers ∧ .static ∈ m.modifiers

namespace Generator

/-- A program on the holder of a package was the first to add a method of a name, and that method
cannot be called. -/
def UncallableWritten (options : AotOptions) (output : OutputSettings) (ops : List Operation)
    (package name : String) : Prop :=
  ∃ first program rest m, ops = first ++ .writeHolder package program :: rest ∧
    ((reached options output first).holders.get package).method? name = none ∧
    ((reached options output (first ++ [.writeHolder package program])).holders.get
      package).method? name = some m ∧
    ¬ m.Callable

variable {g : Generator} {package name : String} {m : Method}

/-- An `accessorMethod` is `Callable`. -/
theorem accessorMethod_callable (b : Binding) (name : String) :
    (accessorMethod b name).Callable := by
  simp [Method.Callable, accessorMethod, Method.of]

/-- A method of a new name that a `Placement` brings is `Callable`, being an accessor. -/
theorem Placement.callable_of_new {h k : Holders} {b : Binding} {r : Registration}
    (hp : Placement h b r k) (hnone : (h.get package).method? name = none)
    (hsome : (k.get package).method? name = some m) : m.Callable := by
  cases hp with
  | direct => rw [hnone] at hsome; cases hsome
  | reused => rw [hnone] at hsome; cases hsome
  | added _ slot =>
    rw [Holders.get_put] at hsome
    split at hsome
    next hpackage =>
      -- the lookup passes the old methods and finds the one at the end
      subst hpackage
      rw [TypeDescription.method?] at hnone
      rw [TypeDescription.method?, TypeDescription.withMethod, List.find?_append, hnone,
        Option.none_or] at hsome
      rw [List.mem_singleton.1 (List.mem_of_find?_eq_some hsome)]
      exact accessorMethod_callable b _
    next => rw [hnone] at hsome; cases hsome

/-- A step that adds a method of a new name is a `writeHolder` on that holder, or the method is
`Callable`. -/
theorem written_or_callable {op : Operation} (hnone : (g.holders.get package).method? name = none)
    (hsome : ((g.step op).2.holders.get package).method? name = some m) :
    (∃ program, op = .writeHolder package program) ∨ m.Callable := by
  -- a step that leaves the holders alone adds nothing
  have hkept : (g.step op).2.holders ≠ g.holders := by
    intro h
    rw [h, hnone] at hsome
    cases hsome
  cases op with
  | setProperty key value => exact absurd (g.setProperty_holders key value) hkept
  | writeStaticBlock w => exact absurd rfl hkept
  | writeHolder other program =>
    rw [step] at hsome hkept
    obtain ⟨holder, k, hupdate, hwrite⟩ | ⟨failure, -, hwrite⟩ := g.writeHolder_cases other program
    · left
      obtain ⟨b, -, -, rfl⟩ := Holders.update_eq_ok hupdate
      by_contra hother
      have hne : package ≠ other := fun h => hother ⟨program, by rw [h]⟩
      rw [hwrite, Holders.get_put, if_neg hne, hnone] at hsome
      cases hsome
    · exact absurd (by rw [hwrite]) hkept
  | register b =>
    right
    cases hblock : g.block.finalized with
    | true => exact absurd (by rw [step, register_of_finalized hblock]) hkept
    | false =>
      obtain ⟨r, k, hplacement, hregister⟩ := register_of_open hblock b
      rw [step, hregister] at hsome
      exact hplacement.callable_of_new hnone hsome
  | generateRegistry => exact absurd (by rw [step, generateRegistry_state]) hkept
  | generate => exact absurd (by rw [step, generate, generateRegistry_state]) hkept

/-- A method that a run finds and its start does not was added by one step of the run, before which
no method had the name. The induction is on the operations. -/
theorem exists_adding_step {ops : List Operation}
    (hnone : (g.holders.get package).method? name = none)
    (hsome : ((g.run ops).2.holders.get package).method? name = some m) :
    ∃ first op rest, ops = first ++ op :: rest ∧
      ((g.run first).2.holders.get package).method? name = none ∧
      (((g.run first).2.step op).2.holders.get package).method? name = some m := by
  induction ops generalizing g with
  | nil =>
    rw [run, hnone] at hsome
    cases hsome
  | cons op ops ih =>
    cases hnext : ((g.step op).2.holders.get package).method? name with
    | none =>
      obtain ⟨first, later, rest, rfl, hbefore, hafter⟩ := ih hnext hsome
      exact ⟨op :: first, later, rest, rfl, hbefore, hafter⟩
    | some m' =>
      -- what the first step added is what the run finds in the end
      have hkept := (run_grows (g.step op).2 ops).method? hnext
      rw [run, hkept] at hsome
      cases hsome
      exact ⟨[], op, ops, rfl, hnone, hnext⟩

/-- The methods of a build that are not `Callable` were written by programs on their holders. -/
theorem uncallableWritten_of_method? (options : AotOptions) (output : OutputSettings)
    {ops : List Operation}
    (hfound : ((reached options output ops).holders.get package).method? name = some m)
    (hm : ¬ m.Callable) : UncallableWritten options output ops package name := by
  have hnone : ((new options output).holders.get package).method? name = none := by
    rw [new_holders]
    rfl
  obtain ⟨first, op, rest, rfl, hbefore, hafter⟩ := exists_adding_step hnone hfound
  obtain ⟨program, rfl⟩ | hcallable := written_or_callable hbefore hafter
  · refine ⟨first, program, rest, m, rfl, hbefore, ?_, hm⟩
    rw [reached_concat]
    exact hafter
  · exact absurd hcallable hm

/-- The accessor of a registration is `Callable`, at once and in every later state of the build,
unless a program on the holder of the package had been the first to add a method of its name and
that method is not (`UncallableWritten`). -/
theorem accessor_callable_iff (options : AotOptions) (output : OutputSettings)
    (before : List Operation) (b : Binding) (after : List Operation)
    {r : Registration} {a : String}
    (hr : ((reached options output before).register b).1 = .ok r) (ha : r.accessor = some a) :
    ∃ m, ((reached options output (before ++ .register b :: after)).holders.get
        b.package).method? a = some m ∧
      (m.Callable ↔ ¬ UncallableWritten options output before b.package a) := by
  have hplacement := placement_of_register hr
  obtain ⟨-, m, hm, -⟩ := hplacement.accessor_serves ha
  refine ⟨m, (register_grows options output before b after).method? hm, ?_, fun hunwritten => ?_⟩
  · rintro hcallable ⟨first, program, rest, m', hbefore, -, hm', hnot⟩
    -- the method that the program added stayed, so it is the one that was registered
    have hgrows := reached_grows options output (first ++ [.writeHolder b.package program]) rest
    rw [List.append_assoc, List.singleton_append, ← hbefore] at hgrows
    rw [hplacement.grows.method? (hgrows.method? hm')] at hm
    cases hm
    exact hnot hcallable
  · by_contra hm'
    cases hfound : ((reached options output before).holders.get b.package).method? a with
    | none => exact hm' (hplacement.callable_of_new hfound hm)
    | some m' =>
      rw [hplacement.grows.method? hfound] at hm
      cases hm
      exact hunwritten (uncallableWritten_of_method? options output hfound hm')

/-- An accessor that gives way to a method which no other package can call is `Callable` itself: the
method that does not serve the binding has another name. -/
theorem accessor_callable_beside_private_method :
    let before : List Operation :=
      [.writeHolder "p" (addMethodProgram ⟨"foo", "C", [.private], .empty, ""⟩)]
    let b : Binding := ⟨"C", "p.Foo", "p", false⟩
    let r : Registration := ⟨"C", "p.Foo", "p._FactoryProvider.fooForC()", some "fooForC"⟩
    ((reached {} {} before).register b).1 = .ok r ∧ r.accessor = some "fooForC" ∧
      ∃ m, ((reached {} {} (before ++ .register b :: [.generate])).holders.get
          b.package).method? "fooForC" = some m ∧
        (m.Callable ↔ ¬ UncallableWritten {} {} before b.package "fooForC") :=
  ⟨rfl, rfl, accessor_callable_iff {} {}
    [.writeHolder "p" (addMethodProgram ⟨"foo", "C", [.private], .empty, ""⟩)]
    ⟨"C", "p.Foo", "p", false⟩ [.generate] rfl rfl⟩

/-- A private method that returns the contract and makes the instance is reused as the accessor, and
the supplier of the registration calls it from outside. -/
theorem private_method_registered :
    let before : List Operation := [.writeHolder "p"
      (addMethodProgram ⟨"foo", "C", [.private], ⟨["return new p.Foo()"]⟩, ""⟩)]
    let b : Binding := ⟨"C", "p.Foo", "p", false⟩
    ((reached {} {} before).register b).1 =
        .ok ⟨"C", "p.Foo", "p._FactoryProvider.foo()", some "foo"⟩ ∧
      ∃ m, ((reached {} {} (before ++ [.register b])).holders.get "p").method? "foo" = some m ∧
        .public ∉ m.modifiers ∧ .static ∉ m.modifiers := by
  refine ⟨rfl, _, rfl, ?_, ?_⟩ <;> decide

end Generator

end FactoryRegistry
