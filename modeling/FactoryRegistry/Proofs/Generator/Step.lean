import FactoryRegistry.Generator
import FactoryRegistry.Proofs.Accessor.Search
import FactoryRegistry.Proofs.Holders.Growth

/-!
# What the operations of a generator do

One equation or case list for each operation, and what runs inherit from single steps. Later
modules cite these and do not open the operations again.

* `setProperty_eq`, `writeStaticBlock_state`, `writeHolder_cases`, `generateRegistry_eq`: the
  outcome of each operation;
* `Placement`: the three ways in which a binding gets its supplier, and `register_of_open`: on an
  open block a registration always succeeds in one of them;
* `step_holders`: a step leaves the holders alone or is one update of them;
* `reached`: the states of a build, and `reached_invariant`: what holds of a generator without
  directives and is kept by every step holds in all of them;
* `reached_grows`: the holders of a build grow from each state to every later one.
-/

namespace FactoryRegistry

/-! ## Adding one method to a holder -/

/-- A class with one more method and its modifiers in canonical order. -/
def TypeDescription.withMethod (t : TypeDescription) (m : Method) : TypeDescription :=
  { t with modifiers := Modifier.canonical t.modifiers, methods := t.methods ++ [m] }

/-- `withMethod` adds the method and nothing else to a class whose modifiers are in canonical
order. -/
theorem TypeDescription.withMethod_eq {t : TypeDescription}
    (hcanonical : Modifier.canonical t.modifiers = t.modifiers) (m : Method) :
    t.withMethod m = { t with methods := t.methods ++ [m] } := by
  rw [withMethod, hcanonical]

/-- A method of a new name is found after it was added. -/
theorem TypeDescription.method?_withMethod {t : TypeDescription} {m : Method}
    (hunused : t.method? m.name = none) : (t.withMethod m).method? m.name = some m := by
  rw [method?] at hunused
  rw [method?, withMethod, List.find?_append, hunused]
  simp

/-- `update` accepts a method of a new name. -/
theorem Holders.update_addMethod (h : Holders) (package : String) {m : Method}
    (hunused : (h.get package).method? m.name = none) :
    h.update package (Generator.addMethodProgram m) =
      .ok ((h.get package).withMethod m, h.put package ((h.get package).withMethod m)) := by
  have hfree : (TypeBuilder.ofType (h.get package)).hasMethod m.name = false := by
    rw [TypeBuilder.hasMethod_eq_isSome]
    exact congrArg Option.isSome hunused
  simp only [update, Generator.addMethodProgram, Program.ofCalls, Program.run, TypeBuilder.apply,
    hfree]
  rfl

namespace Generator

/-! ## The operations -/

/-- The four outcomes of `setProperty`. -/
theorem setProperty_eq (g : Generator) (key value : String) :
    g.setProperty key value =
      if key ∈ g.directives then (.error (.fault (.directiveDuplicate key)), g)
      else if g.otherStatements ≠ 0 then
        (.error (.fault (.directiveOrder key g.bindingCount g.otherStatements)), g)
      else if g.block.finalized then
        (.error (.fault (.blockFinalized "append")),
          { g with directives := g.directives ++ [key] })
      else
        (.ok (), { g with
          directives := g.directives ++ [key]
          block := ⟨g.block.block.add (directiveStatement key value), false⟩ }) := by
  rw [setProperty, StaticBlock.append, StaticBlock.checkOpen]
  cases g.block.finalized <;> rfl

/-- `setProperty` leaves the holders alone. -/
theorem setProperty_holders (g : Generator) (key value : String) :
    (g.setProperty key value).2.holders = g.holders := by
  rw [setProperty_eq]
  split_ifs <;> rfl

/-- An open block takes all statements of a writer, also of one that fails; a closed block takes
none. -/
theorem writeStaticBlock_state (g : Generator) (w : Writing) :
    (g.writeStaticBlock w).2 =
      if g.block.finalized then g
      else { g with block := ⟨⟨g.block.block.statements ++ w.statements⟩, false⟩ } := by
  rw [writeStaticBlock, StaticBlock.write, StaticBlock.checkOpen]
  cases g.block.finalized <;> cases w.failure <;> rfl

/-- `writeHolder` is an `update` of the holders, or it fails and nothing changes. -/
theorem writeHolder_cases (g : Generator) (package : String) (program : Program) :
    (∃ holder k, g.holders.update package program = .ok (holder, k) ∧
      g.writeHolder package program = (.ok holder, { g with holders := k })) ∨
    ∃ failure, g.holders.update package program = .error failure ∧
      g.writeHolder package program = (.error failure, g) := by
  rw [writeHolder]
  cases g.holders.update package program with
  | ok result => exact .inl ⟨result.1, result.2, rfl, rfl⟩
  | error failure => exact .inr ⟨failure, rfl, rfl⟩

/-- `generateRegistry` hands out an open block in the registry and closes it; a closed one is not
handed out. -/
theorem generateRegistry_eq (g : Generator) :
    g.generateRegistry =
      if g.block.finalized then (.error (.fault (.blockFinalized "finalize")), g)
      else (.ok (g.output.target.assembleFile g.block.block),
        { g with block := ⟨g.block.block, true⟩ }) := by
  rw [generateRegistry, StaticBlock.finalize, StaticBlock.checkOpen]
  cases g.block.finalized <;> rfl

/-- `generate` goes as `generateRegistry`, with the holders and the fingerprint beside the
registry. -/
theorem generate_eq (g : Generator) :
    g.generate =
      if g.block.finalized then (.error (.fault (.blockFinalized "finalize")), g)
      else (.ok ⟨g.output.target.assembleFile g.block.block, g.factoryClasses,
          fingerprint (g.output.target.assembleFile g.block.block) g.factoryClasses⟩,
        { g with block := ⟨g.block.block, true⟩ }) := by
  rw [generate, generateRegistry_eq]
  cases g.block.finalized <;> rfl

/-- After `generateRegistry` the block is closed, and nothing else is different. -/
theorem generateRegistry_state (g : Generator) :
    g.generateRegistry.2 = { g with block := ⟨g.block.block, true⟩ } := by
  obtain ⟨options, output, ⟨statements, finalized⟩, holders, directives, suppliers, names⟩ := g
  cases finalized <;> rfl

/-! ## Registrations -/

/-- The registration of a binding that is served by an accessor. -/
def viaAccessor (className : String) (b : Binding) (accessor : String) : Registration :=
  ⟨b.contract, b.implementation, accessorCall className b.package accessor, some accessor⟩

/-- How a binding gets its supplier, with its registration and the holders afterwards. -/
inductive Placement (h : Holders) (b : Binding) : Registration → Holders → Prop
  /-- The registry calls the constructor itself. -/
  | direct (accessible : b.accessible = true) :
      Placement h b ⟨b.contract, b.implementation, s!"new {b.implementation}()", none⟩ h
  /-- An accessor of the holder serves the binding. -/
  | reused {a : String} (inaccessible : b.accessible = false)
      (slot : findAccessor (h.get b.package) b = .taken a) :
      Placement h b (viaAccessor h.className b a) h
  /-- A new accessor is added to the holder. -/
  | added {a : String} (inaccessible : b.accessible = false)
      (slot : findAccessor (h.get b.package) b = .free a) :
      Placement h b (viaAccessor h.className b a)
        (h.put b.package ((h.get b.package).withMethod (accessorMethod b a)))

/-- A `Placement` registers the contract and the implementation of its binding. -/
theorem Placement.parts {h k : Holders} {b : Binding} {r : Registration}
    (hp : Placement h b r k) : r.contract = b.contract ∧ r.implementation = b.implementation := by
  cases hp <;> exact ⟨rfl, rfl⟩

/-- A `Placement` leaves the holders alone or updates the one of its package. -/
theorem Placement.holders {h k : Holders} {b : Binding} {r : Registration}
    (hp : Placement h b r k) :
    k = h ∨ ∃ program holder, h.update b.package program = .ok (holder, k) := by
  cases hp with
  | direct => exact .inl rfl
  | reused => exact .inl rfl
  | added _ slot =>
    exact .inr ⟨_, _, h.update_addMethod b.package (method?_eq_none_of_free slot)⟩

/-- `resolve` always finds a `Placement`. -/
theorem resolve_spec (g : Generator) (b : Binding) :
    ∃ r k, Placement g.holders b r k ∧ g.resolve b = (.ok r, { g with holders := k }) := by
  rw [resolve]
  cases hacc : b.accessible with
  | true => exact ⟨_, _, .direct hacc, rfl⟩
  | false =>
    rw [if_neg Bool.false_ne_true, writeAccessor]
    cases hslot : findAccessor (g.holders.get b.package) b with
    | taken a => exact ⟨_, _, .reused hacc hslot, rfl⟩
    | free a =>
      -- the name is free, so the program that adds the accessor is not refused
      refine ⟨_, _, .added hacc hslot, ?_⟩
      have hupdate := g.holders.update_addMethod b.package
        (m := accessorMethod b a) (method?_eq_none_of_free hslot)
      simp only [writeHolder, hupdate]
      rfl

/-- A closed block refuses `register` before anything is written. -/
theorem register_of_finalized {g : Generator} (hclosed : g.block.finalized = true) (b : Binding) :
    g.register b = (.error (.fault (.blockFinalized "register")), g) := by
  rw [register, if_pos hclosed]

/-- On an open block `register` succeeds: the binding gets its supplier, the block the two
statements and the ledger one entry in each half. -/
theorem register_of_open {g : Generator} (hopen : g.block.finalized = false) (b : Binding) :
    ∃ r k, Placement g.holders b r k ∧
      g.register b = (.ok r, { g with
        holders := k
        block := ⟨⟨g.block.block.statements ++ registrationStatements r⟩, false⟩
        suppliers := g.suppliers.add r.contract r.supplier
        names := g.names.add r.contract r.implementation }) := by
  obtain ⟨r, k, hplacement, hresolve⟩ := g.resolve_spec b
  refine ⟨r, k, hplacement, ?_⟩
  rw [register, hresolve, hopen]
  simp only [writeStaticBlock, StaticBlock.write, StaticBlock.checkOpen, hopen]
  rfl

/-- A `register` that succeeded found the block open. -/
theorem finalized_eq_false_of_register {g : Generator} {b : Binding} {r : Registration}
    (hr : (g.register b).1 = .ok r) : g.block.finalized = false := by
  by_contra hclosed
  rw [register_of_finalized (by simpa using hclosed)] at hr
  cases hr

/-- A `register` that succeeded is a `Placement` of its binding. -/
theorem placement_of_register {g : Generator} {b : Binding} {r : Registration}
    (hr : (g.register b).1 = .ok r) : Placement g.holders b r (g.register b).2.holders := by
  obtain ⟨r', k, hplacement, hregister⟩ :=
    register_of_open (finalized_eq_false_of_register hr) b
  rw [hregister] at hr ⊢
  cases hr
  exact hplacement

/-! ## Steps -/

/-- A `step` leaves the holders alone or is one `update` of the holder of one package. -/
theorem step_holders (g : Generator) (op : Operation) :
    (g.step op).2.holders = g.holders ∨
      ∃ package program holder,
        g.holders.update package program = .ok (holder, (g.step op).2.holders) := by
  cases op with
  | setProperty key value => exact .inl (g.setProperty_holders key value)
  | writeStaticBlock w => exact .inl rfl
  | writeHolder package program =>
    obtain ⟨holder, k, hupdate, hstep⟩ | ⟨failure, -, hstep⟩ := g.writeHolder_cases package program
    · refine .inr ⟨package, program, holder, ?_⟩
      rw [step, hstep]
      exact hupdate
    · exact .inl (by rw [step, hstep])
  | register b =>
    cases hblock : g.block.finalized with
    | true => exact .inl (by rw [step, register_of_finalized hblock])
    | false =>
      obtain ⟨r, k, hplacement, hregister⟩ := register_of_open hblock b
      rw [step, hregister]
      -- a placement is no update, or one on the package of the binding
      exact hplacement.holders.imp_right fun ⟨program, holder, h⟩ => ⟨_, program, holder, h⟩
  | generateRegistry => exact .inl (by rw [step, generateRegistry_state])
  | generate => exact .inl (by rw [step, generate, generateRegistry_state])

/-- A `step` lets the holders grow. -/
theorem step_grows (g : Generator) (op : Operation) : g.holders.Grows (g.step op).2.holders := by
  obtain h | ⟨package, program, holder, h⟩ := g.step_holders op
  · rw [h]
    exact .refl g.holders
  · exact Holders.update_grows h

/-- A `step` keeps the holders `Normal`. -/
theorem step_normal {g : Generator} (hn : g.holders.Normal) (op : Operation) :
    (g.step op).2.holders.Normal := by
  obtain h | ⟨package, program, holder, h⟩ := g.step_holders op
  · rwa [h]
  · exact Holders.update_normal hn h

/-- A `step` keeps the names that were configured. -/
theorem step_output (g : Generator) (op : Operation) : (g.step op).2.output = g.output := by
  cases op with
  | setProperty key value =>
    rw [step, setProperty_eq]
    split_ifs <;> rfl
  | writeStaticBlock w => rfl
  | writeHolder package program =>
    obtain ⟨_, _, -, hstep⟩ | ⟨_, -, hstep⟩ := g.writeHolder_cases package program <;>
      rw [step, hstep]
  | register b =>
    cases hblock : g.block.finalized with
    | true => rw [step, register_of_finalized hblock]
    | false =>
      obtain ⟨r, k, -, hregister⟩ := register_of_open hblock b
      rw [step, hregister]
  | generateRegistry => rw [step, generateRegistry_state]
  | generate => rw [step, generate, generateRegistry_state]

/-! ## Runs -/

/-- Operations one after another are the first ones and then the others. -/
theorem run_append (g : Generator) (ops later : List Operation) :
    g.run (ops ++ later) =
      ((g.run ops).1 ++ ((g.run ops).2.run later).1, ((g.run ops).2.run later).2) := by
  induction ops generalizing g with
  | nil => rfl
  | cons op ops ih => simp only [List.cons_append, run, ih]

/-- What every `step` keeps holds after a `run`. -/
theorem run_invariant {P : Generator → Prop} (hstep : ∀ g op, P g → P (g.step op).2)
    {g : Generator} (hg : P g) (ops : List Operation) : P (g.run ops).2 := by
  induction ops generalizing g with
  | nil => exact hg
  | cons op ops ih => exact ih (hstep g op hg)

/-- A `run` lets the holders grow. -/
theorem run_grows (g : Generator) (ops : List Operation) :
    g.holders.Grows (g.run ops).2.holders :=
  run_invariant (P := fun k => g.holders.Grows k.holders)
    (fun k op hk => hk.trans (k.step_grows op)) (.refl g.holders) ops

/-- A fresh generator is a `bare` one after the directives of its options were set. -/
theorem new_eq_run (options : AotOptions) (output : OutputSettings) :
    new options output =
      ((bare options output).run
        (options.directives.map fun d => .setProperty d.1 d.2)).2 := by
  rw [new]
  generalize bare options output = g
  induction options.directives generalizing g with
  | nil => rfl
  | cons d ds ih => exact ih _

/-- The state that operations lead to from a fresh generator. -/
def reached (options : AotOptions) (output : OutputSettings) (ops : List Operation) : Generator :=
  ((new options output).run ops).2

variable (options : AotOptions) (output : OutputSettings)

/-- More operations go on from the state that the first ones led to. -/
theorem reached_append (ops later : List Operation) :
    reached options output (ops ++ later) = ((reached options output ops).run later).2 := by
  rw [reached, run_append, reached]

/-- One more operation is a `step` from the state that the others led to. -/
theorem reached_concat (ops : List Operation) (op : Operation) :
    reached options output (ops ++ [op]) = ((reached options output ops).step op).2 :=
  reached_append options output ops [op]

/-- The holders of a build grow from each state to every later one. -/
theorem reached_grows (ops later : List Operation) :
    (reached options output ops).holders.Grows (reached options output (ops ++ later)).holders := by
  rw [reached_append]
  exact run_grows _ later

/-- What holds of a `bare` generator and is kept by every `step` holds in every state of a build. -/
theorem reached_invariant {P : Generator → Prop} (hbare : P (bare options output))
    (hstep : ∀ g op, P g → P (g.step op).2) (ops : List Operation) :
    P (reached options output ops) := by
  refine run_invariant hstep ?_ ops
  -- a fresh generator is itself the end of a run
  rw [new_eq_run]
  exact run_invariant hstep hbare _

/-- What holds of a `bare` generator and is kept by `setProperty` holds at the start of a build. -/
theorem new_invariant {P : Generator → Prop} (hbare : P (bare options output))
    (hset : ∀ g key value, P g → P (g.setProperty key value).2) : P (new options output) := by
  rw [new]
  generalize bare options output = g at hbare
  induction options.directives generalizing g with
  | nil => exact hbare
  | cons d ds ih => exact ih _ (hset g d.1 d.2 hbare)

/-- A build starts without holders. -/
theorem new_holders : (new options output).holders = { className := output.providerClass } :=
  new_invariant options output (P := fun g => g.holders = { className := output.providerClass })
    rfl fun g key value hg => (g.setProperty_holders key value).trans hg

/-- A build starts with an open block. -/
theorem new_open : (new options output).block.finalized = false := by
  refine new_invariant options output (P := fun g => g.block.finalized = false) rfl ?_
  intro g key value hg
  rw [setProperty_eq]
  split_ifs <;> first | exact hg | rfl

/-- The holders of a build have the configured name in every state. -/
theorem reached_className (ops : List Operation) :
    (reached options output ops).holders.className = output.providerClass := by
  rw [reached, (run_grows (new options output) ops).className, new_holders]

/-- A build keeps the names that were configured. -/
theorem reached_output (ops : List Operation) : (reached options output ops).output = output :=
  reached_invariant options output (P := fun g => g.output = output) rfl
    (fun g op hg => (g.step_output op).trans hg) ops

/-- The holders of a build are `Normal`. -/
theorem reached_normal (ops : List Operation) : (reached options output ops).holders.Normal :=
  reached_invariant options output (P := fun g => g.holders.Normal)
    (Holders.normal_of_entries_nil output.providerClass) (fun _ op hn => step_normal hn op) ops

end Generator

end FactoryRegistry
