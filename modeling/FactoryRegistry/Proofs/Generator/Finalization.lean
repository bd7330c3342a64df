import FactoryRegistry.Proofs.Generator.Step

/-!
# The registry is made once

Making the registry closes the static block, and nothing opens it again. `generation_once` says what
this means for a whole build:

* as long as the block is open no registry was handed out, and a call that makes it succeeds with
  the statements of that moment;
* once the block is closed exactly one registry was handed out, and it stays the only one. The
  statements and the ledger are fixed, every call that would add to them fails, and a holder changes
  only where a caller writes to it directly.
-/

namespace FactoryRegistry

/-- The registry that an operation hands out. -/
def Result.registry? : Except Failure Result → Option SourceFile
  | .ok (.registry f) => some f
  | .ok (.sources s) => some s.registry
  | _ => none

namespace Generator

/-- The parts of a generator that a closed block protects. -/
structure Sealed (g k : Generator) : Prop where
  closed : k.block.finalized = true
  block : k.block = g.block
  output : k.output = g.output
  suppliers : k.suppliers = g.suppliers
  names : k.names = g.names

section Closed

variable {g : Generator}

theorem Sealed.refl (hclosed : g.block.finalized = true) : Sealed g g :=
  ⟨hclosed, rfl, rfl, rfl, rfl⟩

/-- On a closed block `setProperty` sets nothing, whichever of the three checks refuses it. -/
theorem setProperty_of_finalized (hclosed : g.block.finalized = true) (key value : String) :
    (∃ fault, (g.setProperty key value).1 = .error (.fault fault)) ∧
      ∃ keys, (g.setProperty key value).2 = { g with directives := keys } := by
  rw [setProperty_eq, if_pos hclosed]
  split_ifs
  · exact ⟨⟨_, rfl⟩, g.directives, rfl⟩
  · exact ⟨⟨_, rfl⟩, g.directives, rfl⟩
  · -- the key is remembered although the block refused the statement
    exact ⟨⟨_, rfl⟩, g.directives ++ [key], rfl⟩

/-- A closed block is not handed to a writer, so a failure of the writer does not come up either. -/
theorem writeStaticBlock_of_finalized (hclosed : g.block.finalized = true) (w : Writing) :
    g.writeStaticBlock w = (.error (.fault (.blockFinalized "write")), g) := by
  simp [writeStaticBlock, StaticBlock.write, StaticBlock.checkOpen, hclosed]

/-- `generateRegistry` is refused on a closed block. -/
theorem generateRegistry_of_finalized (hclosed : g.block.finalized = true) :
    g.generateRegistry = (.error (.fault (.blockFinalized "finalize")), g) := by
  rw [generateRegistry_eq, if_pos hclosed]

theorem generate_of_finalized (hclosed : g.block.finalized = true) :
    g.generate = (.error (.fault (.blockFinalized "finalize")), g) := by
  rw [generate_eq, if_pos hclosed]

/-- Nothing that a closed block protects changes in a step. -/
theorem Sealed.step {k : Generator} (hk : Sealed g k) (op : Operation) :
    Sealed g (k.step op).2 := by
  have hclosed := hk.closed
  cases op with
  | setProperty key value =>
    -- a refused directive may leave its key behind, and nothing else
    obtain ⟨-, keys, hstate⟩ := setProperty_of_finalized hclosed key value
    rw [Generator.step, hstate]
    exact ⟨hk.closed, hk.block, hk.output, hk.suppliers, hk.names⟩
  | writeStaticBlock w => rwa [Generator.step, writeStaticBlock_of_finalized hclosed]
  | writeHolder package program =>
    obtain ⟨holder, holders, -, hstep⟩ | ⟨failure, -, hstep⟩ := k.writeHolder_cases package program
    · rw [Generator.step, hstep]
      exact ⟨hk.closed, hk.block, hk.output, hk.suppliers, hk.names⟩
    · rwa [Generator.step, hstep]
  | register b => rwa [Generator.step, register_of_finalized hclosed]
  | generateRegistry => rwa [Generator.step, generateRegistry_of_finalized hclosed]
  | generate => rwa [Generator.step, generate_of_finalized hclosed]

/-- Nothing that a closed block protects changes in a run. -/
theorem sealed_run (hclosed : g.block.finalized = true) (later : List Operation) :
    Sealed g (g.run later).2 :=
  run_invariant (P := Sealed g) (fun _ op hk => hk.step op) (.refl hclosed) later

/-- On a closed block a holder changes only where `writeHolder` succeeds. -/
theorem holders_of_finalized (hclosed : g.block.finalized = true) (op : Operation) :
    (g.step op).2.holders = g.holders ∨
      ∃ package program holder, op = .writeHolder package program ∧
        (g.step op).1 = .ok (.holder holder) := by
  cases op with
  | setProperty key value => exact .inl (g.setProperty_holders key value)
  | writeStaticBlock w => exact .inl rfl
  | writeHolder package program =>
    obtain ⟨holder, holders, -, hstep⟩ | ⟨failure, -, hstep⟩ := g.writeHolder_cases package program
    · exact .inr ⟨package, program, holder, rfl, by rw [step, hstep]; rfl⟩
    · exact .inl (by rw [step, hstep])
  | register b => exact .inl (by rw [step, register_of_finalized hclosed])
  | generateRegistry => exact .inl (by rw [step, generateRegistry_of_finalized hclosed])
  | generate => exact .inl (by rw [step, generate_of_finalized hclosed])

end Closed

/-! ## The registries that a run hands out -/

/-- The registries handed out on the way to a state: one of the statements in the block once it is
closed, and none before. -/
def handedOut (g : Generator) : List SourceFile :=
  if g.block.finalized then [g.output.target.assembleFile g.block.block] else []

/-- A step hands out a registry exactly when it closes the block. -/
theorem handedOut_step (g : Generator) (op : Operation) :
    (g.step op).2.handedOut = g.handedOut ++ (Result.registry? (g.step op).1).toList := by
  -- only the last two operations close a block, and only they have a registry as their result
  cases op with
  | setProperty key value =>
    rw [step, setProperty_eq]
    split_ifs <;> simp_all [handedOut, Result.registry?, Except.map]
  | writeStaticBlock w =>
    have hnone : Result.registry? ((g.writeStaticBlock w).1.map fun _ => .done) = none := by
      cases (g.writeStaticBlock w).1 <;> rfl
    rw [step, writeStaticBlock_state, hnone]
    split_ifs <;> simp_all [handedOut]
  | writeHolder package program =>
    obtain ⟨_, _, -, hstep⟩ | ⟨_, -, hstep⟩ := g.writeHolder_cases package program <;>
      simp [step, hstep, handedOut, Result.registry?, Except.map]
  | register b =>
    -- a registration adds statements, so it matters that an open block stands for no registry yet
    cases hblock : g.block.finalized with
    | true => simp [step, register_of_finalized hblock, Result.registry?, Except.map]
    | false =>
      obtain ⟨r, k, -, hregister⟩ := register_of_open hblock b
      simp [step, hregister, handedOut, hblock, Result.registry?, Except.map]
  | generateRegistry =>
    rw [step, generateRegistry_eq]
    cases hblock : g.block.finalized <;>
      simp [handedOut, hblock, Result.registry?, Except.map]
  | generate =>
    rw [step, generate_eq]
    cases hblock : g.block.finalized <;>
      simp [handedOut, hblock, Result.registry?, Except.map]

/-- The registries among the results of a run come after those handed out before. -/
theorem handedOut_run (g : Generator) (ops : List Operation) :
    (g.run ops).2.handedOut = g.handedOut ++ (g.run ops).1.filterMap Result.registry? := by
  induction ops generalizing g with
  | nil => simp [run]
  | cons op ops ih =>
    rw [run, ih, handedOut_step, List.append_assoc, List.filterMap_cons]
    cases Result.registry? (g.step op).1 <;> rfl

/-- A build hands out at most one registry, and it has done so exactly when its block is
`finalized`. As long as the block is open, `generateRegistry` and `generate` succeed, with the
statements of that moment as the static initializer, and close the block. From then on the
statements and both halves of the ledger never change, no directive is set, every other call that
would add to the registry is refused without a change, whatever its writer or binding is, and the
holders change only when a caller writes to one of them and succeeds. -/
theorem generation_once (options : AotOptions) (output : OutputSettings) (ops : List Operation) :
    let g := reached options output ops
    ((new options output).run ops).1.filterMap Result.registry? =
        (if g.block.finalized then [output.target.assembleFile g.block.block] else []) ∧
    (g.block.finalized = false →
      (∃ file, g.generateRegistry = (.ok file, { g with block := ⟨g.block.block, true⟩ }) ∧
        file.type.staticBlock = some g.block.block) ∧
      ∃ sources, g.generate = (.ok sources, { g with block := ⟨g.block.block, true⟩ }) ∧
        sources.registry.type.staticBlock = some g.block.block) ∧
    (g.block.finalized = true → ∀ later,
      let k := (g.run later).2
      k.block = g.block ∧ k.suppliers = g.suppliers ∧ k.names = g.names ∧
      (∀ key value, ∃ fault, (k.setProperty key value).1 = .error (.fault fault)) ∧
      (∀ b, k.register b = (.error (.fault (.blockFinalized "register")), k)) ∧
      (∀ w, k.writeStaticBlock w = (.error (.fault (.blockFinalized "write")), k)) ∧
      k.generateRegistry = (.error (.fault (.blockFinalized "finalize")), k) ∧
      k.generate = (.error (.fault (.blockFinalized "finalize")), k) ∧
      ∀ op, (k.step op).2.holders = k.holders ∨
        ∃ package program holder, op = .writeHolder package program ∧
          (k.step op).1 = .ok (.holder holder)) := by
  intro g
  refine ⟨?_, fun hopen => ?_, fun hclosed later => ?_⟩
  · -- a build begins with an open block, so all that it stands for was handed out in the run
    have hrun := handedOut_run (new options output) ops
    have hnone : (new options output).handedOut = [] := by simp [handedOut, new_open]
    rw [← reached, hnone, List.nil_append, handedOut, reached_output] at hrun
    exact hrun.symm
  · have hregistry := generateRegistry_eq g
    have hsources := generate_eq g
    rw [hopen] at hregistry hsources
    exact ⟨⟨_, hregistry, rfl⟩, ⟨_, hsources, rfl⟩⟩
  · -- every later state is sealed, and what it refuses follows from its block alone
    intro k
    have hk : Sealed g k := sealed_run hclosed later
    exact ⟨hk.block, hk.suppliers, hk.names,
      fun key value => (setProperty_of_finalized hk.closed key value).1,
      register_of_finalized hk.closed, writeStaticBlock_of_finalized hk.closed,
      generateRegistry_of_finalized hk.closed, generate_of_finalized hk.closed,
      holders_of_finalized hk.closed⟩

end Generator

end FactoryRegistry
