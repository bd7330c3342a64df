import FactoryRegistry.Proofs.Generator.Step

/-!
# The history of a build

Each operation leaves at most one mark on the static block: a directive that was set, the
statements of a writer, or a registration. A directive that a closed block refuses leaves a mark
too, for its key is remembered. The marks of a build in call order are its history, and the state
of the build agrees with it (`Agrees`), which every step preserves (`Agrees.step`).

The generator keeps no record of where its directives end. It counts: a block whose length is the
number of remembered keys is taken to hold directives alone. `Agrees.otherStatements` says what
that count is in terms of the history, and `Agrees.setProperty_eq` what follows for the verdict on
a further directive.
-/

namespace FactoryRegistry

/-- What an operation leaves in the static block or among the remembered keys. -/
inductive Mark where
  /-- A directive was set. -/
  | directive (key value : String)
  /-- A writer added statements. -/
  | written (statements : List String)
  /-- A binding was registered. -/
  | registered (r : Registration)
  /-- A directive was refused by a closed block, after its key was remembered. -/
  | stray (key : String)
  deriving DecidableEq, Repr

namespace Mark

/-- The key and the value of a directive. -/
@[simp]
def directive? : Mark → Option (String × String)
  | directive key value => some (key, value)
  | _ => none

/-- The registration of a binding. -/
@[simp]
def registration? : Mark → Option Registration
  | registered r => some r
  | _ => none

/-- The key of a directive that a closed block refused. -/
@[simp]
def stray? : Mark → Option String
  | stray key => some key
  | _ => none

/-- The statements that are no directives. -/
@[simp]
def others : Mark → List String
  | written statements => statements
  | registered r => Generator.registrationStatements r
  | _ => []

end Mark

/-- The directives of a history, in order. -/
def directivesOf (h : List Mark) : List (String × String) := h.filterMap Mark.directive?

/-- The keys of the directives of a history, in order. -/
def directiveKeysOf (h : List Mark) : List String := (directivesOf h).map Prod.fst

/-- The statements of a history that are no directives, in order. -/
def othersOf (h : List Mark) : List String := h.flatMap Mark.others

/-- The registrations of a history, in order. -/
def registrationsOf (h : List Mark) : List Registration := h.filterMap Mark.registration?

/-- The keys that a closed block refused in a history, in order. -/
def straysOf (h : List Mark) : List String := h.filterMap Mark.stray?

section Concat

variable (h : List Mark) (m : Mark)

@[simp]
theorem directivesOf_concat : directivesOf (h ++ [m]) = directivesOf h ++ m.directive?.toList := by
  rw [directivesOf, List.filterMap_append, directivesOf]
  cases m <;> rfl

@[simp]
theorem directiveKeysOf_concat :
    directiveKeysOf (h ++ [m]) = directiveKeysOf h ++ m.directive?.toList.map Prod.fst := by
  rw [directiveKeysOf, directivesOf_concat, List.map_append, directiveKeysOf]

@[simp]
theorem othersOf_concat : othersOf (h ++ [m]) = othersOf h ++ m.others := by
  rw [othersOf, List.flatMap_append, othersOf, List.flatMap_singleton]

@[simp]
theorem registrationsOf_concat :
    registrationsOf (h ++ [m]) = registrationsOf h ++ m.registration?.toList := by
  rw [registrationsOf, List.filterMap_append, registrationsOf]
  cases m <;> rfl

@[simp]
theorem straysOf_concat : straysOf (h ++ [m]) = straysOf h ++ m.stray?.toList := by
  rw [straysOf, List.filterMap_append, straysOf]
  cases m <;> rfl

end Concat

namespace Generator

/-- The mark that an operation leaves. The statements of a writer count as soon as the block is
open, whether or not the writer fails in the end. -/
def mark (g : Generator) : Operation → Option Mark
  | .setProperty key value =>
    match (g.setProperty key value).1 with
    | .ok () => some (.directive key value)
    | .error (.fault (.blockFinalized _)) => some (.stray key)
    | .error _ => none
  | .writeStaticBlock w => if g.block.finalized then none else some (.written w.statements)
  | .register b =>
    match (g.register b).1 with
    | .ok r => some (.registered r)
    | .error _ => none
  | .writeHolder _ _ | .generateRegistry | .generate => none

/-- The marks that operations leave, in order. -/
def history (g : Generator) : List Operation → List Mark
  | [] => []
  | op :: ops => (g.mark op).toList ++ (g.step op).2.history ops

/-- The history of a build: the directives of its options and then the marks of its operations. -/
def reachedHistory (options : AotOptions) (output : OutputSettings) (ops : List Operation) :
    List Mark :=
  options.directives.map (fun d => .directive d.1 d.2) ++ (new options output).history ops

/-! ## A state and its history -/

/-- A state of a generator is what its history says. -/
structure Agrees (g : Generator) (h : List Mark) : Prop where
  /-- The block holds the directives first and then everything else. -/
  statements : g.block.block.statements =
    (directivesOf h).map (fun d => directiveStatement d.1 d.2) ++ othersOf h
  /-- The remembered keys are those of the directives and those that a closed block refused. -/
  keys : g.directives = directiveKeysOf h ++ straysOf h
  /-- No key is remembered twice. -/
  nodup : g.directives.Nodup
  /-- A key is refused and remembered at most once, by a closed block without other statements. -/
  strays : straysOf h = [] ∨
    g.block.finalized = true ∧ othersOf h = [] ∧ (straysOf h).length = 1
  /-- The ledger holds the suppliers of the registrations. -/
  suppliers : g.suppliers = .ofList ((registrationsOf h).map fun r => (r.contract, r.supplier))
  /-- The ledger holds the implementations of the registrations. -/
  names : g.names = .ofList ((registrationsOf h).map fun r => (r.contract, r.implementation))

namespace Agrees

variable {g : Generator} {h : List Mark}

/-- While the block is open no key is remembered without its directive. -/
theorem strays_eq_nil (ha : g.Agrees h) (hopen : g.block.finalized = false) : straysOf h = [] := by
  obtain hnone | ⟨hclosed, -, -⟩ := ha.strays
  · exact hnone
  · rw [hopen] at hclosed
    cases hclosed

/-- While the block is open the remembered keys are those of the directives. -/
theorem keys_of_open (ha : g.Agrees h) (hopen : g.block.finalized = false) :
    g.directives = directiveKeysOf h := by
  rw [ha.keys, ha.strays_eq_nil hopen, List.append_nil]

/-- `otherStatements` counts the statements that are no directives, less the stray keys. -/
theorem otherStatements (ha : g.Agrees h) :
    g.otherStatements = ((othersOf h).length : Int) - (straysOf h).length := by
  rw [Generator.otherStatements, StaticBlock.size, Block.size, ha.statements, ha.keys,
    directiveKeysOf]
  simp only [List.length_append, List.length_map]
  omega

/-- `bindingCount` is the number of registrations. -/
theorem bindingCount (ha : g.Agrees h) : g.bindingCount = (registrationsOf h).length := by
  rw [Generator.bindingCount, ha.names, OrderedMultimap.valueCount_ofList, List.length_map]

/-- Other holders do not matter to the history. -/
theorem with_holders (ha : g.Agrees h) (k : Holders) : Agrees { g with holders := k } h :=
  ⟨ha.statements, ha.keys, ha.nodup, ha.strays, ha.suppliers, ha.names⟩

/-- A state still `Agrees` with its history after the block was closed. -/
theorem closed (ha : g.Agrees h) : Agrees { g with block := ⟨g.block.block, true⟩ } h :=
  ⟨ha.statements, ha.keys, ha.nodup, ha.strays.imp_right fun hs => ⟨rfl, hs.2⟩,
    ha.suppliers, ha.names⟩

/-- A key that is new may be remembered once more. -/
theorem nodup_concat (ha : g.Agrees h) {key : String} (hnew : key ∉ g.directives) :
    (g.directives ++ [key]).Nodup := by
  rw [← List.concat_eq_append]
  exact ha.nodup.concat hnew

/-- A directive that was set on an open block without other statements joins the history. -/
theorem set_directive (ha : g.Agrees h) (hopen : g.block.finalized = false)
    (hothers : othersOf h = []) {key : String} (hnew : key ∉ g.directives) (value : String) :
    Agrees { g with
      directives := g.directives ++ [key]
      block := ⟨g.block.block.add (directiveStatement key value), false⟩ }
      (h ++ [.directive key value]) where
  statements := by simp [Block.add, ha.statements, hothers]
  keys := by simp [ha.keys_of_open hopen, ha.strays_eq_nil hopen]
  nodup := ha.nodup_concat hnew
  strays := .inl (by simp [ha.strays_eq_nil hopen])
  suppliers := by simp [ha.suppliers]
  names := by simp [ha.names]

/-- A key that a closed block without other statements refused joins the history, as a stray one. -/
theorem refuse_directive (ha : g.Agrees h) (hclosed : g.block.finalized = true)
    (hothers : othersOf h = []) (hstrays : straysOf h = []) {key : String}
    (hnew : key ∉ g.directives) :
    Agrees { g with directives := g.directives ++ [key] } (h ++ [.stray key]) where
  statements := by simp [ha.statements]
  keys := by simp [ha.keys]
  nodup := ha.nodup_concat hnew
  strays := .inr ⟨hclosed, by simp [hothers], by simp [hstrays]⟩
  suppliers := by simp [ha.suppliers]
  names := by simp [ha.names]

/-- Statements that a writer added to an open block join the history. -/
theorem write (ha : g.Agrees h) (hopen : g.block.finalized = false) (statements : List String) :
    Agrees { g with block := ⟨⟨g.block.block.statements ++ statements⟩, false⟩ }
      (h ++ [.written statements]) where
  statements := by simp [ha.statements]
  keys := by simp [ha.keys]
  nodup := ha.nodup
  strays := .inl (by simp [ha.strays_eq_nil hopen])
  suppliers := by simp [ha.suppliers]
  names := by simp [ha.names]

/-- A registration on an open block joins the history. -/
theorem register (ha : g.Agrees h) (hopen : g.block.finalized = false) (r : Registration) :
    Agrees { g with
      block := ⟨⟨g.block.block.statements ++ registrationStatements r⟩, false⟩
      suppliers := g.suppliers.add r.contract r.supplier
      names := g.names.add r.contract r.implementation } (h ++ [.registered r]) where
  statements := by simp [ha.statements]
  keys := by simp [ha.keys]
  nodup := ha.nodup
  strays := .inl (by simp [ha.strays_eq_nil hopen])
  suppliers := by simp [ha.suppliers, OrderedMultimap.ofList_concat]
  names := by simp [ha.names, OrderedMultimap.ofList_concat]

/-- The verdict of `setProperty`, read off the history. -/
theorem setProperty_eq (ha : g.Agrees h) (key value : String) :
    g.setProperty key value =
      if key ∈ directiveKeysOf h ++ straysOf h then
        (.error (.fault (.directiveDuplicate key)), g)
      else if ((othersOf h).length : Int) - (straysOf h).length ≠ 0 then
        (.error (.fault (.directiveOrder key (registrationsOf h).length
          (((othersOf h).length : Int) - (straysOf h).length))), g)
      else if g.block.finalized then
        (.error (.fault (.blockFinalized "append")),
          { g with directives := g.directives ++ [key] })
      else
        (.ok (), { g with
          directives := g.directives ++ [key]
          block := ⟨g.block.block.add (directiveStatement key value), false⟩ }) := by
  rw [Generator.setProperty_eq, ha.otherStatements, ha.bindingCount]
  simp only [ha.keys]

/-- A directive is set or refused by the closed block only where nothing but directives is in the
block and no key is stray. -/
theorem no_others_of_balanced (ha : g.Agrees h)
    (hbalanced : ((othersOf h).length : Int) - (straysOf h).length = 0) :
    othersOf h = [] ∧ straysOf h = [] := by
  obtain hstrays | ⟨-, hothers, hstrays⟩ := ha.strays
  -- a stray key would make the count `-1`
  · rw [hstrays] at hbalanced
    exact ⟨List.length_eq_zero_iff.1 (by simpa using hbalanced), hstrays⟩
  · rw [hothers, hstrays] at hbalanced
    simp at hbalanced

/-- A `step` leaves the state agreeing with the history and its `mark`. -/
theorem step (ha : g.Agrees h) (op : Operation) :
    (g.step op).2.Agrees (h ++ (g.mark op).toList) := by
  cases op with
  | setProperty key value =>
    rw [Generator.step, mark, Generator.setProperty_eq]
    split_ifs with hkey hothers hclosed
    · simpa using ha
    · simpa using ha
    -- the counts agree from here on, so there are no other statements and no stray keys
    · rw [ha.otherStatements, not_not] at hothers
      obtain ⟨hothers, hstrays⟩ := ha.no_others_of_balanced hothers
      exact ha.refuse_directive hclosed hothers hstrays hkey
    · rw [ha.otherStatements, not_not] at hothers
      have hopen : g.block.finalized = false := by simpa using hclosed
      exact ha.set_directive hopen (ha.no_others_of_balanced hothers).1 hkey value
  | writeStaticBlock w =>
    rw [Generator.step, mark, writeStaticBlock_state]
    cases hblock : g.block.finalized with
    | true => simpa using ha
    | false => exact ha.write hblock w.statements
  | writeHolder package program =>
    rw [mark, Option.toList_none, List.append_nil]
    obtain ⟨_, k, -, hstep⟩ | ⟨_, -, hstep⟩ := g.writeHolder_cases package program
    · rw [Generator.step, hstep]
      exact ha.with_holders k
    · rwa [Generator.step, hstep]
  | register b =>
    rw [Generator.step, mark]
    cases hblock : g.block.finalized with
    | true =>
      rw [register_of_finalized hblock]
      simpa using ha
    | false =>
      obtain ⟨r, k, -, hregister⟩ := register_of_open hblock b
      rw [hregister]
      exact (ha.register hblock r).with_holders k
  | generateRegistry =>
    rw [Generator.step, mark, generateRegistry_state, Option.toList_none, List.append_nil]
    exact ha.closed
  | generate =>
    rw [Generator.step, mark, generate, generateRegistry_state, Option.toList_none,
      List.append_nil]
    exact ha.closed

/-- A `run` leaves the state agreeing with the history and the marks of the run. The induction is on
the operations. -/
theorem run (ha : g.Agrees h) (ops : List Operation) :
    (g.run ops).2.Agrees (h ++ g.history ops) := by
  induction ops generalizing g h with
  | nil => simpa [Generator.run, history] using ha
  | cons op ops ih =>
    rw [history, ← List.append_assoc]
    exact ih (ha.step op)

end Agrees

/-- Before any directive there is no history. -/
theorem agrees_bare (options : AotOptions) (output : OutputSettings) :
    (bare options output).Agrees [] :=
  ⟨rfl, rfl, List.nodup_nil, .inl rfl, rfl, rfl⟩

/-- Setting the directives of the options always succeeds: their keys differ. -/
theorem history_directives (options : AotOptions) (output : OutputSettings) :
    (bare options output).history (options.directives.map fun d => .setProperty d.1 d.2) =
      options.directives.map fun d => .directive d.1 d.2 := by
  -- the three switches are on or off independently of each other
  obtain ⟨_ | _, _ | _, _ | _⟩ := options <;> rfl

/-- Every state of a build `Agrees` with the `reachedHistory`. -/
theorem agrees_reached (options : AotOptions) (output : OutputSettings) (ops : List Operation) :
    (reached options output ops).Agrees (reachedHistory options output ops) := by
  have hnew : (new options output).Agrees (options.directives.map fun d => .directive d.1 d.2) := by
    rw [new_eq_run, ← history_directives options output]
    exact (agrees_bare options output).run _
  exact hnew.run ops

end Generator

end FactoryRegistry
