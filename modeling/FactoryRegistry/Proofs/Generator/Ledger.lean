import FactoryRegistry.Proofs.Generator.History
import FactoryRegistry.Proofs.OrderedMultimap.Grouping

/-!
# The ledger and the static block

A build records each registration in three places: in the two halves of its ledger and, as a pair of
statements, in the static block. `ledger_agrees` ties the three to the registrations that the build
returned.

* `authored_history`: the static block is what the marks of the history wrote, in call order, and
  each of its statements has an author;
* `registrationsOf_history`: the registrations of the history are those among the results;
* `RegistryAddition.replay`: what the static block does to the two multimaps of the registry when it
  runs.
-/

namespace FactoryRegistry

/-! ## Additions to the registry -/

/-- An addition to one of the two multimaps of the registry. -/
inductive RegistryAddition where
  /-- A supplier for a contract. -/
  | factory (contract supplier : String)
  /-- The name of an implementation of a contract. -/
  | name (contract implementation : String)

namespace RegistryAddition

/-- The two additions of a registration. -/
def ofRegistration (r : Registration) : List RegistryAddition :=
  [.factory r.contract r.supplier, .name r.contract r.implementation]

/-- The statement that makes an addition. -/
def statement : RegistryAddition → String
  | factory contract supplier => s!"factories.add({contract}.class, () -> {supplier})"
  | name contract implementation => s!"names.add({contract}.class, \"{implementation}\")"

/-- The two multimaps, of suppliers and of names, after an addition. -/
def apply (maps : OrderedMultimap String String × OrderedMultimap String String) :
    RegistryAddition → OrderedMultimap String String × OrderedMultimap String String
  | factory contract supplier => (maps.1.add contract supplier, maps.2)
  | name contract implementation => (maps.1, maps.2.add contract implementation)

/-- The two multimaps after additions one after another. -/
def replay (additions : List RegistryAddition) :
    OrderedMultimap String String × OrderedMultimap String String :=
  additions.foldl apply (.empty, .empty)

/-- `replay` of the additions of registrations fills one multimap with the suppliers and the other
one with the implementations. -/
theorem replay_ofRegistrations (rs : List Registration) :
    replay (rs.flatMap ofRegistration) =
      (.ofList (rs.map fun r => (r.contract, r.supplier)),
        .ofList (rs.map fun r => (r.contract, r.implementation))) := by
  induction rs using List.reverseRecOn with
  | nil => rfl
  | append_singleton rs r ih =>
    rw [replay] at ih
    rw [replay, List.flatMap_append, List.foldl_append, ih, List.map_append, List.map_append,
      List.map_singleton, List.map_singleton, OrderedMultimap.ofList_concat,
      OrderedMultimap.ofList_concat, List.flatMap_singleton]
    rfl

end RegistryAddition

/-! ## Authors of statements -/

/-- Who put a statement into the static block. -/
inductive Author where
  /-- A directive. -/
  | directive
  /-- A writer that was handed the block. -/
  | writer
  /-- The registration of a binding. -/
  | registration
  deriving DecidableEq, Repr

/-- The statements that a mark stands for, with their author. -/
def Mark.authored : Mark → List (Author × String)
  | directive key value => [(.directive, Generator.directiveStatement key value)]
  | written statements => statements.map (.writer, ·)
  | registered r => (Generator.registrationStatements r).map (.registration, ·)
  | stray _ => []

/-- Taking away the statements of directives and writers leaves those of the registrations. -/
theorem authored_registrations (h : List Mark) :
    ((h.flatMap Mark.authored).filter fun s => s.1 ≠ .directive ∧ s.1 ≠ .writer).map Prod.snd =
      (registrationsOf h).flatMap Generator.registrationStatements := by
  induction h with
  | nil => rfl
  | cons m h ih =>
    rw [List.flatMap_cons, List.filter_append, List.map_append, ih]
    cases m with
    | directive key value => rfl
    | stray key => rfl
    | written statements =>
      -- what a writer has added is filtered out
      have hnone : (statements.map (Author.writer, ·)).filter
          (fun s => s.1 ≠ .directive ∧ s.1 ≠ .writer) = [] := by
        simp
      rw [Mark.authored, hnone]
      rfl
    | registered r => rfl

/-! ## Groups of registrations -/

/-- Registrations by contract: the contracts in the order of their first registration, each with its
registrations in order. -/
def registrationGroups (rs : List Registration) : List (String × List Registration) :=
  (rs.map (·.contract)).eraseDups.map fun c => (c, rs.filter fun r => r.contract = c)

/-- The multimap of one part of the registrations has their groups (`registrationGroups`) as its
entries. -/
theorem entries_ofList_registrations (rs : List Registration) (part : Registration → String) :
    (OrderedMultimap.ofList (rs.map fun r => (r.contract, part r))).entries =
      (registrationGroups rs).map fun group => (group.1, group.2.map part) := by
  rw [OrderedMultimap.entries_ofList, registrationGroups, List.map_map, List.map_map]
  refine List.map_congr_left fun c _ => ?_
  rw [List.filter_map, List.map_map]
  rfl

/-- The registration that an operation resulted in, if it did. -/
def Result.registration? : Except Failure Result → Option Registration
  | .ok (.registration r) => some r
  | _ => none

namespace Generator

/-! ## What steps and runs write -/

/-- A `step` appends what its `mark` stands for to the static block. -/
theorem authored_mark (g : Generator) (op : Operation) :
    (g.step op).2.block.block.statements =
      g.block.block.statements ++
        ((g.mark op).toList.flatMap Mark.authored).map Prod.snd := by
  cases op with
  | setProperty key value =>
    rw [step, mark, setProperty_eq]
    split_ifs <;> simp [Mark.authored, Block.add]
  | writeStaticBlock w =>
    rw [step, mark, writeStaticBlock_state]
    split_ifs <;> simp [Mark.authored, Function.comp_def]
  | writeHolder package program =>
    obtain ⟨_, k, -, hwrite⟩ | ⟨_, -, hwrite⟩ := g.writeHolder_cases package program <;>
      simp [step, mark, hwrite]
  | register b =>
    rw [step, mark]
    cases hblock : g.block.finalized with
    | true => simp [register_of_finalized hblock]
    | false =>
      obtain ⟨r, k, -, hregister⟩ := register_of_open hblock b
      simp [hregister, Mark.authored, Function.comp_def]
  | generateRegistry => simp [step, mark, generateRegistry_state]
  | generate => simp [step, mark, generate, generateRegistry_state]

/-- A `run` appends what its history stands for to the static block. -/
theorem authored_history (g : Generator) (ops : List Operation) :
    (g.run ops).2.block.block.statements =
      g.block.block.statements ++ ((g.history ops).flatMap Mark.authored).map Prod.snd := by
  induction ops generalizing g with
  | nil => simp [run, history]
  | cons op ops ih =>
    rw [run, history, ih, authored_mark, List.flatMap_append, List.map_append, List.append_assoc]

/-- A step that marks a registration results in it, and no other step results in one. -/
theorem registration?_mark (g : Generator) (op : Operation) :
    (g.mark op).bind Mark.registration? = Result.registration? (g.step op).1 := by
  -- the mark of a step is read off its result, so each result is looked at
  cases op with
  | setProperty key value =>
    rw [step, mark, setProperty_eq]
    split_ifs <;> rfl
  | writeStaticBlock w =>
    rw [step, mark]
    rcases g.writeStaticBlock w with ⟨_ | _, _⟩ <;> split_ifs <;> rfl
  | writeHolder package program =>
    rw [step, mark]
    rcases g.writeHolder package program with ⟨_ | _, _⟩ <;> rfl
  | register b =>
    rw [step, mark]
    rcases g.register b with ⟨_ | _, _⟩ <;> rfl
  | generateRegistry =>
    rw [step, mark]
    rcases g.generateRegistry with ⟨_ | _, _⟩ <;> rfl
  | generate =>
    rw [step, mark]
    rcases g.generate with ⟨_ | _, _⟩ <;> rfl

/-- The registrations of the history of a `run` are those among its results. -/
theorem registrationsOf_history (g : Generator) (ops : List Operation) :
    registrationsOf (g.history ops) = (g.run ops).1.filterMap Result.registration? := by
  induction ops generalizing g with
  | nil => rfl
  | cons op ops ih =>
    rw [history, run, registrationsOf, List.filterMap_append, List.filterMap_cons,
      ← registration?_mark, ← ih]
    cases g.mark op with
    | none => rfl
    | some m => cases m <;> rfl

/-! ## Builds -/

/-- The static block of a build is what its `reachedHistory` stands for. -/
theorem authored_reachedHistory (options : AotOptions) (output : OutputSettings)
    (ops : List Operation) :
    ((reachedHistory options output ops).flatMap Mark.authored).map Prod.snd =
      (reached options output ops).block.block.statements := by
  have hnew := authored_history (bare options output)
    (options.directives.map fun d => .setProperty d.1 d.2)
  rw [history_directives, ← new_eq_run] at hnew
  rw [reached, authored_history, hnew, reachedHistory, List.flatMap_append, List.map_append]
  rfl

/-- The registrations of the `reachedHistory` are those among the results of the build. -/
theorem registrationsOf_reachedHistory (options : AotOptions) (output : OutputSettings)
    (ops : List Operation) :
    registrationsOf (reachedHistory options output ops) =
      ((new options output).run ops).1.filterMap Result.registration? := by
  have hdirectives :
      registrationsOf (options.directives.map fun d => Mark.directive d.1 d.2) = [] := by
    rw [registrationsOf, List.filterMap_eq_nil_iff]
    intro m hm
    obtain ⟨d, -, rfl⟩ := List.mem_map.1 hm
    rfl
  calc registrationsOf (reachedHistory options output ops)
      = registrationsOf (options.directives.map fun d => Mark.directive d.1 d.2) ++
          registrationsOf ((new options output).history ops) := List.filterMap_append
    _ = ((new options output).run ops).1.filterMap Result.registration? := by
      rw [hdirectives, List.nil_append, registrationsOf_history]

/-- Let `rs` be the registrations that a build returned, in order. Both halves of its ledger are the
groups of `rs` by contract, one half with the suppliers and the other one with the implementations,
so that they have the same keys and their lists correspond item by item. Without the statements of
directives and writers the static block is the additions of `rs` to the registry, and running these
fills the multimaps of the registry with what the ledger holds. -/
theorem ledger_agrees (options : AotOptions) (output : OutputSettings) (ops : List Operation) :
    let g := reached options output ops
    let rs := ((new options output).run ops).1.filterMap Result.registration?
    let authored := (reachedHistory options output ops).flatMap Mark.authored
    let additions := rs.flatMap RegistryAddition.ofRegistration
    g.ledger = .object [
      ("factories", .object ((registrationGroups rs).map fun (c, group) =>
        (c, .texts (group.map (·.supplier))))),
      ("names", .object ((registrationGroups rs).map fun (c, group) =>
        (c, .texts (group.map (·.implementation)))))] ∧
    authored.map Prod.snd = g.block.block.statements ∧
    (authored.filter fun s => s.1 ≠ .directive ∧ s.1 ≠ .writer).map Prod.snd =
      additions.map RegistryAddition.statement ∧
    RegistryAddition.replay additions = (g.suppliers, g.names) := by
  intro g rs authored additions
  have ha : g.Agrees (reachedHistory options output ops) := agrees_reached options output ops
  have hrs : registrationsOf (reachedHistory options output ops) = rs :=
    registrationsOf_reachedHistory options output ops
  have hsuppliers := hrs ▸ ha.suppliers
  have hnames := hrs ▸ ha.names
  refine ⟨?_, authored_reachedHistory options output ops, ?_, ?_⟩
  · rw [ledger, ledgerView, ledgerView, hsuppliers, hnames,
      entries_ofList_registrations rs (·.supplier),
      entries_ofList_registrations rs (·.implementation), List.map_map, List.map_map]
    rfl
  · rw [authored_registrations, hrs, List.map_flatMap]
    rfl
  · rw [hsuppliers, hnames]
    exact RegistryAddition.replay_ofRegistrations rs

end Generator

end FactoryRegistry
