import Mathlib.Data.List.Basic
import FactoryRegistry.Description.Builder

/-!
# Runs of a builder

A run of a builder is a sequence of calls (`TypeBuilder.Step`), between which the class described so
far may be handed over to a new builder any number of times. A refused call leaves the builder as it
was (`TypeBuilder.attempt`), and the run goes on.

* `attempt_eq_error_iff`: a call is refused only if it adds a member of a name that is there;
* `attempt_of_build_eq`: builders that describe the same class answer alike, and describe the same
  class afterwards, so handing over is not observable (`run_calls`);
* `run_closed_form`: the class that a run of any steps describes, part by part.
-/

namespace FactoryRegistry

/-! ## Joining blocks and texts -/

/-- Blocks joined to one, if there are any. -/
def joinedBlocks : List Block → Option Block
  | [] => none
  | bs => some ⟨bs.flatMap Block.statements⟩

/-- Texts on lines of their own, leading empty ones left out. -/
def joinedTexts (texts : List String) : String :=
  "\n".intercalate (texts.dropWhile String.isEmpty)

/-- `joinedBlocks`: blocks may be joined before further ones are added. -/
theorem joinedBlocks_joinedBlocks (bs cs : List Block) :
    joinedBlocks ((joinedBlocks bs).toList ++ cs) = joinedBlocks (bs ++ cs) := by
  cases bs with
  | nil => rfl
  | cons b bs => simp [joinedBlocks]

/-- `joinedTexts` leaves an empty text out at the beginning. -/
theorem joinedTexts_empty_cons (texts : List String) :
    joinedTexts ("" :: texts) = joinedTexts texts := by
  rw [joinedTexts, List.dropWhile_cons_of_pos (by decide), joinedTexts]

/-- From the first text on that is not empty, `joinedTexts` puts each on a line of its own. -/
theorem joinedTexts_cons {text : String} (h : text ≠ "") (texts : List String) :
    joinedTexts (text :: texts) = "\n".intercalate (text :: texts) := by
  rw [joinedTexts, List.dropWhile_cons_of_neg (by simpa using h)]

/-- `joinedTexts` leaves one text as it is. -/
theorem joinedTexts_singleton (text : String) : joinedTexts [text] = text := by
  by_cases h : text = ""
  · rw [h, joinedTexts_empty_cons]
    rfl
  · rw [joinedTexts_cons h, String.intercalate_singleton]

/-- `joinDoc` joins a text to a documentation that is not empty and puts it in place of an empty
one, as `joinedTexts` does. -/
theorem joinDoc_eq_joinedTexts (doc text : String) :
    TypeBuilder.joinDoc doc text = joinedTexts [doc, text] := by
  rw [TypeBuilder.joinDoc]
  by_cases h : doc = ""
  · rw [h, joinedTexts_empty_cons, joinedTexts_singleton]
    rfl
  · rw [if_neg (by simpa using h), joinedTexts_cons h, String.intercalate_cons_cons,
      String.intercalate_singleton]
    rfl

/-- `joinedTexts`: two texts may be joined before further ones are added. -/
theorem joinedTexts_joinedTexts (doc text : String) (texts : List String) :
    joinedTexts (joinedTexts [doc, text] :: texts) = joinedTexts (doc :: text :: texts) := by
  by_cases h : doc = ""
  · rw [h, joinedTexts_empty_cons, joinedTexts_empty_cons, joinedTexts_singleton]
  · have hjoined : joinedTexts [doc, text] = doc ++ "\n" ++ text := by
      rw [joinedTexts_cons h, String.intercalate_cons_cons, String.intercalate_singleton]
    -- the line break alone keeps the joined text from being empty
    have hne : doc ++ "\n" ++ text ≠ "" := by
      intro hempty
      have hlist := congrArg String.toList hempty
      simp at hlist
    rw [hjoined, joinedTexts_cons hne, joinedTexts_cons h, String.intercalate_cons_cons]
    cases texts with
    | nil => rw [String.intercalate_singleton, String.intercalate_singleton]
    | cons next texts =>
      rw [String.intercalate_cons_cons, String.intercalate_cons_cons]
      simp only [String.append_assoc]

/-! ## What a call gives -/

namespace Edit

/-- The modifiers that a call gives. -/
@[simp]
def modifiers : Edit → List Modifier
  | addModifiers ms => ms
  | _ => []

/-- The field that a call adds. -/
@[simp]
def field? : Edit → Option Field
  | addField f => some f
  | _ => none

/-- The method that a call adds. -/
@[simp]
def method? : Edit → Option Method
  | addMethod m => some m
  | _ => none

/-- The block that a call adds to the static initializer. -/
@[simp]
def block? : Edit → Option Block
  | addStaticBlock b => some b
  | _ => none

/-- The text that a call adds to the documentation. -/
@[simp]
def text? : Edit → Option String
  | addDoc text => some text
  | _ => none

end Edit

namespace TypeBuilder

/-! ## One call -/

/-- The outcome of a call, and the builder after it. A refused call leaves the builder as it was. -/
def attempt (b : TypeBuilder) (e : Edit) : Except Fault Answer × TypeBuilder :=
  match b.apply e with
  | .ok (answer, c) => (.ok answer, c)
  | .error fault => (.error fault, b)

/-- The faults with which a builder refuses a call: the call adds a member, and there is one of its
name. -/
inductive Refuses (b : TypeBuilder) : Edit → Fault → Prop where
  /-- There is a field of the name. -/
  | field {f : Field} (h : ∃ g ∈ b.fields, g.name = f.name) :
      Refuses b (.addField f) (.memberDuplicate b.name "field" f.name)
  /-- There is a method of the name. -/
  | method {m : Method} (h : ∃ n ∈ b.methods, n.name = m.name) :
      Refuses b (.addMethod m) (.memberDuplicate b.name "method" m.name)

variable {b c : TypeBuilder}

/-- `hasField` finds the name of a field. -/
theorem hasField_iff {name : String} : b.hasField name = true ↔ ∃ f ∈ b.fields, f.name = name := by
  simp [hasField]

/-- `hasMethod` finds the name of a method. -/
theorem hasMethod_iff {name : String} :
    b.hasMethod name = true ↔ ∃ m ∈ b.methods, m.name = name := by
  simp [hasMethod]

/-- `apply` fails exactly where the builder `Refuses` the call. -/
theorem apply_eq_error_iff {e : Edit} {fault : Fault} :
    b.apply e = .error fault ↔ b.Refuses e fault := by
  constructor
  · intro h
    -- only the calls that add a field or a method can fail
    cases e with
    | addField f =>
      rw [apply] at h
      split at h
      next hfield =>
        cases h
        exact .field (hasField_iff.1 hfield)
      next => cases h
    | addMethod m =>
      rw [apply] at h
      split at h
      next hmethod =>
        cases h
        exact .method (hasMethod_iff.1 hmethod)
      next => cases h
    | _ => cases h
  · intro h
    cases h with
    | field h => rw [apply, if_pos (hasField_iff.2 h)]
    | method h => rw [apply, if_pos (hasMethod_iff.2 h)]

/-- `attempt` fails exactly where the builder `Refuses` the call, and then it changes nothing. -/
theorem attempt_eq_error_iff {e : Edit} {fault : Fault} :
    b.attempt e = (.error fault, c) ↔ c = b ∧ b.Refuses e fault := by
  rw [← apply_eq_error_iff, attempt]
  cases b.apply e with
  | ok r => exact iff_of_false (by simp) (by simp)
  | error g => simp [and_comm, eq_comm]

/-- `attempt` answers as `apply` does. -/
theorem attempt_fst (b : TypeBuilder) (e : Edit) : (b.attempt e).1 = (b.apply e).map Prod.fst := by
  rw [attempt]
  cases b.apply e <;> rfl

/-- The calls among one that are carried out: the call itself or none. -/
def accepted (b : TypeBuilder) (e : Edit) : List Edit := if (b.attempt e).1.isOk then [e] else []

/-- What `attempt` makes of each part of the class. -/
theorem attempt_snd (b : TypeBuilder) (e : Edit) : (b.attempt e).2 =
    { name := b.name
      modifiers := b.modifiers ++ e.modifiers
      fields := b.fields ++ (b.accepted e).filterMap Edit.field?
      methods := b.methods ++ (b.accepted e).filterMap Edit.method?
      staticBlock := joinedBlocks (b.staticBlock.toList ++ e.block?.toList)
      doc := joinedTexts (b.doc :: e.text?.toList) } := by
  have hblock : joinedBlocks b.staticBlock.toList = b.staticBlock := by
    cases b.staticBlock <;> simp [joinedBlocks]
  -- each call gives one part or none, and leaves the others alone
  cases e with
  | addField f =>
    by_cases h : b.hasField f.name = true <;>
      simp [attempt, apply, accepted, h, hblock, joinedTexts_singleton, Except.isOk, Except.toBool]
  | addMethod m =>
    by_cases h : b.hasMethod m.name = true <;>
      simp [attempt, apply, accepted, h, hblock, joinedTexts_singleton, Except.isOk, Except.toBool]
  | addStaticBlock block =>
    cases hold : b.staticBlock <;>
      simp [attempt, apply, accepted, hold, joinedTexts_singleton, joinedBlocks, Block.append,
        List.filterMap_cons, Except.isOk, Except.toBool]
  | addDoc text =>
    simp [attempt, apply, accepted, hblock, joinDoc_eq_joinedTexts, List.filterMap_cons,
      Except.isOk, Except.toBool]
  | _ =>
    simp [attempt, apply, accepted, hblock, joinedTexts_singleton, List.filterMap_cons, Except.isOk,
      Except.toBool]

/-! ## Builders that describe the same class -/

/-- What `build` depends on: every part of a builder, but of its modifiers only which ones they
are. -/
theorem build_eq_iff :
    b.build = c.build ↔ b.name = c.name ∧ (∀ m, m ∈ b.modifiers ↔ m ∈ c.modifiers) ∧
      b.fields = c.fields ∧ b.methods = c.methods ∧ b.staticBlock = c.staticBlock ∧
      b.doc = c.doc := by
  have hmodifiers : Modifier.canonical b.modifiers = Modifier.canonical c.modifiers ↔
      ∀ m, m ∈ b.modifiers ↔ m ∈ c.modifiers := by
    refine ⟨fun h m => ?_, Modifier.canonical_congr⟩
    rw [← Modifier.mem_canonical, h, Modifier.mem_canonical]
  rw [build, build, TypeDescription.mk.injEq, hmodifiers]

/-- `ofType` hands a class over to a builder that describes the same class. -/
theorem build_ofType_build (b : TypeBuilder) : (ofType b.build).build = b.build := by
  rw [build, ofType, build, Modifier.canonical_canonical]

/-- Builders that describe the same class answer an `attempt` alike, and describe the same class
afterwards. -/
theorem attempt_of_build_eq (h : b.build = c.build) (e : Edit) :
    (b.attempt e).1 = (c.attempt e).1 ∧ (b.attempt e).2.build = (c.attempt e).2.build := by
  obtain ⟨hname, hmodifiers, hfields, hmethods, hblock, hdoc⟩ := build_eq_iff.1 h
  -- no answer depends on the modifiers
  have hanswer : (b.attempt e).1 = (c.attempt e).1 := by
    rw [attempt_fst, attempt_fst]
    cases e with
    | addField f =>
      rw [apply, apply, hasField, hasField, hfields, hname]
      split <;> rfl
    | addMethod m =>
      rw [apply, apply, hasMethod, hasMethod, hmethods, hname]
      split <;> rfl
    | _ => simp only [apply, hasMethod, method?, hmethods, hname, Except.map]
  -- with the same answer the same part is added, and the modifiers that are there stay the same
  refine ⟨hanswer, build_eq_iff.2 ?_⟩
  rw [attempt_snd, attempt_snd]
  simp only [accepted, hname, hfields, hmethods, hblock, hdoc, hanswer, List.mem_append, hmodifiers,
    implies_true, and_self]

/-! ## Runs -/

/-- A step of a run. -/
inductive Step where
  /-- A call. -/
  | call (e : Edit)
  /-- The class described so far is handed over to a new builder. -/
  | rebuild

namespace Step

/-- The call of a step. -/
@[simp]
def edit? : Step → Option Edit
  | call e => some e
  | rebuild => none

/-- The step is a call. -/
@[simp]
def isCall : Step → Bool
  | call _ => true
  | rebuild => false

end Step

/-- The calls of a run. -/
def calls (steps : List Step) : List Edit := steps.filterMap Step.edit?

/-- There are no `calls` in no steps. -/
@[simp]
theorem calls_nil : calls [] = [] := rfl

/-- A call is one of the `calls`. -/
@[simp]
theorem calls_call (e : Edit) (steps : List Step) :
    calls (.call e :: steps) = e :: calls steps := rfl

/-- Handing over is none of the `calls`. -/
@[simp]
theorem calls_rebuild (steps : List Step) : calls (.rebuild :: steps) = calls steps := rfl

/-- The builder after a run. -/
def after (b : TypeBuilder) : List Step → TypeBuilder
  | [] => b
  | .call e :: steps => (b.attempt e).2.after steps
  | .rebuild :: steps => (ofType b.build).after steps

/-- The outcomes of the calls of a run. -/
def outcomes (b : TypeBuilder) : List Step → List (Except Fault Answer)
  | [] => []
  | .call e :: steps => (b.attempt e).1 :: (b.attempt e).2.outcomes steps
  | .rebuild :: steps => (ofType b.build).outcomes steps

/-- The calls of a run that are not refused. -/
def carriedOut (b : TypeBuilder) (steps : List Step) : List Edit :=
  (((calls steps).zip (b.outcomes steps)).filter (·.2.isOk)).map Prod.fst

/-- `carriedOut` has a call if it is `accepted`, and then those of the steps after it. -/
theorem carriedOut_call (b : TypeBuilder) (e : Edit) (steps : List Step) :
    b.carriedOut (.call e :: steps) = b.accepted e ++ (b.attempt e).2.carriedOut steps := by
  rw [carriedOut, accepted, outcomes, calls_call, List.zip_cons_cons, List.filter_cons]
  split <;> rfl

/-- Handing over adds nothing to `carriedOut`. -/
theorem carriedOut_rebuild (b : TypeBuilder) (steps : List Step) :
    b.carriedOut (.rebuild :: steps) = (ofType b.build).carriedOut steps := rfl

/-- Builders that describe the same class do so `after` every run, and all `outcomes` are the
same. -/
theorem run_of_build_eq (h : b.build = c.build) (steps : List Step) :
    b.outcomes steps = c.outcomes steps ∧ (b.after steps).build = (c.after steps).build := by
  induction steps generalizing b c with
  | nil => exact ⟨rfl, h⟩
  | cons step steps ih =>
    cases step with
    | call e =>
      obtain ⟨hanswer, hbuild⟩ := attempt_of_build_eq h e
      obtain ⟨houtcomes, hafter⟩ := ih hbuild
      rw [outcomes, outcomes, hanswer, houtcomes]
      exact ⟨rfl, hafter⟩
    | rebuild => exact ih (by rw [build_ofType_build, build_ofType_build, h])

/-- Handing over is not observable: without it a run has the same `outcomes` and describes the same
class. -/
theorem run_calls (b : TypeBuilder) (steps : List Step) :
    b.outcomes (steps.filter Step.isCall) = b.outcomes steps ∧
      (b.after (steps.filter Step.isCall)).build = (b.after steps).build := by
  induction steps generalizing b with
  | nil => exact ⟨rfl, rfl⟩
  | cons step steps ih =>
    cases step with
    | call e =>
      obtain ⟨houtcomes, hafter⟩ := ih (b.attempt e).2
      rw [List.filter_cons_of_pos rfl, outcomes, outcomes, houtcomes]
      exact ⟨rfl, hafter⟩
    | rebuild =>
      -- the builder before describes the same class as the new one
      obtain ⟨houtcomes, hafter⟩ := run_of_build_eq (build_ofType_build b) steps
      rw [List.filter_cons_of_neg (by simp), outcomes, houtcomes, after, hafter]
      exact ih b

/-! ## The parts of the class -/

/-- A run leaves the name as it is. -/
theorem after_name (b : TypeBuilder) (steps : List Step) : (b.after steps).name = b.name := by
  induction steps generalizing b with
  | nil => rfl
  | cons step steps ih =>
    cases step with
    | call e => rw [after, ih, attempt_snd]
    | rebuild => exact ih _

/-- The modifiers `after` a run are those at first and all that its `calls` give. -/
theorem mem_after_modifiers (b : TypeBuilder) (steps : List Step) (m : Modifier) :
    m ∈ (b.after steps).modifiers ↔ m ∈ b.modifiers ++ (calls steps).flatMap Edit.modifiers := by
  induction steps generalizing b with
  | nil => simp [after, calls]
  | cons step steps ih =>
    cases step with
    | call e =>
      rw [after, ih, attempt_snd, calls_call, List.flatMap_cons, List.append_assoc]
    | rebuild =>
      -- putting the modifiers in order loses none
      rw [after, ih, List.mem_append, List.mem_append, ofType, build, Modifier.mem_canonical]
      rfl

/-- The static block `after` a run is what `joinedBlocks` makes of the one at first and of the added
ones. -/
theorem after_staticBlock (b : TypeBuilder) (steps : List Step) :
    (b.after steps).staticBlock =
      joinedBlocks (b.staticBlock.toList ++ (calls steps).filterMap Edit.block?) := by
  induction steps generalizing b with
  | nil => cases hold : b.staticBlock <;> simp [after, calls, hold, joinedBlocks]
  | cons step steps ih =>
    cases step with
    | call e =>
      have hcalls : (calls (.call e :: steps)).filterMap Edit.block? =
          e.block?.toList ++ (calls steps).filterMap Edit.block? := by
        rw [calls_call, List.filterMap_cons]
        cases e.block? <;> rfl
      rw [after, ih, attempt_snd, joinedBlocks_joinedBlocks, hcalls, List.append_assoc]
    | rebuild => exact ih _

/-- The documentation `after` a run is what `joinedTexts` makes of the one at first and of the added
texts. -/
theorem after_doc (b : TypeBuilder) (steps : List Step) :
    (b.after steps).doc = joinedTexts (b.doc :: (calls steps).filterMap Edit.text?) := by
  induction steps generalizing b with
  | nil => exact (joinedTexts_singleton b.doc).symm
  | cons step steps ih =>
    cases step with
    | call e =>
      rw [after, ih, attempt_snd, calls_call, List.filterMap_cons]
      cases e.text? with
      | none => rw [Option.toList_none, joinedTexts_singleton]
      | some text => exact joinedTexts_joinedTexts b.doc text _
    | rebuild => exact ih _

/-! ## Fields and methods -/

/-- A kind of members: the fields or the methods. -/
structure Members (α : Type) where
  /-- The members that a builder has. -/
  of : TypeBuilder → List α
  /-- The member that a call adds. -/
  added? : Edit → Option α
  /-- The name of a member. -/
  name : α → String
  /-- A call that is carried out puts its member after the others. -/
  of_attempt : ∀ b e, of (b.attempt e).2 = of b ++ (b.accepted e).filterMap added?
  /-- Handing over keeps the members. -/
  of_rebuild : ∀ b, of (ofType b.build) = of b
  /-- A member is refused where there is one of its name. -/
  present : ∀ b e fault a, b.Refuses e fault → added? e = some a → ∃ g ∈ of b, name g = name a

/-- The fields. -/
def fieldMembers : Members Field where
  of := TypeBuilder.fields
  added? := Edit.field?
  name := Field.name
  of_attempt := fun b e => congrArg TypeBuilder.fields (attempt_snd b e)
  of_rebuild := fun _ => rfl
  present := fun b e fault a hrefuses ha => by
    cases hrefuses with
    | field h =>
      obtain rfl := Option.some.inj ha
      exact h
    | method h => cases ha

/-- The methods. -/
def methodMembers : Members Method where
  of := TypeBuilder.methods
  added? := Edit.method?
  name := Method.name
  of_attempt := fun b e => congrArg TypeBuilder.methods (attempt_snd b e)
  of_rebuild := fun _ => rfl
  present := fun b e fault a hrefuses ha => by
    cases hrefuses with
    | method h =>
      obtain rfl := Option.some.inj ha
      exact h
    | field h => cases ha

namespace Members

variable {α : Type} (k : Members α)

/-- The members of a kind `k` after a run are those at first, and then those whose calls were
`carriedOut`. -/
theorem of_after (b : TypeBuilder) (steps : List Step) :
    k.of (b.after steps) = k.of b ++ (b.carriedOut steps).filterMap k.added? := by
  induction steps generalizing b with
  | nil => simp [after, carriedOut]
  | cons step steps ih =>
    cases step with
    | call e =>
      rw [after, ih, k.of_attempt, carriedOut_call, List.filterMap_append, List.append_assoc]
    | rebuild => rw [after, ih, k.of_rebuild, carriedOut_rebuild]

/-- After a call there is a member of the name `s` if there was one, or if the call adds one, be it
refused. -/
theorem exists_attempt_iff (b : TypeBuilder) (e : Edit) (s : String) :
    (∃ a ∈ k.of (b.attempt e).2, k.name a = s) ↔
      ∃ a ∈ k.of b ++ (k.added? e).toList, k.name a = s := by
  cases hrun : b.attempt e with
  | mk outcome c =>
    cases outcome with
    | ok answer =>
      have hadded : [e].filterMap k.added? = (k.added? e).toList := by
        cases h : k.added? e <;> simp [h]
      have haccepted : b.accepted e = [e] := by
        rw [accepted, hrun]
        rfl
      have hof := k.of_attempt b e
      rw [haccepted, hadded, hrun] at hof
      rw [hof]
    | error fault =>
      -- nothing is added
      obtain ⟨rfl, hrefuses⟩ := attempt_eq_error_iff.1 hrun
      refine ⟨fun ⟨a, ha, hs⟩ => ⟨a, List.mem_append_left _ ha, hs⟩, fun ⟨a, ha, hs⟩ => ?_⟩
      rcases List.mem_append.1 ha with ha | ha
      · exact ⟨a, ha, hs⟩
      · -- the refused member has a name that is there
        obtain ⟨g, hg, hname⟩ := k.present c e fault a hrefuses (Option.mem_toList.1 ha)
        exact ⟨g, hg, hname.trans hs⟩

/-- After a run there is a member of the name `s` exactly if there was one at first or one of the
`calls` gives one. -/
theorem exists_after_iff (b : TypeBuilder) (steps : List Step) (s : String) :
    (∃ a ∈ k.of (b.after steps), k.name a = s) ↔
      ∃ a ∈ k.of b ++ (calls steps).filterMap k.added?, k.name a = s := by
  induction steps generalizing b with
  | nil => simp [after]
  | cons step steps ih =>
    cases step with
    | call e =>
      have hcalls : (calls (.call e :: steps)).filterMap k.added? =
          (k.added? e).toList ++ (calls steps).filterMap k.added? := by
        rw [calls_call, List.filterMap_cons]
        cases k.added? e <;> rfl
      -- the members at first, the one of this call and the later ones can each have the name
      have hsplit : ∀ l m : List α, (∃ a ∈ l ++ m, k.name a = s) ↔
          (∃ a ∈ l, k.name a = s) ∨ ∃ a ∈ m, k.name a = s := by
        simp only [List.mem_append, or_and_right, exists_or, implies_true]
      rw [after, ih, hcalls, ← List.append_assoc, hsplit, hsplit, exists_attempt_iff]
    | rebuild => rw [after, ih, k.of_rebuild, calls_rebuild]

end Members

/-- The class that a run describes, whichever the builder at first: a new one of a name, or one that
a class was handed over to, members repeated and modifiers in any order.

The name stays. Fields and methods are those at first and then the added ones whose calls were not
refused, in the order of the calls; a call is refused if it adds a member of a name that is there,
and then it changes nothing; and a name is there if it was at first, or if it was given before, be
it in a call that was refused. There is a static block if there was one or one was added, and it has
the statements of all of them in order. The documentation has all texts on lines of their own,
leading empty ones left out. The modifiers are the distinct ones that were ever given, in canonical
order.

Handing over is not observable: the run of the calls alone has the same outcomes and describes the
same class. -/
theorem run_closed_form (b : TypeBuilder) (steps : List Step) :
    (b.after steps).build =
      { name := b.name
        modifiers :=
          Modifier.all.filter (· ∈ b.modifiers ++ (calls steps).flatMap Edit.modifiers)
        fields := b.fields ++ (b.carriedOut steps).filterMap Edit.field?
        methods := b.methods ++ (b.carriedOut steps).filterMap Edit.method?
        staticBlock := joinedBlocks (b.staticBlock.toList ++ (calls steps).filterMap Edit.block?)
        doc := joinedTexts (b.doc :: (calls steps).filterMap Edit.text?) } ∧
    (∀ e fault c, (b.after steps).attempt e = (.error fault, c) ↔
      c = b.after steps ∧ (b.after steps).Refuses e fault) ∧
    (∀ name, (∃ f ∈ (b.after steps).fields, f.name = name) ↔
      ∃ f ∈ b.fields ++ (calls steps).filterMap Edit.field?, f.name = name) ∧
    (∀ name, (∃ m ∈ (b.after steps).methods, m.name = name) ↔
      ∃ m ∈ b.methods ++ (calls steps).filterMap Edit.method?, m.name = name) ∧
    b.outcomes (steps.filter Step.isCall) = b.outcomes steps ∧
    (b.after (steps.filter Step.isCall)).build = (b.after steps).build := by
  refine ⟨?_, fun _ _ _ => attempt_eq_error_iff, fieldMembers.exists_after_iff b steps,
    methodMembers.exists_after_iff b steps, run_calls b steps⟩
  -- of the modifiers only which ones they are counts, since building puts them in order
  have hmodifiers : Modifier.canonical (b.after steps).modifiers =
      Modifier.all.filter (· ∈ b.modifiers ++ (calls steps).flatMap Edit.modifiers) :=
    Modifier.canonical_congr (mem_after_modifiers b steps)
  have hfields : (b.after steps).fields = _ := fieldMembers.of_after b steps
  have hmethods : (b.after steps).methods = _ := methodMembers.of_after b steps
  rw [build, after_name, hmodifiers, hfields, hmethods, after_staticBlock, after_doc]
  rfl

/-- A class with two fields of one name and its modifiers out of order is handed over, and a field,
a method and texts are added with a rebuild in between. -/
example :
    let f : Field := .of "int" "x" [] none
    let m : Method := .of "get" "int" [] .empty ""
    let b := ofType ⟨"A", [.static, .public, .static], [f, f], [], none, ""⟩
    let steps := [Step.call (.addDoc ""), .call (.addField f), .rebuild, .call (.addMethod m),
      .call (.addDoc "a"), .call (.addMethod m), .call (.addDoc "")]
    (b.after steps).build = ⟨"A", [.public, .static], [f, f], [m], none, "a\n"⟩ := by
  decide

end TypeBuilder

end FactoryRegistry
