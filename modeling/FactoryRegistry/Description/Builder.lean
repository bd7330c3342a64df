import FactoryRegistry.Description.TypeDescription

/-!
# Building type descriptions

A builder collects the parts of a class and hands out descriptions of what it has so far. The calls
on a builder are data (`Edit`), each with an answer. A `Program` is a caller that makes calls one
after another; which call comes next may depend on the answers so far, a refused call included, and
the caller may give up at any point.
-/

namespace FactoryRegistry

/-- The parts of a class being described. -/
structure TypeBuilder where
  /-- The name of the class. -/
  name : String
  /-- The modifiers given so far. -/
  modifiers : List Modifier := []
  /-- The fields accepted so far. -/
  fields : List Field := []
  /-- The methods accepted so far. -/
  methods : List Method := []
  /-- The static initializer, if one was given. -/
  staticBlock : Option Block := none
  /-- The documentation given so far. -/
  doc : String := ""
  deriving DecidableEq, Repr

/-- A call on a builder. -/
inductive Edit where
  /-- Give modifiers. -/
  | addModifiers (ms : List Modifier)
  /-- Add a field of a new name. -/
  | addField (f : Field)
  /-- Add a method of a new name. -/
  | addMethod (m : Method)
  /-- Add statements to the static initializer. -/
  | addStaticBlock (b : Block)
  /-- Add a line of documentation. -/
  | addDoc (text : String)
  /-- Ask whether there is a method of a name. -/
  | hasMethod (name : String)
  /-- Ask for the first method of a name. -/
  | getMethod (name : String)
  /-- Ask for the name of the class. -/
  | getName

/-- What a call on a builder answers. -/
inductive Answer where
  /-- The call was carried out. -/
  | done
  /-- A truth value. -/
  | truth (b : Bool)
  /-- A method, if there is one. -/
  | method (m : Option Method)
  /-- A name. -/
  | name (s : String)

namespace TypeBuilder

/-- A builder with the parts of a class. -/
def ofType (t : TypeDescription) : TypeBuilder :=
  ⟨t.name, t.modifiers, t.fields, t.methods, t.staticBlock, t.doc⟩

/-- The class described so far, its modifiers in canonical order. -/
def build (b : TypeBuilder) : TypeDescription :=
  ⟨b.name, Modifier.canonical b.modifiers, b.fields, b.methods, b.staticBlock, b.doc⟩

/-- The builder has a field of a name. -/
def hasField (b : TypeBuilder) (name : String) : Bool := b.fields.any (·.name == name)

/-- The builder has a method of a name. -/
def hasMethod (b : TypeBuilder) (name : String) : Bool := b.methods.any (·.name == name)

/-- The first method of a name. -/
def method? (b : TypeBuilder) (name : String) : Option Method :=
  b.methods.find? (·.name == name)

/-- Documentation with a further text on a line of its own; an empty documentation is replaced. -/
def joinDoc (doc text : String) : String :=
  if doc.isEmpty then text else s!"{doc}\n{text}"

/-- One call: its answer and the builder after it, or the fault with which it is refused. -/
def apply (b : TypeBuilder) : Edit → Except Fault (Answer × TypeBuilder)
  | .addModifiers ms => .ok (.done, { b with modifiers := b.modifiers ++ ms })
  | .addField f =>
    if b.hasField f.name then .error (.memberDuplicate b.name "field" f.name)
    else .ok (.done, { b with fields := b.fields ++ [f] })
  | .addMethod m =>
    if b.hasMethod m.name then .error (.memberDuplicate b.name "method" m.name)
    else .ok (.done, { b with methods := b.methods ++ [m] })
  | .addStaticBlock block =>
    let joined := match b.staticBlock with
      | some first => first.append block
      | none => block
    .ok (.done, { b with staticBlock := some joined })
  | .addDoc text => .ok (.done, { b with doc := joinDoc b.doc text })
  | .hasMethod name => .ok (.truth (b.hasMethod name), b)
  | .getMethod name => .ok (.method (b.method? name), b)
  | .getName => .ok (.name b.name, b)

end TypeBuilder

/-- A caller of a builder. -/
inductive Program where
  /-- The caller is finished. -/
  | finish
  /-- The caller gives up. -/
  | abort (failure : Failure)
  /-- The caller makes a call and goes on with its outcome. -/
  | call (edit : Edit) (next : Except Fault Answer → Program)

namespace Program

/-- The builder that a program leaves, or the failure with which it gave up. A refused call leaves
the builder as it was. -/
def run : Program → TypeBuilder → Except Failure TypeBuilder
  | finish, b => .ok b
  | abort failure, _ => .error failure
  | call edit next, b =>
    match b.apply edit with
    | .ok (answer, b) => (next (.ok answer)).run b
    | .error fault => (next (.error fault)).run b

/-- The program that makes calls in order and gives up at the first one that is refused. A call
that could not even be made stands in the list as its failure. -/
def ofCalls : List (Except Failure Edit) → Program
  | [] => finish
  | .error failure :: _ => abort failure
  | .ok edit :: calls =>
    call edit fun
      | .ok _ => ofCalls calls
      | .error fault => abort (.fault fault)

end Program

end FactoryRegistry
