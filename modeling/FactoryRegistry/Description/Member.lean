import FactoryRegistry.Description.Modifier

/-!
# Blocks and members

A block is a sequence of statements, which are opaque texts. Fields and methods are the members of
a type; both keep their modifiers in canonical order, which `Field.of` and `Method.of` see to.
-/

namespace FactoryRegistry

/-- A sequence of statements. -/
structure Block where
  /-- The statements, in order. -/
  statements : List String := []
  deriving DecidableEq, Repr

namespace Block

/-- A block without statements. -/
def empty : Block := ⟨[]⟩

/-- The block with a further statement. -/
def add (b : Block) (statement : String) : Block := ⟨b.statements ++ [statement]⟩

/-- The statements of one block followed by those of another. -/
def append (b c : Block) : Block := ⟨b.statements ++ c.statements⟩

/-- The number of statements. -/
def size (b : Block) : Nat := b.statements.length

/-- The block has no statement. -/
def isEmpty (b : Block) : Bool := b.statements.isEmpty

/-- A block as data. -/
def view (b : Block) : Json := .object [("statements", .texts b.statements)]

end Block

/-- A field declaration. -/
structure Field where
  /-- The name of the field's type. -/
  typeName : String
  /-- The name of the field. -/
  name : String
  /-- The modifiers of the field. -/
  modifiers : List Modifier
  /-- The expression the field starts with. -/
  initializer : Option String
  deriving DecidableEq, Repr

namespace Field

/-- A field with its modifiers brought into canonical order. -/
def of (typeName name : String) (modifiers : List Modifier) (initializer : Option String) :
    Field :=
  ⟨typeName, name, Modifier.canonical modifiers, initializer⟩

/-- A field as data. -/
def view (f : Field) : Json := .object [
  ("type", .text f.typeName),
  ("name", .text f.name),
  ("modifiers", Modifier.view f.modifiers),
  ("initializer", .optionalText f.initializer)]

end Field

/-- A method declaration. -/
structure Method where
  /-- The name of the method. -/
  name : String
  /-- The type that the method returns. -/
  returnType : String
  /-- The modifiers of the method. -/
  modifiers : List Modifier
  /-- The body of the method. -/
  code : Block
  /-- The documentation of the method. -/
  doc : String
  deriving DecidableEq, Repr

namespace Method

/-- The return type of a method that states none. -/
def defaultReturnType : String := "void"

/-- A method with its modifiers brought into canonical order. -/
def of (name returnType : String) (modifiers : List Modifier) (code : Block) (doc : String) :
    Method :=
  ⟨name, returnType, Modifier.canonical modifiers, code, doc⟩

/-- A method as data. -/
def view (m : Method) : Json := .object [
  ("name", .text m.name),
  ("return_type", .text m.returnType),
  ("modifiers", Modifier.view m.modifiers),
  ("code", .texts m.code.statements),
  ("doc", .text m.doc)]

end Method

end FactoryRegistry
