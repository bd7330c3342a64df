import FactoryRegistry.Description.Member

/-!
# Type descriptions and source files

A type description is a class with its members; it may repeat member names and list its modifiers
in any way. A source file is one such type and the package it belongs to.
-/

namespace FactoryRegistry

/-- A class description. -/
structure TypeDescription where
  /-- The name of the class. -/
  name : String
  /-- The modifiers of the class. -/
  modifiers : List Modifier
  /-- The fields, in order. -/
  fields : List Field
  /-- The methods, in order. -/
  methods : List Method
  /-- The static initializer, which may be present and empty. -/
  staticBlock : Option Block
  /-- The documentation of the class. -/
  doc : String
  deriving DecidableEq, Repr

namespace TypeDescription

/-- The class has a field or a method. -/
def hasMembers (t : TypeDescription) : Bool := !t.fields.isEmpty || !t.methods.isEmpty

/-- The first method of a name. -/
def method? (t : TypeDescription) (name : String) : Option Method :=
  t.methods.find? (·.name == name)

/-- A class as data. -/
def view (t : TypeDescription) : Json := .object [
  ("name", .text t.name),
  ("modifiers", Modifier.view t.modifiers),
  ("fields", .array (t.fields.map Field.view)),
  ("methods", .array (t.methods.map Method.view)),
  ("static_block", match t.staticBlock with
    | some b => .texts b.statements
    | none => .null),
  ("doc", .text t.doc)]

end TypeDescription

/-- A class and the package it belongs to. -/
structure SourceFile where
  /-- The package, empty for the unnamed one. -/
  package : String
  /-- The class. -/
  type : TypeDescription
  deriving DecidableEq, Repr

namespace SourceFile

/-- The name of the class with its package in front. -/
def qualifiedName (f : SourceFile) : String :=
  if f.package.isEmpty then f.type.name else s!"{f.package}.{f.type.name}"

/-- A source file as data. -/
def view (f : SourceFile) : Json := .object [
  ("package", .text f.package),
  ("qualified_name", .text f.qualifiedName),
  ("type", f.type.view)]

end SourceFile

end FactoryRegistry
