import FactoryRegistry.Failure

/-!
# Declaration modifiers

The modifiers of a declaration and their canonical order. A declaration lists each of its
modifiers once, in that order (`Modifier.canonical`).
-/

namespace FactoryRegistry

/-- A modifier of a declaration. -/
inductive Modifier where
  /-- Visible everywhere. -/
  | «public»
  /-- Visible to subtypes and in the package. -/
  | «protected»
  /-- Visible in the type alone. -/
  | «private»
  /-- To be completed by a subtype. -/
  | «abstract»
  /-- Belonging to the type and not to its instances. -/
  | static
  /-- Not to be replaced. -/
  | final
  deriving DecidableEq, Repr

namespace Modifier

/-- Every modifier, in canonical order. -/
def all : List Modifier := [«public», «protected», «private», «abstract», static, final]

/-- The name of a modifier. -/
def name : Modifier → String
  | «public» => "public"
  | «protected» => "protected"
  | «private» => "private"
  | «abstract» => "abstract"
  | static => "static"
  | final => "final"

/-- The modifier of a name. -/
def ofName (name : String) : Except Failure Modifier :=
  match all.find? (·.name == name) with
  | some m => .ok m
  | none => .error (.unknownName "Modifier" name)

/-- The distinct modifiers of a list in canonical order. -/
def canonical (ms : List Modifier) : List Modifier := all.filter (· ∈ ms)

/-- Every modifier is listed. -/
theorem mem_all (m : Modifier) : m ∈ all := by cases m <;> decide

/-- The canonical list has the modifiers of the given one. -/
@[simp]
theorem mem_canonical {m : Modifier} {ms : List Modifier} : m ∈ canonical ms ↔ m ∈ ms := by
  simp [canonical, mem_all]

/-- The canonical list depends only on which modifiers are given. -/
theorem canonical_congr {ms ns : List Modifier} (h : ∀ m, m ∈ ms ↔ m ∈ ns) :
    canonical ms = canonical ns := by
  simp [canonical, h]

/-- A canonical list is canonical already. -/
@[simp]
theorem canonical_canonical (ms : List Modifier) : canonical (canonical ms) = canonical ms :=
  canonical_congr fun _ => mem_canonical

/-- The names of some modifiers. -/
def view (ms : List Modifier) : Json := .texts (ms.map name)

end Modifier

end FactoryRegistry
