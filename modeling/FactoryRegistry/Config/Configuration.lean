import FactoryRegistry.Config.Coercion
import FactoryRegistry.Config.Merge
import FactoryRegistry.Text.Pieces

/-!
# Configurations

A configuration is a mapping that is built up from sources, later ones taking precedence. A
document is merged into it as a whole. A variable of the environment sets one value: its name, after
a prefix and in lower case, is the path to the value, with `__` between the levels.

Every mapping of a configuration has a label. `Configuration.next` is a label that none of them has.
-/

namespace FactoryRegistry.Config

/-- The prefix of variables where none is stated. -/
def defaultPrefix : String := "SF_"

/-- A configuration. -/
structure Configuration where
  /-- The mapping of all values, with the label 0. -/
  root : Value := .map 0 []
  /-- The first label that is not in use. -/
  next : Nat := 1

/-- The parts of a text between the occurrences of `__`, found from left to right. `current` holds
the part being read, last character first. -/
def splitLevelsFrom (current : List Char) : List Char → List (List Char)
  | '_' :: '_' :: cs => current.reverse :: splitLevelsFrom [] cs
  | c :: cs => splitLevelsFrom (c :: current) cs
  | [] => [current.reverse]

/-- The levels of a path. -/
def splitLevels (cs : List Char) : List String :=
  (splitLevelsFrom [] cs).map String.ofList

/-- The path that the name of a variable stands for, if the name has the prefix. -/
def variablePath? (namePrefix name : String) : Option (List String) :=
  if namePrefix.toList.isPrefixOf name.toList then
    some (splitLevels (Text.lowercaseFrom [] (name.toList.drop namePrefix.length)))
  else none

namespace Configuration

/-- The configuration with the entries of a document merged into it. `next` is the first label that
the document does not use. What a failure leaves undone stays undone. -/
def merge (c : Configuration) (document : Value) (next : Nat)
    (depth : Nat := Value.defaultDepth) : Except Failure Unit × Configuration :=
  let (r, root) := c.root.mergeInto document depth
  (r, { root, next := max c.next next })

/-- The configuration with overrides merged into it, under labels that are free. -/
def mergeOverrides (c : Configuration) (v : Value) (depth : Nat := Value.defaultDepth) :
    Except Failure Unit × Configuration :=
  c.merge (v.relabel (c.next + ·)) (c.next + v.labelBound) depth

/-- The mapping under a key of the mapping `holder`. Where there is none, an empty one takes the
place of what is there. -/
def enter (c : Configuration) (holder : Value) (name : String) : Value × Configuration :=
  match holder.get? name, holder with
  | some (.map i inner), _ => (.map i inner, c)
  | _, .map l _ =>
    (.map c.next [],
      { root := Value.assign l (.text name) (.map c.next []) c.root, next := c.next + 1 })
  | _, _ => (holder, c)

/-- Sets the value under a key of the mapping `holder`. -/
def setAt (c : Configuration) (holder : Value) (name : String) (j : Json) : Configuration :=
  match holder with
  | .map l _ =>
    let (value, next) := Value.ofJson c.next j
    { root := Value.assign l (.text name) value c.root, next }
  | _ => c

/-- Sets the value of a path that starts at the mapping `holder`. The mappings on the way are made
before the value is found out, so they are there even when that fails. -/
def setPath (c : Configuration) (holder : Value) (raw : String) :
    List String → Except Failure Unit × Configuration
  | [] => (.ok (), c)
  | [leaf] =>
    match coerce raw with
    | .ok j => (.ok (), c.setAt holder leaf j)
    | .error failure => (.error failure, c)
  | name :: path =>
    let (inner, c) := c.enter holder name
    c.setPath inner raw path

/-- Merges variables in order. Variables without the prefix are passed over, and a failure ends the
merge. -/
def mergeVariables (namePrefix : String) (c : Configuration) :
    List (String × String) → Except Failure Unit × Configuration
  | [] => (.ok (), c)
  | (name, raw) :: others =>
    match variablePath? namePrefix name with
    | none => c.mergeVariables namePrefix others
    | some path =>
      match c.setPath c.root raw path with
      | (.ok (), c) => c.mergeVariables namePrefix others
      | (.error failure, c) => (.error failure, c)

/-- The value at a path of keys. -/
def valueAt? (v : Value) : List String → Option Value
  | [] => some v
  | name :: path => (v.get? name).bind fun inner => valueAt? inner path

/-- The levels of a path that is written with points. -/
def dottedPath (path : String) : List String :=
  (Text.pieces '.' path.toList).map String.ofList

/-- The value at a path written with points, if there is one. -/
def get? (c : Configuration) (path : String) : Option Value :=
  valueAt? c.root (dottedPath path)

end Configuration

end FactoryRegistry.Config
