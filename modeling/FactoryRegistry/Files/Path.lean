import FactoryRegistry.Text.Pieces

/-!
# Paths

A path is a root and the names on the way from it. Empty names and names of a single point say
nothing and are dropped; a name of two points stays, since the directory above depends on what the
names before it are.
-/

namespace FactoryRegistry

/-- Where a path starts. -/
inductive PathRoot where
  /-- At the working directory. -/
  | relative
  /-- At the root of all files. -/
  | absolute
  /-- At the root of all files, written with exactly two slashes. -/
  | doubled
  deriving DecidableEq, Repr

/-- A path. -/
structure Path where
  /-- Where it starts. -/
  root : PathRoot := .relative
  /-- The names on the way. -/
  names : List String
  deriving DecidableEq, Repr

namespace Path

/-- Where a written path starts. -/
def rootOf : List Char → PathRoot
  | '/' :: '/' :: '/' :: _ => .absolute
  | '/' :: '/' :: _ => .doubled
  | '/' :: _ => .absolute
  | _ => .relative

/-- The path of a text. -/
def of (s : String) : Path :=
  { root := rootOf s.toList
    names := ((Text.pieces '/' s.toList).map String.ofList).filter fun n => n != "" && n != "." }

/-- The text of a root. -/
def rootText : PathRoot → String
  | .relative => ""
  | .absolute => "/"
  | .doubled => "//"

/-- The text of a path. -/
def text (p : Path) : String :=
  let s := rootText p.root ++ "/".intercalate p.names
  if s.isEmpty then "." else s

/-- The path without its last name. -/
def parent (p : Path) : Path := { p with names := p.names.dropLast }

/-- The last name of a path. -/
def name (p : Path) : String := p.names.getLastD ""

/-- The suffix of a path: the last point of its name with what follows. A point at either end of the
name begins no suffix. -/
def suffix (p : Path) : String :=
  let cs := p.name.toList
  let extension := (cs.reverse.takeWhile (· != '.')).reverse
  let stem := cs.take (cs.length - extension.length - 1)
  if stem.isEmpty || extension.isEmpty then "" else String.ofList ('.' :: extension)

end Path

end FactoryRegistry
