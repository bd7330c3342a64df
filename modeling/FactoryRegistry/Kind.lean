/-!
# Kinds of values

The kinds that configuration values fall into, and the names by which messages speak of them.
-/

namespace FactoryRegistry

/-- A kind of value. -/
inductive Kind where
  /-- The value `null`. -/
  | null
  /-- Truth values. -/
  | bool
  /-- Integers. -/
  | int
  /-- Real numbers. -/
  | real
  /-- Texts. -/
  | text
  /-- Sequences of bytes. -/
  | bytes
  /-- Dates. -/
  | date
  /-- Moments. -/
  | moment
  /-- Lists. -/
  | list
  /-- Mappings. -/
  | map
  /-- Sets. -/
  | set
  /-- Pairs. -/
  | pair
  deriving DecidableEq, Repr

/-- A kind of value that may stand inside itself, and that a type may say the parts of. -/
inductive Container where
  /-- Lists. -/
  | list
  /-- Mappings. -/
  | map
  deriving DecidableEq, Repr

/-- The `Kind` of a container's values. -/
def Container.kind : Container → Kind
  | list => .list
  | map => .map

/-- The name of a kind in messages. -/
def Kind.name : Kind → String
  | null => "NoneType"
  | bool => "bool"
  | int => "int"
  | real => "float"
  | text => "str"
  | bytes => "bytes"
  | date => "date"
  | moment => "datetime"
  | list => "list"
  | map => "dict"
  | set => "set"
  | pair => "tuple"

end FactoryRegistry
