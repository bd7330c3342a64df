import FactoryRegistry.Association
import FactoryRegistry.Kind
import FactoryRegistry.Number.Binary64

/-!
# JSON values

Values of the JSON data model. Integers and real numbers are told apart, and the members of an
object keep their order. `Json.put` sets a member the way a reader of repeated names does: the
last value counts and the first position is kept.
-/

namespace FactoryRegistry

open Number

/-- A JSON value. -/
inductive Json where
  /-- The value `null`. -/
  | null
  /-- A truth value. -/
  | bool (b : Bool)
  /-- A number written without fraction and exponent. -/
  | int (n : Int)
  /-- Any other number. -/
  | real (x : Binary64)
  /-- A string. -/
  | text (s : String)
  /-- An array. -/
  | array (items : List Json)
  /-- An object, as its members in order. -/
  | object (members : List (String × Json))

namespace Json

/-- The members with one name set. -/
def put (name : String) (value : Json) (members : List (String × Json)) : List (String × Json) :=
  Association.put name value members

/-- The member of a name, if the value is an object that has one. -/
def get? (name : String) : Json → Option Json
  | object members => members.lookup name
  | _ => none

/-- The array of some strings. -/
def texts (ss : List String) : Json := array (ss.map text)

/-- A string, or `null` where there is none. -/
def optionalText : Option String → Json
  | some s => text s
  | none => null

/-- What kind of value this is. -/
def kind : Json → Kind
  | null => .null
  | bool _ => .bool
  | int _ => .int
  | real _ => .real
  | text _ => .text
  | array _ => .list
  | object _ => .map

end Json

end FactoryRegistry
