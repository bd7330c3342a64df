import FactoryRegistry.Calendar
import FactoryRegistry.Kind
import FactoryRegistry.Number.Binary64

/-!
# Configuration values

The values that documents are made of. A `Scalar` is a leaf or a key of a mapping; a mapping keeps
its entries in order.

One list or mapping may stand at several places of a `Value`, when a document refers back to it.
Such places carry the same label. A document may also refer back to a list or mapping that it has
not come to the end of; then that stands inside itself, where a `Value.loop` with its label takes
its place.
-/

namespace FactoryRegistry

open Number

/-- A value without parts. -/
inductive Scalar where
  /-- No value. -/
  | null
  /-- A truth value. -/
  | bool (b : Bool)
  /-- An integer. -/
  | int (n : Int)
  /-- A real number. -/
  | real (x : Binary64)
  /-- A text. -/
  | text (s : String)
  /-- A sequence of bytes. -/
  | bytes (bs : List UInt8)
  /-- A date. -/
  | date (d : Date)
  /-- A moment. -/
  | moment (m : Moment)
  deriving DecidableEq, Repr

namespace Scalar

/-- The not-a-number that documents write as a literal. As a key it is always the same key, unlike
any other not-a-number. -/
def literalNaN : Binary64 := ⟨0x7ff8000000000001⟩

/-- The integer that a scalar counts as, where truth values count as 0 and 1. -/
def int? : Scalar → Option Int
  | bool b => some (if b then 1 else 0)
  | int n => some n
  | _ => none

/-- Two scalars are the same key of a mapping. Numbers of different kinds are the same key when
they are equal, and moments when their instants are. -/
def sameKey (a b : Scalar) : Bool :=
  match a.int?, b.int? with
  | some m, some n => m == n
  | some m, none => match b with
    | real y => y.equalsInt m
    | _ => false
  | none, some n => match a with
    | real x => x.equalsInt n
    | _ => false
  | none, none => match a, b with
    | null, null => true
    | real x, real y => x.equals y || (x == literalNaN && y == literalNaN)
    | text s, text t => s == t
    | bytes bs, bytes cs => bs == cs
    | date d, date e => d == e
    | moment m, moment n => m.same n
    | _, _ => false

/-- Equal texts are the same key. -/
@[simp]
theorem sameKey_text (s t : String) : sameKey (text s) (text t) = (s == t) := rfl

end Scalar

/-- A value of a document. -/
inductive Value where
  /-- A value without parts. -/
  | scalar (s : Scalar)
  /-- A list with its label. -/
  | list (label : Nat) (items : List Value)
  /-- A mapping with its label. -/
  | map (label : Nat) (entries : List (Scalar × Value))
  /-- A set. -/
  | set (members : List Scalar)
  /-- A pair of an ordered list of pairs. -/
  | pair (first second : Value)
  /-- The list or mapping with the label, which this place is inside of. -/
  | loop (container : Container) (label : Nat)

namespace Value

/-- The value `null`. -/
def null : Value := scalar .null

/-- A text. -/
def text (s : String) : Value := scalar (.text s)

/-- The value of a key among entries. -/
def lookup (key : Scalar) : List (Scalar × Value) → Option Value
  | [] => none
  | (k, v) :: entries => if k.sameKey key then some v else lookup key entries

/-- Entries with the value of a key set. A key that is there keeps its place and its spelling; a new
one comes last. -/
def putEntry (key : Scalar) (value : Value) : List (Scalar × Value) → List (Scalar × Value)
  | [] => [(key, value)]
  | (k, v) :: entries =>
    if k.sameKey key then (k, value) :: entries else (k, v) :: putEntry key value entries

/-- The entries of a list of keys and values, set one after another. -/
def entriesOf (pairs : List (Scalar × Value)) : List (Scalar × Value) :=
  pairs.foldl (fun entries (k, v) => putEntry k v entries) []

/-- The members of a list, each once. -/
def membersOf (members : List Scalar) : List Scalar :=
  members.foldl (fun seen s => if seen.any (·.sameKey s) then seen else seen ++ [s]) []

/-- The value is a mapping. -/
def isMap : Value → Bool
  | map _ _ => true
  | _ => false

/-- What kind of value this is. -/
def kind : Value → Kind
  | scalar .null => .null
  | scalar (.bool _) => .bool
  | scalar (.int _) => .int
  | scalar (.real _) => .real
  | scalar (.text _) => .text
  | scalar (.bytes _) => .bytes
  | scalar (.date _) => .date
  | scalar (.moment _) => .moment
  | list _ _ => .list
  | map _ _ => .map
  | set _ => .set
  | pair _ _ => .pair
  | loop container _ => container.kind

/-- The value is not null, false, zero or empty. -/
def isTruthy : Value → Bool
  | scalar .null => false
  | scalar (.bool b) => b
  | scalar (.int n) => n != 0
  | scalar (.real x) => !x.equalsInt 0
  | scalar (.text s) => !s.isEmpty
  | scalar (.bytes bs) => !bs.isEmpty
  | list _ items => !items.isEmpty
  | map _ entries => !entries.isEmpty
  | set members => !members.isEmpty
  | _ => true

mutual

/-- Two values are equal: mappings up to the order of their entries, numbers by what they count. -/
def agrees : Value → Value → Bool
  | scalar a, scalar b => a.sameKey b
  | list _ vs, list _ ws => agreesItems vs ws
  | map _ es, map _ fs => es.length == fs.length && agreesEntries es fs
  | set as, set bs => as.length == bs.length && as.all fun a => bs.any (·.sameKey a)
  | pair a b, pair c d => agrees a c && agrees b d
  | loop c l, loop d m => c == d && l == m
  | _, _ => false

/-- Two lists are equal item by item. -/
def agreesItems : List Value → List Value → Bool
  | [], [] => true
  | v :: vs, w :: ws => agrees v w && agreesItems vs ws
  | _, _ => false

/-- Every entry has an equal one among others. -/
def agreesEntries : List (Scalar × Value) → List (Scalar × Value) → Bool
  | [], _ => true
  | (k, v) :: es, fs =>
    (match lookup k fs with
      | some w => agrees v w
      | none => false) && agreesEntries es fs

end

end Value

end FactoryRegistry
