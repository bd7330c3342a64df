import FactoryRegistry.Json.Value
import FactoryRegistry.Value.Basic

/-!
# Labels

What labels mean. Values at places with the same label are the same list or mapping, so a change to
the mapping shows at all of them: `Value.assign` sets a key in every mapping with a label.

A list or mapping that stands inside itself has a `Value.loop` there. Whoever takes a part out of it
reads the part with the whole in place of the loops (`Value.entries`, `Value.items`), and a mapping
that comes to stand inside itself is a loop from then on (`Value.folded`).
-/

namespace FactoryRegistry.Value

mutual

/-- A value with other values in place of some of its parts: those for which `f` gives one. -/
def substitute (f : Value → Option Value) : Value → Value
  | list l items => (f (list l items)).getD (list l (substituteItems f items))
  | map l entries => (f (map l entries)).getD (map l (substituteEntries f entries))
  | pair first second =>
    (f (pair first second)).getD (pair (substitute f first) (substitute f second))
  | scalar s => (f (scalar s)).getD (scalar s)
  | set members => (f (set members)).getD (set members)
  | loop container l => (f (loop container l)).getD (loop container l)

/-- `substitute` in some values. -/
def substituteItems (f : Value → Option Value) : List Value → List Value
  | [] => []
  | v :: items => substitute f v :: substituteItems f items

/-- `substitute` in the values of some entries. -/
def substituteEntries (f : Value → Option Value) :
    List (Scalar × Value) → List (Scalar × Value)
  | [] => []
  | (k, v) :: entries => (k, substitute f v) :: substituteEntries f entries

end

/-- What a `loop` of a container with a label stands for, where that is `whole`. -/
def looped? (container : Container) (label : Nat) (whole : Value) : Value → Option Value
  | loop c l => if c = container ∧ l = label then some whole else none
  | _ => none

/-- A part of a list or mapping, read from outside: `whole` stands in place of its loops. -/
def unroll (container : Container) (label : Nat) (whole : Value) : Value → Value :=
  substitute (looped? container label whole)

/-- The entries of a mapping, read from outside. Any other value has none. -/
def entries : Value → List (Scalar × Value)
  | map l es => es.map fun e => (e.1, unroll .map l (map l es) e.2)
  | _ => []

/-- The items of a list, read from outside. Any other value has none. -/
def items : Value → List Value
  | list l vs => vs.map (unroll .list l (list l vs))
  | _ => []

/-- The value of a text key, if the value is a mapping that has it. -/
def get? (name : String) (v : Value) : Option Value := lookup (.text name) v.entries

/-- The loop in place of the mapping with a label. -/
def loop? (label : Nat) : Value → Option Value
  | map l _ => if l = label then some (loop .map label) else none
  | _ => none

/-- A value as it stands inside the mapping with a label, with loops in place of that mapping. -/
def folded (label : Nat) : Value → Value := substitute (loop? label)

mutual

/-- Sets a key in every mapping with a label. -/
def assign (label : Nat) (key : Scalar) (value : Value) : Value → Value
  | map l entries =>
    let entries := assignInEntries label key value entries
    map l (if l = label then putEntry key value entries else entries)
  | list l items => list l (assignInItems label key value items)
  | pair first second => pair (assign label key value first) (assign label key value second)
  | scalar s => scalar s
  | set members => set members
  | loop container l => loop container l

/-- Sets a key in every mapping with a label among some values. -/
def assignInItems (label : Nat) (key : Scalar) (value : Value) : List Value → List Value
  | [] => []
  | v :: items => assign label key value v :: assignInItems label key value items

/-- Sets a key in every mapping with a label among the values of some entries. -/
def assignInEntries (label : Nat) (key : Scalar) (value : Value) :
    List (Scalar × Value) → List (Scalar × Value)
  | [] => []
  | (k, v) :: entries => (k, assign label key value v) :: assignInEntries label key value entries

end

mutual

/-- A value with other labels. -/
def relabel (f : Nat → Nat) : Value → Value
  | map l entries => map (f l) (relabelEntries f entries)
  | list l items => list (f l) (relabelItems f items)
  | pair first second => pair (relabel f first) (relabel f second)
  | scalar s => scalar s
  | set members => set members
  | loop container l => loop container (f l)

/-- Some values with other labels. -/
def relabelItems (f : Nat → Nat) : List Value → List Value
  | [] => []
  | v :: items => relabel f v :: relabelItems f items

/-- Some entries with other labels. -/
def relabelEntries (f : Nat → Nat) : List (Scalar × Value) → List (Scalar × Value)
  | [] => []
  | (k, v) :: entries => (k, relabel f v) :: relabelEntries f entries

end

mutual

/-- The first label such that neither it nor a later one is in use. -/
def labelBound : Value → Nat
  | map l entries => max (l + 1) (entryLabelBound entries)
  | list l items => max (l + 1) (itemLabelBound items)
  | pair first second => max (labelBound first) (labelBound second)
  | scalar _ | set _ => 0
  | loop _ l => l + 1

/-- `labelBound` for some values. -/
def itemLabelBound : List Value → Nat
  | [] => 0
  | v :: items => max (labelBound v) (itemLabelBound items)

/-- `labelBound` for the values of some entries. -/
def entryLabelBound : List (Scalar × Value) → Nat
  | [] => 0
  | (_, v) :: entries => max (labelBound v) (entryLabelBound entries)

end

mutual

/-- The value of a JSON value, its lists and mappings labelled from `label` on, and the next free
label. -/
def ofJson (label : Nat) : Json → Value × Nat
  | .null => (null, label)
  | .bool b => (scalar (.bool b), label)
  | .int n => (scalar (.int n), label)
  | .real x => (scalar (.real x), label)
  | .text s => (text s, label)
  | .array items =>
    let (vs, next) := ofItems (label + 1) items
    (list label vs, next)
  | .object members =>
    let (es, next) := ofMembers (label + 1) members
    (map label es, next)

/-- The values of some JSON values, and the next free label. -/
def ofItems (label : Nat) : List Json → List Value × Nat
  | [] => ([], label)
  | j :: items =>
    let (v, next) := ofJson label j
    let (vs, next) := ofItems next items
    (v :: vs, next)

/-- The entries of the members of an object, and the next free label. -/
def ofMembers (label : Nat) : List (String × Json) → List (Scalar × Value) × Nat
  | [] => ([], label)
  | (name, j) :: members =>
    let (v, next) := ofJson label j
    let (es, next) := ofMembers next members
    ((.text name, v) :: es, next)

end

end FactoryRegistry.Value
