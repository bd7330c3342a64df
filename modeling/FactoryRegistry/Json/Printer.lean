import FactoryRegistry.Json.Value
import FactoryRegistry.Number.Shortest
import FactoryRegistry.Text.Digit

/-!
# Writing JSON

Two layouts of one canonical text. Members are written in the order of their names by code point,
and every character outside printable ASCII is escaped, those beyond the first plane as a pair of
code units. `Json.compact` writes no blanks at all; `Json.indented` puts each item on a line of its
own, two columns further in for each level.
-/

namespace FactoryRegistry.Json

open Number Text

/-- An escaped code unit. -/
def escapeUnit (n : Nat) : List Char := '\\' :: 'u' :: hex 4 n

/-- One character of a written string. -/
def escapeChar (c : Char) : List Char :=
  if c == '"' || c == '\\' then ['\\', c]
  else if c == '\n' then ['\\', 'n']
  else if c == '\r' then ['\\', 'r']
  else if c == '\t' then ['\\', 't']
  else if c.toNat == 8 then ['\\', 'b']
  else if c.toNat == 12 then ['\\', 'f']
  else if 0x20 ≤ c.toNat && c.toNat ≤ 0x7e then [c]
  else if c.toNat < 0x10000 then escapeUnit c.toNat
  else
    let n := c.toNat - 0x10000
    escapeUnit (0xd800 + n / 0x400) ++ escapeUnit (0xdc00 + n % 0x400)

/-- A written string. -/
def writeText (s : String) : List Char :=
  '"' :: s.toList.flatMap escapeChar ++ ['"']

/-- How the format spells real numbers. -/
def jsonReal : RealFormat := { plainReal with infinity := "Infinity", nan := "NaN" }

/-- Where the blanks of a layout go. -/
structure Layout where
  /-- What follows the colon after a name. -/
  afterColon : List Char
  /-- What stands before an item, or before a closing bracket, at a level. -/
  lineBreak : Nat → List Char

/-- No blanks. -/
def compactLayout : Layout := ⟨[], fun _ => []⟩

/-- Two more columns for each level. -/
def indentedLayout : Layout := ⟨[' '], fun level => '\n' :: List.replicate (2 * level) ' '⟩

/-- Items between two brackets; no line breaks where there is no item. -/
def writeBracketed (layout : Layout) (level : Nat) (opening closing : Char)
    (items : List (List Char)) : List Char :=
  if items.isEmpty then [opening, closing]
  else
    let separator := ',' :: layout.lineBreak (level + 1)
    opening :: layout.lineBreak (level + 1) ++ (items.intersperse separator).flatten ++
      layout.lineBreak level ++ [closing]

/-- Members in the order of their names. Members of equal names keep their order. -/
def sortMembers (members : List (String × List Char)) : List (String × List Char) :=
  members.mergeSort fun a b => a.1 ≤ b.1

mutual

/-- The text of a value at a level of nesting. -/
def write (layout : Layout) (level : Nat) : Json → List Char
  | null => "null".toList
  | bool b => (if b then "true" else "false").toList
  | int n => (intText n).toList
  | real x => (jsonReal.text x).toList
  | text s => writeText s
  | array items => writeBracketed layout level '[' ']' (writeItems layout (level + 1) items)
  | object members =>
    let written := sortMembers (writeMembers layout (level + 1) members)
    writeBracketed layout level '{' '}'
      (written.map fun (name, value) => writeText name ++ ':' :: layout.afterColon ++ value)

/-- The texts of the items of an array. -/
def writeItems (layout : Layout) (level : Nat) : List Json → List (List Char)
  | [] => []
  | v :: items => write layout level v :: writeItems layout level items

/-- The names of an object's members with the texts of their values. -/
def writeMembers (layout : Layout) (level : Nat) :
    List (String × Json) → List (String × List Char)
  | [] => []
  | (name, v) :: members => (name, write layout level v) :: writeMembers layout level members

end

/-- The text of a value without blanks. -/
def compact (v : Json) : String := String.ofList (write compactLayout 0 v)

/-- The text of a value with an item on each line. -/
def indented (v : Json) : String := String.ofList (write indentedLayout 0 v)

end FactoryRegistry.Json
