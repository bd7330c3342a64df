import FactoryRegistry.Number.Real
import FactoryRegistry.Text.Case
import FactoryRegistry.Text.Pieces
import FactoryRegistry.Value.Basic
import FactoryRegistry.Yaml.Base64
import FactoryRegistry.Yaml.Timestamp
import FactoryRegistry.Yaml.Token
import FactoryRegistry.Yaml.Node

/-!
# The values of scalars

`scalarValue` gives a scalar its value according to its tag. A text that a tag does not fit is an
error; for truth values, numbers and dates it is one of a kind of its own.
-/

namespace FactoryRegistry.Yaml

open Number

/-- An error about a value. -/
def unusable {α : Type} (cause : Failure) : Except Error α := .error (.unusable cause)

/-- The truth value of a word in any case. -/
def truthOf (text : String) : Except Error Bool :=
  let word := Text.lowercase text
  if ["yes", "true", "on"].contains word then .ok true
  else if ["no", "false", "off"].contains word then .ok false
  else unusable (.missingKey word)

/-- The integer of a text in a base. -/
def integerIn (base : Nat) (cs : List Char) : Except Error Int :=
  match readInteger base cs with
  | .ok n => .ok n
  | .error .malformed => unusable (.badInteger base (String.ofList cs))
  | .error (.tooManyDigits count) => unusable (.longInteger count)

/-- The number of sexagesimal digits, the first one the highest. -/
def sexagesimal (digits : List Int) : Int := digits.foldl (fun n d => 60 * n + d) 0

/-- An integer without its sign: binary, hexadecimal, octal, sexagesimal or decimal. -/
def unsignedInteger (cs : List Char) : Except Error Int :=
  match cs with
  | [] => unusable .emptyNumber
  | ['0'] => .ok 0
  | '0' :: 'b' :: digits => integerIn 2 digits
  | '0' :: 'x' :: digits => integerIn 16 digits
  | '0' :: _ => integerIn 8 cs
  | _ =>
    if cs.contains ':' then ((Text.pieces ':' cs).mapM (integerIn 10)).map sexagesimal
    else integerIn 10 cs

/-- The integer of a text, in which underscores mean nothing. -/
def integerOf (text : String) : Except Error Int :=
  let cs := text.toList.filter (· != '_')
  if cs.isEmpty then unusable .emptyNumber
  else
    let (negative, unsigned) := splitSign cs
    (unsignedInteger unsigned).map fun n => if negative then -n else n

/-- The real number of a text. -/
def realIn (cs : List Char) : Except Error Binary64 :=
  match readReal? cs with
  | some x => .ok x
  | none => unusable (.badReal (String.ofList cs))

/-- The sum of sexagesimal digits, the lowest one first, where the first one counts `scale`. -/
def sexagesimalSum (scale : Nat) (sum : Binary64) : List Binary64 → Except Error Binary64
  | [] => .ok sum
  | d :: digits =>
    let factor := Binary64.ofInt scale
    if factor.isInfinite then unusable .hugeReal
    else sexagesimalSum (60 * scale) (sum.add (d.mul factor)) digits

/-- A real number without its sign, in lower case. -/
def unsignedReal (cs : List Char) : Except Error Binary64 := do
  let word := String.ofList cs
  if word == ".inf" then return Binary64.infinity false
  else if cs.contains ':' then
    let digits ← (Text.pieces ':' cs).mapM realIn
    sexagesimalSum 1 (Binary64.ofInt 0) digits.reverse
  else realIn cs

/-- The real number of a text, in which underscores and case mean nothing. -/
def realOf (text : String) : Except Error Binary64 :=
  let word := Text.lowercase (String.ofList (text.toList.filter (· != '_')))
  if word.isEmpty then unusable .emptyNumber
  else
    let (negative, unsigned) := splitSign word.toList
    if unsigned == ".nan".toList then .ok Scalar.literalNaN
    else (unsignedReal unsigned).map fun x => if negative then x.neg else x

/-- A part of the calendar as an error about a value. -/
def calendar {α : Type} (r : Except CalendarPart α) : Except Error α :=
  match r with
  | .ok x => .ok x
  | .error part => unusable (.outOfCalendar part)

/-- The date or the moment of a text. -/
def timestampOf (text : String) : Except Error Scalar :=
  let cs := text.toList
  match readTimestamp? (if cs.getLast? == some '\n' then cs.dropLast else cs) with
  | none => unusable .badTimestamp
  | some (d, none) => (calendar (Date.of d.year d.month d.day)).map .date
  | some (d, some t) =>
    (calendar (Moment.of d.year d.month d.day t.hour t.minute t.second t.microsecond
      t.offset)).map .moment

/-- The bytes of a text. -/
def bytesOf (text : String) : Except Error (List UInt8) :=
  match decodeBase64? text.toList with
  | some bytes => if text.toList.all (·.toNat < 0x80) then .ok bytes else .error .malformed
  | none => .error .malformed

/-- The value of a scalar with a tag, if the tag is one of a scalar. -/
def scalarValue (tag : Tag) (text : String) : Except Error Scalar :=
  match tag with
  | .null => .ok .null
  | .bool => (truthOf text).map .bool
  | .int => (integerOf text).map .int
  | .real => (realOf text).map .real
  | .bytes => (bytesOf text).map .bytes
  | .timestamp => timestampOf text
  | .text => .ok (.text text)
  | _ => .error .malformed

end FactoryRegistry.Yaml
