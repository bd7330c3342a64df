import FactoryRegistry.Failure
import FactoryRegistry.Json.Reader
import FactoryRegistry.Number.Real
import FactoryRegistry.Text.Case

/-!
# Values written as plain text

A variable of the environment holds a text. `coerce` finds out what it stands for: a truth value
written as a word, an integer, a real number, or an array or object in JSON. Every other text stands
for itself. The only failure is an integer inside JSON that has too many digits.
-/

namespace FactoryRegistry.Config

open Number Text

/-- The words for true. -/
def trueWords : List String := ["true", "yes", "on", "1"]

/-- The words for false. -/
def falseWords : List String := ["false", "no", "off", "0"]

/-- The truth value of a word in any case, with blanks around it. -/
def readTruth? (raw : String) : Option Bool :=
  let word := lowercase (strip raw)
  if word ∈ trueWords then some true
  else if word ∈ falseWords then some false
  else none

/-- The number that a text stands for. An integer with too many digits is taken as a real number. -/
def readNumber? (raw : String) : Option Json :=
  match readInteger 10 raw.toList with
  | .ok n => some (.int n)
  | .error _ => (readReal? raw.toList).map .real

/-- A text that begins like an array or an object of JSON. -/
def opensJson (raw : String) : Bool :=
  raw.toList.head? == some '{' || raw.toList.head? == some '['

/-- The value of a text that begins like JSON; it stands for itself when it is none. -/
def readStructured (raw : String) : Except Failure Json :=
  match Json.read raw with
  | .ok value => .ok value
  | .error (.malformed _ _) => .ok (.text raw)
  | .error (.tooManyDigits digits) => .error (.longInteger digits)

/-- The value that a text stands for. -/
def coerce (raw : String) : Except Failure Json :=
  match readTruth? raw with
  | some b => .ok (.bool b)
  | none =>
    match readNumber? raw with
    | some number => .ok number
    | none => if opensJson raw then readStructured raw else .ok (.text raw)

end FactoryRegistry.Config
