import FactoryRegistry.Failure
import FactoryRegistry.Number.Shortest
import FactoryRegistry.Text.Quoted
import FactoryRegistry.Value.Basic

/-!
# The text of a value

`Value.plain` is a value as it reads in a message: a text stands for itself and a date or moment for
its plain text. Inside a collection every part is `shown` in its technical form, texts with
quotation marks; a list or mapping that stands inside itself is cut short there. `Value.written` is
the plain text of a value that can be written: no integer in it has more than `maxDigits` digits.
-/

namespace FactoryRegistry

open Number

/-- The technical form of a scalar. -/
def Scalar.shown : Scalar → String
  | null => "None"
  | bool b => if b then "True" else "False"
  | int n => intText n
  | real x => x.text
  | text s => Text.quoted s
  | bytes bs => Text.quotedBytes bs
  | date d => d.shown
  | moment m => m.shown

/-- The plain text of a scalar. -/
def Scalar.plain : Scalar → String
  | text s => s
  | date d => d.text
  | moment m => m.text
  | s => s.shown

/-- A scalar that is no integer with too many digits to be written. -/
def Scalar.isWritable : Scalar → Bool
  | int n => n.natAbs < Nat.pow 10 maxDigits
  | _ => true

namespace Value

/-- Parts between two brackets. -/
def bracketed (opening closing : String) (parts : List String) : String :=
  opening ++ ", ".intercalate parts ++ closing

mutual

/-- The technical form of a value inside lists and mappings with the labels `around`. One of these
that stands inside itself is not written out again. -/
def shown (around : List Nat) : Value → String
  | scalar s => s.shown
  | list l items =>
    if around.contains l then "[...]" else bracketed "[" "]" (shownItems (l :: around) items)
  | map l entries =>
    if around.contains l then "\x7b...\x7d"
    else bracketed "\x7b" "\x7d" (shownEntries (l :: around) entries)
  | set [] => "set()"
  | set members => bracketed "\x7b" "\x7d" (members.map Scalar.shown)
  | pair first second => bracketed "(" ")" [shown around first, shown around second]
  | loop .list _ => "[...]"
  | loop .map _ => "\x7b...\x7d"

/-- The technical forms of some values. -/
def shownItems (around : List Nat) : List Value → List String
  | [] => []
  | v :: items => shown around v :: shownItems around items

/-- The technical forms of some entries. -/
def shownEntries (around : List Nat) : List (Scalar × Value) → List String
  | [] => []
  | (k, v) :: entries => (k.shown ++ ": " ++ shown around v) :: shownEntries around entries

end

/-- The plain text of a value. -/
def plain : Value → String
  | scalar s => s.plain
  | v => v.shown []

mutual

/-- No integer in a value has too many digits to be written. -/
def isWritable : Value → Bool
  | scalar s => s.isWritable
  | list _ items => areWritable items
  | map _ entries => areWritableEntries entries
  | set members => members.all Scalar.isWritable
  | pair first second => isWritable first && isWritable second
  | loop _ _ => true

/-- No integer in some values has too many digits to be written. -/
def areWritable : List Value → Bool
  | [] => true
  | v :: items => isWritable v && areWritable items

/-- No integer in some entries has too many digits to be written. -/
def areWritableEntries : List (Scalar × Value) → Bool
  | [] => true
  | (k, v) :: entries => k.isWritable && isWritable v && areWritableEntries entries

end

/-- The plain text of a value, if it can be written. -/
def written (v : Value) : Except Failure String :=
  if v.isWritable then .ok v.plain else .error .unwritableInteger

/-- A text can always be written. -/
@[simp]
theorem written_text (s : String) : written (text s) = .ok s := rfl

theorem eq_plain_of_written {v : Value} {s : String} (h : v.written = .ok s) : s = v.plain := by
  rw [written] at h
  split at h <;> cases h
  rfl

/-- Only an integer with too many digits keeps a value from being written. -/
theorem eq_unwritableInteger_of_written {v : Value} {failure : Failure}
    (h : v.written = .error failure) : failure = .unwritableInteger := by
  rw [written] at h
  split at h <;> cases h
  rfl

end Value

end FactoryRegistry
