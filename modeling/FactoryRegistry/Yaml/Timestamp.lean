import FactoryRegistry.Calendar
import FactoryRegistry.Yaml.Character

/-!
# Time stamps

A time stamp is a date, perhaps with a time of day, and then perhaps with a fraction of a second and
a distance from universal time. `readTimestamp?` splits the text into numbers; whether these are a
date is decided afterwards.
-/

namespace FactoryRegistry.Yaml

open Number

/-- The numbers of a date. -/
structure DateNumbers where
  /-- The year. -/
  year : Nat
  /-- The month. -/
  month : Nat
  /-- The day. -/
  day : Nat
  deriving DecidableEq, Repr

/-- The numbers of a time of day. -/
structure TimeNumbers where
  /-- The hour. -/
  hour : Nat
  /-- The minute. -/
  minute : Nat
  /-- The second. -/
  second : Nat
  /-- The microsecond. -/
  microsecond : Nat
  /-- The distance from universal time in minutes, if one is stated. -/
  offset : Option Int
  deriving DecidableEq, Repr

/-- A number of at least `least` and at most `most` digits that a text begins with, and the text
after it. -/
def readCount? (least most : Nat) (cs : List Char) : Option (Nat × List Char) :=
  let digits := (cs.takeWhile isDigit).take most
  if digits.length < least then none
  else some (digitsValue 10 0 digits, cs.drop digits.length)

/-- A text after the character that it has to begin with. -/
def dropMark? (mark : Char) : List Char → Option (List Char)
  | [] => none
  | c :: cs => if c = mark then some cs else none

/-- The microseconds of a fraction of a second. Digits beyond the sixth are dropped. -/
def readFraction (digits : List Char) : Nat :=
  let shown := digits.take 6
  digitsValue 10 0 (shown ++ List.replicate (6 - shown.length) '0')

/-- The distance from universal time that the rest of a time stamp states. -/
def readOffset? (cs : List Char) : Option (Option Int) :=
  match cs, cs.dropWhile isGap with
  | [], _ => some none
  | _, ['Z'] => some (some 0)
  | _, sign :: rest => do
    if sign != '-' && sign != '+' then none
    let (hours, rest) ← readCount? 1 2 rest
    let minutes ← if rest.isEmpty then some 0 else do
      let (minutes, rest) ← readCount? 2 2 (← dropMark? ':' rest)
      if rest.isEmpty then some minutes else none
    let distance : Int := 60 * hours + minutes
    return some (if sign == '-' then -distance else distance)
  | _, [] => none

/-- The time of day that a text states. -/
def readTime? (cs : List Char) : Option TimeNumbers := do
  let (hour, cs) ← readCount? 1 2 cs
  let (minute, cs) ← readCount? 2 2 (← dropMark? ':' cs)
  let (second, cs) ← readCount? 2 2 (← dropMark? ':' cs)
  let (fraction, cs) := match cs with
    | '.' :: more => (more.takeWhile isDigit, more.dropWhile isDigit)
    | other => ([], other)
  return ⟨hour, minute, second, readFraction fraction, ← readOffset? cs⟩

/-- The text after what separates a date from a time of day: the letter T, or blanks. -/
def dropSeparator? : List Char → Option (List Char)
  | [] => none
  | c :: cs =>
    if c == 'T' || c == 't' then some cs
    else if isGap c then some (cs.dropWhile isGap)
    else none

/-- The numbers of a time stamp. -/
def readTimestamp? (cs : List Char) : Option (DateNumbers × Option TimeNumbers) := do
  let (year, cs) ← readCount? 4 4 cs
  let (month, cs) ← readCount? 1 2 (← dropMark? '-' cs)
  let (day, cs) ← readCount? 1 2 (← dropMark? '-' cs)
  let date : DateNumbers := ⟨year, month, day⟩
  if cs.isEmpty then return (date, none)
  return (date, some (← readTime? (← dropSeparator? cs)))

end FactoryRegistry.Yaml
