import FactoryRegistry.Number.Decimal

/-!
# Dates and times of day

Dates of the Gregorian calendar from the year 1 to the year 9999, and moments: a date with a time of
day and, where it is known, the distance from universal time in minutes. `Date.of` and `Moment.of`
check every part against its range. The texts of both follow ISO 8601; `shown` is the technical
form that names the parts.
-/

namespace FactoryRegistry

open Number

/-- The parts of a date or a time that have a range. -/
inductive CalendarPart where
  /-- The year. -/
  | year (n : Nat)
  /-- The month. -/
  | month
  /-- The day of the month. -/
  | day
  /-- The hour. -/
  | hour
  /-- The minute. -/
  | minute
  /-- The second. -/
  | second
  /-- The distance from universal time, in minutes. -/
  | offset (minutes : Int)
  deriving DecidableEq, Repr

/-- A span of minutes as days and seconds, the seconds never negative. -/
def spanText (minutes : Int) : String :=
  let days := minutes.fdiv 1440
  let seconds := minutes.fmod 1440 * 60
  let parts := (if days == 0 then [] else [s!"days={intText days}"]) ++
    (if seconds == 0 then [] else [s!"seconds={intText seconds}"])
  let listed := if parts.isEmpty then "0" else ", ".intercalate parts
  s!"datetime.timedelta({listed})"

/-- What is wrong with a part that is out of its range. -/
def CalendarPart.message : CalendarPart → String
  | year n => s!"year {natText n} is out of range"
  | month => "month must be in 1..12"
  | day => "day is out of range for month"
  | hour => "hour must be in 0..23"
  | minute => "minute must be in 0..59"
  | second => "second must be in 0..59"
  | offset minutes =>
    "offset must be a timedelta strictly between -timedelta(hours=24) and " ++
      s!"timedelta(hours=24), not {spanText minutes}."

/-- A number in decimal with leading zeros up to a width. -/
def padded (width n : Nat) : String :=
  let digits := decimal n
  String.ofList (List.replicate (width - digits.length) '0' ++ digits)

/-- A date. -/
structure Date where
  /-- The year, from 1 to 9999. -/
  year : Nat
  /-- The month, from 1 to 12. -/
  month : Nat
  /-- The day of the month, from 1. -/
  day : Nat
  deriving DecidableEq, Repr

namespace Date

/-- A year with a twenty-ninth of February. -/
def isLeap (year : Nat) : Bool := year % 4 == 0 && (year % 100 != 0 || year % 400 == 0)

/-- The number of days of a month. -/
def monthLength (year month : Nat) : Nat :=
  if month == 2 then if isLeap year then 29 else 28
  else if month == 4 || month == 6 || month == 9 || month == 11 then 30
  else 31

/-- The date of three numbers, or the first of them that is out of its range. -/
def of (year month day : Nat) : Except CalendarPart Date :=
  if year < 1 || 9999 < year then .error (.year year)
  else if month < 1 || 12 < month then .error .month
  else if day < 1 || monthLength year month < day then .error .day
  else .ok ⟨year, month, day⟩

/-- The number of days from the first day of the year 1 to a date. -/
def dayNumber (d : Date) : Nat :=
  let y := d.year - 1
  let months := (List.range (d.month - 1)).foldl (fun n m => n + monthLength d.year (m + 1)) 0
  365 * y + y / 4 - y / 100 + y / 400 + months + (d.day - 1)

/-- One date comes before another. -/
def before (a b : Date) : Bool := a.dayNumber < b.dayNumber

/-- The text of a date. -/
def text (d : Date) : String := s!"{padded 4 d.year}-{padded 2 d.month}-{padded 2 d.day}"

/-- The technical form of a date. -/
def shown (d : Date) : String :=
  s!"datetime.date({natText d.year}, {natText d.month}, {natText d.day})"

end Date

/-- A date with a time of day. -/
structure Moment where
  /-- The date. -/
  date : Date
  /-- The hour, from 0 to 23. -/
  hour : Nat
  /-- The minute, from 0 to 59. -/
  minute : Nat
  /-- The second, from 0 to 59. -/
  second : Nat
  /-- The microsecond, from 0 to 999999. -/
  microsecond : Nat
  /-- The distance from universal time in minutes, positive to the east, where it is known. -/
  offset : Option Int
  deriving DecidableEq, Repr

namespace Moment

/-- The moment of a date and a time, or the first part that is out of its range. -/
def of (year month day hour minute second microsecond : Nat) (offset : Option Int) :
    Except CalendarPart Moment := do
  if let some minutes := offset then
    if minutes ≤ -1440 ∨ 1440 ≤ minutes then throw (.offset minutes)
  let date ← Date.of year month day
  if 23 < hour then throw .hour
  if 59 < minute then throw .minute
  if 59 < second then throw .second
  return ⟨date, hour, minute, second, microsecond, offset⟩

/-- Microseconds from the start of the calendar, in universal time where the distance from it is
known. -/
def instant (m : Moment) : Int :=
  let minutes : Int := ((m.date.dayNumber * 24 + m.hour) * 60 + m.minute : Nat)
  ((minutes - m.offset.getD 0) * 60 + m.second) * 1000000 + m.microsecond

/-- Two moments are the same when both or neither relate to universal time and their instants
agree. -/
def same (a b : Moment) : Bool := a.offset.isSome == b.offset.isSome && a.instant == b.instant

/-- The text of a distance from universal time. -/
def offsetText : Option Int → String
  | none => ""
  | some minutes =>
    let n := minutes.natAbs
    let sign := if minutes < 0 then "-" else "+"
    s!"{sign}{padded 2 (n / 60)}:{padded 2 (n % 60)}"

/-- The text of a moment, with a separator between date and time. -/
def textWith (separator : String) (m : Moment) : String :=
  let fraction := if m.microsecond == 0 then "" else s!".{padded 6 m.microsecond}"
  let time := s!"{padded 2 m.hour}:{padded 2 m.minute}:{padded 2 m.second}{fraction}"
  s!"{m.date.text}{separator}{time}{offsetText m.offset}"

/-- The text of a moment with the separator of the standard. -/
def isoText (m : Moment) : String := m.textWith "T"

/-- The text of a moment with a blank between date and time. -/
def text (m : Moment) : String := m.textWith " "

/-- The technical form of a moment. Seconds and microseconds are left out where they are zero at
the end. -/
def shown (m : Moment) : String :=
  let tail := if m.microsecond != 0 then [m.second, m.microsecond]
    else if m.second != 0 then [m.second] else []
  let numbers := [m.date.year, m.date.month, m.date.day, m.hour, m.minute] ++ tail
  let zone := match m.offset with
    | none => []
    | some minutes =>
      if minutes == 0 then ["tzinfo=datetime.timezone.utc"]
      else [s!"tzinfo=datetime.timezone({spanText minutes})"]
  let parts := ", ".intercalate (numbers.map natText ++ zone)
  s!"datetime.datetime({parts})"

end Moment

end FactoryRegistry
