import FactoryRegistry.Number.Binary64
import FactoryRegistry.Number.Decimal

/-!
# The shortest decimal of a double

Every double is the nearest one to a whole interval of real numbers. Its text is the decimal in
that interval with the fewest digits, and the one nearest to the double among those. The search
goes over grids of 1 to 17 digits: if a grid has a point in the interval, then one of the two
points next to the double lies in it.

`RealFormat` holds what a format decides on top of that: where positional notation ends and how
the parts are spelled.
-/

namespace FactoryRegistry.Number

open Binary64

/-- The interval of real numbers that round to a positive finite double, in units of
`unitNum / unitDen`. -/
structure RoundingInterval where
  /-- The lower end. -/
  low : Nat
  /-- The double itself. -/
  mid : Nat
  /-- The upper end. -/
  high : Nat
  /-- Both ends belong to the interval. -/
  closed : Bool
  /-- The numerator of the unit. -/
  unitNum : Nat
  /-- The denominator of the unit. -/
  unitDen : Nat

/-- The rounding interval of the magnitude of a finite double. Below a power of two the neighbours
lie half as far apart as above it. -/
def roundingInterval (x : Binary64) : RoundingInterval :=
  let m := x.significand
  let e := x.exponent - 2
  { low := if x.fractionField == 0 && 1 < x.exponentField then 4 * m - 1 else 4 * m - 2
    mid := 4 * m
    high := 4 * m + 2
    closed := m % 2 == 0
    unitNum := if 0 ≤ e then Nat.pow 2 e.toNat else 1
    unitDen := if 0 ≤ e then 1 else Nat.pow 2 (-e).toNat }

/-- The fraction `c * 10 ^ p` as numerator and denominator. -/
def decimalRatio (c : Nat) (p : Int) : Nat × Nat :=
  if 0 ≤ p then (c * Nat.pow 10 p.toNat, 1) else (c, Nat.pow 10 (-p).toNat)

namespace RoundingInterval

/-- The decimal `c * 10 ^ p` lies in the interval. -/
def holds (i : RoundingInterval) (p : Int) (c : Nat) : Bool :=
  let (num, den) := decimalRatio c p
  let x := num * i.unitDen
  let low := i.low * i.unitNum * den
  let high := i.high * i.unitNum * den
  if i.closed then low ≤ x && x ≤ high else low < x && x < high

/-- The greatest `c` with `c * 10 ^ p` at most the double. -/
def floorAt (i : RoundingInterval) (p : Int) : Nat :=
  let (num, den) := decimalRatio 1 p
  (i.mid * i.unitNum * den) / (i.unitDen * num)

/-- Of `c` and `c + 1` on a grid the one nearer to the double, a tie going to the even one. -/
def nearer (i : RoundingInterval) (p : Int) (c : Nat) : Nat :=
  let (num, den) := decimalRatio 1 p
  let twice := 2 * (i.mid * i.unitNum * den)
  let middle := (2 * c + 1) * (i.unitDen * num)
  if twice < middle then c else if middle < twice then c + 1 else c + c % 2

/-- The point of the grid `10 ^ p` that stands for the double, if the grid has one. -/
def pick? (i : RoundingInterval) (p : Int) : Option Nat :=
  let c := i.floorAt p
  match i.holds p c, i.holds p (c + 1) with
  | true, true => some (i.nearer p c)
  | true, false => some c
  | false, true => some (c + 1)
  | false, false => none

/-- The count of digits before the decimal point, where a number below one tenth has a negative
count. -/
def magnitude (i : RoundingInterval) : Int :=
  let whole := i.mid * i.unitNum / i.unitDen
  if whole == 0 then
    let zeros := (List.range 400).find? fun j => i.unitDen ≤ i.mid * i.unitNum * Nat.pow 10 j
    1 - (zeros.getD 0 : Int)
  else (decimal whole).length

/-- The first grid with a point in the interval, from `digits` digits on. -/
def search (i : RoundingInterval) : (fuel digits : Nat) → Nat × Int
  | 0, digits => (i.floorAt (i.magnitude - digits), i.magnitude - digits)
  | fuel + 1, digits =>
    match i.pick? (i.magnitude - digits) with
    | some c => (c, i.magnitude - digits)
    | none => i.search fuel (digits + 1)

end RoundingInterval

/-- A digit string without its trailing zeros, and how many those were. -/
def dropZeros (cs : List Char) : List Char × Nat :=
  let kept := Text.dropTrailing (· == '0') cs
  (kept, cs.length - kept.length)

/-- The shortest digits of a nonzero finite double and the place of its decimal point, counted
from the first digit. -/
def shortestDigits (x : Binary64) : List Char × Int :=
  let (c, p) := (roundingInterval x).search 17 1
  let all := decimal c
  ((dropZeros all).1, all.length + p)

/-- What a text format decides about real numbers. -/
structure RealFormat where
  /-- Positional notation is used while the point stands after this place. -/
  lowPlace : Int
  /-- Positional notation is used up to this place of the point. -/
  highPlace : Int
  /-- The least count of digits of an exponent. -/
  exponentWidth : Nat
  /-- The text of infinity without a sign. -/
  infinity : String
  /-- The text of what is not a number. -/
  nan : String

/-- Positional from four zeros after the point up to sixteen digits before it; exponents have a
sign and at least two digits. -/
def plainReal : RealFormat := ⟨-4, 16, 2, "inf", "nan"⟩

/-- Digits with the decimal point at a place, at least one digit on either side of it. -/
def positional (digits : List Char) (place : Int) : List Char :=
  if place ≤ 0 then '0' :: '.' :: List.replicate (-place).toNat '0' ++ digits
  else
    let whole := digits.take place.toNat ++ List.replicate (place.toNat - digits.length) '0'
    let rest := digits.drop place.toNat
    whole ++ '.' :: (if rest.isEmpty then ['0'] else rest)

/-- Digits in exponent notation, with a point only where a second digit follows. -/
def scientific (width : Nat) (digits : List Char) (place : Int) : List Char :=
  let e := place - 1
  let exponent := decimal e.natAbs
  digits.take 1 ++ (if digits.length ≤ 1 then [] else '.' :: digits.drop 1) ++
    'e' :: (if e < 0 then '-' else '+') ::
      List.replicate (width - exponent.length) '0' ++ exponent

/-- The text of a double in a format. -/
def RealFormat.text (format : RealFormat) (x : Binary64) : String :=
  if x.isNaN then format.nan
  else
    let sign := if x.isNegative then ['-'] else []
    let body :=
      if x.isInfinite then format.infinity.toList
      else if x.significand == 0 then ['0', '.', '0']
      else
        let (digits, place) := shortestDigits x
        if format.lowPlace < place && place ≤ format.highPlace then positional digits place
        else scientific format.exponentWidth digits place
    String.ofList (sign ++ body)

/-- The plain text of a double. -/
def Binary64.text (x : Binary64) : String := plainReal.text x

end FactoryRegistry.Number
