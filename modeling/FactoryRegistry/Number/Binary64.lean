/-!
# Double-precision numbers

Floating-point numbers of 64 bits, kept as their bits so that two numbers are the same exactly
when their bits are. A finite number is a whole significand times a power of two
(`significand`, `exponent`); the nearest number to a fraction is found in exact arithmetic, a tie
going to the even significand (`ofRatio`).
-/

namespace FactoryRegistry.Number

/-- A double-precision number, as its bits from the sign down. -/
structure Binary64 where
  /-- The sign bit, eleven bits of exponent and fifty-two bits of fraction. -/
  bits : UInt64
  deriving DecidableEq, Repr

namespace Binary64

/-- The sign bit is set. -/
def isNegative (x : Binary64) : Bool := x.bits.toNat / Nat.pow 2 63 == 1

/-- The exponent field. -/
def exponentField (x : Binary64) : Nat := x.bits.toNat / Nat.pow 2 52 % Nat.pow 2 11

/-- The fraction field. -/
def fractionField (x : Binary64) : Nat := x.bits.toNat % Nat.pow 2 52

/-- Not a number. -/
def isNaN (x : Binary64) : Bool := x.exponentField == 2047 && x.fractionField != 0

/-- One of the two infinities. -/
def isInfinite (x : Binary64) : Bool := x.exponentField == 2047 && x.fractionField == 0

/-- The whole number whose product with `2 ^ exponent` is the magnitude of a finite number. -/
def significand (x : Binary64) : Nat :=
  if x.exponentField == 0 then x.fractionField else Nat.pow 2 52 + x.fractionField

/-- The power of two that scales the significand of a finite number. -/
def exponent (x : Binary64) : Int :=
  if x.exponentField == 0 then -1074 else (x.exponentField : Int) - 1075

/-- A magnitude with a sign. -/
def withSign (negative : Bool) (magnitude : Nat) : Binary64 :=
  ⟨UInt64.ofNat (if negative then Nat.pow 2 63 + magnitude else magnitude)⟩

/-- The bits of infinity without the sign. -/
def infinityBits : Nat := 2047 * Nat.pow 2 52

/-- Infinity of a sign. -/
def infinity (negative : Bool) : Binary64 := withSign negative infinityBits

/-- The default value that is not a number. -/
def nan : Binary64 := ⟨0x7ff8000000000000⟩

/-- The quotient of two natural numbers rounded to the nearest one, a tie going to the even one. -/
def roundQuotient (num den : Nat) : Nat :=
  let q := num / den
  let twice := 2 * (num % den)
  if twice < den then q
  else if den < twice then q + 1
  else q + q % 2

/-- The greatest `k` with `2 ^ k * den ≤ num`, for positive arguments. -/
def ratioLog (num den : Nat) : Int :=
  let k := (num.log2 : Int) - den.log2
  let fits := if 0 ≤ k then den * Nat.pow 2 k.toNat ≤ num else den ≤ num * Nat.pow 2 (-k).toNat
  if fits then k else k - 1

/-- The magnitude bits of the double nearest to `num / den`. The fields of consecutive doubles are
consecutive numbers, so a significand that rounds up to the next power of two carries into the
exponent by itself. -/
def ratioBits (num den : Nat) : Nat :=
  if num == 0 then 0
  else
    let q := max (ratioLog num den - 52) (-1074)
    let m := if 0 ≤ q then roundQuotient num (den * Nat.pow 2 q.toNat)
      else roundQuotient (num * Nat.pow 2 (-q).toNat) den
    min ((q + 1074).toNat * Nat.pow 2 52 + m) infinityBits

/-- The double nearest to the fraction `num / den`, with a sign. -/
def ofRatio (negative : Bool) (num den : Nat) : Binary64 :=
  withSign negative (ratioBits num den)

/-- The double nearest to `m * 10 ^ e`, with a sign, where `m` has the given count of digits.
Powers far outside the range are not computed: they give infinity or zero. -/
def ofDecimal (negative : Bool) (m digits : Nat) (e : Int) : Binary64 :=
  if m == 0 then withSign negative 0
  else if 400 < e + digits then infinity negative
  else if e + digits < -400 then withSign negative 0
  else if 0 ≤ e then ofRatio negative (m * Nat.pow 10 e.toNat) 1
  else ofRatio negative m (Nat.pow 10 (-e).toNat)

/-- The double nearest to an integer. -/
def ofInt (n : Int) : Binary64 := ofRatio (n < 0) n.natAbs 1

/-- Hardware arithmetic on the same bits. -/
def toFloat (x : Binary64) : Float := Float.ofBits x.bits

/-- The bits of a hardware number. -/
def ofFloat (x : Float) : Binary64 := ⟨x.toBits⟩

/-- The product of two doubles. -/
def mul (x y : Binary64) : Binary64 := ofFloat (x.toFloat * y.toFloat)

/-- The sum of two doubles. -/
def add (x y : Binary64) : Binary64 := ofFloat (x.toFloat + y.toFloat)

/-- The same number with the other sign. -/
def neg (x : Binary64) : Binary64 := ⟨x.bits ^^^ 0x8000000000000000⟩

/-- The value of a finite number as a fraction. -/
def toRatio? (x : Binary64) : Option (Int × Nat) :=
  if x.exponentField == 2047 then none
  else
    let m : Int := if x.isNegative then -(x.significand : Int) else x.significand
    if 0 ≤ x.exponent then some (m * Nat.pow 2 x.exponent.toNat, 1)
    else some (m, Nat.pow 2 (-x.exponent).toNat)

/-- Two doubles compare as equal: the two zeros do, and what is not a number equals nothing. -/
def equals (x y : Binary64) : Bool :=
  !x.isNaN && !y.isNaN &&
    (x == y || (x.exponentField == 0 && x.fractionField == 0 &&
      y.exponentField == 0 && y.fractionField == 0))

/-- A double equals an integer exactly. -/
def equalsInt (x : Binary64) (n : Int) : Bool :=
  match x.toRatio? with
  | some (num, den) => num == n * den
  | none => false

/-- Order of two doubles; false where either is not a number. -/
def less (x y : Binary64) : Bool :=
  if x.isNaN || y.isNaN then false
  else match x.toRatio?, y.toRatio? with
    | some (a, b), some (c, d) => a * d < c * b
    | some _, none => !y.isNegative
    | none, some _ => x.isNegative
    | none, none => x.isNegative && !y.isNegative

end Binary64

end FactoryRegistry.Number
