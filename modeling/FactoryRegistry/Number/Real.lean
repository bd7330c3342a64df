import FactoryRegistry.Number.Binary64
import FactoryRegistry.Number.Decimal

/-!
# Reading real numbers

The grammar of a real number: an optional sign, then digits with an optional fraction and an
optional exponent, or one of the words for infinity and for not a number. Blanks around it are
stripped, decimal digits of every script count, and an underscore may stand between two digits.
The number read is the double nearest to the text.
-/

namespace FactoryRegistry.Number

open FactoryRegistry.Text

/-- A decimal digit of ASCII. -/
def isAsciiDigit (c : Char) : Bool := '0' ≤ c && c ≤ '9'

/-- Every decimal digit as the digit of ASCII with the same value. -/
def plainDigit (c : Char) : Char :=
  match decimalDigit? c with
  | some d => digitChar d
  | none => c

/-- Removes underscores, where `afterDigit` says that the character before was a digit. An
underscore that does not stand between two digits is refused. -/
def dropUnderscores? (afterDigit : Bool) : List Char → Option (List Char)
  | [] => some []
  | '_' :: c :: cs =>
    if afterDigit && isAsciiDigit c then (dropUnderscores? true cs).map (c :: ·) else none
  | ['_'] => none
  | c :: cs => (dropUnderscores? (isAsciiDigit c) cs).map (c :: ·)

/-- The exponent after a mantissa: nothing, or a mark with an optional sign and digits. -/
def readExponent? : List Char → Option Int
  | [] => some 0
  | c :: cs =>
    if c == 'e' || c == 'E' then
      let (negative, digits) := splitSign cs
      if digits.isEmpty || !digits.all isAsciiDigit then none
      else
        let n : Int := digitsValue 10 0 digits
        some (if negative then -n else n)
    else none

/-- The double of an unsigned number in decimal notation. -/
def readUnsigned? (negative : Bool) (cs : List Char) : Option Binary64 :=
  let whole := cs.takeWhile isAsciiDigit
  let rest := cs.dropWhile isAsciiDigit
  let (fraction, rest) := match rest with
    | '.' :: more => (more.takeWhile isAsciiDigit, more.dropWhile isAsciiDigit)
    | other => ([], other)
  let digits := whole ++ fraction
  if digits.isEmpty then none
  else (readExponent? rest).map fun e =>
    Binary64.ofDecimal negative (digitsValue 10 0 digits) digits.length (e - fraction.length)

/-- The double of a number without blanks and underscores. -/
def readPlainReal? (cs : List Char) : Option Binary64 :=
  let (negative, body) := splitSign cs
  let word := String.ofList (body.map Char.toLower)
  if word == "inf" || word == "infinity" then some (Binary64.infinity negative)
  else if word == "nan" then some Binary64.nan
  else readUnsigned? negative body

/-- The double nearest to the real number that a text stands for. -/
def readReal? (cs : List Char) : Option Binary64 :=
  (dropUnderscores? false ((stripWhere isNumberBlank cs).map plainDigit)).bind readPlainReal?

end FactoryRegistry.Number
