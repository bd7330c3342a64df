import FactoryRegistry.Text.Blank
import FactoryRegistry.Text.Digit

/-!
# Integers in positional notation

Writing natural numbers and integers in decimal, and reading integers in a given base. A number is
read after stripping blanks; it may carry a sign, for the bases two, eight and sixteen also the
mark `0b`, `0o` or `0x`, and single underscores between digits. Decimal digits of every script
count. In base ten a number may have at most `maxDigits` digits.
-/

namespace FactoryRegistry.Number

open FactoryRegistry.Text

/-- The character of a digit below ten. -/
def digitChar (n : Nat) : Char := Char.ofNat (48 + n)

/-- The decimal digits of a natural number, without leading zeros. -/
def decimal (n : Nat) : List Char :=
  if n < 10 then [digitChar n] else decimal (n / 10) ++ [digitChar (n % 10)]
decreasing_by omega

/-- A natural number in decimal. -/
def natText (n : Nat) : String := String.ofList (decimal n)

/-- An integer in decimal, a negative one with a leading hyphen. -/
def intText : Int → String
  | .ofNat n => natText n
  | .negSucc n => String.ofList ('-' :: decimal (n + 1))

/-- Why a text is not read as an integer. -/
inductive IntegerError where
  /-- The text is no number of the base. -/
  | malformed
  /-- The number has this many digits, more than a decimal number may have. -/
  | tooManyDigits (count : Nat)
  deriving DecidableEq, Repr

/-- The most digits that a decimal number may have when it is read. -/
def maxDigits : Nat := 4300

/-- The blanks that may surround a number: all but the information separators. -/
def isNumberBlank (c : Char) : Bool :=
  isBlank c && !(0x1c ≤ c.toNat && c.toNat ≤ 0x1f)

/-- The value of a digit of a base up to thirty-six, where decimal digits may be of any script. -/
def digit? (base : Nat) (c : Char) : Option Nat :=
  (decimalDigit? c <|> alphanumericDigit? c).filter (· < base)

/-- The number that a list of digits stands for, continuing the number `n`. Characters that are no
digits are passed over. -/
def digitsValue (base : Nat) (n : Nat) (cs : List Char) : Nat :=
  cs.foldl (fun n c => match digit? base c with
    | some d => n * base + d
    | none => n) n

/-- Underscores stand only between two other characters. -/
def separatesDigits : List Char → Bool
  | [] => false
  | ['_'] => false
  | '_' :: '_' :: _ => false
  | [_] => true
  | _ :: cs => separatesDigits cs

/-- Digits with single underscores between them. -/
def isDigitGroup (cs : List Char) : Bool :=
  cs.head? != some '_' && separatesDigits cs

/-- A text after its sign, and whether the sign is a minus. -/
def splitSign : List Char → Bool × List Char
  | '-' :: cs => (true, cs)
  | '+' :: cs => (false, cs)
  | cs => (false, cs)

/-- A text after the mark of its base. -/
def dropBaseMark (base : Nat) : List Char → List Char
  | '0' :: c :: cs =>
    if (base == 2 && (c == 'b' || c == 'B')) || (base == 8 && (c == 'o' || c == 'O')) ||
        (base == 16 && (c == 'x' || c == 'X')) then cs
    else '0' :: c :: cs
  | cs => cs

/-- The natural number of a text without sign and mark. The limit on digits is checked before what
follows them. -/
def readDigits (base : Nat) (cs : List Char) : Except IntegerError Nat :=
  let isDigit c := c == '_' || (digit? base c).isSome
  let digits := cs.takeWhile isDigit
  let count := digits.countP (· != '_')
  if !isDigitGroup digits then .error .malformed
  else if base == 10 && maxDigits < count then .error (.tooManyDigits count)
  else if (cs.dropWhile isDigit).isEmpty then .ok (digitsValue base 0 digits)
  else .error .malformed

/-- The integer that a text stands for in a base. -/
def readInteger (base : Nat) (cs : List Char) : Except IntegerError Int :=
  let (negative, body) := splitSign (stripWhere isNumberBlank cs)
  (readDigits base (dropBaseMark base body)).map fun n => if negative then -(n : Int) else n

/-- Digits read from left to right: reading more digits continues the number. -/
theorem digitsValue_append (base n : Nat) (cs ds : List Char) :
    digitsValue base n (cs ++ ds) = digitsValue base (digitsValue base n cs) ds := by
  simp [digitsValue]

end FactoryRegistry.Number
