import FactoryRegistry.Yaml.Character
import FactoryRegistry.Yaml.Node
import FactoryRegistry.Yaml.Timestamp

/-!
# What plain scalars mean

A plain scalar without a tag means what its text looks like: a truth value, a number, a date, and
otherwise a text. The patterns are those of YAML 1.1, so that `yes` is a truth value, `0o17` a text,
`017` an octal and `1:30` a sexagesimal number. A line feed at the very end of the text is passed
over.
-/

namespace FactoryRegistry.Yaml

/-- The words for truth values. -/
def truthWords : List String := [
  "yes", "Yes", "YES", "no", "No", "NO", "true", "True", "TRUE", "false", "False", "FALSE",
  "on", "On", "ON", "off", "Off", "OFF"]

/-- The words for no value. -/
def nullWords : List String := ["~", "null", "Null", "NULL"]

/-- A digit or an underscore. -/
def isSpacedDigit (c : Char) : Bool := isDigit c || c == '_'

/-- A text after its sign, if it has one. -/
def dropSign : List Char → List Char
  | '-' :: cs => cs
  | '+' :: cs => cs
  | cs => cs

/-- Digits and underscores, a digit first. -/
def isSpacedNumber (cs : List Char) : Bool := cs.head?.any isDigit && cs.all isSpacedDigit

/-- One or more sexagesimal digits, each after a colon and written with one or two decimal
digits. -/
def isSexagesimalTail : List Char → Bool
  | [':', a] => isDigit a
  | ':' :: a :: ':' :: cs => isDigit a && isSexagesimalTail (':' :: cs)
  | [':', a, b] => '0' ≤ a && a ≤ '5' && isDigit b
  | ':' :: a :: b :: cs => '0' ≤ a && a ≤ '5' && isDigit b && isSexagesimalTail cs
  | _ => false

/-- A number in base sixty, with its first part as `isFirst` says. -/
def isSexagesimal (isFirst : List Char → Bool) (cs : List Char) : Bool :=
  isFirst (cs.takeWhile (· != ':')) && isSexagesimalTail (cs.dropWhile (· != ':'))

/-- An exponent: a mark, a sign and digits. -/
def isExponent : List Char → Bool
  | mark :: sign :: digits =>
    (mark == 'e' || mark == 'E') && (sign == '-' || sign == '+') && !digits.isEmpty &&
      digits.all isDigit
  | _ => false

/-- What may follow the point of a decimal number. -/
def isFraction (cs : List Char) : Bool :=
  let rest := cs.dropWhile isSpacedDigit
  rest.isEmpty || isExponent rest

/-- A real number. -/
def isReal (cs : List Char) : Bool :=
  let unsigned := dropSign cs
  let whole := unsigned.takeWhile (· != '.')
  match unsigned.dropWhile (· != '.') with
  | '.' :: fraction =>
    (isSpacedNumber whole && isFraction fraction) ||
    (isSexagesimal isSpacedNumber whole && fraction.all isSpacedDigit) ||
    (whole.isEmpty && ["inf", "Inf", "INF"].contains (String.ofList fraction)) ||
    (cs.head? == some '.' &&
      ((fraction.head?.any isDigit && isFraction fraction) ||
        ["nan", "NaN", "NAN"].contains (String.ofList fraction)))
  | _ => false

/-- Digits and underscores, the first one a digit but zero. -/
def isPositive (cs : List Char) : Bool :=
  isSpacedNumber cs && cs.head? != some '0'

/-- An integer. -/
def isInteger (cs : List Char) : Bool :=
  let digitsOf (p : Char → Bool) (cs : List Char) : Bool :=
    !cs.isEmpty && cs.all fun c => c == '_' || p c
  match dropSign cs with
  | ['0'] => true
  | '0' :: 'b' :: cs => digitsOf (fun c => c == '0' || c == '1') cs
  | '0' :: 'x' :: cs =>
    digitsOf (fun c => isDigit c || ('a' ≤ c && c ≤ 'f') || ('A' ≤ c && c ≤ 'F')) cs
  | '0' :: cs => digitsOf (fun c => '0' ≤ c && c ≤ '7') cs
  | cs => isPositive cs || isSexagesimal isPositive cs

/-- A date, or a date with a time of day. A date alone has two digits for month and day. -/
def isTimestamp (cs : List Char) : Bool :=
  match readTimestamp? cs with
  | some (_, some _) => true
  | some (_, none) => cs.length == 10
  | none => false

/-- What a plain scalar without a tag is to become. -/
def plainTag (text : String) : Tag :=
  let cs := text.toList
  let looked := if cs.length != 1 && cs.getLast? == some '\n' then cs.dropLast else cs
  let word := String.ofList looked
  if cs.isEmpty || nullWords.contains word then .null
  else if truthWords.contains word then .bool
  else if isReal looked then .real
  else if isInteger looked then .int
  else if word == "<<" then .merge
  else if isTimestamp looked then .timestamp
  else if word == "=" then .default
  else if ["!", "&", "*"].contains word then .unknown
  else .text

end FactoryRegistry.Yaml
