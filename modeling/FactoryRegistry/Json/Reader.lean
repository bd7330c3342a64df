import FactoryRegistry.Json.Value
import FactoryRegistry.Number.Real

/-!
# Reading JSON

A reader for JSON texts that says what is wrong with a malformed one and at which character.
Besides the numbers of the format it accepts `NaN`, `Infinity` and `-Infinity`. An integer of more
than `Number.maxDigits` digits is refused with an error of its own.

The reading functions take the index of the next character and the characters that are left. Their
depth is bounded by the length of the text, which `Json.read` supplies.
-/

namespace FactoryRegistry.Json

open Number

/-- What a JSON text lacks or has too much of. -/
inductive Problem where
  /-- No value begins here. -/
  | expectingValue
  /-- No member name begins here. -/
  | expectingName
  /-- The colon after a member name is missing. -/
  | expectingColon
  /-- The comma between items is missing. -/
  | expectingComma
  /-- The string that begins here does not end. -/
  | unterminatedText
  /-- A control character stands in a string. -/
  | controlCharacter
  /-- A reverse solidus begins no escape. -/
  | badEscape
  /-- An escaped code unit has not four hexadecimal digits. -/
  | badCodeUnit
  /-- The text goes on after the value. -/
  | extraData
  /-- The text begins with a byte order mark. -/
  | byteOrderMark
  deriving DecidableEq, Repr

/-- Why a text is not read. -/
inductive Error where
  /-- The text is no JSON: the problem and the index of the character it lies at. -/
  | malformed (problem : Problem) (index : Nat)
  /-- An integer has this many digits, more than may be read. -/
  | tooManyDigits (count : Nat)
  deriving DecidableEq, Repr

/-- A result together with the index and the characters after it. -/
abbrev Before (α : Type) := α × Nat × List Char

/-- The blanks of the format. -/
def isSpace (c : Char) : Bool := c == ' ' || c == '\t' || c == '\n' || c == '\r'

/-- Passes over blanks. -/
def skipSpace : Nat → List Char → Nat × List Char
  | i, c :: cs => if isSpace c then skipSpace (i + 1) cs else (i, c :: cs)
  | i, [] => (i, [])

/-- The code unit of four hexadecimal digits. -/
def codeUnit? (a b c d : Char) : Option Nat := do
  let ds ← [a, b, c, d].mapM fun x => (Text.alphanumericDigit? x).filter (· < 16)
  return ds.foldl (fun n x => 16 * n + x) 0

/-- A code unit that begins a pair. -/
def isHighUnit (n : Nat) : Bool := 0xd800 ≤ n && n ≤ 0xdbff

/-- A code unit that ends a pair. -/
def isLowUnit (n : Nat) : Bool := 0xdc00 ≤ n && n ≤ 0xdfff

/-- The character of a code unit that stands alone. Half of a pair is no character and becomes the
replacement character. -/
def unitChar (n : Nat) : Char :=
  if isHighUnit n || isLowUnit n then Char.ofNat 0xfffd else Char.ofNat n

/-- The character of a pair of code units. -/
def pairChar (high low : Nat) : Char :=
  Char.ofNat (0x10000 + (high - 0xd800) * 0x400 + (low - 0xdc00))

/-- The character that a letter stands for after a reverse solidus. -/
def escapedChar? (c : Char) : Option Char :=
  if c == '"' || c == '\\' || c == '/' then some c
  else if c == 'b' then some (Char.ofNat 8)
  else if c == 'f' then some (Char.ofNat 12)
  else if c == 'n' then some '\n'
  else if c == 'r' then some '\r'
  else if c == 't' then some '\t'
  else none

/-- The characters of a string up to its closing mark. `start` is the index of the opening mark. -/
def readText (start : Nat) (i : Nat) (input : List Char) : Except Error (Before (List Char)) :=
  match input with
  | [] => .error (.malformed .unterminatedText start)
  | '"' :: cs => .ok ([], i + 1, cs)
  | ['\\'] => .error (.malformed .unterminatedText start)
  | '\\' :: 'u' :: a :: b :: c :: d :: e :: cs =>
    match codeUnit? a b c d with
    | none => .error (.malformed .badCodeUnit (i + 1))
    | some high =>
      let alone := (readText start (i + 6) (e :: cs)).map fun (s, rest) =>
        (unitChar high :: s, rest)
      if isHighUnit high then
        match _h : e :: cs with
        | '\\' :: 'u' :: a :: b :: c :: d :: e :: cs =>
          match codeUnit? a b c d with
          | none => .error (.malformed .badCodeUnit (i + 7))
          | some low =>
            if isLowUnit low then
              (readText start (i + 12) (e :: cs)).map fun (s, rest) =>
                (pairChar high low :: s, rest)
            else alone
        | _ => alone
      else alone
  | '\\' :: 'u' :: _ => .error (.malformed .badCodeUnit (i + 1))
  | '\\' :: c :: cs =>
    match escapedChar? c with
    | none => .error (.malformed .badEscape i)
    | some x => (readText start (i + 2) cs).map fun (s, rest) => (x :: s, rest)
  | c :: cs =>
    if c.toNat ≤ 0x1f then .error (.malformed .controlCharacter i)
    else (readText start (i + 1) cs).map fun (s, rest) => (c :: s, rest)
termination_by input.length
decreasing_by
  all_goals
    try have shorter := congrArg List.length _h
    simp only [List.length_cons] at *
    omega

/-- The whole part of a number: one zero, or digits that begin with another one. -/
def wholeDigits : List Char → List Char
  | '0' :: _ => ['0']
  | cs => cs.takeWhile isAsciiDigit

/-- The fraction that begins here: a point with at least one digit. -/
def fractionPart : List Char → List Char
  | '.' :: c :: cs => if isAsciiDigit c then '.' :: c :: cs.takeWhile isAsciiDigit else []
  | _ => []

/-- The exponent that begins here: a mark, perhaps a sign, and at least one digit. -/
def exponentPart : List Char → List Char
  | mark :: cs =>
    if mark == 'e' || mark == 'E' then
      let sign := match cs with
        | '-' :: _ => ['-']
        | '+' :: _ => ['+']
        | _ => []
      let digits := (cs.drop sign.length).takeWhile isAsciiDigit
      if digits.isEmpty then [] else mark :: sign ++ digits
    else []
  | [] => []

/-- A number. -/
def readNumber (i : Nat) (cs : List Char) : Except Error (Before Json) :=
  let sign := if cs.head? == some '-' then ['-'] else []
  let rest := cs.drop sign.length
  let whole := wholeDigits rest
  let rest := rest.drop whole.length
  let fraction := fractionPart rest
  let rest := rest.drop fraction.length
  let exponent := exponentPart rest
  let rest := rest.drop exponent.length
  let shown := sign ++ whole ++ fraction ++ exponent
  if whole.isEmpty then .error (.malformed .expectingValue i)
  else if fraction.isEmpty && exponent.isEmpty then
    match readInteger 10 shown with
    | .ok n => .ok (int n, i + shown.length, rest)
    | .error (.tooManyDigits count) => .error (.tooManyDigits count)
    | .error .malformed => .error (.malformed .expectingValue i)
  else .ok (real ((readReal? shown).getD Binary64.nan), i + shown.length, rest)

/-- A value that is written as a fixed word, with the length of the word. -/
def word? (cs : List Char) : Option (Json × Nat) :=
  let begins (w : String) := w.toList.isPrefixOf cs
  if begins "null" then some (null, 4)
  else if begins "true" then some (bool true, 4)
  else if begins "false" then some (bool false, 5)
  else if begins "NaN" then some (real Binary64.nan, 3)
  else if begins "Infinity" then some (real (Binary64.infinity false), 8)
  else if begins "-Infinity" then some (real (Binary64.infinity true), 9)
  else none

mutual

/-- A value. -/
def readValue : (fuel i : Nat) → List Char → Except Error (Before Json)
  | 0, i, _ => .error (.malformed .expectingValue i)
  | _ + 1, i, [] => .error (.malformed .expectingValue i)
  | fuel + 1, i, c :: cs =>
    if c == '"' then
      (readText i (i + 1) cs).map fun (s, rest) => (text (String.ofList s), rest)
    else if c == '{' then
      let (j, rest) := skipSpace (i + 1) cs
      match rest with
      | '}' :: rest => .ok (object [], j + 1, rest)
      | rest => (readMembers fuel [] j rest).map fun (ms, rest) => (object ms, rest)
    else if c == '[' then
      let (j, rest) := skipSpace (i + 1) cs
      match rest with
      | ']' :: rest => .ok (array [], j + 1, rest)
      | rest => (readItems fuel j rest).map fun (items, rest) => (array items, rest)
    else match word? (c :: cs) with
      | some (v, length) => .ok (v, i + length, (c :: cs).drop length)
      | none => readNumber i (c :: cs)

/-- The members of an object from a name on, up to and with the closing brace. -/
def readMembers : (fuel : Nat) → List (String × Json) → (i : Nat) → List Char →
    Except Error (Before (List (String × Json)))
  | 0, _, i, _ => .error (.malformed .expectingName i)
  | fuel + 1, members, i, '"' :: cs => do
    let (name, j, rest) ← readText i (i + 1) cs
    match skipSpace j rest with
    | (j, ':' :: rest) =>
      let (j, rest) := skipSpace (j + 1) rest
      let (value, j, rest) ← readValue fuel j rest
      let members := put (String.ofList name) value members
      match skipSpace j rest with
      | (j, '}' :: rest) => .ok (members, j + 1, rest)
      | (j, ',' :: rest) =>
        let (j, rest) := skipSpace (j + 1) rest
        readMembers fuel members j rest
      | (j, _) => .error (.malformed .expectingComma j)
    | (j, _) => .error (.malformed .expectingColon j)
  | _ + 1, _, i, _ => .error (.malformed .expectingName i)

/-- The items of an array from a value on, up to and with the closing bracket. -/
def readItems : (fuel i : Nat) → List Char → Except Error (Before (List Json))
  | 0, i, _ => .error (.malformed .expectingValue i)
  | fuel + 1, i, cs => do
    let (value, j, rest) ← readValue fuel i cs
    match skipSpace j rest with
    | (j, ']' :: rest) => .ok ([value], j + 1, rest)
    | (j, ',' :: rest) =>
      let (j, rest) := skipSpace (j + 1) rest
      let (items, rest) ← readItems fuel j rest
      .ok (value :: items, rest)
    | (j, _) => .error (.malformed .expectingComma j)

end

/-- The value of a JSON text. -/
def read (s : String) : Except Error Json := do
  let cs := s.toList
  if cs.head? == some (Char.ofNat 0xfeff) then throw (.malformed .byteOrderMark 0)
  let (i, rest) := skipSpace 0 cs
  let (value, j, rest) ← readValue (2 * cs.length + 2) i rest
  let (j, rest) := skipSpace j rest
  if rest.isEmpty then return value else throw (.malformed .extraData j)

/-- The wording of a problem. -/
def Problem.message : Problem → String
  | .expectingValue => "Expecting value"
  | .expectingName => "Expecting property name enclosed in double quotes"
  | .expectingColon => "Expecting ':' delimiter"
  | .expectingComma => "Expecting ',' delimiter"
  | .unterminatedText => "Unterminated string starting at"
  | .controlCharacter => "Invalid control character at"
  | .badEscape => "Invalid \\escape"
  | .badCodeUnit => "Invalid \\uXXXX escape"
  | .extraData => "Extra data"
  | .byteOrderMark => "Unexpected UTF-8 BOM (decode using utf-8-sig)"

/-- A problem with its place in the text: line and column count from one, the character from
zero. -/
def Problem.describe (problem : Problem) (s : String) (index : Nat) : String :=
  let before := s.toList.take index
  let line := before.count '\n' + 1
  let column := (before.reverse.takeWhile (· != '\n')).length + 1
  s!"{problem.message}: line {natText line} column {natText column} (char {natText index})"

end FactoryRegistry.Json
