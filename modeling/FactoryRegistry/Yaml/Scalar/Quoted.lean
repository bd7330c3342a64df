import FactoryRegistry.Text.Digit
import FactoryRegistry.Yaml.Character
import FactoryRegistry.Yaml.Token

/-!
# Scalars between quotation marks

A quoted scalar may run over several lines. Blanks around a line break vanish; a single line break
then stands for a space, and of several the first vanishes. Between double marks a reverse solidus
begins an escape, and between single marks two marks stand for one.
-/

namespace FactoryRegistry.Yaml

/-- What stands between two words of a quoted scalar. -/
inductive Between where
  /-- Blanks on one line, last first. -/
  | blanks (last : List Char)
  /-- A line break, none if it is escaped, and what the further ones stand for, last first. -/
  | breaks (first : Option Char) (last : List Char)

namespace Between

/-- The text that stands for what is between two words. -/
def content : Between → List Char
  | blanks last => last.reverse
  | breaks none last => last.reverse
  | breaks (some '\n') [] => [' ']
  | breaks (some '\n') last => last.reverse
  | breaks (some c) last => c :: last.reverse

/-- A further blank. After a line break it vanishes. -/
def addBlank (c : Char) : Between → Between
  | blanks last => blanks (c :: last)
  | breaks first last => breaks first last

/-- A further line break, given what it stands for. -/
def addBreak (c : Char) : Between → Between
  | blanks _ => breaks (some c) []
  | breaks first last => breaks first (c :: last)

end Between

/-- The character that a letter stands for after a reverse solidus. -/
def simpleEscape? (c : Char) : Option Char :=
  [('0', Char.ofNat 0), ('a', Char.ofNat 7), ('b', Char.ofNat 8), ('t', '\t'), ('\t', '\t'),
    ('n', '\n'), ('v', Char.ofNat 0x0b), ('f', Char.ofNat 0x0c), ('r', '\r'),
    ('e', Char.ofNat 0x1b), (' ', ' '), ('"', '"'), ('\\', '\\'), ('/', '/'),
    ('N', Char.ofNat 0x85), ('_', Char.ofNat 0xa0), ('L', Char.ofNat 0x2028),
    ('P', Char.ofNat 0x2029)].lookup c

/-- The count of hexadecimal digits after a letter that begins an escaped code point. -/
def codeLength? (c : Char) : Option Nat := [('x', 2), ('u', 4), ('U', 8)].lookup c

/-- The number of a count of hexadecimal digits. -/
def hexNumber? (count : Nat) (cs : List Char) : Option Nat := do
  let digits ← (cs.take count).mapM fun c => (Text.alphanumericDigit? c).filter (· < 16)
  if digits.length = count then some (digits.foldl (fun n d => 16 * n + d) 0) else none

/-- The character of a code point. Half of a pair of code units is no character and becomes the
replacement character. -/
def codeChar (n : Nat) : Except Error Char :=
  if 0x10ffff < n then .error (.unusable (.hugeCodePoint n))
  else if 0xd800 ≤ n && n ≤ 0xdfff then .ok (Char.ofNat 0xfffd)
  else .ok (Char.ofNat n)

/-- The content of a scalar up to its closing double mark, and the text after it. -/
def readDouble (between : Between) (input : List Char) : Except Error (List Char × List Char) :=
  match input with
  | [] => .error .malformed
  | '\\' :: c :: cs =>
    match simpleEscape? c with
    | some x => (readDouble (.blanks []) cs).map fun (s, rest) => (between.content ++ x :: s, rest)
    | none =>
      match codeLength? c with
      | some count =>
        match hexNumber? count cs with
        | some n => do
          let x ← codeChar n
          let (s, rest) ← readDouble (.blanks []) (cs.drop count)
          return (between.content ++ x :: s, rest)
        | none => .error .malformed
      | none =>
        if isBreak c && !beginsDocumentMark cs then
          (readDouble (.breaks none []) cs).map fun (s, rest) => (between.content ++ s, rest)
        else .error .malformed
  | c :: cs =>
    if isGap c then readDouble (between.addBlank c) cs
    else if isBreak c then
      if beginsDocumentMark cs then .error .malformed
      else readDouble (between.addBreak (breakContent c)) cs
    else if c == '"' then .ok (between.content, cs)
    else (readDouble (.blanks []) cs).map fun (s, rest) => (between.content ++ c :: s, rest)
termination_by input.length
decreasing_by
  all_goals
    simp only [List.length_cons, List.length_drop]
    omega

/-- The content of a scalar up to its closing single mark, and the text after it. -/
def readSingle (between : Between) : List Char → Except Error (List Char × List Char)
  | [] => .error .malformed
  | '\'' :: '\'' :: cs =>
    (readSingle (.blanks []) cs).map fun (s, rest) => (between.content ++ '\'' :: s, rest)
  | c :: cs =>
    if isGap c then readSingle (between.addBlank c) cs
    else if isBreak c then
      if beginsDocumentMark cs then .error .malformed
      else readSingle (between.addBreak (breakContent c)) cs
    else if c == '\'' then .ok (between.content, cs)
    else (readSingle (.blanks []) cs).map fun (s, rest) => (between.content ++ c :: s, rest)

/-- The content of a quoted scalar whose opening mark is passed, and the text after it. -/
def readQuoted (double : Bool) (input : List Char) : Except Error (List Char × List Char) :=
  if double then readDouble (.blanks []) input else readSingle (.blanks []) input

end FactoryRegistry.Yaml
