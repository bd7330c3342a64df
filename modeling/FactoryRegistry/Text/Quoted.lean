import FactoryRegistry.Text.Digit
import FactoryRegistry.Text.Printable

/-!
# Quoted texts

How messages show a text: between quotation marks, with escapes for the mark in use, the reverse
solidus and every character that is not printable. Single marks are used unless the text contains
one and no double mark.
-/

namespace FactoryRegistry.Text

/-- The mark around a quoted text. -/
def quoteMark (cs : List Char) : Char :=
  if cs.contains '\'' && !cs.contains '"' then '"' else '\''

/-- One character of a text between two marks. -/
def escapeQuoted (mark c : Char) : List Char :=
  if c == mark || c == '\\' then ['\\', c]
  else if c == '\t' then ['\\', 't']
  else if c == '\n' then ['\\', 'n']
  else if c == '\r' then ['\\', 'r']
  else if isPrintable c then [c]
  else if c.toNat ≤ 0xff then '\\' :: 'x' :: hex 2 c.toNat
  else if c.toNat ≤ 0xffff then '\\' :: 'u' :: hex 4 c.toNat
  else '\\' :: 'U' :: hex 8 c.toNat

/-- A text between quotation marks. -/
def quoted (s : String) : String :=
  let mark := quoteMark s.toList
  String.ofList (mark :: s.toList.flatMap (escapeQuoted mark) ++ [mark])

/-- One byte of a sequence of bytes between two marks. -/
def escapeQuotedByte (mark : Char) (b : UInt8) : List Char :=
  let c := Char.ofNat b.toNat
  if c.toNat < 0x7f then escapeQuoted mark c else '\\' :: 'x' :: hex 2 b.toNat

/-- Bytes between quotation marks, after the letter that tells them from a text. -/
def quotedBytes (bs : List UInt8) : String :=
  let mark := quoteMark (bs.map fun b => Char.ofNat b.toNat)
  String.ofList ('b' :: mark :: bs.flatMap (escapeQuotedByte mark) ++ [mark])

end FactoryRegistry.Text
