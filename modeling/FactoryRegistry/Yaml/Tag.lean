import FactoryRegistry.Text.Digit
import FactoryRegistry.Yaml.Character
import FactoryRegistry.Yaml.Token

/-!
# Written tags

The tag of a node is written in full between angle brackets, or as a handle with a suffix. In
either, a percent sign with two hexadecimal digits stands for a byte, and a run of such bytes has to
be UTF-8.
-/

namespace FactoryRegistry.Yaml

/-- The bytes of the escapes that a text begins with, and the text after them. -/
def readEscapedBytes : List Char → Except Error (List UInt8 × List Char)
  | '%' :: a :: b :: cs =>
    match Text.alphanumericDigit? a, Text.alphanumericDigit? b with
    | some x, some y =>
      if x < 16 && y < 16 then
        (readEscapedBytes cs).map fun (bs, rest) => (UInt8.ofNat (16 * x + y) :: bs, rest)
      else .error .malformed
    | _, _ => .error .malformed
  | '%' :: _ => .error .malformed
  | cs => .ok ([], cs)

/-- The characters of a tag, at most `fuel` stretches of them, and the text after it. -/
def readTagChars : (fuel : Nat) → List Char → Except Error (List Char × List Char)
  | 0, cs => .ok ([], cs)
  | _ + 1, [] => .ok ([], [])
  | fuel + 1, c :: cs =>
    if c == '%' then do
      let (bytes, rest) ← readEscapedBytes (c :: cs)
      match String.fromUTF8? ⟨bytes.toArray⟩ with
      | some s => (readTagChars fuel rest).map fun (more, rest) => (s.toList ++ more, rest)
      | none => throw .malformed
    else if isTagChar c then
      (readTagChars fuel cs).map fun (more, rest) => (c :: more, rest)
    else .ok ([], c :: cs)

/-- The characters of a tag, of which there is at least one or an escape, and the text after it. -/
def readTagText (cs : List Char) : Except Error (String × List Char) := do
  let (text, rest) ← readTagChars (cs.length + 1) cs
  if rest.length = cs.length then throw .malformed
  return (String.ofList text, rest)

/-- A handle: one mark, or a name between two marks. -/
def readHandle (cs : List Char) : Except Error (String × List Char) :=
  match cs with
  | '!' :: cs =>
    if cs.head? == some ' ' then .ok ("!", cs)
    else
      let name := cs.takeWhile isNameChar
      match cs.dropWhile isNameChar with
      | '!' :: rest => .ok (String.ofList ('!' :: name ++ ['!']), rest)
      | _ => .error .malformed
  | _ => .error .malformed

/-- A tag whose mark is passed, and the text after it. -/
def readTagBody (cs : List Char) : Except Error (WrittenTag × List Char) :=
  match cs with
  | '<' :: cs => do
    match ← readTagText cs with
    | (suffix, '>' :: rest) => return (⟨none, suffix⟩, rest)
    | _ => throw .malformed
  | cs =>
    if endsWord cs.head? then .ok (⟨none, "!"⟩, cs)
    else if (cs.takeWhile fun c => c != ' ' && !isBreak c).contains '!' then do
      let (handle, cs) ← readHandle ('!' :: cs)
      let (suffix, rest) ← readTagText cs
      return (⟨some handle, suffix⟩, rest)
    else do
      let (suffix, rest) ← readTagText cs
      return (⟨some "!", suffix⟩, rest)

/-- A tag whose mark is passed, and the text after it. A space or the end of the line has to
follow. -/
def readTag (cs : List Char) : Except Error (WrittenTag × List Char) := do
  let (tag, rest) ← readTagBody cs
  if endsItem rest.head? then return (tag, rest) else throw .malformed

end FactoryRegistry.Yaml
