import FactoryRegistry.Text.Digit
import FactoryRegistry.Yaml.Character
import FactoryRegistry.Yaml.Token

/-!
# Block scalars

A block scalar takes the indented lines after its header. The header may state how far they are
indented beyond their parent, and what becomes of line breaks at the end. In a folded scalar a
single line break between two lines that begin with no blank stands for a space.
-/

namespace FactoryRegistry.Yaml

/-- What becomes of the line breaks at the end of a block scalar. -/
inductive Chomping where
  /-- All vanish. -/
  | strip
  /-- The first one stays. -/
  | clip
  /-- All stay. -/
  | keep
  deriving DecidableEq, Repr

/-- What the header of a block scalar states. -/
structure BlockHeader where
  /-- What becomes of line breaks at the end. -/
  chomping : Chomping
  /-- How far the lines are indented beyond their parent. -/
  increment : Option Nat

/-- The chomping that a header begins with, and the text after it. -/
def readChomping : List Char → Option Chomping × List Char
  | '+' :: cs => (some .keep, cs)
  | '-' :: cs => (some .strip, cs)
  | cs => (none, cs)

/-- The increment that a header begins with, and the text after it. Zero is no increment. -/
def readIncrement : List Char → Except Error (Option Nat × List Char)
  | '0' :: _ => .error .malformed
  | c :: cs => if isDigit c then .ok (Text.alphanumericDigit? c, cs) else .ok (none, c :: cs)
  | [] => .ok (none, [])

/-- The header of a block scalar: chomping and increment in any order. -/
def readBlockHeader (cs : List Char) : Except Error (BlockHeader × List Char) :=
  match readChomping cs with
  | (some chomping, cs) => do
    let (increment, cs) ← readIncrement cs
    return (⟨chomping, increment⟩, cs)
  | (none, cs) => do
    let (increment, cs) ← readIncrement cs
    let (chomping, cs) := if increment.isSome then readChomping cs else (none, cs)
    return (⟨chomping.getD .clip, increment⟩, cs)

/-- Passes over spaces and a comment up to and with the end of the line. Anything else on the line
is refused. -/
def passRestOfLine (cs : List Char) : Except Error (List Char) :=
  let cs := cs.dropWhile (· == ' ')
  let cs := if cs.head? == some '#' then cs.dropWhile (!isBreak ·) else cs
  match cs with
  | [] => .ok []
  | c :: cs => if isBreak c then .ok cs else .error .malformed

/-- What the line breaks of empty lines stand for, with the column reached after them and the text
left. Lines are empty as far as the indentation goes. -/
def passEmptyLines (indent column : Nat) : List Char → List Char × Nat × List Char
  | [] => ([], column, [])
  | c :: cs =>
    if c == ' ' && column < indent then passEmptyLines indent (column + 1) cs
    else if isBreak c then
      let (breaks, column, rest) := passEmptyLines indent 0 cs
      (breakContent c :: breaks, column, rest)
    else ([], column, c :: cs)

/-- What the line breaks of empty lines stand for, with the greatest column that spaces reach on any
line, the column reached and the text left. -/
def passFirstLines (greatest column : Nat) : List Char → List Char × Nat × Nat × List Char
  | [] => ([], greatest, column, [])
  | c :: cs =>
    if c == ' ' then passFirstLines (max greatest (column + 1)) (column + 1) cs
    else if isBreak c then
      let (breaks, greatest, column, rest) := passFirstLines greatest 0 cs
      (breakContent c :: breaks, greatest, column, rest)
    else ([], greatest, column, c :: cs)

/-- The content of a block scalar from a line on. -/
structure BlockContent where
  /-- The content without the line breaks at its end. -/
  content : List Char
  /-- What the line break of the last line stands for, if it has one. -/
  lastBreak : List Char
  /-- What the line breaks of empty lines at the end stand for. -/
  emptyLines : List Char
  /-- The text left. -/
  rest : List Char

/-- The lines of a block scalar, at most `fuel` of them, after empty lines that stand for
`breaks`. -/
def readBlockLines (folded : Bool) (indent : Nat) : (fuel : Nat) → (breaks : List Char) →
    (column : Nat) → List Char → BlockContent
  | 0, breaks, _, cs => ⟨[], [], breaks, cs⟩
  | fuel + 1, breaks, column, cs =>
    if column != indent || cs.isEmpty then ⟨[], [], breaks, cs⟩
    else
      let line := cs.takeWhile (!isBreak ·)
      let after := cs.dropWhile (!isBreak ·)
      let lastBreak := (after.take 1).map breakContent
      let (emptyLines, column, rest) := passEmptyLines indent 0 (after.drop 1)
      if column != indent || rest.isEmpty then ⟨breaks ++ line, lastBreak, emptyLines, rest⟩
      else
        let beginsBlank (cs : List Char) := cs.head?.any isGap
        let joint :=
          if folded && lastBreak == ['\n'] && !beginsBlank cs && !beginsBlank rest then
            if emptyLines.isEmpty then [' '] else []
          else lastBreak
        let more := readBlockLines folded indent fuel emptyLines column rest
        { more with content := breaks ++ line ++ joint ++ more.content }

/-- The content of a block scalar whose indicator is passed, and the text after it. `parent` is the
indentation of the collection that it stands in. -/
def readBlock (folded : Bool) (parent : Int) (cs : List Char) :
    Except Error (List Char × List Char) := do
  let (header, cs) ← readBlockHeader cs
  if !endsItem cs.head? then throw .malformed
  let cs ← passRestOfLine cs
  let least := max 1 (parent + 1).toNat
  let (indent, breaks, column, cs) := match header.increment with
    | none =>
      let (breaks, greatest, column, cs) := passFirstLines 0 0 cs
      (max least greatest, breaks, column, cs)
    | some n =>
      let indent := least + n - 1
      let (breaks, column, cs) := passEmptyLines indent 0 cs
      (indent, breaks, column, cs)
  let block := readBlockLines folded indent (cs.length + 1) breaks column cs
  let ending := match header.chomping with
    | .strip => []
    | .clip => block.lastBreak
    | .keep => block.lastBreak ++ block.emptyLines
  return (block.content ++ ending, block.rest)

end FactoryRegistry.Yaml
