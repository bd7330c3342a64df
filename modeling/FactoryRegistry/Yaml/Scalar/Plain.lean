import FactoryRegistry.Yaml.Character

/-!
# Plain scalars

A scalar without quotation marks. Its words end before a blank, before the colon of a value and, in
a flow collection, before the marks of the collection. It may go on on further lines as long as
these are indented; line breaks between words are folded as in a quoted scalar.
-/

namespace FactoryRegistry.Yaml

/-- A character that ends a plain word in a flow collection. -/
def endsFlowWord (c : Char) : Bool := [',', '?', '[', ']', '{', '}'].contains c

/-- A colon before the next character begins a value. -/
def opensValue (flow : Bool) (next : Option Char) : Bool :=
  endsWord next || (flow && next.any [',', '[', ']', '{', '}'].contains)

/-- The word that a text begins with. -/
def plainWord (flow : Bool) : List Char → List Char
  | [] => []
  | c :: cs =>
    if isGapOrBreak c || (c == ':' && opensValue flow cs.head?) || (flow && endsFlowWord c) then []
    else c :: plainWord flow cs

/-- What follows a plain word. -/
structure AfterWord where
  /-- What stands for the blanks and breaks after the word, if the scalar may go on. -/
  content : Option (List Char)
  /-- The column reached, if a line break was passed. -/
  column : Option Nat
  /-- The text left. -/
  rest : List Char

/-- Blanks and breaks after a first line break. `first` is what that one stands for, `last` what the
further ones stand for, last first. A mark between documents ends the scalar. -/
def afterBreak (first : Char) (last : List Char) (column : Nat) : List Char → AfterWord
  | [] => ⟨some (folded first last), some column, []⟩
  | c :: cs =>
    if c == ' ' then afterBreak first last (column + 1) cs
    else if isBreak c then
      if beginsDocumentMark cs then ⟨none, some 0, cs⟩
      else afterBreak first (breakContent c :: last) 0 cs
    else ⟨some (folded first last), some column, c :: cs⟩
where
  /-- What line breaks stand for together. -/
  folded (first : Char) (last : List Char) : List Char :=
    if first != '\n' then first :: last.reverse
    else if last.isEmpty then [' ']
    else last.reverse

/-- What follows a word. -/
def afterWord (cs : List Char) : AfterWord :=
  let blanks := cs.takeWhile (· == ' ')
  match cs.dropWhile (· == ' ') with
  | c :: rest =>
    if isBreak c then
      if beginsDocumentMark rest then ⟨none, some 0, rest⟩
      else afterBreak (breakContent c) [] 0 rest
    else ⟨if blanks.isEmpty then none else some blanks, none, c :: rest⟩
  | [] => ⟨if blanks.isEmpty then none else some blanks, none, []⟩

/-- A plain scalar that was read. -/
structure PlainScalar where
  /-- Its content. -/
  content : List Char
  /-- A line break follows its last word. -/
  brokeLine : Bool
  /-- The text left. -/
  rest : List Char

/-- The words of a plain scalar, at most `fuel` of them, with their separators. `before` stands for
what is between the word before and this one. -/
def readPlainWords (flow : Bool) (indent : Int) : (fuel : Nat) → (before : List Char) →
    (broke : Bool) → List Char → PlainScalar
  | 0, _, broke, cs => ⟨[], broke, cs⟩
  | fuel + 1, before, broke, cs =>
    let word := if cs.head? == some '#' then [] else plainWord flow cs
    if word.isEmpty then ⟨[], broke, cs⟩
    else
      let after := afterWord (cs.drop word.length)
      let broke := after.column.isSome
      let outdented := !flow && after.column.any fun n => (n : Int) < indent
      match after.content with
      | none => ⟨before ++ word, broke, after.rest⟩
      | some content =>
        if after.rest.head? == some '#' || outdented then ⟨before ++ word, broke, after.rest⟩
        else
          let more := readPlainWords flow indent fuel content broke after.rest
          { more with content := before ++ word ++ more.content }

/-- The plain scalar that a text begins with. Its further lines have to be indented by `indent`
columns, except in a flow collection. -/
def readPlain (flow : Bool) (indent : Int) (cs : List Char) : PlainScalar :=
  readPlainWords flow indent cs.length [] false cs

end FactoryRegistry.Yaml
