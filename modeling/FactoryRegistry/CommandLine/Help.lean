import FactoryRegistry.CommandLine.Grammar
import FactoryRegistry.Text.Blank

/-!
# Help texts

The layout of help: a usage line, paragraphs and tables of two columns, all within a width. Words
are kept whole, and blanks between words are kept except where a line is broken.
-/

namespace FactoryRegistry.CommandLine

/-- A text cut into words and the blanks between them, by turns. -/
def chunks (cs : List Char) : List String :=
  (cs.splitBy fun a b => Text.isBlank a == Text.isBlank b).map String.ofList

/-- A chunk of blanks. -/
def isBlankChunk (chunk : String) : Bool := chunk.toList.all Text.isBlank

/-- A line without blanks at its end. -/
def lineOf (reversed : List String) : String :=
  String.join (match reversed with
    | [] => []
    | last :: before => (if isBlankChunk last then before else last :: before).reverse)

/-- The lines of a text, where `line` holds the chunks of the line being filled, last first, and
`length` their length. -/
def fillFrom (width : Nat) (line : List String) (length : Nat) : List String → List String
  | [] => if line.isEmpty then [] else [lineOf line]
  | chunk :: rest =>
    if line.isEmpty || length + chunk.length ≤ width then
      fillFrom width (chunk :: line) (length + chunk.length) rest
    else if isBlankChunk chunk then lineOf line :: fillFrom width [] 0 rest
    else lineOf line :: fillFrom width [chunk] chunk.length rest

/-- The lines of a text, none longer than a width unless a single word is. -/
def fill (width : Nat) (text : String) : List String := fillFrom width [] 0 (chunks text.toList)

/-- Blanks at the start of a line. -/
def margin (n : Nat) : String := String.ofList (List.replicate n ' ')

/-- A paragraph of help. -/
inductive Paragraph where
  /-- A text that is broken into lines. -/
  | flowing (text : String)
  /-- Lines that stay as they are. -/
  | verbatim (lines : List String)

/-- The columns by which help is indented. -/
def indentation : Nat := 2

/-- The lines of a paragraph. -/
def Paragraph.lines (width : Nat) : Paragraph → List String
  | flowing text => (fill (width - indentation) text).map (margin indentation ++ ·)
  | verbatim ls => ls.map (margin indentation ++ ·)

/-- The widest that the first column of a table gets. -/
def firstColumnLimit : Nat := 30

/-- The blanks between the columns of a table. -/
def columnSpacing : Nat := 2

/-- The least width of the second column of a table. -/
def secondColumnLeast : Nat := 10

/-- One row of a table whose first column with its spacing takes `column` columns. -/
def rowLines (width column : Nat) (first second : String) : List String :=
  let texts := fill (max (width - column - 2) secondColumnLeast) second
  let start := margin indentation ++ first
  let hanging := margin (column + indentation)
  if first.length + columnSpacing ≤ column then
    match texts with
    | [] => [start]
    | text :: more => (start ++ margin (column - first.length) ++ text) :: more.map (hanging ++ ·)
  else start :: texts.map (hanging ++ ·)

/-- A table with its title. -/
def tableLines (width : Nat) (title : String) (rows : List (String × String)) : List String :=
  let widest := (rows.map fun (first, _) => first.length).foldl max 0
  let column := min widest firstColumnLimit + columnSpacing
  s!"{title}:" :: rows.flatMap fun (first, second) => rowLines width column first second

/-- The first column of help about an option: its names, short ones first, and whether it takes a
value. -/
def OptionSpec.shown (o : OptionSpec) : String :=
  ", ".intercalate (o.shortNames ++ o.longNames) ++ (if o.takesValue then " PATH" else "")

/-- The second column of help about an option. -/
def OptionSpec.explained (o : OptionSpec) : String :=
  o.description ++ (if o.required then "  [required]" else "")

/-- The table of options. -/
def optionTable (options : List OptionSpec) : List (String × String) :=
  options.map fun o => (o.shown, o.explained)

/-- What a shortened text ends with. -/
def ellipsis : String := "..."

/-- The length of some words with single blanks between them. -/
def wordsLength (words : List String) : Nat := (" ".intercalate words).length

/-- The most words that come first, with an ellipsis after them, in a length. -/
def shortenedWords (limit : Nat) (words : List String) : List String :=
  let fitting := (List.range (words.length + 1)).filter fun n =>
    wordsLength (words.take n) + ellipsis.length ≤ limit
  words.take (fitting.getLastD 0)

/-- A sentence of words in a length, shortened if it is longer. -/
def shortened (limit : Nat) (sentence : String) : String :=
  if sentence.length ≤ limit then sentence
  else
    let words := (chunks sentence.toList).filter (!isBlankChunk ·)
    " ".intercalate (shortenedWords limit words) ++ ellipsis

end FactoryRegistry.CommandLine
