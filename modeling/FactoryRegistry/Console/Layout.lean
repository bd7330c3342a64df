import FactoryRegistry.Console.Style

/-!
# Layout of terminal output

The lines that make up the tool's messages: plain messages in a colour, a banner, headings with a
rule, aligned pairs, bullets and announcements of written files. Widths follow the terminal within
bounds.
-/

namespace FactoryRegistry.Console

/-- The width of a terminal that does not tell it. -/
def usualColumns : Nat := 80

/-- A terminal, by its width. -/
structure Terminal where
  /-- The number of columns. -/
  columns : Nat := usualColumns

/-- The terminal of a stated width. A width that is not positive tells nothing. -/
def Terminal.ofColumns (n : Int) : Terminal := ⟨if n ≤ 0 then usualColumns else n.toNat⟩

/-- The width that output is laid out for. -/
def Terminal.width (t : Terminal) : Nat := max 40 (min t.columns 120)

/-- One character several times. -/
def repeated (c : Char) (n : Nat) : String := String.ofList (List.replicate n c)

/-- A text in the middle of a width. Of odd padding the larger half stands on the left when the
width is odd, and on the right when it is even. -/
def centred (width : Int) (text : String) : String :=
  let padding := (width - text.length).toNat
  let left := padding / 2 + (if padding % 2 == 1 && width % 2 == 1 then 1 else 0)
  repeated ' ' left ++ text ++ repeated ' ' (padding - left)

/-- A text with blanks after it up to a width. -/
def leftAligned (width : Int) (text : String) : String :=
  text ++ repeated ' ' (width - text.length).toNat

/-- The mark of something that went well. -/
def checkMark : String := "✓"

/-- The mark of something that failed. -/
def crossMark : String := "✗"

/-- A heading's line. -/
def ruleChar : Char := '─'

/-- A message of success. -/
def success (message : String) : List String := [({ colour := some .green } : Style).apply message]

/-- A message of failure. -/
def failure (message : String) : List String := [({ colour := some .red } : Style).apply message]

/-- A message for information. -/
def information (message : String) : List String :=
  [({ colour := some .cyan } : Style).apply message]

/-- A message of little weight. -/
def faint (message : String) : List String := [({ dim := true } : Style).apply message]

/-- A bold text, to stand in other output. -/
def bold (text : String) : String := ({ bold := some true } : Style).apply text

/-- An edge of a box. -/
def edge (left right : Char) (inner : Int) : String :=
  String.ofList (left :: List.replicate inner.toNat '━' ++ [right])

/-- The title of the program in a box, with a further line below it unless that is empty. Without a
width of its own the box is as wide as the terminal, up to 60 columns. -/
def banner (t : Terminal) (title subtitle : String) (width : Option Int) : List String :=
  let whole := (width.filter (· != 0)).getD (min t.width 60 : Nat)
  let inner := whole - 2
  let style : Style := { colour := some .cyan }
  let row (strong : Bool) (text : String) : String :=
    { style with bold := some strong }.apply ("┃" ++ centred inner text ++ "┃")
  style.apply (edge '┏' '┓' inner) :: row true title ::
    (if subtitle.isEmpty then [] else [row false subtitle]) ++
    [style.apply (edge '┗' '┛' inner)]

/-- A heading, with a rule after it that fills the line. -/
def heading (t : Terminal) (title : String) : List String :=
  let rule := repeated ruleChar (max 4 ((t.width : Int) - title.length - 6).toNat)
  let style : Style := { colour := some .cyan, bold := some true }
  [style.apply (repeated ruleChar 2 ++ " " ++ title ++ " " ++ rule)]

/-- The column at which values stand. -/
def keyWidth : Int := 20

/-- A value with its label. -/
def labelled (width : Int) (key value : String) : List String :=
  let label := ({ colour := some .white } : Style).apply (leftAligned width (key ++ ":"))
  ["  " ++ label ++ ({ colour := some .cyan } : Style).apply value]

/-- An item of a list. -/
def bullet (text : String) : List String :=
  ["  " ++ ({ colour := some .cyan } : Style).apply "•" ++ " " ++ text]

/-- The announcement of a file that was written, with a detail if that is wanted and not empty. -/
def fileWritten (name : String) (verbose : Bool) (detail : String) : List String :=
  (({ colour := some .green } : Style).apply ("  " ++ checkMark) ++ " " ++ name) ::
    (if verbose && !detail.isEmpty then faint ("    → " ++ detail) else [])

/-- Lines as they are written, without styles unless the output is a terminal. -/
def written (styled : Bool) (lines : List String) : String :=
  String.join (lines.map fun line => (if styled then line else stripStyles line) ++ "\n")

end FactoryRegistry.Console
