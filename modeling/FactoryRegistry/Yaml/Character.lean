/-!
# Characters of YAML

The character classes of YAML 1.1. A document may hold printable characters only. Many rules of the
format ask what follows a character; the end of the text counts as a line break there, which is why
`endsWord` and `endsItem` take the next character as an option.
-/

namespace FactoryRegistry.Yaml

/-- A character that a document may hold. -/
def isAllowed (c : Char) : Bool :=
  let n := c.toNat
  n == 0x09 || n == 0x0a || n == 0x0d || (0x20 ≤ n && n ≤ 0x7e) || n == 0x85 ||
    (0xa0 ≤ n && n ≤ 0xd7ff) || (0xe000 ≤ n && n ≤ 0xfffd) || 0x10000 ≤ n

/-- A line break. -/
def isBreak (c : Char) : Bool :=
  let n := c.toNat
  n == 0x0a || n == 0x0d || n == 0x85 || n == 0x2028 || n == 0x2029

/-- A space or a tab. -/
def isGap (c : Char) : Bool := c == ' ' || c == '\t'

/-- A space, a tab or a line break. -/
def isGapOrBreak (c : Char) : Bool := isGap c || isBreak c

/-- What a line break stands for in a text: the separators of lines and paragraphs for themselves
and all others for a line feed. -/
def breakContent (c : Char) : Char :=
  if c.toNat == 0x2028 || c.toNat == 0x2029 then c else '\n'

/-- The word ends before the next character. -/
def endsWord : Option Char → Bool
  | none => true
  | some c => isGapOrBreak c

/-- The line ends before the next character, or a space follows. -/
def endsItem : Option Char → Bool
  | none => true
  | some c => c == ' ' || isBreak c

/-- A digit. -/
def isDigit (c : Char) : Bool := '0' ≤ c && c ≤ '9'

/-- A character of the names of anchors, tag handles and directives. -/
def isNameChar (c : Char) : Bool :=
  isDigit c || ('A' ≤ c && c ≤ 'Z') || ('a' ≤ c && c ≤ 'z') || c == '-' || c == '_'

/-- A character of a tag, apart from the escapes that a percent sign begins. -/
def isTagChar (c : Char) : Bool :=
  isNameChar c || "-;/?:@&=+$,_.!~*'()[]".toList.contains c

/-- A character that may follow the name of an anchor at once. -/
def followsAnchor : Option Char → Bool
  | none => true
  | some c => isGapOrBreak c || [',', ':', '?', ']', '}', '%', '@', Char.ofNat 0x60].contains c

/-- A character that has a meaning of its own at the start of a token. -/
def isIndicator (c : Char) : Bool :=
  ['-', '?', ':', ',', '[', ']', '{', '}', '#', '&', '*', '!', '|', '>', '\'', '"', '%', '@',
    Char.ofNat 0x60].contains c

/-- The text begins with the mark of a document's start or end, three times one character. -/
def beginsMark (mark : Char) : List Char → Bool
  | a :: b :: c :: cs => a == mark && b == mark && c == mark && endsWord cs.head?
  | _ => false

/-- The text begins with a mark between documents. -/
def beginsDocumentMark (cs : List Char) : Bool := beginsMark '-' cs || beginsMark '.' cs

end FactoryRegistry.Yaml
