import FactoryRegistry.Text.CaseTable

/-!
# Upper and lower case

Lower-case and capitalised forms of a text under the full mappings of the Unicode standard: one
character may become several, and a Greek capital sigma becomes a final sigma at the end of a word.
`uncapitalize` lowers the first character alone, which then stands in no word.
-/

namespace FactoryRegistry.Text

/-- The image of a character under the first run that holds it, else the character itself. -/
def mapCase (runs : List CaseRun) (c : Char) : Char :=
  match runs.findSome? (·.map? c.toNat) with
  | some n => Char.ofNat n
  | none => c

/-- The lower-case form of one character outside any word. -/
def lowercaseOf (c : Char) : List Char :=
  if c.toNat < 0x80 then [c.toLower]
  else if c.toNat == 0x130 then ['i', Char.ofNat 0x307]
  else [mapCase lowercaseRuns c]

/-- The title-case form of one character. -/
def titlecaseOf (c : Char) : List Char :=
  if c.toNat < 0x80 then [c.toUpper]
  else match titlecaseSequences.lookup c.toNat with
    | some ns => ns.map Char.ofNat
    | none => [mapCase titlecaseRuns c]

/-- The nearest character that is not case-ignorable has a case. -/
def nextIsCased (cs : List Char) : Bool :=
  match cs.dropWhile caseIgnorableCharacters.contains with
  | c :: _ => casedCharacters.contains c
  | [] => false

/-- The lower-case form of a text whose already passed characters are `before`, nearest first. A
capital sigma is final when a cased character stands before it and none after it. -/
def lowercaseFrom (before : List Char) : List Char → List Char
  | [] => []
  | c :: cs =>
    let image :=
      if c.toNat == 0x3a3 then
        [Char.ofNat (if nextIsCased before && !nextIsCased cs then 0x3c2 else 0x3c3)]
      else lowercaseOf c
    image ++ lowercaseFrom (c :: before) cs

/-- The lower-case form of a text. -/
def lowercase (s : String) : String :=
  String.ofList (lowercaseFrom [] s.toList)

/-- The first character in title case and the others in lower case. -/
def capitalize (s : String) : String :=
  match s.toList with
  | [] => ""
  | c :: cs => String.ofList (titlecaseOf c ++ lowercaseFrom [c] cs)

/-- The first character in lower case and the others as they are. -/
def uncapitalize (s : String) : String :=
  match s.toList with
  | [] => ""
  | c :: cs => String.ofList (lowercaseOf c ++ cs)

end FactoryRegistry.Text
