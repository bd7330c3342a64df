import FactoryRegistry.Yaml.Directive
import FactoryRegistry.Yaml.Scalar.Plain
import FactoryRegistry.Yaml.Scalar.Quoted

/-!
# Reading tokens

A key may be written without any mark: only the colon after it tells that it is one. So whatever may
turn out to be a key is remembered with the place of its first token, and when the colon comes the
key token, and perhaps the start of a mapping, is inserted at that place. Such a key stands on one
line and is at most `maxKeyLength` characters long.

Outside flow collections the structure follows from the indentation. `Lexer.indents` holds the
columns of the block collections that are open.
-/

namespace FactoryRegistry.Yaml

/-- A place in a text, with the text left from there. -/
structure Cursor where
  /-- The text left. -/
  rest : List Char
  /-- The number of characters passed. -/
  index : Nat := 0
  /-- The number of lines passed. -/
  line : Nat := 0
  /-- The number of characters passed on this line. -/
  column : Nat := 0

namespace Cursor

/-- The place after some more characters. A byte order mark takes up no column. -/
def advance : Nat → Cursor → Cursor
  | 0, c => c
  | n + 1, c =>
    match c.rest with
    | [] => c
    | x :: rest =>
      let c := { c with rest, index := c.index + 1 }
      if isBreak x then advance n { c with line := c.line + 1, column := 0 }
      else if x.toNat == 0xfeff then advance n c
      else advance n { c with column := c.column + 1 }

/-- The place at which a given end of the text is left. -/
def moveTo (c : Cursor) (rest : List Char) : Cursor :=
  c.advance (c.rest.length - rest.length)

end Cursor

/-- The greatest distance between the start of a key and its colon. -/
def maxKeyLength : Nat := 1024

/-- Something that may turn out to be a key. -/
structure PossibleKey where
  /-- The number of flow collections around it. -/
  level : Nat
  /-- The number of tokens before its first one. -/
  tokenNumber : Nat
  /-- The block collection that it stands in allows nothing but a key here. -/
  required : Bool
  /-- Its place in the text. -/
  index : Nat
  /-- The line of its start. -/
  line : Nat
  /-- The column of its start. -/
  column : Nat

/-- The state of reading tokens. -/
structure Lexer where
  /-- The place reached. -/
  cursor : Cursor
  /-- The tokens so far, the last one first. -/
  tokens : List Token := []
  /-- The number of open flow collections. -/
  level : Nat := 0
  /-- The columns of the open block collections, the innermost one first. -/
  indents : List Nat := []
  /-- A key may begin here. -/
  keyAllowed : Bool := true
  /-- What may turn out to be a key, at most one for each level. -/
  possible : List PossibleKey := []

namespace Lexer

/-- The column of the innermost open block collection, -1 outside all of them. -/
def indent (s : Lexer) : Int :=
  match s.indents with
  | [] => -1
  | n :: _ => n

/-- The state with a further token. -/
def add (t : Token) (s : Lexer) : Lexer := { s with tokens := t :: s.tokens }

/-- The state with a token inserted after the first `number` ones. -/
def insert (number : Nat) (t : Token) (s : Lexer) : Lexer :=
  let later := s.tokens.length - number
  { s with tokens := s.tokens.take later ++ t :: s.tokens.drop later }

/-- The state at a later place. -/
def moveTo (rest : List Char) (s : Lexer) : Lexer := { s with cursor := s.cursor.moveTo rest }

/-- The state after some characters. -/
def advance (n : Nat) (s : Lexer) : Lexer := { s with cursor := s.cursor.advance n }

/-- Closes block collections that are indented beyond a column. In a flow collection indentation
means nothing. -/
def closeBeyond (column : Int) (s : Lexer) : Lexer :=
  if s.level != 0 then s
  else
    let closed := s.indents.takeWhile fun (n : Nat) => column < (n : Int)
    { s with
      indents := s.indents.drop closed.length
      tokens := List.replicate closed.length .blockEnd ++ s.tokens }

/-- The possible key of the current level. -/
def possibleKey? (s : Lexer) : Option PossibleKey := s.possible.find? (·.level == s.level)

/-- Forgets the possible key of the current level. One that is required must not be forgotten. -/
def forgetKey (s : Lexer) : Except Error Lexer :=
  match s.possibleKey? with
  | none => .ok s
  | some k =>
    if k.required then .error .malformed
    else .ok { s with possible := s.possible.filter (·.level != s.level) }

/-- Remembers that a key may begin here. -/
def rememberKey (s : Lexer) : Except Error Lexer :=
  if !s.keyAllowed then .ok s
  else do
    let s ← s.forgetKey
    let c := s.cursor
    let required := s.level == 0 && s.indent == c.column
    let key : PossibleKey := ⟨s.level, s.tokens.length, required, c.index, c.line, c.column⟩
    return { s with possible := key :: s.possible }

/-- Forgets keys whose colon can come no more, since it would be too far away or on another line. -/
def dropStaleKeys (s : Lexer) : Except Error Lexer :=
  let isStale (k : PossibleKey) : Bool :=
    k.line != s.cursor.line || k.index + maxKeyLength < s.cursor.index
  if s.possible.any fun k => isStale k && k.required then .error .malformed
  else .ok { s with possible := s.possible.filter (!isStale ·) }

/-- Opens a block collection at a column unless one is open there or further in, and tells whether
it did. -/
def openBlock (column : Nat) (s : Lexer) : Bool × Lexer :=
  if s.indent < column then (true, { s with indents := column :: s.indents }) else (false, s)

/-- Passes over blanks, comments and line breaks. `comment` tells that a comment is being passed,
`broke` that a line break was. -/
def passBlanks (comment broke : Bool) : List Char → Bool × List Char
  | [] => (broke, [])
  | c :: cs =>
    if isBreak c then passBlanks false true cs
    else if comment then passBlanks true broke cs
    else if c == ' ' then passBlanks false broke cs
    else if c == '#' then passBlanks true broke cs
    else (broke, c :: cs)

/-- Goes to the start of the next token. A byte order mark at the very start is passed. Outside flow
collections a key may begin on a new line. -/
def skipBlanks (s : Lexer) : Lexer :=
  let marked := s.cursor.index == 0 && s.cursor.rest.head? == some (Char.ofNat 0xfeff)
  let s := if marked then s.advance 1 else s
  let (broke, rest) := passBlanks false false s.cursor.rest
  let s := s.moveTo rest
  if broke && s.level == 0 then { s with keyAllowed := true } else s

/-- A token that closes all block collections and allows no key after it. -/
def addBoundary (t : Token) (s : Lexer) : Except Error Lexer := do
  let s ← (s.closeBeyond (-1)).forgetKey
  return { s with keyAllowed := false } |>.add t

/-- A mark between documents. -/
def addDocumentMark (t : Token) (s : Lexer) : Except Error Lexer := do
  return (← s.addBoundary t).advance 3

/-- An opening bracket or brace. -/
def openFlow (t : Token) (s : Lexer) : Except Error Lexer := do
  let s ← s.rememberKey
  return { s with level := s.level + 1, keyAllowed := true } |>.add t |>.advance 1

/-- A closing bracket or brace. -/
def closeFlow (t : Token) (s : Lexer) : Except Error Lexer := do
  if s.level == 0 then throw .malformed
  let s ← s.forgetKey
  return { s with level := s.level - 1, keyAllowed := false } |>.add t |>.advance 1

/-- A comma in a flow collection. -/
def addComma (s : Lexer) : Except Error Lexer := do
  let s ← { s with keyAllowed := true }.forgetKey
  return s.add .comma |>.advance 1

/-- Opens a block collection of a kind at the current column if there is none. -/
def openBlockHere (start : Token) (s : Lexer) : Except Error Lexer :=
  if s.level != 0 then .ok s
  else if !s.keyAllowed then .error .malformed
  else match s.openBlock s.cursor.column with
    | (true, s) => .ok (s.add start)
    | (false, s) => .ok s

/-- The hyphen before an item. -/
def addItem (s : Lexer) : Except Error Lexer := do
  let s ← s.openBlockHere .blockListStart
  let s ← { s with keyAllowed := true }.forgetKey
  return s.add .item |>.advance 1

/-- The mark before a key. -/
def addKey (s : Lexer) : Except Error Lexer := do
  let s ← s.openBlockHere .blockMapStart
  let s ← { s with keyAllowed := s.level == 0 }.forgetKey
  return s.add .key |>.advance 1

/-- The colon before a value. What may be a key now is one. -/
def addValue (s : Lexer) : Except Error Lexer := do
  match s.possibleKey? with
  | some k =>
    let s := { s with possible := s.possible.filter (·.level != s.level) }
    let s := s.insert k.tokenNumber .key
    let s := if s.level != 0 then s else match s.openBlock k.column with
      | (true, s) => s.insert k.tokenNumber .blockMapStart
      | (false, s) => s
    return { s with keyAllowed := false } |>.add .value |>.advance 1
  | none =>
    let s ← s.openBlockHere .blockMapStart
    let s ← { s with keyAllowed := s.level == 0 }.forgetKey
    return s.add .value |>.advance 1

/-- A token that may begin a key and does not allow another key after it. -/
def addContent (read : List Char → Except Error (Token × List Char)) (s : Lexer) :
    Except Error Lexer := do
  let s ← s.rememberKey
  let (t, rest) ← read (s.cursor.rest.drop 1)
  return { s with keyAllowed := false } |>.add t |>.moveTo rest

/-- A name after the mark of an anchor or of a reference to one. -/
def readAnchor (make : String → Token) (cs : List Char) : Except Error (Token × List Char) :=
  let name := cs.takeWhile isNameChar
  let rest := cs.dropWhile isNameChar
  if name.isEmpty || !followsAnchor rest.head? then .error .malformed
  else .ok (make (String.ofList name), rest)

/-- A quoted scalar. -/
def readQuotedToken (double : Bool) (cs : List Char) : Except Error (Token × List Char) := do
  let (content, rest) ← readQuoted double cs
  return (.scalar false (String.ofList content), rest)

/-- A tag. -/
def readTagToken (cs : List Char) : Except Error (Token × List Char) := do
  let (t, rest) ← readTag cs
  return (.tag t, rest)

/-- A block scalar. A key may follow it. -/
def addBlockScalar (folded : Bool) (s : Lexer) : Except Error Lexer := do
  let s ← { s with keyAllowed := true }.forgetKey
  let (content, rest) ← readBlock folded s.indent (s.cursor.rest.drop 1)
  return s.add (.scalar false (String.ofList content)) |>.moveTo rest

/-- A plain scalar. A key may follow it if it ends with a line. -/
def addPlain (s : Lexer) : Except Error Lexer := do
  let s ← s.rememberKey
  let scalar := readPlain (s.level != 0) (s.indent + 1) s.cursor.rest
  return { s with keyAllowed := scalar.brokeLine }
    |>.add (.scalar true (String.ofList scalar.content)) |>.moveTo scalar.rest

/-- A directive. -/
def addDirective (s : Lexer) : Except Error Lexer := do
  let s ← (s.closeBeyond (-1)).forgetKey
  let (d, rest) ← readDirective (s.cursor.rest.drop 1)
  return { s with keyAllowed := false } |>.add (.directive d) |>.moveTo rest

/-- A character begins a plain scalar, given what follows it. -/
def beginsPlain (flow : Bool) (c : Char) (next : Option Char) : Bool :=
  !(isGapOrBreak c || isIndicator c) ||
    (!endsWord next && (c == '-' || (!flow && (c == '?' || c == ':'))))

/-- The next token, given the character that it begins with and what follows. -/
def readToken (c : Char) (cs : List Char) (s : Lexer) : Except Error Lexer :=
  let flow := s.level != 0
  let next := cs.head?
  let atStart := s.cursor.column == 0
  let separated := endsWord next
  if c == '%' && atStart then s.addDirective
  else if atStart && beginsMark '-' (c :: cs) then s.addDocumentMark .documentStart
  else if atStart && beginsMark '.' (c :: cs) then s.addDocumentMark .documentEnd
  else if c == '[' then s.openFlow .flowListStart
  else if c == '{' then s.openFlow .flowMapStart
  else if c == ']' then s.closeFlow .flowListEnd
  else if c == '}' then s.closeFlow .flowMapEnd
  else if c == ',' then s.addComma
  else if c == '-' && separated then s.addItem
  else if c == '?' && (flow || separated) then s.addKey
  else if c == ':' && (flow || separated) then s.addValue
  else if c == '*' then s.addContent (readAnchor .alias)
  else if c == '&' then s.addContent (readAnchor .anchor)
  else if c == '!' then s.addContent readTagToken
  else if c == '|' && !flow then s.addBlockScalar false
  else if c == '>' && !flow then s.addBlockScalar true
  else if c == '\'' then s.addContent (readQuotedToken false)
  else if c == '"' then s.addContent (readQuotedToken true)
  else if beginsPlain flow c next then s.addPlain
  else .error .malformed

/-- Goes on to the next token, closing the block collections that end before it. -/
def advanceToToken (s : Lexer) : Except Error Lexer := do
  let s ← s.skipBlanks.dropStaleKeys
  return s.closeBeyond s.cursor.column

/-- Reads tokens up to the end of the text, at most `fuel` of them. Where reading fails, the tokens
before are kept with the reason. -/
def readTokens : (fuel : Nat) → Lexer → List Token × Option Error
  | 0, s => (s.tokens.reverse, some .malformed)
  | fuel + 1, s =>
    let failed (error : Error) := (s.tokens.reverse, some error)
    match s.advanceToToken with
    | .error error => failed error
    | .ok s =>
      match s.cursor.rest with
      | [] =>
        match s.addBoundary .textEnd with
        | .ok s => (s.tokens.reverse, none)
        | .error error => failed error
      | c :: cs =>
        match s.readToken c cs with
        | .ok s => readTokens fuel s
        | .error error => failed error

end Lexer

/-- The tokens of a text up to the first place that breaks a rule, and the reason if there is
one. -/
def tokens (cs : List Char) : List Token × Option Error :=
  Lexer.readTokens (cs.length + 1) { cursor := { rest := cs } }

end FactoryRegistry.Yaml
