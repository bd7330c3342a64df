import FactoryRegistry.Yaml.Resolution
import FactoryRegistry.Yaml.Token.Reader

/-!
# Reading nodes

The grammar of a document over its tokens. A node may have an anchor and a tag in any order; an
anchor names the node from its start on, so that a list or a mapping may refer to itself. A node
that is left out is an empty scalar.

The reading functions go at most `fuel` steps deep, which twice the number of tokens suffices for.
-/

namespace FactoryRegistry.Yaml

/-- The state of reading nodes. -/
structure NodeReader where
  /-- The tokens left. -/
  tokens : List Token
  /-- The anchors so far with the numbers of their nodes, the last one first. -/
  anchors : List (String × Nat) := []
  /-- The nodes so far, those included that are not complete. -/
  graph : Graph := []

/-- Why no node is read. -/
inductive Refusal where
  /-- The tokens do not form a document. -/
  | misplaced
  /-- There are no more tokens. -/
  | ended
  deriving DecidableEq, Repr

/-- A step of reading. -/
abbrev Reading := StateT NodeReader (Except Refusal)

namespace Reading

/-- Gives up. -/
def refuse {α : Type} : Reading α := throw .misplaced

/-- The next token. -/
def peek : Reading Token := do
  match (← get).tokens with
  | [] => throw .ended
  | t :: _ => return t

/-- Passes over the next token. -/
def skip : Reading Unit := modify fun s => { s with tokens := s.tokens.drop 1 }

/-- The next token is one of some tokens. -/
def sees (ts : List Token) : Reading Bool := return ts.contains (← peek)

/-- Passes over the next token if it is a certain one. -/
def accept (t : Token) : Reading Bool := do
  if (← peek) == t then
    skip
    return true
  else return false

/-- Passes over a certain token, which has to be there. -/
def expect (t : Token) : Reading Unit := do
  if !(← accept t) then refuse

/-- The number of an anchor's node. -/
def referred (name : String) : Reading Nat := do
  match (← get).anchors.lookup name with
  | some n => return n
  | none => refuse

/-- Checks that an anchor is not in use. A document uses each anchor once. -/
def checkAnchor (anchor : Option String) : Reading Unit := do
  if let some name := anchor then
    if ((← get).anchors.lookup name).isSome then refuse

/-- Adds a node, which its anchor names from here on. -/
def addNode (anchor : Option String) (node : Node) : Reading Nat :=
  modifyGet fun s =>
    let n := s.graph.length
    (n, { s with
      graph := s.graph ++ [node]
      anchors := (anchor.map (·, n)).toList ++ s.anchors })

/-- Completes a node. -/
def setContent (n : Nat) (content : Node.Content) : Reading Unit :=
  modify fun s => { s with graph := s.graph.withContent n content }

/-- What tag handles stand for. -/
abbrev Handles := List (String × String)

/-- What tag handles stand for where no directive tells. -/
def defaultHandles : Handles := [("!", "!"), ("!!", tagSpace)]

/-- The full name of a written tag. -/
def tagName (handles : Handles) (t : WrittenTag) : Reading String :=
  match t.handle with
  | none => return t.suffix
  | some handle =>
    match handles.lookup handle with
    | some meaning => return meaning ++ t.suffix
    | none => refuse

/-- The anchor and the name of the tag before a node. -/
def readProperties (handles : Handles) : Reading (Option String × Option String) := do
  match ← peek with
  | .anchor name =>
    skip
    match ← peek with
    | .tag t =>
      skip
      return (some name, some (← tagName handles t))
    | _ => return (some name, none)
  | .tag t =>
    skip
    match ← peek with
    | .anchor name =>
      skip
      return (some name, some (← tagName handles t))
    | _ => return (none, some (← tagName handles t))
  | _ => return (none, none)

/-- The tag that stands for no tag. -/
def noTag : String := "!"

/-- The tag of a collection, the usual one where none is written. -/
def collectionTag (usual : Tag) (name : Option String) : Tag :=
  match name with
  | none => usual
  | some name => if name == noTag then usual else .ofName name

/-- The tag of a scalar, given the name of the written one. A plain scalar without a tag means what
it looks like. -/
def scalarTag (name : Option String) (plain : Bool) (text : String) : Tag :=
  match name with
  | none => if plain then plainTag text else .text
  | some name => if name == noTag then plainTag text else .ofName name

/-- Adds a scalar. -/
def addScalar (anchor : Option String) (tag : Tag) (text : String) : Reading Nat :=
  addNode anchor { tag, content := .scalar text }

/-- Adds a list and reads its items. -/
def addList (anchor : Option String) (tag : Tag) (read : Reading (List Nat)) : Reading Nat := do
  let n ← addNode anchor { tag, content := .list [] }
  setContent n (.list (← read))
  return n

/-- Adds a mapping and reads its entries. -/
def addMap (anchor : Option String) (tag : Tag) (read : Reading (List (Nat × Nat))) :
    Reading Nat := do
  let n ← addNode anchor { tag, content := .map [] }
  setContent n (.map (← read))
  return n

/-- Adds a node that is left out. -/
def addEmpty : Reading Nat := addScalar none .null ""

/-- A node, or the one left out before some tokens. -/
def unlessBefore (ts : List Token) (read : Reading Nat) : Reading Nat := do
  if ← sees ts then addEmpty else read

mutual

/-- A node. `block` tells that block collections are allowed, `bare` that the items of a list may
follow without the start of one. -/
def readNode (handles : Handles) (block bare : Bool) : (fuel : Nat) → Reading Nat
  | 0 => refuse
  | fuel + 1 => do
    match ← peek with
    | .alias name =>
      skip
      referred name
    | _ =>
      let (anchor, tag) ← readProperties handles
      checkAnchor anchor
      readContent handles block bare anchor tag fuel

/-- A node after its properties. It may be left out only if there are some. -/
def readContent (handles : Handles) (block bare : Bool) (anchor tag : Option String) :
    (fuel : Nat) → Reading Nat
  | 0 => refuse
  | fuel + 1 => do
    let list := addList anchor (collectionTag .list tag)
    let map := addMap anchor (collectionTag .map tag)
    let orEmpty : Reading Nat :=
      if anchor.isSome || tag.isSome then addScalar anchor (scalarTag tag true "") ""
      else refuse
    match ← peek with
    | .scalar plain text =>
      skip
      addScalar anchor (scalarTag tag plain text) text
    | .item => if bare then list (readBareItems handles fuel) else orEmpty
    | .flowListStart =>
      skip
      list (readFlowItems handles true fuel)
    | .flowMapStart =>
      skip
      map (readFlowEntries handles true fuel)
    | .blockListStart =>
      if block then
        skip
        list (readItems handles fuel)
      else orEmpty
    | .blockMapStart =>
      if block then
        skip
        map (readEntries handles fuel)
      else orEmpty
    | _ => orEmpty

/-- The items of a block list, up to and with its end. -/
def readItems (handles : Handles) : (fuel : Nat) → Reading (List Nat)
  | 0 => refuse
  | fuel + 1 => do
    if ← accept .item then
      let node ← unlessBefore [.item, .blockEnd] (readNode handles true false fuel)
      return node :: (← readItems handles fuel)
    else
      expect .blockEnd
      return []

/-- The items of a block list that has no start and no end of its own. -/
def readBareItems (handles : Handles) : (fuel : Nat) → Reading (List Nat)
  | 0 => refuse
  | fuel + 1 => do
    if ← accept .item then
      let node ← unlessBefore [.item, .key, .value, .blockEnd] (readNode handles true false fuel)
      return node :: (← readBareItems handles fuel)
    else return []

/-- The entries of a block mapping, up to and with its end. -/
def readEntries (handles : Handles) : (fuel : Nat) → Reading (List (Nat × Nat))
  | 0 => refuse
  | fuel + 1 => do
    let part := unlessBefore [.key, .value, .blockEnd] (readNode handles true true fuel)
    if ← accept .key then
      let key ← part
      let value ← if ← accept .value then part else addEmpty
      return (key, value) :: (← readEntries handles fuel)
    else
      expect .blockEnd
      return []

/-- The items of a flow list, up to and with its end. A key among them makes a mapping with one
entry. -/
def readFlowItems (handles : Handles) (first : Bool) : (fuel : Nat) → Reading (List Nat)
  | 0 => refuse
  | fuel + 1 => do
    if ← accept .flowListEnd then return []
    if !first then expect .comma
    if ← accept .key then
      let node ← addMap none .map do
        let key ← unlessBefore [.value, .comma, .flowListEnd] (readNode handles false false fuel)
        let value ← if ← accept .value then
            unlessBefore [.comma, .flowListEnd] (readNode handles false false fuel)
          else addEmpty
        return [(key, value)]
      return node :: (← readFlowItems handles false fuel)
    else if ← accept .flowListEnd then return []
    else
      let node ← readNode handles false false fuel
      return node :: (← readFlowItems handles false fuel)

/-- The entries of a flow mapping, up to and with its end. A node without a key before it is a key
whose value is left out. -/
def readFlowEntries (handles : Handles) (first : Bool) :
    (fuel : Nat) → Reading (List (Nat × Nat))
  | 0 => refuse
  | fuel + 1 => do
    if ← accept .flowMapEnd then return []
    if !first then expect .comma
    if ← accept .key then
      let key ← unlessBefore [.value, .comma, .flowMapEnd] (readNode handles false false fuel)
      let value ← if ← accept .value then
          unlessBefore [.comma, .flowMapEnd] (readNode handles false false fuel)
        else addEmpty
      return (key, value) :: (← readFlowEntries handles false fuel)
    else if ← accept .flowMapEnd then return []
    else
      let node ← readNode handles false false fuel
      let value ← addEmpty
      return (node, value) :: (← readFlowEntries handles false fuel)

end

/-- The directives before a document: what tag handles stand for. Version and handles are stated at
most once, and the version has to be a first one. -/
def readDirectives (versioned : Bool) (handles : Handles) : (fuel : Nat) → Reading Handles
  | 0 => refuse
  | fuel + 1 => do
    match ← peek with
    | .directive d =>
      skip
      match d with
      | .version major =>
        if versioned || major != 1 then refuse
        readDirectives true handles fuel
      | .tag handle meaning =>
        if (handles.lookup handle).isSome then refuse
        readDirectives versioned ((handle, meaning) :: handles) fuel
      | .other => readDirectives versioned handles fuel
    | _ => return handles ++ defaultHandles

/-- Passes over marks after a document, and takes the end of the text. -/
def readEnd : (fuel : Nat) → Reading Unit
  | 0 => refuse
  | fuel + 1 => do
    if ← accept .documentEnd then readEnd fuel else expect .textEnd

/-- The root of the only document of a text, if it has one. A document without a mark before it has
no directives and is not left out. -/
def readDocument (fuel : Nat) : Reading (Option Nat) := do
  match ← peek with
  | .textEnd => return none
  | .directive _ | .documentStart =>
    let handles ← readDirectives false [] fuel
    expect .documentStart
    let node ← match ← peek with
      | .directive _ | .documentStart | .documentEnd | .textEnd => addEmpty
      | _ => readNode handles true false fuel
    readEnd fuel
    return some node
  | _ =>
    let node ← readNode defaultHandles true false fuel
    readEnd fuel
    return some node

end Reading

/-- The nodes of the document in a text and the number of its root, if there is a document. -/
def Graph.read (cs : List Char) : Except Error (Option Nat × Graph) :=
  let (ts, error) := tokens cs
  match (Reading.readDocument (2 * ts.length + 2)).run { tokens := ts } with
  | .ok (root, s) => .ok (root, s.graph)
  | .error .misplaced => .error .malformed
  -- the text has no tokens beyond an error in it
  | .error .ended => .error (error.getD .malformed)

end FactoryRegistry.Yaml
