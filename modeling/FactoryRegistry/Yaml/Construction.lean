import FactoryRegistry.Value.Label
import FactoryRegistry.Yaml.Content

/-!
# From nodes to values

The nodes of a document become values one after another, from the root on. A scalar gets its value
at once. A list or a mapping is there from its start on, and waits until it is filled; collections
are filled in the order in which they were come upon, and each gives its parts their turn. So the
first error is the one that is reported, and a collection that refers back to itself is there
already.

Before a mapping is filled its merge keys are resolved (`Graph.flatten`): their entries come before
its own, for good.
-/

namespace FactoryRegistry.Yaml

namespace Graph

/-- The first entry of a mapping that is merged into it, and the other entries. -/
def firstMerge? (g : Graph) : List (Nat × Nat) → Option (Nat × List (Nat × Nat))
  | [] => none
  | (k, v) :: entries =>
    if g.tag k = .merge then some (v, entries)
    else (firstMerge? g entries).map fun (source, others) => (source, (k, v) :: others)

/-- The entries that each mapping of a list brings in, where `flatten` resolves its merge keys. -/
def sources (flatten : Nat → Graph → Option Graph) :
    List Nat → Graph → Option (List (List (Nat × Nat)) × Graph)
  | [], g => some ([], g)
  | n :: ns, g => do
    -- only mappings can be merged
    let _ ← g.entries? n
    let g ← flatten n g
    let entries ← g.entries? n
    let (others, g) ← sources flatten ns g
    return (entries :: others, g)

/-- The graph with the default keys among some entries as ordinary texts. -/
def withPlainKeys (g : Graph) (entries : List (Nat × Nat)) : Graph :=
  entries.foldl (fun g (k, _) => if g.tag k = .default then g.withTag k .text else g) g

/-- Resolves the merge keys of a mapping: what they bring in comes to stand before its own entries,
after what has been `merged` so far. A list of mappings brings in those of the last one first. There
is no such graph when a merge key has no mapping and no list of mappings. At most `fuel` merge keys
are resolved within one another. -/
def flattenFrom : (fuel : Nat) → (merged : List (Nat × Nat)) → Nat → Graph → Option Graph
  | 0, _, _, _ => none
  | fuel + 1, merged, n, g => do
    let entries ← g.entries? n
    match g.firstMerge? entries with
    | none => return (g.withPlainKeys entries).withContent n (.map (merged ++ entries))
    | some (source, others) =>
      let g := g.withContent n (.map others)
      match g.items? source with
      | some items =>
        let (found, g) ← sources (flattenFrom fuel []) items g
        flattenFrom fuel (merged ++ found.reverse.flatten) n g
      | none =>
        let (found, g) ← sources (flattenFrom fuel []) [source] g
        flattenFrom fuel (merged ++ found.flatten) n g

/-- How many entries the mappings of a graph have. -/
def entryCount (g : Graph) : Nat :=
  g.foldl (fun count node => match node.content with
    | .map entries => count + entries.length
    | _ => count) 0

/-- The graph with the merge keys of a mapping resolved, and those of the mappings that it
merges. -/
def flatten (n : Nat) (g : Graph) : Option Graph := g.flattenFrom (g.entryCount + 1) [] n

/-- The text that stands for a node in place of a scalar. For a mapping it is that of the value of
its default key. A graph without a text after as many steps as it has nodes leads round in a
circle. -/
def scalarText (g : Graph) : (fuel : Nat) → Nat → Except Error String
  | 0, _ => unusable .endless
  | fuel + 1, n =>
    match g.text? n with
    | some text => .ok text
    | none =>
      match ((g.entries? n).getD []).find? fun (k, _) => g.tag k = .default with
      | some (_, v) => scalarText g fuel v
      | none => .error .malformed

/-- The value of a node in place of a scalar. -/
def scalar (g : Graph) (n : Nat) : Except Error Scalar := do
  let text ← g.scalarText (g.length + 1) n
  if g.tag n = .timestamp && (g.text? n).isNone then unusable .notText
  else scalarValue (g.tag n) text

end Graph

/-- What a node has become: a scalar, or a collection that goes by the number of the node. -/
inductive Part where
  /-- A value without parts. -/
  | scalar (s : Scalar)
  /-- The collection of a node. -/
  | collection (n : Nat)
  deriving DecidableEq, Repr

/-- A collection that is filled. -/
inductive Collection where
  /-- A list. -/
  | list (items : List Part)
  /-- A mapping, its keys set one after another. -/
  | map (entries : List (Scalar × Part))
  /-- A set. -/
  | set (members : List Scalar)
  /-- A list of pairs. -/
  | pairs (items : List (Part × Part))
  deriving DecidableEq, Repr

/-- The state of making values of nodes. -/
structure Construction where
  /-- The nodes. -/
  graph : Graph
  /-- What nodes have become so far. -/
  parts : List (Nat × Part) := []
  /-- The nodes whose collections are still to be filled, in order. -/
  waiting : List Nat := []
  /-- The collections of the nodes that are filled so far, by number. -/
  filled : List (Option Collection)

/-- A step of making values. -/
abbrev Constructing := StateT Construction (Except Error)

namespace Constructing

/-- Gives up. -/
def refuse {α : Type} : Constructing α := throw .malformed

/-- What is there, or else gives up. -/
def required {α : Type} : Option α → Constructing α
  | some x => return x
  | none => refuse

/-- What a node becomes. A collection waits to be filled. -/
def part (n : Nat) : Constructing Part := do
  let s ← get
  match s.parts.lookup n with
  | some part => return part
  | none =>
    let part ← match s.graph.tag n with
      | .list | .map | .set | .pairs =>
        set { s with waiting := s.waiting ++ [n] }
        pure (Part.collection n)
      | .merge | .default | .unknown => refuse
      | _ => Part.scalar <$> s.graph.scalar n
    modify fun s => { s with parts := (n, part) :: s.parts }
    return part

/-- The key that a node becomes. Only scalars are keys. -/
def key (n : Nat) : Constructing Scalar := do
  match ← part n with
  | .scalar s => return s
  | .collection _ => refuse

/-- The entries of a mapping, after its merge keys are resolved. -/
def entries (n : Nat) : Constructing (List (Scalar × Part)) := do
  let g ← required ((← get).graph.flatten n)
  modify ({ · with graph := g })
  (← required (g.entries? n)).mapM fun (k, v) => return (← key k, ← part v)

/-- The pair of a node, which has to be a mapping with one entry. -/
def pair (n : Nat) : Constructing (Part × Part) := do
  match (← get).graph.entries? n with
  | some [(k, v)] => return (← part k, ← part v)
  | _ => refuse

/-- The collection of a node with its parts. -/
def collection (n : Nat) : Constructing Collection := do
  let g := (← get).graph
  match g.tag n with
  | .list => return .list (← (← required (g.items? n)).mapM part)
  | .pairs => return .pairs (← (← required (g.items? n)).mapM pair)
  | .set => return .set ((← entries n).map Prod.fst)
  | _ => return .map (← entries n)

/-- Fills the collections that wait, at most `fuel` of them. -/
def fill : (fuel : Nat) → Constructing Unit
  | 0 => return
  | fuel + 1 => do
    match (← get).waiting with
    | [] => return
    | n :: waiting =>
      modify ({ · with waiting })
      let filled ← collection n
      modify fun s => { s with filled := s.filled.set n (some filled) }
      fill fuel

end Constructing

/-- The value of a part inside collections with the numbers `around`. The label of a collection is
its number, from `next` on. -/
def Part.value (filled : List (Option Collection)) (next : Nat) :
    (fuel : Nat) → (around : List Nat) → Part → Value
  | _, _, .scalar s => .scalar s
  | 0, _, .collection _ => .null
  | fuel + 1, around, .collection n =>
    let inner := Part.value filled next fuel (n :: around)
    match filled[n]? with
    | some (some (.list items)) =>
      if around.contains n then .loop .list (next + n) else .list (next + n) (items.map inner)
    | some (some (.map entries)) =>
      if around.contains n then .loop .map (next + n)
      else .map (next + n) (Value.entriesOf (entries.map fun (k, v) => (k, inner v)))
    | some (some (.set members)) => .set (Value.membersOf members)
    | some (some (.pairs items)) =>
      if around.contains n then .loop .list (next + n)
      else .list (next + n) (items.map fun (a, b) => .pair (inner a) (inner b))
    | _ => .null

/-- The value of a document with a root, its labels beginning at `next`, and the first label that is
not in use. Collections inside one another are not more than there are nodes. -/
def Graph.value (next root : Nat) (g : Graph) : Except Error (Value × Nat) := do
  let start : Construction := { graph := g, filled := List.replicate g.length none }
  let (top, s) ← (do
    let top ← Constructing.part root
    Constructing.fill g.length
    return top : Constructing Part).run start
  return (top.value s.filled next (s.filled.length + 1) [], next + s.filled.length)

end FactoryRegistry.Yaml
