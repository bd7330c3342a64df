/-!
# Nodes of YAML

The nodes that a document consists of, before they are given values. Every `Node` has a tag that
says what it is to become.

The nodes of a document form a `Graph`: they are known by their numbers, and a list or a mapping
names its parts by number. A document that refers back to a node names it once more, which may be
inside the node itself.
-/

namespace FactoryRegistry.Yaml

/-- What a node is to become. -/
inductive Tag where
  /-- No value. -/
  | null
  /-- A truth value. -/
  | bool
  /-- An integer. -/
  | int
  /-- A real number. -/
  | real
  /-- A sequence of bytes. -/
  | bytes
  /-- A date or a moment. -/
  | timestamp
  /-- A text. -/
  | text
  /-- A list. -/
  | list
  /-- A mapping. -/
  | map
  /-- A set. -/
  | set
  /-- A list of pairs. -/
  | pairs
  /-- The key whose value is merged into the mapping. -/
  | merge
  /-- The key whose value stands for the mapping as a whole. -/
  | default
  /-- Anything else. -/
  | unknown
  deriving DecidableEq, Repr

/-- What the names of all known tags begin with. -/
def tagSpace : String := "tag:yaml.org,2002:"

/-- The known tags by the rest of their names. -/
def knownTags : List (String × Tag) := [
  ("null", .null), ("bool", .bool), ("int", .int), ("float", .real), ("binary", .bytes),
  ("timestamp", .timestamp), ("str", .text), ("seq", .list), ("map", .map), ("set", .set),
  ("omap", .pairs), ("pairs", .pairs), ("merge", .merge), ("value", .default)]

/-- The tag of a name. -/
def Tag.ofName (name : String) : Tag :=
  match knownTags.find? fun (rest, _) => tagSpace ++ rest == name with
  | some (_, tag) => tag
  | none => .unknown

/-- What a node holds. Other nodes are named by their numbers. -/
inductive Node.Content where
  /-- A text. -/
  | scalar (text : String)
  /-- The items of a list. -/
  | list (items : List Nat)
  /-- The keys and values of a mapping. -/
  | map (entries : List (Nat × Nat))
  deriving DecidableEq, Repr

/-- A node. -/
structure Node where
  /-- Its tag. -/
  tag : Tag
  /-- What it holds. -/
  content : Node.Content
  deriving DecidableEq, Repr

/-- The nodes of a document by their numbers. -/
abbrev Graph := List Node

namespace Graph

/-- The tag of the node with a number. -/
def tag (g : Graph) (n : Nat) : Tag := (g[n]?.map Node.tag).getD .unknown

/-- The text of the node with a number, if it is a scalar. -/
def text? (g : Graph) (n : Nat) : Option String :=
  match g[n]?.map Node.content with
  | some (.scalar text) => some text
  | _ => none

/-- The items of the node with a number, if it is a list. -/
def items? (g : Graph) (n : Nat) : Option (List Nat) :=
  match g[n]?.map Node.content with
  | some (.list items) => some items
  | _ => none

/-- The entries of the node with a number, if it is a mapping. -/
def entries? (g : Graph) (n : Nat) : Option (List (Nat × Nat)) :=
  match g[n]?.map Node.content with
  | some (.map entries) => some entries
  | _ => none

/-- The graph with other content in the node with a number. -/
def withContent (g : Graph) (n : Nat) (content : Node.Content) : Graph :=
  g.modify n ({ · with content })

/-- The graph with another tag of the node with a number. -/
def withTag (g : Graph) (n : Nat) (tag : Tag) : Graph := g.modify n ({ · with tag })

end Graph

end FactoryRegistry.Yaml
