import FactoryRegistry.Failure

/-!
# Tokens of YAML

The tokens that a document is made of, and the two ways in which reading one ends early. The start
and end of a block collection have tokens of their own although nothing stands for them in the text:
they come from the indentation.
-/

namespace FactoryRegistry.Yaml

/-- Why a document is not read. -/
inductive Error where
  /-- The text breaks a rule of the format. -/
  | malformed
  /-- A value of the document cannot be made. -/
  | unusable (cause : Failure)

/-- A tag as it is written: a suffix, after a handle that a directive explains. -/
structure WrittenTag where
  /-- The handle, unless the tag is written in full. -/
  handle : Option String
  /-- What follows the handle. -/
  suffix : String
  deriving DecidableEq, Repr

/-- A line before a document that tells how to read it. -/
inductive Directive where
  /-- The version of the format, its first number. -/
  | version (major : Int)
  /-- What a tag handle stands for. -/
  | tag (handle meaning : String)
  /-- Any other directive. -/
  | other
  deriving DecidableEq, Repr

/-- A token. -/
inductive Token where
  /-- A directive. -/
  | directive (d : Directive)
  /-- The mark before a document. -/
  | documentStart
  /-- The mark after a document. -/
  | documentEnd
  /-- The end of the text. -/
  | textEnd
  /-- The start of a block list. -/
  | blockListStart
  /-- The start of a block mapping. -/
  | blockMapStart
  /-- The end of a block collection. -/
  | blockEnd
  /-- An opening square bracket. -/
  | flowListStart
  /-- A closing square bracket. -/
  | flowListEnd
  /-- An opening brace. -/
  | flowMapStart
  /-- A closing brace. -/
  | flowMapEnd
  /-- The hyphen before an item. -/
  | item
  /-- The comma after an item or an entry. -/
  | comma
  /-- The start of a key. -/
  | key
  /-- The start of a value. -/
  | value
  /-- A reference to an anchor. -/
  | alias (name : String)
  /-- A name for the node that follows. -/
  | anchor (name : String)
  /-- The tag of the node that follows. -/
  | tag (t : WrittenTag)
  /-- A scalar, written without quotation marks and indicators or with them. -/
  | scalar (plain : Bool) (text : String)
  deriving DecidableEq, Repr

end FactoryRegistry.Yaml
