import FactoryRegistry.Failure
import FactoryRegistry.Value.Label

/-!
# Merging mappings

The entries of one mapping, the source, are merged one after another into another mapping, the
target. Where both have a mapping under a key, the two are merged in turn; everywhere else the value
of the source takes the place of the old one.

A `Merge` is a list of changes, each of which sets a key in the mapping of a label and so shows at
every place of that mapping. Source and target may be such places themselves: each entry of the
source is read as it is by then. A source that has grown since its first entry was read ends the
merge. Mappings that stand inside themselves can lead a merge ever deeper; it ends at a limit then,
and the changes it has made until then stay.
-/

namespace FactoryRegistry

/-- A key set in the mapping of a label. -/
structure Change where
  /-- The label of the mapping. -/
  label : Nat
  /-- The key. -/
  key : Scalar
  /-- The new value of the key. -/
  value : Value

/-- How a merge ends and the changes that it makes until then, in order. -/
abbrev Merge := Except Failure Unit × List Change

namespace Value

/-- A value after a change. -/
def change (v : Value) (d : Change) : Value := assign d.label d.key (d.value.folded d.label) v

/-- A value after some changes. -/
def changed (v : Value) (changes : List Change) : Value := changes.foldl change v

/-- Merges one value under a key of `target`, where `inner` merges mappings. -/
def mergeEntry (inner : Value → Value → Merge) (target : Value) (key : Scalar) (value : Value) :
    Merge :=
  match target, lookup key target.entries, value with
  | _, some (map i old), map m new => inner (map i old) (map m new)
  | map l _, _, value => (.ok (), [{ label := l, key, value }])
  | _, _, _ => (.ok (), [])

/-- Merges the last `left` entries of `source`, which had `size` entries at first, into `target`. -/
def mergeEntries (inner : Value → Value → Merge) (size left : Nat) (target source : Value) :
    Merge :=
  -- the size is checked before each entry and once more after the last one
  if source.entries.length ≠ size then (.error .mappingChanged, [])
  else match left with
    | 0 => (.ok (), [])
    | left + 1 =>
      match source.entries[size - (left + 1)]? with
      | none => (.ok (), [])
      | some (key, value) =>
        match mergeEntry inner target key value with
        | (.error failure, changes) => (.error failure, changes)
        | (.ok (), changes) =>
          -- what has been set may stand in the target and in the source as well
          let (r, others) :=
            mergeEntries inner size left (target.changed changes) (source.changed changes)
          (r, changes ++ others)

/-- Merges the mapping `source` into the mapping `target`, at most `fuel` levels deep. -/
def mergeMapping : (fuel : Nat) → (target source : Value) → Merge
  | 0, _, _ => (.error .endless, [])
  | fuel + 1, target, source =>
    mergeEntries (mergeMapping fuel) source.entries.length source.entries.length target source

mutual

/-- How many mappings keys lead to in a value, the value itself included. -/
def mappings : Value → Nat
  | map _ entries => entryMappings entries + 1
  | _ => 0

/-- How many mappings keys lead to among some entries. -/
def entryMappings : List (Scalar × Value) → Nat
  | [] => 0
  | (_, v) :: entries => mappings v + entryMappings entries

end

/-- How much deeper a merge goes than there are mappings, where nothing else is stated. -/
def defaultDepth : Nat := 1000

/-- Merges a document into the root of a configuration. A merge that goes more than `depth` levels
deeper than there are mappings is one without end. -/
def mergeInto (root document : Value) (depth : Nat := defaultDepth) : Except Failure Unit × Value :=
  let (r, changes) := mergeMapping (depth + root.mappings + document.mappings) root document
  (r, root.changed changes)

end Value

end FactoryRegistry
