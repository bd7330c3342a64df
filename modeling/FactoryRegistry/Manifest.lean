import FactoryRegistry.Binding
import FactoryRegistry.Config.Loader
import FactoryRegistry.Value.Display

/-!
# Manifests

A manifest declares bindings in a list. Their order is kept, since it becomes the order in which
implementations are tried. A manifest that declares nothing may leave the list out. The first entry
that cannot be used is reported with its place in the list.
-/

namespace FactoryRegistry.Manifest

open Config Number

/-- The source named in reports where none is stated. -/
def defaultSource : String := "<manifest>"

/-- The value of a key among entries, `null` where there is none. -/
def valueOf (entries : List (Scalar × Value)) (name : String) : Value :=
  (Value.lookup (.text name) entries).getD .null

/-- A value that has to be there and not be empty. -/
def require (key : String) (entries : List (Scalar × Value)) (name : String) :
    Except Failure Unit :=
  if (valueOf entries name).isTruthy then .ok () else invalid key s!"missing '{name}'"

/-- The registry can call the constructor, unless the entry says that it cannot. -/
def accessibleOf (key : String) (entries : List (Scalar × Value)) : Except Failure Bool :=
  match (Value.lookup (.text "accessible") entries).getD (.scalar (.bool true)) with
  | .scalar (.bool b) => .ok b
  | v => invalid s!"{key}.accessible" s!"expected bool, got {v.kind.name}"

/-- The package that an entry states, if it states one. -/
def packageOf (entries : List (Scalar × Value)) : Except Failure String :=
  let v := valueOf entries "package"
  if v.isTruthy then v.written else .ok ""

/-- The binding that an entry of the list declares. -/
def readEntry (key : String) (v : Value) : Except Failure Binding :=
  if v.isMap then do
    require key v.entries "contract"
    require key v.entries "implementation"
    let accessible ← accessibleOf key v.entries
    let contract ← (valueOf v.entries "contract").written
    let implementation ← (valueOf v.entries "implementation").written
    let package ← packageOf v.entries
    return .of contract implementation package accessible
  else invalid key "entry must be a mapping"

/-- The bindings of a list from the entry at `index` on. -/
def readEntries (source : String) (index : Nat) : List Value → Except Failure (List Binding)
  | [] => .ok []
  | entry :: entries => do
    let binding ← readEntry s!"{source}:bindings[{natText index}]" entry
    return binding :: (← readEntries source (index + 1) entries)

/-- The bindings that a manifest declares. -/
def read (source : String) (v : Value) : Except Failure (List Binding) :=
  match v with
  | .scalar .null => .ok []
  | .map _ _ =>
    match (v.get? "bindings").getD (.list 0 []) with
    | .scalar .null => .ok []
    | .list l items => readEntries source 0 (Value.list l items).items
    | _ => invalid s!"{source}:bindings" "must be a list"
  | _ => invalid source "top level must be a mapping"

/-- The bindings declared in a file, which is read as YAML whatever its suffix is. -/
def load (fs : FileSystem) (path : Path) : Except Failure (List Binding) := do
  let text ← readRequired fs path
  let (document, _) ← readYaml path 0 text
  read path.text document

end FactoryRegistry.Manifest
