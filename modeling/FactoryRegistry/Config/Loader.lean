import FactoryRegistry.Config.Configuration
import FactoryRegistry.Config.Dotenv
import FactoryRegistry.Files.FileSystem
import FactoryRegistry.Yaml.Document

/-!
# Loading a configuration

A configuration is put together from files, a settings file, the environment and overrides, in this
order, so that a later source takes precedence. A file is JSON when its suffix is `.json` and YAML
otherwise; at its top level it holds a mapping, or nothing at all.
-/

namespace FactoryRegistry.Config

/-- The file that is read where no files are stated, if it is there. -/
def defaultFile : Path := .of "staticfactories.yaml"

/-- A problem with a file as a failure. -/
def onFile {α : Type} (r : Except FileProblem α) : Except Failure α :=
  match r with
  | .ok x => .ok x
  | .error problem => .error (.file problem)

/-- A fault about the configuration. -/
def invalid {α : Type} (key reason : String) : Except Failure α :=
  .error (.fault (.configInvalid key reason))

/-- The reason given for a text that is no YAML. -/
def yamlReason : String := "<yaml>"

/-- The value of a text in YAML, with the first free label. `source` is the name of its file. -/
def readYaml (source : Path) (next : Nat) (text : String) : Except Failure (Value × Nat) :=
  match Yaml.read next text with
  | .ok document => .ok document
  | .error .malformed => invalid source.text yamlReason
  | .error (.unusable cause) => .error cause

/-- The value of a text in JSON, with the first free label. -/
def readJson (source : Path) (next : Nat) (text : String) : Except Failure (Value × Nat) :=
  match Json.read text with
  | .ok j => .ok (Value.ofJson next j)
  | .error (.malformed problem index) => invalid source.text (problem.describe text index)
  | .error (.tooManyDigits digits) => .error (.longInteger digits)

/-- The text of a file that has to be there. -/
def readRequired (fs : FileSystem) (path : Path) : Except Failure String := do
  if !(← onFile (fs.hasEntry path)) then throw (.fault (.configMissing path.text))
  onFile (fs.readText path)

/-- The document in a file, with the first free label. -/
def readDocument (fs : FileSystem) (path : Path) (next : Nat) : Except Failure (Value × Nat) := do
  let text ← readRequired fs path
  if path.suffix == ".json" then readJson path next text else readYaml path next text

namespace Configuration

/-- Merges the document of a file. A file that cannot be read changes nothing. -/
def mergeFile (fs : FileSystem) (path : Path) (c : Configuration)
    (depth : Nat := Value.defaultDepth) : Except Failure Unit × Configuration :=
  match readDocument fs path c.next with
  | .error failure => (.error failure, c)
  | .ok (.map label entries, next) => c.merge (.map label entries) next depth
  | .ok (.scalar .null, _) => (.ok (), c)
  | .ok _ => (invalid path.text "top level must be a mapping", c)

/-- Merges files in order up to the first one that fails. -/
def mergeFiles (fs : FileSystem) (c : Configuration) :
    List Path → Except Failure Unit × Configuration
  | [] => (.ok (), c)
  | path :: paths =>
    match c.mergeFile fs path with
    | (.ok (), c) => c.mergeFiles fs paths
    | (.error failure, c) => (.error failure, c)

end Configuration

/-- What a configuration is loaded from. -/
structure Sources where
  /-- The files, in order; where none are stated, the default file if it is there. -/
  files : Option (List Path) := none
  /-- The prefix of variables. -/
  namePrefix : String := defaultPrefix
  /-- A settings file, which is passed over if it is not there. -/
  settings : Option String := none
  /-- Values that take precedence over all others. -/
  overrides : Option Value := none

namespace Sources

/-- The files to merge. -/
def filesToMerge (fs : FileSystem) (s : Sources) : Except Failure (List Path) :=
  match s.files with
  | some paths => .ok paths
  | none => (onFile (fs.hasEntry defaultFile)).map fun there => if there then [defaultFile] else []

/-- The variables of the settings file. -/
def settingsVariables (fs : FileSystem) (s : Sources) :
    Except Failure (List (String × String)) := do
  match s.settings with
  | none => return []
  | some name =>
    if name.isEmpty then return []
    let path := Path.of name
    if !(← onFile (fs.hasEntry path)) then return []
    return readSettings (← onFile (fs.readText path))

/-- The configuration that sources make up. -/
def load (fs : FileSystem) (environment : List (String × String)) (s : Sources) :
    Except Failure Configuration := do
  let settle (r : Except Failure Unit × Configuration) : Except Failure Configuration :=
    r.1.map fun _ => r.2
  let c : Configuration := {}
  let c ← settle (c.mergeFiles fs (← s.filesToMerge fs))
  let c ← settle (c.mergeVariables s.namePrefix (← s.settingsVariables fs))
  let c ← settle (c.mergeVariables s.namePrefix environment)
  match s.overrides with
  | some v => settle (c.mergeOverrides v)
  | none => return c

end Sources

end FactoryRegistry.Config
