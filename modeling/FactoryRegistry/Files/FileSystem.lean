import FactoryRegistry.Association
import FactoryRegistry.Failure
import FactoryRegistry.Files.Path
import FactoryRegistry.Text.Lines

/-!
# Files and directories

A tree of files and directories with a working directory in it, and what a program can do with it:
look whether there is something at a path, read a text, make a directory and write a text. Texts
are UTF-8.
-/

namespace FactoryRegistry

/-- A file or a directory. -/
inductive Entry where
  /-- A file with its content. -/
  | file (content : ByteArray)
  /-- A directory with its entries. -/
  | directory (entries : List (String × Entry))

namespace Entry

/-- The directory without entries. -/
def empty : Entry := directory []

/-- The entry at the end of some names. -/
def find? : List String → Entry → Option Entry
  | [], e => some e
  | name :: names, directory entries => (entries.lookup name).bind (find? names)
  | _ :: _, file _ => none

/-- The tree with an entry put at the end of some names. Directories that are not there are made; a
file on the way stops it. -/
def put (entry : Entry) : List String → Entry → Entry
  | [], _ => entry
  | name :: names, directory entries =>
    directory (Association.alter name (fun old => put entry names (old.getD empty)) entries)
  | _ :: _, file content => file content

mutual

/-- The files of a tree, each with the names on the way to it. -/
def files : Entry → List (List String × ByteArray)
  | file content => [([], content)]
  | directory entries => filesIn entries

/-- The files of the entries of a directory. -/
def filesIn : List (String × Entry) → List (List String × ByteArray)
  | [] => []
  | (name, entry) :: entries =>
    entry.files.map (fun (names, content) => (name :: names, content)) ++ filesIn entries

end

end Entry

/-- All files, and where relative paths start. -/
structure FileSystem where
  /-- The directory that holds everything. -/
  root : Entry
  /-- The names on the way to the working directory. -/
  workingDirectory : List String

namespace FileSystem

/-- The most bytes that a name may have. -/
def maxNameSize : Nat := 255

/-- The names on the way to what a name stands for in a directory. -/
def step (fs : FileSystem) (place : List String) (name : String) :
    Except FileProblem (List String) :=
  match fs.root.find? place with
  | some (.directory entries) =>
    if name == ".." then .ok place.dropLast
    else if maxNameSize < name.utf8ByteSize then .error .nameTooLong
    else if (entries.lookup name).isSome then .ok (place ++ [name])
    else .error .missing
  | some (.file _) => .error .notDirectory
  | none => .error .missing

/-- The names on the way to where a path starts. -/
def start (fs : FileSystem) (p : Path) : List String :=
  if p.root = .relative then fs.workingDirectory else []

/-- A path of this many bytes is too long. -/
def pathSizeLimit : Nat := 4096

/-- A path without null characters that is not too long. -/
def checkPath (p : Path) : Except FileProblem Unit :=
  if p.names.any fun n => n.toList.contains (Char.ofNat 0) then .error .nullInPath
  else if pathSizeLimit ≤ p.text.utf8ByteSize then .error .nameTooLong
  else .ok ()

/-- The names on the way to what a path leads to. -/
def locate (fs : FileSystem) (p : Path) : Except FileProblem (List String) := do
  checkPath p
  p.names.foldlM fs.step (fs.start p)

/-- What a path leads to. -/
def entryAt (fs : FileSystem) (p : Path) : Except FileProblem Entry := do
  match fs.root.find? (← fs.locate p) with
  | some entry => return entry
  | none => throw .missing

/-- There is something at a path. -/
def hasEntry (fs : FileSystem) (p : Path) : Except FileProblem Bool :=
  match fs.entryAt p with
  | .ok _ => .ok true
  | .error .nameTooLong => .error .nameTooLong
  | .error _ => .ok false

/-- There is a directory at a path. -/
def isDirectory (fs : FileSystem) (p : Path) : Bool :=
  match fs.entryAt p with
  | .ok (.directory _) => true
  | _ => false

/-- The text of the file at a path, with every line break as a line feed. -/
def readText (fs : FileSystem) (p : Path) : Except FileProblem String := do
  match ← fs.entryAt p with
  | .directory _ => throw .isDirectory
  | .file content =>
    match String.fromUTF8? content with
    | some s => return String.ofList (Text.unifyNewlines s.toList)
    | none => throw .badEncoding

/-- Makes the directory at a path in the directory above it. -/
def makeOne (fs : FileSystem) (p : Path) : Except FileProblem FileSystem := do
  checkPath p
  match p.names.getLast? with
  | none => throw .exists
  | some name =>
    let place ← fs.locate p.parent
    match fs.step place name with
    | .ok _ => throw .exists
    | .error .missing => return { fs with root := Entry.put .empty (place ++ [name]) fs.root }
    | .error problem => throw problem

/-- Makes the directory that some names lead to, and first those on the way. The names come last
one first. A directory that is there is left as it is. -/
def makeWithParents (root : PathRoot) (fs : FileSystem) :
    List String → Except FileProblem Unit × FileSystem
  | [] => (.ok (), fs)
  | name :: above =>
    let path : Path := { root, names := (name :: above).reverse }
    let settled (r : Except FileProblem FileSystem) (fs : FileSystem) :
        Except FileProblem Unit × FileSystem :=
      match r with
      | .ok fs => (.ok (), fs)
      | .error problem => if fs.isDirectory path then (.ok (), fs) else (.error problem, fs)
    match fs.makeOne path with
    | .error .missing =>
      match makeWithParents root fs above with
      | (.ok (), fs) => settled (fs.makeOne path) fs
      | (.error problem, fs) => (.error problem, fs)
    | r => settled r fs

/-- Makes the directory at a path with all directories on the way. -/
def makeDirectories (fs : FileSystem) (p : Path) : Except FileProblem Unit × FileSystem :=
  fs.makeWithParents p.root p.names.reverse

/-- Writes a text to the file at a path, in a directory that is there. -/
def writeText (fs : FileSystem) (p : Path) (s : String) : Except FileProblem FileSystem := do
  checkPath p
  match p.names.getLast? with
  | none => throw .isDirectory
  | some name =>
    let place ← fs.locate p.parent
    let write (place : List String) : Except FileProblem FileSystem :=
      match fs.root.find? place with
      | some (.directory _) => .error .isDirectory
      | _ => .ok { fs with root := Entry.put (.file s.toUTF8) place fs.root }
    match fs.step place name with
    | .ok place => write place
    | .error .missing => write (place ++ [name])
    | .error problem => throw problem

end FileSystem

end FactoryRegistry
