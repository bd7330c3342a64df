import FactoryRegistry.Build
import FactoryRegistry.CommandLine.Invocation

/-!
# What the tool does

`run` carries out an invocation of the tool on a file system: it gives the text on both outputs, the
exit status and the files afterwards. A fault ends a command with a report and the status 1; any
other failure ends it without one.
-/

namespace FactoryRegistry.CommandLine

open Console Number

/-- What an invocation results in. -/
structure Outcome where
  /-- The exit status. -/
  status : Nat
  /-- The text on the standard output. -/
  output : String := ""
  /-- The text on the error output. -/
  errors : String := ""
  /-- The files afterwards. -/
  files : FileSystem
  /-- A failure that no report was made of. -/
  failure : Option Failure := none

/-- Lines on an output that is no terminal. -/
def plainly (lines : List String) : String := written false lines

/-- What the log shows of events. -/
def logOf (verbose : Bool) (events : List Event) : String :=
  if verbose then String.join (events.map fun e => e.line ++ "\n") else ""

/-- A labelled value at the usual column. -/
def entry (key value : String) : List String := labelled keyWidth key value

/-- A holder class with the names of its methods. -/
def holderLine (f : SourceFile) : List String :=
  let methods := ", ".intercalate (f.type.methods.map Method.name)
  bullet s!"{bold f.qualifiedName}  {methods}"

/-- The summary of a build. -/
def summary (t : Terminal) (verbose : Bool) (b : Build) : List String :=
  let registry := b.sources.registry
  let statements := (registry.type.staticBlock.map Block.statements).getD []
  let holders := b.sources.factoryClasses
  heading t "Registry" ++
  entry "Type" registry.qualifiedName ++
  entry "Statements" (natText statements.length) ++
  entry "Contracts" (natText b.contractCount) ++
  entry "Fingerprint" b.sources.fingerprint ++
  (if verbose then "" :: statements.flatMap fun s => faint ("    " ++ s) else []) ++
  "" :: heading t "Provider holders" ++
  (if holders.isEmpty then faint "  (none)" else holders.flatMap holderLine)

/-- The report of a frozen build. -/
def frozenReport (task : Task) (b : Build) : List String :=
  fileWritten task.output task.verbose b.sources.registry.qualifiedName ++ [""] ++
  success s!"  {checkMark} Sources frozen" ++
  entry "Fingerprint" b.sources.fingerprint ++
  information s!"  {natText b.sources.factoryClasses.length} provider holder(s)"

/-- What a command does to the file system and shows, apart from the log. -/
def Task.show (task : Task) (t : Terminal) (b : Build) : List String :=
  match task.command with
  | .inspect => if task.asJson then [b.view.indented] else summary t task.verbose b
  | .freeze => if task.quiet then [] else frozenReport task b

/-- The build that a task asks for. -/
def Task.request (task : Task) : BuildRequest :=
  { manifest := task.manifest, config := task.config, settings := task.settings }

/-- What a command says when a fault ends it. -/
def Command.complaint : Command → String
  | .inspect => "Generation failed"
  | .freeze => "Freeze failed"

/-- Makes the build of a task and writes what the task writes. -/
def Task.build (task : Task) (fs : FileSystem) (environment : List (String × String)) :
    Except Failure Build × List Event × FileSystem :=
  match task.command with
  | .inspect =>
    let (result, events) := task.request.run fs environment
    (result, events, fs)
  | .freeze => task.request.freeze fs environment (.of task.output)

/-- Carries out a task. -/
def Task.run (task : Task) (t : Terminal) (fs : FileSystem)
    (environment : List (String × String)) : Outcome :=
  let (result, events, files) := task.build fs environment
  let errors := logOf task.verbose events
  match result with
  | .ok b => { status := 0, output := plainly (task.show t b), errors, files }
  | .error (.fault fault) =>
    let line := s!"  {crossMark} {task.command.complaint}: {fault.report}"
    { status := 1, output := plainly (Console.failure line), errors, files }
  | .error cause => { status := 1, errors, files, failure := some cause }

/-- The exit status for a wrong command line. -/
def misuseStatus : Nat := 2

/-- Carries out what the words of a command line ask for. -/
def run (t : Terminal) (fs : FileSystem) (environment : List (String × String))
    (arguments : List String) : Outcome :=
  match Invocation.read arguments with
  | .help command => { status := 0, output := plainly (helpPage t command), files := fs }
  | .version =>
    { status := 0, output := plainly [s!"{toolName}, version {toolVersion}"], files := fs }
  | .misuse command problem =>
    { status := misuseStatus, errors := plainly (usageReport command problem), files := fs }
  | .failure cause => { status := 1, files := fs, failure := some cause }
  | .task task => task.run t fs environment

end FactoryRegistry.CommandLine
