import FactoryRegistry.Config.Section
import FactoryRegistry.Generator
import FactoryRegistry.Json.Printer
import FactoryRegistry.Manifest

/-!
# Builds

A build goes from a configuration and a manifest to generated sources. On its way it leaves a trail
of events. A build may be frozen: its view is written to a file, so that a later build can be
compared with it. Nothing is written when the build fails.
-/

namespace FactoryRegistry

open Config Number

/-- Something that happens in a build. -/
inductive Event where
  /-- A file of the configuration is read. -/
  | configRead (path : Path)
  /-- The bindings of a manifest were loaded. -/
  | manifestLoaded (count : Nat) (path : Path)
  /-- A directive was written. -/
  | directiveWritten (statement : String)
  /-- A holder was changed and has this many methods now. -/
  | holderUpdated (package className : String) (methods : Nat)
  /-- A binding was registered. -/
  | bindingRegistered (contract implementation : String)
  /-- The static block was closed. -/
  | blockClosed (statements : Nat)
  /-- The registry class was assembled. -/
  | registryAssembled (className : String) (statements : Nat)
  /-- The registry was generated. -/
  | registryGenerated (qualifiedName : String) (statements contracts : Nat)
  /-- The holder classes were generated. -/
  | holdersGenerated (count : Nat)
  /-- The fingerprint was taken. -/
  | fingerprintTaken (fingerprint : String)
  deriving DecidableEq, Repr

namespace Event

/-- The level of an event. -/
def level : Event → String
  | registryGenerated _ _ _ | holdersGenerated _ => "INFO"
  | _ => "DEBUG"

/-- The part of the program that an event belongs to. -/
def area : Event → String
  | configRead _ => "config"
  | manifestLoaded _ _ => "manifest"
  | directiveWritten _ | blockClosed _ => "statements"
  | holderUpdated _ _ _ => "providers"
  | bindingRegistered _ _ => "bindings"
  | registryAssembled _ _ => "assembler"
  | registryGenerated _ _ _ | holdersGenerated _ => "generator"
  | fingerprintTaken _ => "cli.generate"

/-- What an event says. -/
def message : Event → String
  | configRead path => s!"Reading config {path.text}"
  | manifestLoaded count path => s!"Loaded {natText count} bindings from {path.text}"
  | directiveWritten statement => s!"Static block += {statement}"
  | holderUpdated package className methods =>
    s!"Provider holder {package}.{className} updated ({natText methods} methods)"
  | bindingRegistered contract implementation => s!"Registered {contract} -> {implementation}"
  | blockClosed statements => s!"Static block finalized with {natText statements} statements"
  | registryAssembled className statements =>
    s!"Assembled {className} with {natText statements} static statements"
  | registryGenerated qualifiedName statements contracts =>
    s!"Generated {qualifiedName} ({natText statements} statements, {natText contracts} contracts)"
  | holdersGenerated count => s!"Generated {natText count} provider holder classes"
  | fingerprintTaken fingerprint => s!"Fingerprint {fingerprint}"

/-- The line of a log that reports an event. -/
def line (e : Event) : String := s!"{e.level} staticfactories.{e.area}: {e.message}"

end Event

/-- What a build is made from. -/
structure BuildRequest where
  /-- The manifest. -/
  manifest : String
  /-- A file of the configuration. -/
  config : Option String := none
  /-- A settings file. -/
  settings : Option String := none

/-- What a build results in. -/
structure Build where
  /-- The declared bindings. -/
  bindings : List Binding
  /-- What each of them contributed. -/
  registrations : List Registration
  /-- The generated sources. -/
  sources : GeneratedSources
  /-- Suppliers and implementations of each contract. -/
  ledger : Json
  /-- The number of contracts. -/
  contractCount : Nat
  /-- The features to do without. -/
  options : AotOptions
  /-- The names of the generated types. -/
  output : OutputSettings

namespace Build

/-- The version of the view. -/
def viewVersion : String := "1.0"

/-- A build as data. -/
def view (b : Build) : Json := .object ([
  ("version", .text viewVersion),
  ("options", .object [("aot", b.options.view), ("output", b.output.view)]),
  ("bindings", .array (b.bindings.map Binding.view)),
  ("ledger", b.ledger)] ++ b.sources.members)

/-- The registration of a binding, with the events that it brings about. -/
def registerBinding (g : Generator) (b : Binding) :
    Except Failure (Registration × List Event × Generator) :=
  let (result, after) := g.register b
  result.map fun r =>
    let holder := after.holders.get b.package
    let changed := holder.methods.length != (g.holders.get b.package).methods.length
    let updates := if changed then [.holderUpdated b.package holder.name holder.methods.length]
      else []
    (r, updates ++ [.bindingRegistered b.contract b.implementation], after)

/-- The registrations of bindings in order, with the events that they bring about. -/
def registerAll (g : Generator) :
    List Binding → Except Failure (List Registration × List Event × Generator)
  | [] => .ok ([], [], g)
  | b :: bindings => do
    let (r, events, g) ← registerBinding g b
    let (rs, more, g) ← registerAll g bindings
    return (r :: rs, events ++ more, g)

/-- The events of generating the sources of a generator with so many contracts. -/
def generationEvents (output : OutputSettings) (contracts : Nat) (s : GeneratedSources)
    (statements : Nat) : List Event := [
  .blockClosed statements,
  .registryAssembled output.registryClass statements,
  .registryGenerated s.registry.qualifiedName statements contracts,
  .holdersGenerated s.factoryClasses.length,
  .fingerprintTaken s.fingerprint]

/-- The build of some bindings, with its events. -/
def ofBindings (options : AotOptions) (output : OutputSettings) (bindings : List Binding) :
    Except Failure (Build × List Event) := do
  let fresh := Generator.new options output
  let (registrations, events, g) ← registerAll fresh bindings
  let sources ← g.generate.1
  let contractCount := g.names.size
  let build : Build := {
    bindings, registrations, sources, ledger := g.ledger, contractCount, options, output }
  return (build, fresh.block.block.statements.map .directiveWritten ++ events ++
    generationEvents output contractCount sources g.block.size)

end Build

namespace BuildRequest

/-- An option that is not empty. -/
def stated (o : Option String) : Option String := o.filter (!·.isEmpty)

/-- What the configuration is loaded from. -/
def sources (r : BuildRequest) : Sources :=
  { files := (stated r.config).map fun name => [Path.of name]
    settings := r.settings }

/-- The files of the configuration that are read. -/
def configEvents (fs : FileSystem) (r : BuildRequest) : List Event :=
  match r.sources.filesToMerge fs with
  | .ok paths => (paths.filter fun path => fs.hasEntry path matches .ok true).map .configRead
  | .error _ => []

/-- The options and the bindings of a build. -/
def load (fs : FileSystem) (environment : List (String × String)) (r : BuildRequest) :
    Except Failure (AotOptions × OutputSettings × List Binding) := do
  let c ← r.sources.load fs environment
  return (← c.aotOptions, ← c.outputSettings, ← Manifest.load fs (.of r.manifest))

/-- Carries a build out, with the events up to its end or its failure. -/
def run (fs : FileSystem) (environment : List (String × String)) (r : BuildRequest) :
    Except Failure Build × List Event :=
  let reading := r.configEvents fs
  match r.load fs environment with
  | .error failure => (.error failure, reading)
  | .ok (options, output, bindings) =>
    let loaded := reading ++ [.manifestLoaded bindings.length (.of r.manifest)]
    match Build.ofBindings options output bindings with
    | .error failure => (.error failure, loaded)
    | .ok (build, events) => (.ok build, loaded ++ events)

/-- Carries a build out and writes its view to a file, whose directory is made if it is not there.
A build that fails writes nothing. -/
def freeze (fs : FileSystem) (environment : List (String × String)) (r : BuildRequest)
    (output : Path) : Except Failure Build × List Event × FileSystem :=
  match r.run fs environment with
  | (.error failure, events) => (.error failure, events, fs)
  | (.ok build, events) =>
    match fs.makeDirectories output.parent with
    | (.error problem, fs) => (.error (.file problem), events, fs)
    | (.ok (), fs) =>
      match fs.writeText output build.view.indented with
      | .error problem => (.error (.file problem), events, fs)
      | .ok fs => (.ok build, events, fs)

end BuildRequest

end FactoryRegistry
