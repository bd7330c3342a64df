import FactoryRegistry.Accessor
import FactoryRegistry.Fingerprint
import FactoryRegistry.Options
import FactoryRegistry.OrderedMultimap
import FactoryRegistry.StaticBlock

/-!
# The generator

A generator is the single state of a build. Directives come first in its static block, then the
statements of bindings and of other writers. Generating closes the block, so the registry is made
exactly once; holders may change after that.

Every operation gives a result and the state after it. An operation that fails may still have
changed the state: the statements that a failing writer added stay, and a directive that is set
after the block was closed is remembered although it was not written.
-/

namespace FactoryRegistry

/-- The state of a build. -/
structure Generator where
  /-- The features to do without. -/
  options : AotOptions
  /-- The names of the generated types. -/
  output : OutputSettings
  /-- The statements of the registry's static initializer. -/
  block : StaticBlock := {}
  /-- The provider holders. -/
  holders : Holders
  /-- The keys of directives, each once. -/
  directives : List String := []
  /-- The suppliers registered for each contract. -/
  suppliers : OrderedMultimap String String := .empty
  /-- The implementations registered for each contract. -/
  names : OrderedMultimap String String := .empty

/-- Everything that a build hands on. -/
structure GeneratedSources where
  /-- The registry. -/
  registry : SourceFile
  /-- The holders that have members. -/
  factoryClasses : List SourceFile
  /-- The fingerprint of them all. -/
  fingerprint : String
  deriving DecidableEq, Repr

/-- The generated sources as members of an object. -/
def GeneratedSources.members (s : GeneratedSources) : List (String × Json) := [
  ("fingerprint", .text s.fingerprint),
  ("registry", s.registry.view),
  ("factory_classes", .array (s.factoryClasses.map SourceFile.view))]

namespace Generator

/-- The statement of a directive. -/
def directiveStatement (key value : String) : String :=
  s!"System.setProperty(\"{key}\", \"{value}\")"

/-- The number of registered bindings. -/
def bindingCount (g : Generator) : Nat := g.names.valueCount

/-- The number of statements that are no directives, as far as the block and the remembered keys
tell. -/
def otherStatements (g : Generator) : Int := (g.block.size : Int) - g.directives.length

/-- Sets a directive, which has to come before every other statement and only once. -/
def setProperty (g : Generator) (key value : String) : Except Failure Unit × Generator :=
  if key ∈ g.directives then (.error (.fault (.directiveDuplicate key)), g)
  else if g.otherStatements ≠ 0 then
    (.error (.fault (.directiveOrder key g.bindingCount g.otherStatements)), g)
  else
    let remembered := { g with directives := g.directives ++ [key] }
    match g.block.append (directiveStatement key value) with
    | .ok block => (.ok (), { remembered with block })
    | .error fault => (.error (.fault fault), remembered)

/-- A generator before any directive. -/
def bare (options : AotOptions) (output : OutputSettings) : Generator :=
  { options, output, holders := { className := output.providerClass } }

/-- A fresh generator, with the directives of its options. -/
def new (options : AotOptions) (output : OutputSettings) : Generator :=
  options.directives.foldl (fun g (key, value) => (g.setProperty key value).2) (bare options output)

/-- Hands the static block to a writer. -/
def writeStaticBlock (g : Generator) (w : Writing) : Except Failure Unit × Generator :=
  let (result, block) := g.block.write w
  (result, { g with block })

/-- Runs a program on the holder of a package. -/
def writeHolder (g : Generator) (package : String) (program : Program) :
    Except Failure TypeDescription × Generator :=
  match g.holders.update package program with
  | .ok (holder, holders) => (.ok holder, { g with holders })
  | .error failure => (.error failure, g)

/-- The program that adds one method to a holder. -/
def addMethodProgram (m : Method) : Program := .ofCalls [.ok (.addMethod m)]

/-- The name of the accessor that serves a binding, which is added to the holder of its package
unless it is there. -/
def writeAccessor (g : Generator) (b : Binding) : Except Failure String × Generator :=
  match findAccessor (g.holders.get b.package) b with
  | .taken name => (.ok name, g)
  | .free name =>
    let (result, g) := g.writeHolder b.package (addMethodProgram (accessorMethod b name))
    (result.map fun _ => name, g)

/-- The expression that calls an accessor from outside its package. -/
def accessorCall (providerClass package accessor : String) : String :=
  if package.isEmpty then s!"{providerClass}.{accessor}()"
  else s!"{package}.{providerClass}.{accessor}()"

/-- The two statements of a registration: one for the multimap of suppliers and one for the
multimap of names. -/
def registrationStatements (r : Registration) : List String := [
  s!"factories.add({r.contract}.class, () -> {r.supplier})",
  s!"names.add({r.contract}.class, \"{r.implementation}\")"]

/-- The registration of a binding, its accessor being written where it needs one. -/
def resolve (g : Generator) (b : Binding) : Except Failure Registration × Generator :=
  if b.accessible then
    (.ok ⟨b.contract, b.implementation, s!"new {b.implementation}()", none⟩, g)
  else
    let (result, g) := g.writeAccessor b
    (result.map fun accessor =>
      ⟨b.contract, b.implementation,
        accessorCall g.holders.className b.package accessor, some accessor⟩, g)

/-- Records a registration in the ledger. -/
def record (g : Generator) (r : Registration) : Generator :=
  { g with
    suppliers := g.suppliers.add r.contract r.supplier
    names := g.names.add r.contract r.implementation }

/-- Registers a binding. A closed block refuses it before anything is written. -/
def register (g : Generator) (b : Binding) : Except Failure Registration × Generator :=
  if g.block.finalized then (.error (.fault (.blockFinalized "register")), g)
  else
    match g.resolve b with
    | (.error failure, g) => (.error failure, g)
    | (.ok r, g) =>
      match g.writeStaticBlock { statements := registrationStatements r } with
      | (.error failure, g) => (.error failure, g)
      | (.ok (), g) => (.ok r, g.record r)

/-- Closes the static block and makes the registry of it. -/
def generateRegistry (g : Generator) : Except Failure SourceFile × Generator :=
  match g.block.finalize with
  | .ok (statements, block) =>
    (.ok (g.output.target.assembleFile statements), { g with block })
  | .error fault => (.error (.fault fault), g)

/-- The holders that have members, as source files. -/
def factoryClasses (g : Generator) : List SourceFile :=
  (g.holders.entries.filter (·.2.hasMembers)).map fun (package, holder) => ⟨package, holder⟩

/-- Makes the registry, the holders and the fingerprint. -/
def generate (g : Generator) : Except Failure GeneratedSources × Generator :=
  let (result, g) := g.generateRegistry
  (result.map fun registry =>
    ⟨registry, g.factoryClasses, fingerprint registry g.factoryClasses⟩, g)

/-- One half of the ledger as data. -/
def ledgerView (m : OrderedMultimap String String) : Json :=
  .object (m.entries.map fun (contract, values) => (contract, .texts values))

/-- The ledger as data: suppliers and implementations of each contract. -/
def ledger (g : Generator) : Json :=
  .object [("factories", ledgerView g.suppliers), ("names", ledgerView g.names)]

end Generator

/-- An operation on a generator. -/
inductive Operation where
  /-- Set a directive. -/
  | setProperty (key value : String)
  /-- Hand the static block to a writer. -/
  | writeStaticBlock (w : Writing)
  /-- Run a program on the holder of a package. -/
  | writeHolder (package : String) (program : Program)
  /-- Register a binding. -/
  | register (b : Binding)
  /-- Make the registry. -/
  | generateRegistry
  /-- Make all sources. -/
  | generate

/-- What an operation on a generator results in. -/
inductive Result where
  /-- The operation was carried out. -/
  | done
  /-- The holder after an update. -/
  | holder (t : TypeDescription)
  /-- The registration of a binding. -/
  | registration (r : Registration)
  /-- The registry. -/
  | registry (f : SourceFile)
  /-- All sources. -/
  | sources (s : GeneratedSources)

namespace Generator

/-- One operation: its result and the state after it. -/
def step (g : Generator) : Operation → Except Failure Result × Generator
  | .setProperty key value =>
    let (r, g) := g.setProperty key value
    (r.map fun _ => .done, g)
  | .writeStaticBlock w =>
    let (r, g) := g.writeStaticBlock w
    (r.map fun _ => .done, g)
  | .writeHolder package program =>
    let (r, g) := g.writeHolder package program
    (r.map .holder, g)
  | .register b =>
    let (r, g) := g.register b
    (r.map .registration, g)
  | .generateRegistry =>
    let (r, g) := g.generateRegistry
    (r.map .registry, g)
  | .generate =>
    let (r, g) := g.generate
    (r.map .sources, g)

/-- The results of operations in order and the state after them. A failed operation stops
nothing. -/
def run (g : Generator) : List Operation → List (Except Failure Result) × Generator
  | [] => ([], g)
  | op :: ops =>
    let (result, g) := g.step op
    let (results, g) := g.run ops
    (result :: results, g)

end Generator

end FactoryRegistry
