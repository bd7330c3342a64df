import FactoryRegistry.Description.Builder

/-!
# The registry type

The registry is a class with two ordered multimaps, one of suppliers and one of implementation
names for each contract. Its static initializer holds all collected statements.
-/

namespace FactoryRegistry

/-- Where the registry goes and what it is called. -/
structure RegistryTarget where
  /-- The package of the registry. -/
  package : String
  /-- The name of the registry class. -/
  className : String
  deriving DecidableEq, Repr

namespace RegistryTarget

/-- The package of a registry where none is configured. -/
def defaultPackage : String := "org.springframework.aot"

/-- The name of a registry class where none is configured. -/
def defaultClassName : String := "StaticSpringFactories"

/-- The type of the multimap of suppliers. -/
def factoriesType : String :=
  "org.springframework.util.MultiValueMap<java.lang.Class, " ++
    "java.util.function.Supplier<java.lang.Object>>"

/-- The type of the multimap of names. -/
def namesType : String :=
  "org.springframework.util.MultiValueMap<java.lang.Class, java.lang.String>"

/-- The expression for an empty multimap. -/
def emptyMap : String := "new org.springframework.util.LinkedMultiValueMap()"

/-- The documentation of a generated class. -/
def generatedDoc : String := "Class generated - do not edit this file"

/-- A multimap field of the registry. -/
def mapField (typeName name : String) : Field :=
  .of typeName name [.public, .static] (some emptyMap)

/-- The registry class with a block as its static initializer. The initializer is present also when
the block is empty. -/
def assemble (target : RegistryTarget) (block : Block) : TypeDescription :=
  { name := target.className
    modifiers := [.public, .abstract]
    fields := [mapField factoriesType "factories", mapField namesType "names"]
    methods := []
    staticBlock := some block
    doc := generatedDoc }

/-- The registry class in its package. -/
def assembleFile (target : RegistryTarget) (block : Block) : SourceFile :=
  ⟨target.package, target.assemble block⟩

/-- What is reported when something of another kind stands in place of a block. -/
def notABlock (kind : Kind) : Fault :=
  .assemblyInvalid s!"expected a finalized CodeBlock, got {kind.name}"

/-- The calls that describe the registry class one by one. -/
def calls (block : Block) : List Edit := [
  .addModifiers [.public, .abstract],
  .addField (mapField factoriesType "factories"),
  .addField (mapField namesType "names"),
  .addStaticBlock block,
  .addDoc generatedDoc]

/-- The registry class is what a builder makes of those calls. -/
theorem run_calls (target : RegistryTarget) (block : Block) :
    ((Program.ofCalls ((calls block).map .ok)).run { name := target.className }).map
      TypeBuilder.build = .ok (target.assemble block) := by
  rfl

end RegistryTarget

end FactoryRegistry
