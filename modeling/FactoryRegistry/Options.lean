import FactoryRegistry.Holders
import FactoryRegistry.RegistryType

/-!
# Options of a build

Switches that remove features from the built program, each of which becomes a directive, and the
names of the generated types.
-/

namespace FactoryRegistry

/-- The features that the built program does without. -/
structure AotOptions where
  /-- Do without YAML. -/
  removeYamlSupport : Bool := false
  /-- Do without XML. -/
  removeXmlSupport : Bool := false
  /-- Do without the expression language. -/
  removeSpelSupport : Bool := false
  deriving DecidableEq, Repr

namespace AotOptions

/-- The switches with their names, in order. -/
def flags (o : AotOptions) : List (String × Bool) := [
  ("remove_yaml_support", o.removeYamlSupport),
  ("remove_xml_support", o.removeXmlSupport),
  ("remove_spel_support", o.removeSpelSupport)]

/-- The directives of the enabled switches, in order, as keys and values. -/
def directives (o : AotOptions) : List (String × String) :=
  (if o.removeYamlSupport then [("spring.native.remove-yaml-support", "true")] else []) ++
  (if o.removeXmlSupport then [("spring.xml.ignore", "true")] else []) ++
  (if o.removeSpelSupport then [("spring.spel.ignore", "true")] else [])

/-- The options with a switch of a name set. -/
def set (o : AotOptions) (name : String) (value : Bool) : Except Failure AotOptions :=
  if name == "remove_yaml_support" then .ok { o with removeYamlSupport := value }
  else if name == "remove_xml_support" then .ok { o with removeXmlSupport := value }
  else if name == "remove_spel_support" then .ok { o with removeSpelSupport := value }
  else .error .unknownField

/-- The options as data. -/
def view (o : AotOptions) : Json := .object (o.flags.map fun (name, b) => (name, .bool b))

end AotOptions

/-- Where the generated types go and what they are called. -/
structure OutputSettings where
  /-- The package of the registry. -/
  registryPackage : String := RegistryTarget.defaultPackage
  /-- The name of the registry class. -/
  registryClass : String := RegistryTarget.defaultClassName
  /-- The name of the holder classes. -/
  providerClass : String := Holders.defaultClassName
  deriving DecidableEq, Repr

namespace OutputSettings

/-- The registry to generate. -/
def target (o : OutputSettings) : RegistryTarget := ⟨o.registryPackage, o.registryClass⟩

/-- The settings with their names, in order. -/
def fields (o : OutputSettings) : List (String × String) := [
  ("registry_package", o.registryPackage),
  ("registry_class", o.registryClass),
  ("provider_class", o.providerClass)]

/-- The settings with a field of a name set. -/
def set (o : OutputSettings) (name value : String) : Except Failure OutputSettings :=
  if name == "registry_package" then .ok { o with registryPackage := value }
  else if name == "registry_class" then .ok { o with registryClass := value }
  else if name == "provider_class" then .ok { o with providerClass := value }
  else .error .unknownField

/-- The settings as data. -/
def view (o : OutputSettings) : Json := .object (o.fields.map fun (name, s) => (name, .text s))

end OutputSettings

end FactoryRegistry
