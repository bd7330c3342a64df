import FactoryRegistry.Description.TypeDescription
import FactoryRegistry.Digest.Sha256
import FactoryRegistry.Json.Printer

/-!
# Fingerprints

The fingerprint of generated sources is the hash of one canonical text of them. The text holds the
registry and the other classes in the order of their qualified names, so the order in which the
classes were generated does not count, while the order of statements does.
-/

namespace FactoryRegistry

/-- Files in the order of their qualified names; files of one name keep their order. -/
def canonicalOrder (files : List SourceFile) : List SourceFile :=
  files.mergeSort fun f g => f.qualifiedName ≤ g.qualifiedName

/-- The data that a fingerprint covers. -/
def canonicalView (registry : SourceFile) (factoryClasses : List SourceFile) : Json := .object [
  ("version", .text "1.0"),
  ("registry", registry.view),
  ("factory_classes", .array ((canonicalOrder factoryClasses).map SourceFile.view))]

/-- The text that is hashed. -/
def canonicalText (registry : SourceFile) (factoryClasses : List SourceFile) : String :=
  (canonicalView registry factoryClasses).compact

/-- The fingerprint of generated sources. -/
def fingerprint (registry : SourceFile) (factoryClasses : List SourceFile) : String :=
  Digest.sha256 (canonicalText registry factoryClasses).toUTF8.toList

end FactoryRegistry
