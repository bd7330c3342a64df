import FactoryRegistry.Text.Lines
import FactoryRegistry.Yaml.Construction
import FactoryRegistry.Yaml.Node.Reader

/-!
# Reading a document

`Yaml.read` gives the value of a text in YAML 1.1. The text holds at most one document; one without
a document has no value. What a document refers back to has the same label at every place.
-/

namespace FactoryRegistry.Yaml

/-- The value of a text, its labels beginning at `next`, and the first label that is not in use. -/
def read (next : Nat) (text : String) : Except Error (Value × Nat) := do
  let cs := Text.unifyNewlines text.toList
  if !cs.all isAllowed then throw .malformed
  match ← Graph.read cs with
  | (some root, g) => g.value next root
  | (none, _) => return (.null, next)

end FactoryRegistry.Yaml
