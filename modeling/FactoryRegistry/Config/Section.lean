import FactoryRegistry.Config.Loader
import FactoryRegistry.Options
import FactoryRegistry.Text.Quoted
import FactoryRegistry.Value.Display
import FactoryRegistry.Value.Order

/-!
# Typed sections

A section of a configuration is read into a record. Each field of the record accepts values of its
type and may have a default. The section may have no key that is no field; of several such keys the
least one is reported, and after that the first field, in the order of the record, that is missing
or has a value of another type.
-/

namespace FactoryRegistry.Config

/-- The type of a field. -/
inductive FieldType where
  /-- Every value. -/
  | any
  /-- The values of a kind. -/
  | kind (k : Kind)
  /-- The instances of a class that is none of the kinds: the values of some kinds, of which truth
  values are never one. -/
  | instances (kinds : List Kind)
  /-- Lists or mappings, whatever they hold. -/
  | container (c : Container)
  /-- The values of some types. -/
  | union (arms : List FieldType)

namespace FieldType

/-- A value of one kind passes for another kind. Every moment is also a date. -/
def passes (value expected : Kind) : Bool :=
  value = expected || (value = .moment && expected = .date)

mutual

/-- A type accepts a value. -/
def accepts (value : Value) : FieldType → Bool
  | any => true
  | kind k => passes value.kind k
  | instances kinds => value.kind ≠ .bool && kinds.contains value.kind
  | container c => value.kind = c.kind
  | union arms => anyAccepts value arms

/-- One of some types accepts a value. -/
def anyAccepts (value : Value) : List FieldType → Bool
  | [] => false
  | arm :: arms => accepts value arm || anyAccepts value arms

end

end FieldType

/-- A field of a record. -/
structure FieldSpec where
  /-- Its name. -/
  name : String
  /-- Its type. -/
  type : FieldType
  /-- The name of its type in messages. -/
  shown : String
  /-- Its value where the section has none, if it may be left out. -/
  default : Option Value := none

/-- What a section is read into. -/
inductive Shape where
  /-- A record with its fields in order. -/
  | record (fields : List FieldSpec)
  /-- Something of this name that is no record. -/
  | other (name : String)

/-- The values of a record's fields. -/
abbrev Fields := List (String × Value)

/-- A field of a section, from the section or from the default. -/
def readField (sectionName : String) (entries : List (Scalar × Value)) (f : FieldSpec) :
    Except Failure (String × Value) :=
  let key := s!"{sectionName}.{f.name}"
  match Value.lookup (.text f.name) entries, f.default with
  | some v, _ =>
    if f.type.accepts v then .ok (f.name, v)
    else invalid key s!"expected {f.shown}, got {v.kind.name}"
  | none, some v => .ok (f.name, v)
  | none, none => .error (.fault (.configMissing key))

/-- The reason given for a key that no field has. -/
def unknownKeyReason (names : List String) : String :=
  let shown := ", ".intercalate ((names.mergeSort (· ≤ ·)).map Text.quoted)
  s!"unknown key (expected one of [{shown}])"

/-- The key is a field of the record. -/
def isDeclared (fields : List FieldSpec) : Scalar → Bool
  | .text name => fields.any (·.name == name)
  | _ => false

/-- The fields of a record, read from the entries of a section. -/
def readRecord (sectionName : String) (fields : List FieldSpec) (entries : List (Scalar × Value)) :
    Except Failure Fields := do
  let some keys := Scalar.sorted? (entries.map Prod.fst) | throw .unorderedKeys
  if let some key := keys.find? fun k => !isDeclared fields k then
    let shown ← (Value.scalar key).written
    invalid s!"{sectionName}.{shown}" (unknownKeyReason (fields.map FieldSpec.name))
  fields.mapM (readField sectionName entries)

namespace Configuration

/-- The section of a name, read into a shape. A section that is not there is empty. -/
def readSection (c : Configuration) (name : String) (shape : Shape) : Except Failure Fields :=
  let found := (c.get? name).getD (.map 0 [])
  if found.isMap then
    match shape with
    | .record fields => readRecord name fields found.entries
    | .other other => .error (.notRecord other)
  else invalid name "section must be a mapping"

end Configuration

/-- A truth value among fields. -/
def flagOf (fields : Fields) (name : String) : Bool :=
  match fields.lookup name with
  | some (.scalar (.bool b)) => b
  | _ => false

/-- A text among fields. -/
def textOf (fields : Fields) (name : String) : String :=
  match fields.lookup name with
  | some (.scalar (.text s)) => s
  | _ => ""

/-- The record of the features to do without. -/
def aotShape : Shape :=
  .record ((AotOptions.flags {}).map fun (name, b) =>
    ⟨name, .kind .bool, Kind.bool.name, some (.scalar (.bool b))⟩)

/-- The record of the names of the generated types. -/
def outputShape : Shape :=
  .record ((OutputSettings.fields {}).map fun (name, s) =>
    ⟨name, .kind .text, Kind.text.name, some (.text s)⟩)

namespace Configuration

/-- The features to do without, from the section `aot`. -/
def aotOptions (c : Configuration) : Except Failure AotOptions :=
  (c.readSection "aot" aotShape).map fun fields =>
    { removeYamlSupport := flagOf fields "remove_yaml_support"
      removeXmlSupport := flagOf fields "remove_xml_support"
      removeSpelSupport := flagOf fields "remove_spel_support" }

/-- The names of the generated types, from the section `output`. -/
def outputSettings (c : Configuration) : Except Failure OutputSettings :=
  (c.readSection "output" outputShape).map fun fields =>
    { registryPackage := textOf fields "registry_package"
      registryClass := textOf fields "registry_class"
      providerClass := textOf fields "provider_class" }

end Configuration

end FactoryRegistry.Config
