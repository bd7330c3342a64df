import FactoryRegistry.Json.Value
import FactoryRegistry.Number.Decimal
import FactoryRegistry.Text.Case
import FactoryRegistry.Text.Quoted

/-!
# Faults

A fault is a structured report of something a build cannot use: it has a stable code, a message,
the area it comes from, a severity and metadata. Each constructor is one cause with its data; the
wording of all of them stands in this module. `Fault.custom` is a fault with a code of its own.
-/

namespace FactoryRegistry

open Number

/-- How bad a fault is. -/
inductive Severity where
  /-- For information. -/
  | info
  /-- A warning. -/
  | warn
  /-- An error. -/
  | error
  /-- The build cannot go on. -/
  | fatal
  deriving DecidableEq, Repr

/-- The name of a severity. -/
def Severity.name : Severity → String
  | info => "info"
  | warn => "warn"
  | error => "error"
  | fatal => "fatal"

/-- The severity of a name. -/
def Severity.ofName? (name : String) : Option Severity :=
  [Severity.info, .warn, .error, .fatal].find? (·.name == name)

/-- The functional area a fault comes from. -/
inductive Area where
  /-- Configuration sources and manifests. -/
  | config
  /-- The state of a generation run. -/
  | generator
  /-- Type descriptions and holders. -/
  | registry
  deriving DecidableEq, Repr

/-- The name of an area. -/
def Area.name : Area → String
  | config => "config"
  | generator => "generator"
  | registry => "registry"

/-- The area of a name. -/
def Area.ofName? (name : String) : Option Area :=
  [Area.config, .generator, .registry].find? (·.name == name)

/-- The severity of a fault that states none. -/
def Area.defaultSeverity : Area → Severity
  | config => .fatal
  | generator => .fatal
  | registry => .error

/-- The families of faults that carry a code of their own. -/
inductive Family where
  /-- A fault of any area, which has to be stated. -/
  | general
  /-- A fault of the configuration, unless another area is stated. -/
  | config
  /-- A fault of the generator, unless another area is stated. -/
  | generator
  deriving DecidableEq, Repr

/-- The name of a family. -/
def Family.name : Family → String
  | general => "Fault"
  | config => "ConfigFault"
  | generator => "GeneratorFault"

/-- The area of a family's faults, if the family has one. -/
def Family.area? : Family → Option Area
  | general => none
  | config => some .config
  | generator => some .generator

/-- Something that a build cannot use. -/
inductive Fault where
  /-- A configuration source or a required key is absent. -/
  | configMissing (key : String)
  /-- A configuration value or a manifest entry cannot be used. -/
  | configInvalid (key reason : String)
  /-- The static block was touched after it was finalized. -/
  | blockFinalized (operation : String)
  /-- The registry type cannot be assembled. -/
  | assemblyInvalid (reason : String)
  /-- A directive is set a second time. -/
  | directiveDuplicate (key : String)
  /-- A directive follows a statement that is none. -/
  | directiveOrder (key : String) (bindings statements : Int)
  /-- A type description declares a member name twice. -/
  | memberDuplicate (typeName kind member : String)
  /-- A fault with a code of its own. -/
  | custom (family : Family) (code message : String) (area : Area) (severity : Severity)
      (metadata : List (String × Json))

namespace Fault

/-- A fault with a code of its own; there is none when neither the family nor the caller states an
area. -/
def custom? (family : Family) (code message : String) (area : Option Area)
    (severity : Option Severity) (metadata : List (String × Json)) : Option Fault :=
  (area <|> family.area?).map fun area =>
    custom family code message area (severity.getD area.defaultSeverity) metadata

/-- The name of the kind of fault. -/
def name : Fault → String
  | configMissing _ => "ConfigMissingFault"
  | configInvalid _ _ => "ConfigInvalidFault"
  | blockFinalized _ => "StatementBlockFinalizedFault"
  | assemblyInvalid _ => "AssemblyFault"
  | directiveDuplicate _ => "DuplicateDirectiveFault"
  | directiveOrder _ _ _ => "DirectiveOrderFault"
  | memberDuplicate _ _ _ => "DuplicateMemberFault"
  | custom family _ _ _ _ _ => family.name

/-- The stable code of a fault. -/
def code : Fault → String
  | configMissing _ => "CONFIG_MISSING"
  | configInvalid _ _ => "CONFIG_INVALID"
  | blockFinalized _ => "STATEMENT_BLOCK_FINALIZED"
  | assemblyInvalid _ => "REGISTRY_ASSEMBLY_INVALID"
  | directiveDuplicate _ => "DIRECTIVE_DUPLICATE"
  | directiveOrder _ _ _ => "DIRECTIVE_AFTER_BINDING"
  | memberDuplicate _ _ _ => "TYPE_MEMBER_DUPLICATE"
  | custom _ code _ _ _ _ => code

/-- What a fault says. -/
def message : Fault → String
  | configMissing key => s!"Required configuration '{key}' is missing"
  | configInvalid key reason => s!"Configuration '{key}' is invalid: {reason}"
  | blockFinalized operation => s!"Cannot {operation}: static block was already finalized"
  | assemblyInvalid reason => s!"Cannot assemble registry type: {reason}"
  | directiveDuplicate key => s!"Directive '{key}' is already set"
  | directiveOrder key bindings statements =>
    s!"Directive '{key}' must be written before other static statements " ++
      s!"({intText statements} written, {intText bindings} bindings registered)"
  | memberDuplicate typeName kind member =>
    s!"{Text.capitalize kind} '{member}' is already declared on '{typeName}'"
  | custom _ _ message _ _ _ => message

/-- The area a fault comes from. -/
def area : Fault → Area
  | configMissing _ | configInvalid _ _ => .config
  | blockFinalized _ | assemblyInvalid _ | directiveDuplicate _ | directiveOrder _ _ _ => .generator
  | memberDuplicate _ _ _ => .registry
  | custom _ _ _ area _ _ => area

/-- How bad a fault is. -/
def severity : Fault → Severity
  | custom _ _ _ _ severity _ => severity
  | fault => fault.area.defaultSeverity

/-- The data of a fault's cause. -/
def metadata : Fault → List (String × Json)
  | configMissing key => [("key", .text key)]
  | configInvalid key reason => [("key", .text key), ("reason", .text reason)]
  | blockFinalized operation => [("operation", .text operation)]
  | assemblyInvalid reason => [("reason", .text reason)]
  | directiveDuplicate key => [("key", .text key)]
  | directiveOrder key bindings statements =>
    [("key", .text key), ("binding_count", .int bindings), ("statement_count", .int statements)]
  | memberDuplicate typeName kind member =>
    [("type", .text typeName), ("kind", .text kind), ("member", .text member)]
  | custom _ _ _ _ _ metadata => metadata

/-- The line that reports a fault. -/
def report (fault : Fault) : String := s!"[{fault.code}] {fault.message}"

/-- A short technical form of a fault, without its message. -/
def summary (fault : Fault) : String :=
  s!"{fault.name}(code={Text.quoted fault.code}, domain={fault.area.name}, " ++
    s!"severity={fault.severity.name})"

/-- A fault as structured data. -/
def view (fault : Fault) : Json := .object [
  ("code", .text fault.code),
  ("message", .text fault.message),
  ("domain", .text fault.area.name),
  ("severity", .text fault.severity.name),
  ("metadata", .object fault.metadata)]

end Fault

end FactoryRegistry
