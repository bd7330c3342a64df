import FactoryRegistry.Generator
import FactoryRegistry.Json.Reader
import FactoryRegistry.Build
import FactoryRegistry.CommandLine.Grammar
import FactoryRegistry.CommandLine.Help
import FactoryRegistry.CommandLine.Invocation
import FactoryRegistry.CommandLine.Program
import FactoryRegistry.Proofs.Generator.Allocation
import FactoryRegistry.Proofs.Generator.Callable
import FactoryRegistry.Proofs.Generator.Directive
import FactoryRegistry.Proofs.Generator.Emission
import FactoryRegistry.Proofs.Generator.Ledger
import FactoryRegistry.Proofs.Generator.Registration
import FactoryRegistry.Proofs.Generator.Supplier
import FactoryRegistry.Proofs.Fingerprint.Order
import FactoryRegistry.Proofs.Generator.Independence
import FactoryRegistry.Proofs.Generator.Transcript
import FactoryRegistry.Proofs.Json.Escape
import FactoryRegistry.Proofs.Json.RoundTrip
import FactoryRegistry.Proofs.Description.View
import FactoryRegistry.Proofs.Fingerprint.Coverage
import FactoryRegistry.Proofs.Number.Magnitude
import FactoryRegistry.Proofs.Value.Key
import FactoryRegistry.Proofs.Value.Label
import FactoryRegistry.Proofs.Value.Place
import FactoryRegistry.Proofs.Value.Relabel
import FactoryRegistry.Proofs.Value.Overlay
import FactoryRegistry.Proofs.Value.Path
import FactoryRegistry.Proofs.Value.Merging
import FactoryRegistry.Proofs.Value.OfJson
import FactoryRegistry.Proofs.Config.Assignment
import FactoryRegistry.Proofs.Config.Source
import FactoryRegistry.Proofs.Except
import FactoryRegistry.Proofs.Json.Proper
import FactoryRegistry.Proofs.Yaml.Value
import FactoryRegistry.Proofs.Config.Precedence
import FactoryRegistry.Proofs.Generator.Finalization
import FactoryRegistry.Proofs.Generator.QualifiedNames
import FactoryRegistry.Proofs.Value.Display
import FactoryRegistry.Proofs.Manifest.Reread
import FactoryRegistry.Proofs.Config.Section
import FactoryRegistry.Proofs.Build.Reproduction
import FactoryRegistry.Proofs.Config.Reachable
import FactoryRegistry.Proofs.Config.Frame
import FactoryRegistry.Proofs.Config.Interruption
import FactoryRegistry.Proofs.Value.Order
import FactoryRegistry.Proofs.Config.FieldType
import FactoryRegistry.Proofs.Config.Validation
import FactoryRegistry.Proofs.Config.KeyOrder
import FactoryRegistry.Proofs.Yaml.Content
import FactoryRegistry.Proofs.Yaml.Token
import FactoryRegistry.Proofs.Yaml.Document
import FactoryRegistry.Proofs.Json.Limit
import FactoryRegistry.Proofs.CommandLine.UnreadFiles
import FactoryRegistry.Proofs.Value.Reordering
import FactoryRegistry.Proofs.Config.VariableOrder
import FactoryRegistry.Proofs.Config.MergeLaws
import FactoryRegistry.Proofs.Description.Rebuild
import FactoryRegistry.Proofs.Holders.SingleRun
import FactoryRegistry.Proofs.Manifest.Shape
import FactoryRegistry.Proofs.Text.Lines
import FactoryRegistry.Proofs.Config.Settings
import FactoryRegistry.Proofs.Number.Integer
import FactoryRegistry.Proofs.Config.Coercion
import FactoryRegistry.Proofs.Config.VariableName
import FactoryRegistry.Proofs.Config.IntegerVariable
import FactoryRegistry.Proofs.OrderedMultimap.Refinement
import FactoryRegistry.Proofs.Accessor.Termination
import FactoryRegistry.Proofs.Generator.DirectiveText
import FactoryRegistry.Proofs.Files.Standing
import FactoryRegistry.Proofs.Files.Writing
import FactoryRegistry.Proofs.Json.Indented
import FactoryRegistry.Proofs.Build.View
import FactoryRegistry.Proofs.CommandLine.Freeze
