import FactoryRegistry.CommandLine.Help
import FactoryRegistry.Console.Layout
import FactoryRegistry.Text.Quoted

/-!
# Invocations of the tool

The tool has two commands: `inspect` makes a build and summarises it, `freeze` writes its view to a
file. `Invocation.read` finds out from the words of a command line what the tool is to do. The pages
of help and the reports of wrong command lines stand here as well.
-/

namespace FactoryRegistry.CommandLine

open Console Text

/-- The name of the tool. -/
def toolName : String := "sfgen"

/-- The version of the tool. -/
def toolVersion : String := "0.1.0"

/-- A command of the tool. -/
inductive Command where
  /-- Make a build and summarise it. -/
  | inspect
  /-- Make a build and write its view to a file. -/
  | freeze
  deriving DecidableEq, Repr

namespace Command

/-- The name of a command. -/
def name : Command → String
  | inspect => "inspect"
  | freeze => "freeze"

/-- The commands in alphabetical order. -/
def all : List Command := [freeze, inspect]

/-- The command of a name. -/
def ofName? (name : String) : Option Command := all.find? (·.name == name)

end Command

/-- The option that asks for help. -/
def helpOption : OptionSpec := ⟨["--help"], .help, false, "Show this message and exit."⟩

/-- The option that asks for more output. -/
def verboseOption : OptionSpec := ⟨["--verbose", "-v"], .flag, false, "Verbose output"⟩

/-- The option that asks for less output. -/
def quietOption : OptionSpec := ⟨["--quiet", "-q"], .flag, false, "Minimal output"⟩

/-- The options of the tool itself. Its command ends them. -/
def toolGrammar : Grammar := {
  options := [⟨["--version"], .version, false, "Show the version and exit."⟩, verboseOption,
    quietOption, helpOption]
  mixed := false }

/-- The option for a file of the configuration. -/
def configOption : OptionSpec := ⟨["--config"], .value, false, "Config file (YAML or JSON)"⟩

/-- The option for a settings file. -/
def settingsOption : OptionSpec :=
  ⟨["--env-file"], .value, false, ".env file with SF_* variables"⟩

/-- The option for the view itself in place of the summary. -/
def jsonOption : OptionSpec := ⟨["--json"], .flag, false, "Print the full JSON view"⟩

/-- The option for the file to write. -/
def outputOption : OptionSpec := ⟨["--output", "-o"], .value, true, "Output JSON file"⟩

/-- The name of the argument of both commands. -/
def manifestArgument : String := "BINDINGS"

/-- The grammar of a command. -/
def Command.grammar : Command → Grammar
  | inspect => {
    options := [configOption, settingsOption, jsonOption, helpOption]
    argument := some manifestArgument }
  | freeze => {
    options := [outputOption, configOption, settingsOption, helpOption]
    argument := some manifestArgument }

/-! ## Help -/

/-- What a command does, in one sentence. -/
def Command.summary : Command → String
  | .inspect => "Generate in memory and summarize the result."
  | .freeze => "Generate and write the JSON view for reproducible builds."

/-- Examples of a command. -/
def Command.examples : Command → String
  | .inspect => "Examples:   sfgen inspect bindings.yaml   sfgen inspect bindings.yaml --config " ++
      "staticfactories.yaml --json"
  | .freeze => "Examples:   sfgen freeze bindings.yaml --output build/factories.json"

/-- The usage line of the tool, or of a command. -/
def usageLine : Option Command → String
  | none => s!"Usage: {toolName} [OPTIONS] COMMAND [ARGS]..."
  | some c => s!"Usage: {toolName} {c.name} [OPTIONS] {manifestArgument}"

/-- The widest that help gets. -/
def helpLimit : Nat := 80

/-- The narrowest that help gets. -/
def helpLeast : Nat := 50

/-- The width of help on a terminal. -/
def helpWidth (t : Terminal) : Nat := max (min t.columns helpLimit - 2) helpLeast

/-- Parts of help with a blank line between them. -/
def separated (parts : List (List String)) : List String := (parts.intersperse [""]).flatten

/-- The page of help about a command. -/
def commandHelp (t : Terminal) (c : Command) : List String :=
  let width := helpWidth t
  separated [
    [usageLine (some c)],
    (Paragraph.flowing c.summary).lines width,
    (Paragraph.flowing c.examples).lines width,
    tableLines width "Options" (optionTable c.grammar.options)]

/-- What the tool does, in one sentence. -/
def toolSummary : String := "Generate a static factories registry from declared bindings."

/-- How to begin with the tool. -/
def quickStart : List String := [
  "Quick start:",
  "  sfgen inspect bindings.yaml",
  "  sfgen freeze bindings.yaml --output build/factories.json"]

/-- The table of commands. -/
def commandTable (width : Nat) : List (String × String) :=
  let longest := (Command.all.map (·.name.length)).foldl max 0
  Command.all.map fun c => (c.name, shortened (width - 6 - longest) c.summary)

/-- The page of help about the tool, after its banner. -/
def toolHelp (t : Terminal) : List String :=
  let width := helpWidth t
  banner t toolName s!"v{toolVersion}  {checkMark}  static factories generator" none ++ [""] ++
  separated [
    [usageLine none],
    (Paragraph.flowing toolSummary).lines width,
    (Paragraph.verbatim quickStart).lines width,
    tableLines width "Options" (optionTable toolGrammar.options),
    tableLines width "Commands" (commandTable width)]

/-- A page of help about the tool, or about a command. -/
def helpPage (t : Terminal) : Option Command → List String
  | none => toolHelp t
  | some c => commandHelp t c

/-! ## Reports -/

/-- Names between single quotation marks. -/
def quotedNames (names : List String) : String :=
  " / ".intercalate (names.map fun name => s!"'{name}'")

/-- Names that may be meant in place of an unknown one. -/
def suggestion : List String → String
  | [] => ""
  | [name] => s!" Did you mean {name}?"
  | names =>
    let listed := ", ".intercalate names
    s!" (Possible options: {listed})"

/-- What is wrong with a command line. -/
def UsageProblem.message : UsageProblem → String
  | noSuchOption name similar => s!"No such option: {name}{suggestion similar}"
  | valueMissing name => s!"Option {quoted name} requires an argument."
  | valueRefused name => s!"Option {quoted name} does not take a value."
  | argumentMissing name => s!"Missing argument {quotedNames [name]}."
  | optionMissing names => s!"Missing option {quotedNames names}."
  | argumentsLeft arguments =>
    let plural := if arguments.length == 1 then "" else "s"
    let listed := " ".intercalate arguments
    s!"Got unexpected extra argument{plural} ({listed})"
  | commandMissing => "Missing command."
  | noSuchCommand name => s!"No such command {quoted name}."

/-- Usage is shown with a problem, unless the problem is one of a single option's value. -/
def UsageProblem.showsUsage : UsageProblem → Bool
  | valueMissing _ | valueRefused _ => false
  | _ => true

/-- The report of a problem with the tool's own words, or with those of a command. -/
def usageReport (command : Option Command) (p : UsageProblem) : List String :=
  let path := match command with
    | none => toolName
    | some c => s!"{toolName} {c.name}"
  (if p.showsUsage then [usageLine command, s!"Try '{path} --help' for help.", ""] else []) ++
    [s!"Error: {p.message}"]

/-! ## Reading -/

/-- What a command is to do. -/
structure Task where
  /-- The command. -/
  command : Command
  /-- The manifest. -/
  manifest : String
  /-- A file of the configuration. -/
  config : Option String
  /-- A settings file. -/
  settings : Option String
  /-- Show the view in place of the summary. -/
  asJson : Bool
  /-- The file to write. -/
  output : String
  /-- Show more. -/
  verbose : Bool
  /-- Show less. -/
  quiet : Bool
  deriving DecidableEq, Repr

/-- What the tool is to do. -/
inductive Invocation where
  /-- Show help about the tool, or about a command. -/
  | help (command : Option Command)
  /-- Show the version. -/
  | version
  /-- Carry out a command. -/
  | task (t : Task)
  /-- Report a wrong command line. -/
  | misuse (command : Option Command) (problem : UsageProblem)
  /-- Nothing, since a value on the command line cannot be used. -/
  | failure (cause : Failure)

namespace Invocation

/-- What a role asks for. -/
def ofQuery (command : Option Command) : OptionRole → Invocation
  | .version => version
  | _ => help command

/-- What is to be done about a refusal. -/
def ofRefusal (command : Option Command) : Refusal → Invocation
  | .misused problem => misuse command problem
  | .failed cause => failure cause

/-- What a command is to do, from the words after its name and the options before it. -/
def readCommand (global : Words) (c : Command) (arguments : List String) : Invocation :=
  match c.grammar.read arguments with
  | .error problem => misuse (some c) problem
  | .ok words =>
    match words.query? with
    | some role => ofQuery (some c) role
    | none =>
      match words.check c.grammar with
      | .error refusal => ofRefusal (some c) refusal
      | .ok () => task {
          command := c
          manifest := words.arguments.headD ""
          config := words.value? "--config"
          settings := words.value? "--env-file"
          asJson := words.has "--json"
          output := (words.value? "--output").getD ""
          verbose := global.has "--verbose"
          quiet := global.has "--quiet" }

/-- A name that looks like an option: it does not begin with a letter or a digit. -/
def looksLikeOption (name : String) : Bool := name.toList.head?.any (!isAlphanumeric ·)

/-- What the tool is to do, from the words of its command line. A command of an unknown name that
looks like an option is taken as a request for help. -/
def read (arguments : List String) : Invocation :=
  if arguments.isEmpty then help none
  else match toolGrammar.read arguments with
    | .error problem => misuse none problem
    | .ok words =>
      match words.query?, words.arguments with
      | some role, _ => ofQuery none role
      | none, [] => misuse none .commandMissing
      | none, name :: rest =>
        match Command.ofName? name with
        | some c => readCommand words c rest
        | none => if looksLikeOption name then help none else misuse none (.noSuchCommand name)

end Invocation

end FactoryRegistry.CommandLine
