import FactoryRegistry.CommandLine.Similarity
import FactoryRegistry.Failure

/-!
# The grammar of command lines

A command has options, each with one or more names, and may take one argument. An option is a flag
or takes a value, which may be attached to its name. Short names can be joined behind one hyphen.
Everything after `--` is an argument. `Grammar.read` sorts the words of a command line into options
and arguments, or says which word breaks the grammar.
-/

namespace FactoryRegistry.CommandLine

/-- What an option does. -/
inductive OptionRole where
  /-- It takes a value. -/
  | value
  /-- It is on when it is given. -/
  | flag
  /-- It asks for help. -/
  | help
  /-- It asks for the version. -/
  | version
  deriving DecidableEq, Repr

/-- An option of a command. -/
structure OptionSpec where
  /-- Its names, those with one hyphen and a single letter and those with two hyphens. -/
  names : List String
  /-- What it does. -/
  role : OptionRole
  /-- It has to be given. -/
  required : Bool := false
  /-- What it is for. -/
  description : String
  deriving DecidableEq, Repr

/-- A name of one hyphen and a letter. -/
def isShort (name : String) : Bool := name.length == 2

namespace OptionSpec

/-- The short names of an option. -/
def shortNames (o : OptionSpec) : List String := o.names.filter isShort

/-- The long names of an option. -/
def longNames (o : OptionSpec) : List String := o.names.filter (!isShort ·)

/-- The option takes a value. -/
def takesValue (o : OptionSpec) : Bool := o.role = .value

end OptionSpec

/-- What is wrong with a command line. -/
inductive UsageProblem where
  /-- There is no option of a name; some names are like it. -/
  | noSuchOption (name : String) (similar : List String)
  /-- An option has no value. -/
  | valueMissing (name : String)
  /-- A value is attached to an option that takes none. -/
  | valueRefused (name : String)
  /-- The argument is missing. -/
  | argumentMissing (name : String)
  /-- A required option is missing. -/
  | optionMissing (names : List String)
  /-- There are more arguments than the command takes. -/
  | argumentsLeft (arguments : List String)
  /-- No command is given. -/
  | commandMissing
  /-- There is no command of a name. -/
  | noSuchCommand (name : String)
  deriving DecidableEq, Repr

/-- Why a command is not carried out. -/
inductive Refusal where
  /-- The command line is wrong. -/
  | misused (problem : UsageProblem)
  /-- A value on the command line cannot be used. -/
  | failed (cause : Failure)

/-- The grammar of one command. -/
structure Grammar where
  /-- The options, in the order in which help lists them. -/
  options : List OptionSpec
  /-- The name of the argument, if the command takes one. -/
  argument : Option String := none
  /-- Options may follow arguments. -/
  mixed : Bool := true

/-- A command line sorted into its parts. -/
structure Words where
  /-- The options in order, with the values of those that take one. -/
  given : List (OptionSpec × String) := []
  /-- The arguments in order. -/
  arguments : List String := []

namespace Grammar

/-- The option with a name. -/
def find? (s : Grammar) (name : String) : Option OptionSpec :=
  s.options.find? fun o => o.names.contains name

/-- The option with a long name. -/
def findLong? (s : Grammar) (name : String) : Option OptionSpec :=
  s.options.find? fun o => o.longNames.contains name

/-- All long names, in order. -/
def longNames (s : Grammar) : List String := s.options.flatMap OptionSpec.longNames

/-- The options in a word, with their values, and an option whose value is the next word. -/
structure Reading where
  /-- The options that are complete. -/
  complete : List (OptionSpec × String) := []
  /-- The option that takes the next word, with the name it was given by. -/
  pending : Option (OptionSpec × String) := none

/-- A word that begins like an option. -/
def isOption (word : String) : Bool := word.toList.head? == some '-' && 1 < word.length

/-- The options whose letters are joined behind one hyphen. What follows the letter of an option
with a value is that value. -/
def readLetters (s : Grammar) : List Char → Except UsageProblem Reading
  | [] => .ok {}
  | c :: cs =>
    let name := String.ofList ['-', c]
    match s.find? name with
    | none => .error (.noSuchOption name [])
    | some o =>
      if !o.takesValue then
        (readLetters s cs).map fun r => { r with complete := (o, "") :: r.complete }
      else if cs.isEmpty then .ok { pending := some (o, name) }
      else .ok { complete := [(o, String.ofList cs)] }

/-- The options in a word. A long name may have its value after an equals sign. -/
def readWord (s : Grammar) (word : String) : Except UsageProblem Reading :=
  let cs := word.toList
  let name := String.ofList (cs.takeWhile (· != '='))
  let attached := if cs.contains '=' then some (String.ofList (cs.drop (name.length + 1))) else none
  match s.findLong? name, attached with
  | some o, some v =>
    if o.takesValue then .ok { complete := [(o, v)] } else .error (.valueRefused name)
  | some o, none =>
    if o.takesValue then .ok { pending := some (o, name) } else .ok { complete := [(o, "")] }
  | none, _ =>
    if cs.take 2 == ['-', '-'] then .error (.noSuchOption name (closest name s.longNames))
    else s.readLetters (cs.drop 1)

/-- The words of a command line sorted into options and arguments. -/
def read (s : Grammar) : List String → Except UsageProblem Words
  | [] => .ok {}
  | word :: words =>
    if word == "--" then .ok { arguments := words }
    else if isOption word then do
      let r ← s.readWord word
      match r.pending, words with
      | none, words =>
        let rest ← s.read words
        return { rest with given := r.complete ++ rest.given }
      | some (o, _), value :: words =>
        let rest ← s.read words
        return { rest with given := r.complete ++ (o, value) :: rest.given }
      | some (_, name), [] => throw (.valueMissing name)
    else if s.mixed then do
      let rest ← s.read words
      return { rest with arguments := word :: rest.arguments }
    else .ok { arguments := word :: words }

end Grammar

namespace Words

/-- The value of an option, the last one if it is given more than once. -/
def value? (w : Words) (name : String) : Option String :=
  (w.given.reverse.find? fun (o, _) => o.names.contains name).map Prod.snd

/-- An option is given. -/
def has (w : Words) (name : String) : Bool := (w.value? name).isSome

/-- The first option given that asks for help or for the version. -/
def query? (w : Words) : Option OptionRole :=
  (w.given.map fun (o, _) => o.role).find? fun role => role = .help || role = .version

/-- A text can be part of a path. -/
def checkText (text : String) : Except Refusal Unit :=
  if text.toList.contains (Char.ofNat 0) then .error (.failed (.file .nullInPath)) else .ok ()

/-- The options that are given have values, the argument is there, then the options that are
required, and no argument is left over. -/
def check (w : Words) (s : Grammar) : Except Refusal Unit := do
  for (o, _) in w.given do
    checkText ((o.names.head?.bind w.value?).getD "")
  if let some name := s.argument then
    match w.arguments with
    | [] => throw (.misused (.argumentMissing name))
    | argument :: _ => checkText argument
  if let some o := s.options.find? fun o => o.required && !w.given.any (·.1 = o) then
    throw (.misused (.optionMissing o.names))
  let taken := if s.argument.isSome then 1 else 0
  if taken < w.arguments.length then
    throw (.misused (.argumentsLeft (w.arguments.drop taken)))

end Words

end FactoryRegistry.CommandLine
