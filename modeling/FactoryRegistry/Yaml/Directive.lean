import FactoryRegistry.Number.Decimal
import FactoryRegistry.Yaml.Scalar.Block
import FactoryRegistry.Yaml.Tag

/-!
# Directives

A directive stands on a line of its own that begins with a percent sign. Two directives mean
something: one states the version of the format, the other what a tag handle stands for.
-/

namespace FactoryRegistry.Yaml

open Number

/-- A number of a version, and the text after it. -/
def readVersionNumber (cs : List Char) : Except Error (Int × List Char) :=
  let digits := cs.takeWhile isDigit
  match readInteger 10 digits with
  | .ok n => .ok (n, cs.drop digits.length)
  | .error (.tooManyDigits count) => .error (.unusable (.longInteger count))
  | .error .malformed => .error .malformed

/-- A version, two numbers with a point between them, and the text after it. -/
def readVersion (cs : List Char) : Except Error (Directive × List Char) := do
  let (major, cs) ← readVersionNumber (cs.dropWhile (· == ' '))
  match cs with
  | '.' :: cs =>
    let (_, rest) ← readVersionNumber cs
    if endsItem rest.head? then return (.version major, rest) else throw .malformed
  | _ => throw .malformed

/-- A handle with what it stands for, and the text after it. -/
def readTagMeaning (cs : List Char) : Except Error (Directive × List Char) := do
  let (handle, cs) ← readHandle (cs.dropWhile (· == ' '))
  if cs.head? != some ' ' then throw .malformed
  let (meaning, rest) ← readTagText (cs.dropWhile (· == ' '))
  if endsItem rest.head? then return (.tag handle meaning, rest) else throw .malformed

/-- A directive whose percent sign is passed, and the text after its line. -/
def readDirective (cs : List Char) : Except Error (Directive × List Char) := do
  let name := cs.takeWhile isNameChar
  let rest := cs.dropWhile isNameChar
  if name.isEmpty || !endsItem rest.head? then throw .malformed
  let (directive, rest) ←
    if name == "YAML".toList then readVersion rest
    else if name == "TAG".toList then readTagMeaning rest
    else pure (.other, rest.dropWhile (!isBreak ·))
  return (directive, ← passRestOfLine rest)

end FactoryRegistry.Yaml
