import FactoryRegistry.Text.Blank
import FactoryRegistry.Text.Lines

/-!
# Settings files

A settings file has one `key=value` pair on a line. Blank lines, lines that begin with `#` and lines
without `=` are passed over. The first `=` separates key from value; blanks around either are
dropped, and then all quotation marks at both ends of the value.
-/

namespace FactoryRegistry.Config

open Text

/-- A quotation mark around a value. -/
def isValueQuote (c : Char) : Bool := c == '\'' || c == '"'

/-- The value of a setting, as it stands after the `=`. -/
def settingValue (cs : List Char) : List Char :=
  stripWhere isValueQuote (stripWhere isBlank cs)

/-- The pair that a line holds, if it holds one. -/
def readSetting? (line : List Char) : Option (String × String) :=
  let line := stripWhere isBlank line
  if line.isEmpty || line.head? == some '#' || !line.contains '=' then none
  else
    let key := line.takeWhile (· != '=')
    let value := line.drop (key.length + 1)
    some (String.ofList (stripWhere isBlank key), String.ofList (settingValue value))

/-- The pairs of a settings file, in order. -/
def readSettings (text : String) : List (String × String) :=
  (splitLines (unifyNewlines text.toList)).filterMap readSetting?

end FactoryRegistry.Config
