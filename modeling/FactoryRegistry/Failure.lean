import FactoryRegistry.Calendar
import FactoryRegistry.Fault
import FactoryRegistry.Number.Shortest

/-!
# Failures

Every way in which an operation of the library ends without a result. A `Fault` is one of them; the
others are causes that no fault reports: a name outside an enumeration, a number or a date that a
value cannot hold, a file that cannot be used, or a failure of the caller's own making. Each cause
keeps its data, and `Failure.message?` gives the wording of those that have one.
-/

namespace FactoryRegistry

open Number Text

/-- What is wrong with the use of a file. -/
inductive FileProblem where
  /-- There is no such file. -/
  | missing
  /-- A file stands where a directory is needed on the way. -/
  | notDirectory
  /-- A directory stands where a file is needed. -/
  | isDirectory
  /-- A file stands where a directory is to be made. -/
  | exists
  /-- The content is not UTF-8. -/
  | badEncoding
  /-- The path contains a null character. -/
  | nullInPath
  /-- The path contains a name with too many bytes. -/
  | nameTooLong
  deriving DecidableEq, Repr

/-- Why an operation has no result. -/
inductive Failure where
  /-- The operation reports a fault. -/
  | fault (f : Fault)
  /-- The caller's own part of the operation failed. -/
  | aborted (message : String)
  /-- A name that an enumeration does not have. -/
  | unknownName (enumeration name : String)
  /-- A fault of a family without an area was made without stating one. -/
  | missingArea (family : Family)
  /-- A key that a mapping does not have. -/
  | missingKey (key : String)
  /-- A keyword that a record does not have. -/
  | unknownField
  /-- A text that is no integer of a base. -/
  | badInteger (base : Nat) (shown : String)
  /-- An integer with this many digits. -/
  | longInteger (digits : Nat)
  /-- An integer with too many digits to be written. -/
  | unwritableInteger
  /-- A text that is no real number. -/
  | badReal (shown : String)
  /-- An empty text in place of a number. -/
  | emptyNumber
  /-- A number too large for a real number. -/
  | hugeReal
  /-- A text that is no time stamp. -/
  | badTimestamp
  /-- A collection in place of a text. -/
  | notText
  /-- A part of a date or time out of its range. -/
  | outOfCalendar (part : CalendarPart)
  /-- A number beyond the last code point. -/
  | hugeCodePoint (n : Nat)
  /-- Keys of a mapping that have no common order. -/
  | unorderedKeys
  /-- A mapping that grew while its entries were read. -/
  | mappingChanged
  /-- A step that leads into itself without end. -/
  | endless
  /-- A section read into something that is no record. -/
  | notRecord (name : String)
  /-- A file that cannot be used. -/
  | file (problem : FileProblem)

namespace Failure

/-- The wording of a failure, for the causes that have one. -/
def message? : Failure → Option String
  | fault f => some f.report
  | aborted message => some message
  | unknownName enumeration name => some s!"{quoted name} is not a valid {enumeration}"
  | missingArea family => some s!"{family.name} needs a fault domain"
  | missingKey key => some (quoted key)
  | badInteger base shown =>
    some (s!"invalid literal for int() with base {natText base}: " ++
      String.ofList ((quoted shown).toList.take 200))
  | longInteger digits =>
    some (s!"Exceeds the limit ({natText maxDigits} digits) for integer string conversion: " ++
      s!"value has {natText digits} digits; " ++
      "use sys.set_int_max_str_digits() to increase the limit")
  | unwritableInteger =>
    some (s!"Exceeds the limit ({natText maxDigits} digits) for integer string conversion; " ++
      "use sys.set_int_max_str_digits() to increase the limit")
  | badReal shown => some s!"could not convert string to float: {quoted shown}"
  | outOfCalendar part => some part.message
  | hugeCodePoint n => if n < 0x80000000 then some "chr() arg not in range(0x110000)" else none
  | mappingChanged => some "dictionary changed size during iteration"
  | notRecord name => some s!"{name} is not a dataclass"
  | file .nullInPath => some "embedded null byte"
  | _ => none

end Failure

end FactoryRegistry
