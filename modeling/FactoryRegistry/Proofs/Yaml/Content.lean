import FactoryRegistry.Proofs.Except
import FactoryRegistry.Proofs.Number.Decimal
import FactoryRegistry.Yaml.Content

/-!
# Scalars without a value

A scalar that its tag does not fit has no value. `Failure.Unmakeable` lists the causes that no fault
reports; every other misfit is an error of the format (`accounted_scalarValue`).
-/

namespace FactoryRegistry

open Number

/-- The causes, other than faults, for which a value of a document cannot be made. -/
inductive Failure.Unmakeable : Failure → Prop where
  /-- A word that is no truth value. -/
  | truth {word : String} (h : word ∉ ["yes", "true", "on", "no", "false", "off"]) :
      Unmakeable (.missingKey word)
  /-- A text that is no integer of a base. -/
  | integer {base : Nat} {cs : List Char} (h : readInteger base cs = .error .malformed) :
      Unmakeable (.badInteger base (String.ofList cs))
  /-- An integer with more digits than may be read. -/
  | digits {count : Nat} (h : maxDigits < count) : Unmakeable (.longInteger count)
  /-- A text that is no real number. -/
  | real {cs : List Char} (h : readReal? cs = none) : Unmakeable (.badReal (String.ofList cs))
  /-- No text where a number is to be. -/
  | empty : Unmakeable .emptyNumber
  /-- More sexagesimal digits than a real number can count. -/
  | scale : Unmakeable .hugeReal
  /-- A text that is no time stamp. -/
  | timestamp : Unmakeable .badTimestamp
  /-- A mapping where a time stamp is to be. -/
  | mapping : Unmakeable .notText
  /-- A time stamp that is no date or no time of day. -/
  | calendar (part : CalendarPart) : Unmakeable (.outOfCalendar part)
  /-- A mapping that stands for a text, and whose text is that of a mapping around it. -/
  | endless : Unmakeable .endless
  /-- An escaped code point beyond the last one. -/
  | codePoint {n : Nat} (h : 0x10ffff < n) : Unmakeable (.hugeCodePoint n)

/-- What is `Unmakeable` is no fault. -/
theorem Failure.Unmakeable.ne_fault {cause : Failure} (h : cause.Unmakeable) (fault : Fault) :
    cause ≠ .fault fault := by
  rintro rfl
  cases h

namespace Yaml

/-- An error is a broken rule of the format, or a value that cannot be made. -/
def Error.Accounted : Error → Prop
  | .malformed => True
  | .unusable cause => cause.Unmakeable

variable {cs : List Char} {text : String}

theorem accounted_malformed {α : Type} :
    FailsOnly Error.Accounted (.error .malformed : Except Error α) := .error trivial

theorem accounted_throw {α : Type} :
    FailsOnly Error.Accounted (throw .malformed : Except Error α) := .throw trivial

theorem accounted_unusable {α : Type} {cause : Failure} (h : cause.Unmakeable) :
    FailsOnly Error.Accounted (unusable cause : Except Error α) := .error h

/-- `truthOf` fails on a word that is no truth value. -/
theorem accounted_truthOf : FailsOnly Error.Accounted (truthOf text) := by
  unfold truthOf
  extract_lets word
  split
  · exact .ok
  next hyes =>
    split
    · exact .ok
    next hno =>
      have hword : word ∉ ["yes", "true", "on"] ++ ["no", "false", "off"] := fun h =>
        (List.mem_append.1 h).elim (fun h => hyes (List.contains_iff_mem.2 h))
          fun h => hno (List.contains_iff_mem.2 h)
      exact accounted_unusable (.truth hword)

/-- `integerIn` fails on what `readInteger` does not read, or on too many digits. -/
theorem accounted_integerIn {base : Nat} : FailsOnly Error.Accounted (integerIn base cs) := by
  rw [integerIn]
  split
  · exact .ok
  next h => exact accounted_unusable (.integer h)
  next h => exact accounted_unusable (.digits (accounted_readInteger base cs _ h))

/-- `unsignedInteger` fails on a text without digits, or on one of the integers between colons. -/
theorem accounted_unsignedInteger : FailsOnly Error.Accounted (unsignedInteger cs) := by
  unfold unsignedInteger
  split
  · exact accounted_unusable .empty
  · exact .ok
  · exact accounted_integerIn
  · exact accounted_integerIn
  · exact accounted_integerIn
  · split
    · exact (FailsOnly.mapM (fun _ => accounted_integerIn) _).map
    · exact accounted_integerIn

theorem accounted_integerOf : FailsOnly Error.Accounted (integerOf text) := by
  unfold integerOf
  extract_lets cs
  split
  · exact accounted_unusable .empty
  · exact accounted_unsignedInteger.map

theorem accounted_realIn : FailsOnly Error.Accounted (realIn cs) := by
  rw [realIn]
  split
  · exact .ok
  next h => exact accounted_unusable (.real h)

/-- `sexagesimalSum` fails where a power of sixty is no finite double. The induction is on the
digits. -/
theorem accounted_sexagesimalSum (scale : Nat) (sum : Binary64) (digits : List Binary64) :
    FailsOnly Error.Accounted (sexagesimalSum scale sum digits) := by
  induction digits generalizing scale sum with
  | nil => exact .ok
  | cons d digits ih =>
    unfold sexagesimalSum
    extract_lets factor
    split
    · exact accounted_unusable .scale
    · exact ih _ _

theorem accounted_unsignedReal : FailsOnly Error.Accounted (unsignedReal cs) := by
  unfold unsignedReal
  extract_lets word
  split
  · exact .pure
  · split
    · exact (FailsOnly.mapM (fun _ => accounted_realIn) _).bind fun _ =>
        accounted_sexagesimalSum _ _ _
    · exact accounted_realIn

theorem accounted_realOf : FailsOnly Error.Accounted (realOf text) := by
  unfold realOf
  extract_lets word
  split
  · exact accounted_unusable .empty
  · obtain ⟨negative, unsigned⟩ := splitSign word.toList
    dsimp only
    split
    · exact .ok
    · exact accounted_unsignedReal.map

theorem accounted_calendar {α : Type} (r : Except CalendarPart α) :
    FailsOnly Error.Accounted (calendar r) := by
  cases r with
  | ok x => exact .ok
  | error part => exact accounted_unusable (.calendar part)

/-- `timestampOf` fails on a text that is no time stamp, or out of the calendar. -/
theorem accounted_timestampOf : FailsOnly Error.Accounted (timestampOf text) := by
  unfold timestampOf
  extract_lets cs
  split
  · exact accounted_unusable .timestamp
  · exact (accounted_calendar _).map
  · exact (accounted_calendar _).map

/-- `bytesOf` fails on a text that is not in base 64. -/
theorem accounted_bytesOf : FailsOnly Error.Accounted (bytesOf text) := by
  rw [bytesOf]
  split
  · split
    · exact .ok
    · exact accounted_malformed
  · exact accounted_malformed

/-- `scalarValue` fails where the tag is none for a scalar, or the text none for its tag. -/
theorem accounted_scalarValue (tag : Tag) (text : String) :
    FailsOnly Error.Accounted (scalarValue tag text) := by
  unfold scalarValue
  cases tag with
  | null | text => exact .ok
  | bool => exact accounted_truthOf.map
  | int => exact accounted_integerOf.map
  | real => exact accounted_realOf.map
  | bytes => exact accounted_bytesOf.map
  | timestamp => exact accounted_timestampOf
  | _ => exact accounted_malformed

end Yaml

end FactoryRegistry
