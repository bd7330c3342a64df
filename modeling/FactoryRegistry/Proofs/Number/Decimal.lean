import Mathlib.Logic.Function.Basic
import FactoryRegistry.Number.Decimal
import FactoryRegistry.Proofs.Except

/-!
# Decimal texts read back

The decimal digits of a natural number determine it: reading them gives the number back.

* `digitsValue_decimal`: the value of the digits that `decimal` writes;
* `natText_injective`: different numbers have different texts, none of which is empty
  (`natText_ne_empty`);
* `accounted_readInteger`: a number that is refused for its digits has too many.
-/

namespace FactoryRegistry.Number

/-- `digit?` reads a digit below ten as itself. -/
theorem digit?_digitChar {d : Nat} (h : d < 10) : digit? 10 (digitChar d) = some d := by
  revert d
  decide

/-- `digitsValue` of one more digit continues the number. -/
theorem digitsValue_singleton (n : Nat) {d : Nat} (h : d < 10) :
    digitsValue 10 n [digitChar d] = n * 10 + d := by
  simp [digitsValue, digit?_digitChar h]

/-- `digitsValue` of the digits of a number is the number. -/
theorem digitsValue_decimal (n : Nat) : digitsValue 10 0 (decimal n) = n := by
  induction n using Nat.strongRecOn with
  | ind n ih =>
    have hlast : n % 10 < 10 := Nat.mod_lt n (by decide)
    rw [decimal]
    split
    next hn => rw [digitsValue_singleton 0 hn]; omega
    next hn =>
      rw [digitsValue_append, ih (n / 10) (by omega), digitsValue_singleton (n / 10) hlast]
      omega

/-- A number has at least one digit. -/
theorem decimal_ne_nil (n : Nat) : decimal n ≠ [] := by
  rw [decimal]
  split <;> simp

/-- Different numbers have different texts. -/
theorem natText_injective : Function.Injective natText := by
  intro m n h
  have hdigits : decimal m = decimal n := String.ofList_injective h
  rw [← digitsValue_decimal m, hdigits, digitsValue_decimal n]

/-- The text of a number is not empty. -/
theorem natText_ne_empty (n : Nat) : natText n ≠ "" := by
  intro h
  exact decimal_ne_nil n (by simpa [natText] using h)

/-- A number is refused for its digits only if it has more than may be read. -/
def IntegerError.Accounted : IntegerError → Prop
  | malformed => True
  | tooManyDigits count => maxDigits < count

theorem accounted_readDigits (base : Nat) (cs : List Char) :
    FailsOnly IntegerError.Accounted (readDigits base cs) := by
  unfold readDigits
  extract_lets isDigit digits count
  split
  · exact .error trivial
  · split
    next h =>
      have hcount : maxDigits < count := of_decide_eq_true (Bool.and_eq_true_iff.1 h).2
      exact .error hcount
    · split
      · exact .ok
      · exact .error trivial

theorem accounted_readInteger (base : Nat) (cs : List Char) :
    FailsOnly IntegerError.Accounted (readInteger base cs) := by
  unfold readInteger
  exact ((accounted_readDigits _ _).bind fun _ => .pure).map

end FactoryRegistry.Number
