import Mathlib.Data.List.TakeWhile
import FactoryRegistry.Number.Real
import FactoryRegistry.Proofs.Number.Decimal

/-!
# Integers written in plain digits

A text of an optional hyphen and digits of ASCII has no blanks to strip, no mark of a base and no
underscores. It is read as the number of its digits, or refused if there are too many of them
(`readInteger_signed`). The text of an integer is such a text (`toList_intText`), so an integer that
is short enough is read back from it (`readInteger_intText`).
-/

namespace FactoryRegistry.Number

open Text

/-! ## Digits -/

theorem exists_digitChar_of_isAsciiDigit {c : Char} (h : isAsciiDigit c = true) :
    ∃ d < 10, c = digitChar d := by
  simp only [isAsciiDigit, Bool.and_eq_true, decide_eq_true_eq] at h
  have hlow : 48 ≤ c.toNat := h.1
  have hhigh : c.toNat ≤ 57 := h.2
  refine ⟨c.toNat - 48, by omega, ?_⟩
  rw [digitChar, Nat.add_sub_cancel' hlow, Char.ofNat_toNat]

/-- What is true of the ten digits is true of every digit of ASCII. -/
theorem forall_isAsciiDigit {p : Char → Prop} (h : ∀ d < 10, p (digitChar d)) {c : Char}
    (hc : isAsciiDigit c = true) : p c := by
  obtain ⟨d, hd, rfl⟩ := exists_digitChar_of_isAsciiDigit hc
  exact h d hd

theorem isAsciiDigit_digitChar {d : Nat} (h : d < 10) : isAsciiDigit (digitChar d) = true := by
  revert d
  decide

/-- The digits of a number are digits of ASCII. -/
theorem isAsciiDigit_of_mem_decimal {n : Nat} {c : Char} (h : c ∈ decimal n) :
    isAsciiDigit c = true := by
  induction n using Nat.strongRecOn with
  | ind n ih =>
    rw [decimal] at h
    split at h
    next hn => exact List.mem_singleton.1 h ▸ isAsciiDigit_digitChar hn
    next hn =>
      rcases List.mem_append.1 h with h | h
      · exact ih (n / 10) (by omega) h
      · exact List.mem_singleton.1 h ▸ isAsciiDigit_digitChar (Nat.mod_lt n (by decide))

/-! ## Texts of digits -/

section Digits

variable {digits : List Char}

theorem separatesDigits_of_not_underscore (h : '_' ∉ digits) (hne : digits ≠ []) :
    separatesDigits digits = true := by
  fun_induction separatesDigits digits with
  | case1 => exact absurd rfl hne
  | case2 => simp at h
  | case3 => simp at h
  | case4 => rfl
  | case5 c cs _ _ hcs ih =>
    exact ih (List.not_mem_of_not_mem_cons h) hcs

/-- `readDigits` reads digits as the number that they stand for, if they are not too many. -/
theorem readDigits_of_digits (hdigits : ∀ c ∈ digits, isAsciiDigit c = true) (hne : digits ≠ []) :
    readDigits 10 digits =
      if maxDigits < digits.length then .error (.tooManyDigits digits.length)
      else .ok (digitsValue 10 0 digits) := by
  have hplain : '_' ∉ digits := fun h => absurd (hdigits _ h) (by decide)
  have hdigit : ∀ c ∈ digits, (c == '_' || (digit? 10 c).isSome) = true := by
    intro c hc
    obtain ⟨d, hd, rfl⟩ := exists_digitChar_of_isAsciiDigit (hdigits c hc)
    simp [digit?_digitChar hd]
  -- so the digits are one group, and nothing is left behind them
  have htake : digits.takeWhile (fun c => c == '_' || (digit? 10 c).isSome) = digits :=
    List.takeWhile_eq_self_iff.2 hdigit
  have hdrop : digits.dropWhile (fun c => c == '_' || (digit? 10 c).isSome) = [] :=
    List.dropWhile_eq_nil_iff.2 hdigit
  have hcount : digits.countP (· != '_') = digits.length := by
    rw [List.countP_eq_length]
    intro c hc
    simpa using fun h : c = '_' => hplain (h ▸ hc)
  have hgroup : isDigitGroup digits = true := by
    have hhead : digits.head? ≠ some '_' := fun h => hplain (List.mem_of_mem_head? h)
    simp [isDigitGroup, hhead, separatesDigits_of_not_underscore hplain hne]
  simp [readDigits, htake, hdrop, hcount, hgroup]

end Digits

/-! ## Signs -/

/-- Digits with a hyphen before them, if the number is negative. -/
def signed (negative : Bool) (digits : List Char) : List Char :=
  if negative then '-' :: digits else digits

/-- The `intText` of an integer is the digits of its absolute value, with a hyphen if it is
negative. -/
theorem toList_intText (n : Int) : (intText n).toList = signed (n < 0) (decimal n.natAbs) := by
  cases n <;> simp [intText, natText, signed]

/-- What is true of the ten digits and of a hyphen is true of every character of `signed` digits. -/
theorem forall_mem_signed {p : Char → Prop} (hdigit : ∀ d < 10, p (digitChar d)) (hminus : p '-')
    {digits : List Char} (hdigits : ∀ c ∈ digits, isAsciiDigit c = true) (negative : Bool) :
    ∀ c ∈ signed negative digits, p c := by
  have hall : ∀ c ∈ digits, p c := fun c hc => forall_isAsciiDigit hdigit (hdigits c hc)
  cases negative with
  | false => exact hall
  | true => exact List.forall_mem_cons.2 ⟨hminus, hall⟩

theorem forall_mem_intText {p : Char → Prop} (hdigit : ∀ d < 10, p (digitChar d)) (hminus : p '-')
    (n : Int) : ∀ c ∈ (intText n).toList, p c := by
  rw [toList_intText]
  exact forall_mem_signed hdigit hminus (fun _ => isAsciiDigit_of_mem_decimal) _

theorem splitSign_signed {digits : List Char} (hdigits : ∀ c ∈ digits, isAsciiDigit c = true)
    (negative : Bool) : splitSign (signed negative digits) = (negative, digits) := by
  cases negative with
  | true => rfl
  | false =>
    rw [signed, if_neg Bool.false_ne_true, splitSign.eq_def]
    split
    · exact absurd (hdigits '-' (by simp)) (by decide)
    · exact absurd (hdigits '+' (by simp)) (by decide)
    · rfl

/-- In base ten there is no mark before the digits. -/
theorem dropBaseMark_ten (cs : List Char) : dropBaseMark 10 cs = cs := by
  rw [dropBaseMark.eq_def]
  split <;> rfl

/-- `readInteger` reads `signed` digits as their number, or refuses them if they are too many. -/
theorem readInteger_signed {digits : List Char} (hdigits : ∀ c ∈ digits, isAsciiDigit c = true)
    (hne : digits ≠ []) (negative : Bool) :
    readInteger 10 (signed negative digits) =
      if maxDigits < digits.length then .error (.tooManyDigits digits.length)
      else
        .ok (if negative then -(digitsValue 10 0 digits : Int) else digitsValue 10 0 digits) := by
  have hblank : ∀ c ∈ signed negative digits, isNumberBlank c = false :=
    forall_mem_signed (p := (isNumberBlank · = false)) (by decide) (by decide) hdigits negative
  rw [readInteger, stripWhere_eq_self hblank, splitSign_signed hdigits negative]
  dsimp only
  rw [dropBaseMark_ten, readDigits_of_digits hdigits hne]
  by_cases hlong : maxDigits < digits.length
  · rw [if_pos hlong, if_pos hlong]
    rfl
  · rw [if_neg hlong, if_neg hlong]
    cases negative <;> rfl

/-- `readInteger` reads an integer that is not too long back from its `intText`. -/
theorem readInteger_intText {n : Int} (h : (decimal n.natAbs).length ≤ maxDigits) :
    readInteger 10 (intText n).toList = .ok n := by
  have hvalue : (if decide (n < 0) = true then -(n.natAbs : Int) else n.natAbs) = n := by
    simp only [decide_eq_true_eq]
    split <;> omega
  rw [toList_intText, readInteger_signed (fun _ => isAsciiDigit_of_mem_decimal) (decimal_ne_nil _),
    if_neg (Nat.not_lt.2 h), digitsValue_decimal, hvalue]

/-- Integers that are not too long have different texts. -/
theorem intText_eq_iff {m n : Int} (hm : (decimal m.natAbs).length ≤ maxDigits)
    (hn : (decimal n.natAbs).length ≤ maxDigits) : intText m = intText n ↔ m = n := by
  refine ⟨fun h => ?_, fun h => h ▸ rfl⟩
  have hread := readInteger_intText hm
  rw [h, readInteger_intText hn] at hread
  exact (Except.ok.inj hread).symm

end FactoryRegistry.Number
