import Mathlib.Data.List.Basic
import FactoryRegistry.Json.Printer
import FactoryRegistry.Json.Reader

/-!
# Escapes read back

Every character of a string is read back from its escape, whatever follows
(`readText_escapeChar`), and so is the whole string up to its closing mark (`readText_escaped`).

There are four kinds of escapes: none at all, a letter after a reverse solidus, one code unit, and
two code units for a character beyond the first plane. A code unit that stands alone could be
mistaken for the first half of a pair, so the reader looks at what comes next; characters are no
halves of pairs, which is why it never finds one where a single unit was written.
-/

namespace FactoryRegistry.Json

open Text

/-! ## Code units -/

/-- `alphanumericDigit?` reads a hexadecimal digit as itself. -/
theorem alphanumericDigit?_hexDigit {n : Nat} (h : n < 16) :
    alphanumericDigit? (hexDigit n) = some n := by
  revert n
  decide

/-- `codeUnit?` reads the four hexadecimal digits of a code unit as that unit. -/
theorem codeUnit?_hexDigit {n : Nat} (h : n < 0x10000) :
    codeUnit? (hexDigit (n / 16 / 16 / 16 % 16)) (hexDigit (n / 16 / 16 % 16))
      (hexDigit (n / 16 % 16)) (hexDigit (n % 16)) = some n := by
  have hdigit : ∀ m : Nat, alphanumericDigit? (hexDigit (m % 16)) = some (m % 16) :=
    fun m => alphanumericDigit?_hexDigit (Nat.mod_lt m (by decide))
  have hsmall : ∀ m : Nat, m % 16 < 16 := fun m => Nat.mod_lt m (by decide)
  simp only [codeUnit?, List.mapM_cons, List.mapM_nil, hdigit, Option.filter_some, hsmall,
    decide_true, if_true, Option.bind_eq_bind, Option.bind_some, Option.pure_def, List.foldl_cons,
    List.foldl_nil, Option.some.injEq]
  omega

section Reading

variable (start i : Nat) {cs : List Char}

/-- `readText` reads a character that needs no escape as itself. -/
theorem readText_plain {c : Char} (hc : 0x20 ≤ c.toNat) (hquote : c ≠ '"') (hsolidus : c ≠ '\\') :
    readText start i (c :: cs) =
      (readText start (i + 1) cs).map fun (s, rest) => (c :: s, rest) := by
  rw [readText.eq_7 _ _ _ _ hquote (fun h => absurd h hsolidus)
    (fun _ _ _ _ _ _ h => absurd h hsolidus)
    (fun _ h => absurd h hsolidus) (fun _ _ h => absurd h hsolidus), if_neg (by omega)]

/-- `readText` reads a letter after a reverse solidus as the character that it stands for. -/
theorem readText_letter {c x : Char} (hc : c ≠ 'u') (hx : escapedChar? c = some x) :
    readText start i ('\\' :: c :: cs) =
      (readText start (i + 2) cs).map fun (s, rest) => (x :: s, rest) := by
  rw [readText.eq_6 _ _ _ _ (fun _ _ _ _ _ _ h => absurd h hc) hc, hx]

/-- `readText` reads a code unit that begins no pair as the character of that unit. -/
theorem readText_unit {n : Nat} (hn : n < 0x10000) (hhigh : isHighUnit n = false) (hcs : cs ≠ []) :
    readText start i (escapeUnit n ++ cs) =
      (readText start (i + 6) cs).map fun (s, rest) => (unitChar n :: s, rest) := by
  obtain ⟨e, cs, rfl⟩ := List.exists_cons_of_ne_nil hcs
  change readText start i ('\\' :: 'u' :: _ :: _ :: _ :: _ :: e :: cs) = _
  rw [readText, codeUnit?_hexDigit hn]
  simp only [hhigh, Bool.false_eq_true, if_false]

/-- `readText` reads two code units that form a pair as the character of that pair. -/
theorem readText_pair {high low : Nat} (hhigh : high < 0x10000) (hlow : low < 0x10000)
    (hhigh' : isHighUnit high = true) (hlow' : isLowUnit low = true) (hcs : cs ≠ []) :
    readText start i (escapeUnit high ++ (escapeUnit low ++ cs)) =
      (readText start (i + 12) cs).map fun (s, rest) => (pairChar high low :: s, rest) := by
  obtain ⟨e, cs, rfl⟩ := List.exists_cons_of_ne_nil hcs
  change readText start i
    ('\\' :: 'u' :: _ :: _ :: _ :: _ :: '\\' :: 'u' :: _ :: _ :: _ :: _ :: e :: cs) = _
  rw [readText, codeUnit?_hexDigit hhigh]
  simp only [hhigh', if_true, codeUnit?_hexDigit hlow, hlow']

/-! ## Characters -/

/-- The code point of a character is no half of a pair. -/
theorem not_surrogate (c : Char) : c.toNat < 0xd800 ∨ 0xdfff < c.toNat ∧ c.toNat < 0x110000 :=
  c.valid

/-- `readText` reads every character back from its `escapeChar`. -/
theorem readText_escapeChar (c : Char) (hcs : cs ≠ []) :
    readText start i (escapeChar c ++ cs) =
      (readText start (i + (escapeChar c).length) cs).map fun (s, rest) => (c :: s, rest) := by
  have hvalid := not_surrogate c
  have hofNat : ∀ n, c.toNat = n → Char.ofNat n = c := fun n h => h ▸ Char.ofNat_toNat c
  rw [escapeChar]
  -- the cases in the order in which `escapeChar` tries them
  split_ifs with hmark hnewline hreturn htab hback hfeed hplain hunit
  · have hletter : escapedChar? c = some c := by
      simp only [Bool.or_eq_true, beq_iff_eq] at hmark
      obtain rfl | rfl := hmark <;> decide
    refine readText_letter start i (fun h => ?_) hletter
    subst h
    exact absurd hmark (by decide)
  · obtain rfl := beq_iff_eq.1 hnewline
    exact readText_letter start i (by decide) (by decide)
  · obtain rfl := beq_iff_eq.1 hreturn
    exact readText_letter start i (by decide) (by decide)
  · obtain rfl := beq_iff_eq.1 htab
    exact readText_letter start i (by decide) (by decide)
  · obtain rfl := hofNat 8 (beq_iff_eq.1 hback)
    exact readText_letter start i (by decide) (by decide)
  · obtain rfl := hofNat 12 (beq_iff_eq.1 hfeed)
    exact readText_letter start i (by decide) (by decide)
  · -- a printable character stands for itself
    simp only [Bool.and_eq_true, decide_eq_true_eq] at hplain
    simp only [Bool.or_eq_true, beq_iff_eq, not_or] at hmark
    exact readText_plain start i hplain.1 hmark.1 hmark.2
  · -- a single unit is a character itself and no half of a pair
    have hhigh : isHighUnit c.toNat = false := by
      simp only [isHighUnit, Bool.and_eq_false_iff, decide_eq_false_iff_not]
      omega
    have hlow : isLowUnit c.toNat = false := by
      simp only [isLowUnit, Bool.and_eq_false_iff, decide_eq_false_iff_not]
      omega
    rw [readText_unit start i hunit hhigh hcs, unitChar, hhigh, hlow]
    simp only [Bool.or_self, Bool.false_eq_true, if_false, Char.ofNat_toNat]
    rfl
  · -- the two units hold the upper and the lower ten bits of what is left of the code point
    have hhigh : isHighUnit (0xd800 + (c.toNat - 0x10000) / 0x400) = true := by
      simp only [isHighUnit, Bool.and_eq_true, decide_eq_true_eq]
      omega
    have hlow : isLowUnit (0xdc00 + (c.toNat - 0x10000) % 0x400) = true := by
      simp only [isLowUnit, Bool.and_eq_true, decide_eq_true_eq]
      omega
    have hpair : pairChar (0xd800 + (c.toNat - 0x10000) / 0x400)
        (0xdc00 + (c.toNat - 0x10000) % 0x400) = c := hofNat _ (by omega)
    rw [List.append_assoc, readText_pair start i (by omega) (by omega) hhigh hlow hcs, hpair]
    rfl

/-- `readText` reads a string back from its escapes, up to and with the closing mark. The induction
is on the string. -/
theorem readText_escaped (s rest : List Char) :
    readText start i (s.flatMap escapeChar ++ '"' :: rest) =
      .ok (s, i + (s.flatMap escapeChar).length + 1, rest) := by
  induction s generalizing i with
  | nil => rw [List.flatMap_nil, List.nil_append, readText, List.length_nil, Nat.add_zero]
  | cons c s ih =>
    rw [List.flatMap_cons, List.append_assoc,
      readText_escapeChar start i c (List.append_ne_nil_of_right_ne_nil _ (List.cons_ne_nil _ _)),
      ih, List.length_append, Nat.add_assoc i]
    rfl

end Reading

end FactoryRegistry.Json
