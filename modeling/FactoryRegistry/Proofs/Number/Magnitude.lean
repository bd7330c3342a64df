import Mathlib.Tactic.Ring
import Mathlib.Tactic.Linarith
import FactoryRegistry.Number.Binary64

/-!
# Finite doubles as integers

Every finite double is a whole multiple of `2 ^ -1074`. The multiple, with its sign, is
`Binary64.scaled`, and comparing doubles with each other and with integers is comparing these
multiples (`equals_iff_scaled`, `equalsInt_iff_scaled`). Only the two zeros share one.
-/

namespace FactoryRegistry.Number.Binary64

/-- The magnitude of a finite double in units of `2 ^ -1074`, from its two fields. -/
def magnitude (e f : Nat) : Nat := if e = 0 then f else (2 ^ 52 + f) * 2 ^ (e - 1)

/-- A finite double in units of `2 ^ -1074`. -/
def scaled (x : Binary64) : Int :=
  if x.isNegative then -(magnitude x.exponentField x.fractionField : Int)
  else magnitude x.exponentField x.fractionField

/-- The two fields are determined by the `magnitude`. -/
theorem magnitude_injective {e f e' f' : Nat} (hf : f < 2 ^ 52) (hf' : f' < 2 ^ 52)
    (h : magnitude e f = magnitude e' f') : e = e' ∧ f = f' := by
  -- a magnitude with a smaller exponent is smaller
  have hlt : ∀ {a b c d : Nat}, b < 2 ^ 52 → a < c → magnitude a b < magnitude c d := by
    intro a b c d hb hac
    obtain ⟨k, rfl⟩ : ∃ k, c = k + 1 := ⟨c - 1, by omega⟩
    have hpos : 0 < 2 ^ k := Nat.two_pow_pos k
    by_cases ha : a = 0
    · calc
        magnitude a b = b := by rw [magnitude, if_pos ha]
        _ < 2 ^ 52 + d := by omega
        _ ≤ (2 ^ 52 + d) * 2 ^ k := Nat.le_mul_of_pos_right _ hpos
        _ = magnitude (k + 1) d := by rw [magnitude, if_neg k.succ_ne_zero, Nat.add_sub_cancel]
    · calc
        magnitude a b = (2 ^ 52 + b) * 2 ^ (a - 1) := by rw [magnitude, if_neg ha]
        _ < 2 ^ 53 * 2 ^ (a - 1) := Nat.mul_lt_mul_of_pos_right (by omega) (Nat.two_pow_pos _)
        _ = 2 ^ 52 * 2 ^ (a - 1 + 1) := by ring
        _ ≤ 2 ^ 52 * 2 ^ k := Nat.mul_le_mul_left _ (Nat.pow_le_pow_right (by omega) (by omega))
        _ ≤ (2 ^ 52 + d) * 2 ^ k := Nat.mul_le_mul_right _ (by omega)
        _ = magnitude (k + 1) d := by rw [magnitude, if_neg k.succ_ne_zero, Nat.add_sub_cancel]
  have he : e = e' := by
    obtain hlt' | heq | hgt := Nat.lt_trichotomy e e'
    · exact absurd h (hlt hf hlt').ne
    · exact heq
    · exact absurd h (hlt hf' hgt).ne'
  subst he
  refine ⟨rfl, ?_⟩
  by_cases he : e = 0
  · simpa only [magnitude, he, if_true] using h
  · rw [magnitude, magnitude, if_neg he, if_neg he] at h
    exact Nat.add_left_cancel (Nat.eq_of_mul_eq_mul_right (Nat.two_pow_pos _) h)

variable (x y : Binary64)

theorem fractionField_lt : x.fractionField < 2 ^ 52 := Nat.mod_lt _ (by decide)

/-- A double is determined by its sign and its two fields. -/
theorem eq_of_fields {x y : Binary64} (hsign : x.isNegative = y.isNegative)
    (he : x.exponentField = y.exponentField) (hf : x.fractionField = y.fractionField) : x = y := by
  obtain ⟨a⟩ := x
  obtain ⟨b⟩ := y
  have ha := a.toNat_lt
  have hb := b.toNat_lt
  simp only [isNegative, exponentField, fractionField, Nat.pow_eq] at hsign he hf
  rw [Bool.eq_iff_iff, beq_iff_eq, beq_iff_eq] at hsign
  exact congrArg mk (UInt64.toNat_inj.1 (by omega))

/-- Finite doubles are `scaled` to one integer exactly when they are the same double or both
zero. -/
theorem scaled_eq_iff {x y : Binary64} : x.scaled = y.scaled ↔ x = y ∨
    x.exponentField = 0 ∧ x.fractionField = 0 ∧ y.exponentField = 0 ∧ y.fractionField = 0 := by
  have hx := x.fractionField_lt
  have hy := y.fractionField_lt
  have hzero : ∀ {e f : Nat}, f < 2 ^ 52 → magnitude e f = 0 → e = 0 ∧ f = 0 := fun hf h =>
    magnitude_injective hf (by decide : 0 < 2 ^ 52) h
  constructor
  · intro h
    -- whatever the signs are, the magnitudes agree
    have hmagnitude : magnitude x.exponentField x.fractionField =
        magnitude y.exponentField y.fractionField := by
      rw [scaled, scaled] at h
      split at h <;> split at h <;> omega
    obtain ⟨he, hf⟩ := magnitude_injective hx hy hmagnitude
    by_cases hsign : x.isNegative = y.isNegative
    · exact .inl (eq_of_fields hsign he hf)
    · -- a number and its negative agree only at zero
      have hnull : magnitude x.exponentField x.fractionField = 0 := by
        simp only [scaled, ← hmagnitude] at h
        cases hneg : x.isNegative <;> cases hneg' : y.isNegative <;> rw [hneg, hneg'] at hsign h
        · exact absurd rfl hsign
        · simp only [Bool.false_eq_true, if_false, if_true] at h
          omega
        · simp only [Bool.false_eq_true, if_false, if_true] at h
          omega
        · exact absurd rfl hsign
      obtain ⟨hxe, hxf⟩ := hzero hx hnull
      obtain ⟨hye, hyf⟩ := hzero hy (hmagnitude ▸ hnull)
      exact .inr ⟨hxe, hxf, hye, hyf⟩
  · rintro (rfl | ⟨hxe, hxf, hye, hyf⟩)
    · rfl
    · simp [scaled, magnitude, hxe, hxf, hye, hyf]

/-- The number one in the units of `scaled`. -/
def scaledOne : Int := 2 ^ 1074

theorem scaledOne_pos : 0 < scaledOne := pow_pos (by decide) 1074

/-- The significand with the sign of the number. -/
def signedSignificand (x : Binary64) : Int :=
  if x.isNegative then -(x.significand : Int) else x.significand

/-- The power of two that a significand stands before, in the units of `scaled`. -/
theorem scaled_eq : x.scaled = x.signedSignificand * 2 ^ (x.exponent + 1074).toNat := by
  have hmagnitude : (magnitude x.exponentField x.fractionField : Int) =
      x.significand * 2 ^ (x.exponent + 1074).toNat := by
    rw [magnitude, significand, exponent]
    by_cases he : x.exponentField = 0
    · simp [he]
    · have hexponent : ((x.exponentField : Int) - 1075 + 1074).toNat = x.exponentField - 1 := by
        omega
      simp [he, hexponent]
  rw [scaled, signedSignificand, hmagnitude]
  split
  · exact (neg_mul _ _).symm
  · rfl

/-- A double `equalsInt` an integer exactly when it is finite and that many times one. -/
theorem equalsInt_iff_scaled (n : Int) :
    x.equalsInt n = true ↔ x.exponentField ≠ 2047 ∧ x.scaled = n * scaledOne := by
  have hlow : -1074 ≤ x.exponent := by
    by_cases he : x.exponentField = 0
    · simp [exponent, he]
    · simp only [exponent, beq_iff_eq, he, if_false]
      omega
  by_cases hfinite : x.exponentField = 2047
  · simp [equalsInt, toRatio?, hfinite]
  -- a finite double is its significand times or divided by a power of two
  have hratio : x.toRatio? = if 0 ≤ x.exponent then
        some (x.signedSignificand * 2 ^ x.exponent.toNat, 1)
      else some (x.signedSignificand, 2 ^ (-x.exponent).toNat) := by
    rw [toRatio?, if_neg (by simpa using hfinite)]
    simp [signedSignificand]
  rw [equalsInt, hratio, scaled_eq]
  by_cases hexponent : 0 ≤ x.exponent
  · -- the double is a whole number already
    have hpower : (2 : Int) ^ (x.exponent + 1074).toNat = 2 ^ x.exponent.toNat * scaledOne := by
      rw [scaledOne, ← pow_add]
      congr 1
      omega
    simp only [hexponent, if_true, beq_iff_eq, hfinite, ne_eq, not_false_eq_true, true_and, hpower,
      ← mul_assoc, mul_left_inj' scaledOne_pos.ne', Nat.cast_one, mul_one]
  · -- the integer is brought to the scale of the double
    have hpower : scaledOne = 2 ^ (-x.exponent).toNat * (2 : Int) ^ (x.exponent + 1074).toNat := by
      rw [scaledOne, ← pow_add]
      congr 1
      omega
    have hpos : (0 : Int) < 2 ^ (x.exponent + 1074).toNat := pow_pos (by decide) _
    simp only [hexponent, if_false, beq_iff_eq, hfinite, ne_eq, not_false_eq_true, true_and, hpower,
      ← mul_assoc, mul_left_inj' hpos.ne', Nat.cast_pow, Nat.cast_ofNat]

/-- Two finite doubles compare as equal exactly when they are `scaled` to one integer. -/
theorem equals_iff_scaled {x y : Binary64} (hx : x.exponentField ≠ 2047)
    (hy : y.exponentField ≠ 2047) : x.equals y = true ↔ x.scaled = y.scaled := by
  rw [scaled_eq_iff]
  simp [equals, isNaN, hx, hy, and_assoc]

end FactoryRegistry.Number.Binary64
