import FactoryRegistry.Proofs.Number.Decimal
import FactoryRegistry.Value.Display

/-!
# Values that have a text

A value that is not empty has a plain text that is not empty either (`Value.plain_ne_empty`): only
an empty text would read as nothing.
-/

namespace FactoryRegistry

open Number

/-- A text in which a character stands is not empty. -/
theorem ne_empty_of_mem {s : String} {c : Char} (h : c ∈ s.toList) : s ≠ "" := by
  rintro rfl
  simp at h

theorem intText_ne_empty (n : Int) : intText n ≠ "" := by
  cases n with
  | ofNat n => exact natText_ne_empty n
  | negSucc n => exact ne_empty_of_mem (c := '-') (by simp [intText])

namespace Number

theorem point_mem_positional (digits : List Char) (place : Int) :
    '.' ∈ positional digits place := by
  rw [positional]
  split <;> simp

theorem mark_mem_scientific (width : Nat) (digits : List Char) (place : Int) :
    'e' ∈ scientific width digits place := by
  simp [scientific]

theorem Binary64.text_ne_empty (x : Binary64) : x.text ≠ "" := by
  rw [Binary64.text, RealFormat.text]
  split
  · decide
  · -- whatever the sign is, something follows it
    have hpositional := point_mem_positional (shortestDigits x).1 (shortestDigits x).2
    have hscientific := mark_mem_scientific plainReal.exponentWidth (shortestDigits x).1
      (shortestDigits x).2
    intro h
    have hbody := (List.append_eq_nil_iff.1 (String.ofList_eq_empty_iff.1 h)).2
    split at hbody
    · revert hbody; decide
    · split at hbody
      · cases hbody
      · simp only at hbody
        split at hbody
        · rw [hbody] at hpositional
          cases hpositional
        · rw [hbody] at hscientific
          cases hscientific

end Number

theorem Date.text_ne_empty (d : Date) : d.text ≠ "" :=
  ne_empty_of_mem (c := '-') (by simp [Date.text, toString])

theorem Moment.text_ne_empty (m : Moment) : m.text ≠ "" :=
  ne_empty_of_mem (c := ' ') (by simp [Moment.text, Moment.textWith, toString])

namespace Value

theorem bracketed_ne_empty {opening : String} (hopening : opening ≠ "") (closing : String)
    (parts : List String) : bracketed opening closing parts ≠ "" := by
  simp [bracketed, hopening]

/-- A collection has brackets around it, also where it is cut short. -/
theorem shown_ne_empty {v : Value} (h : ∀ s, v ≠ .scalar s) (around : List Nat) :
    v.shown around ≠ "" := by
  cases v with
  | scalar s => exact absurd rfl (h s)
  | list label items =>
    rw [shown]
    split
    · decide
    · exact bracketed_ne_empty (by decide) _ _
  | map label entries =>
    rw [shown]
    split
    · decide
    · exact bracketed_ne_empty (by decide) _ _
  | set members =>
    cases members with
    | nil => rw [shown]; decide
    | cons s members =>
      rw [shown]
      · exact bracketed_ne_empty (by decide) _ _
      · exact List.cons_ne_nil s members
  | pair first second => rw [shown]; exact bracketed_ne_empty (by decide) _ _
  | loop container label => cases container <;> rw [shown] <;> decide

/-- The `plain` text of a value that `isTruthy` is not empty. -/
theorem plain_ne_empty {v : Value} (h : v.isTruthy = true) : v.plain ≠ "" := by
  cases v with
  | scalar s =>
    cases s with
    | null => cases h
    | bool b => cases b <;> decide
    | int n => exact intText_ne_empty n
    | real x => exact x.text_ne_empty
    | text s => simpa [isTruthy, plain, Scalar.plain] using h
    | bytes bs =>
      refine ne_empty_of_mem (c := 'b') ?_
      simp [plain, Scalar.plain, Scalar.shown, Text.quotedBytes]
    | date d => exact d.text_ne_empty
    | moment m => exact m.text_ne_empty
  | _ => exact shown_ne_empty (fun s hs => by cases hs) []

end Value

end FactoryRegistry
