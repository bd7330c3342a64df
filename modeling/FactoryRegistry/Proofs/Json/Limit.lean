import FactoryRegistry.Json.Reader
import FactoryRegistry.Proofs.Except
import FactoryRegistry.Proofs.Number.Integer

/-!
# JSON that is not read

A text is not read because it is no JSON, or because an integer in it has more digits than may be
read, and then its digits stand in the text one after another (`accounted_read`).

What a reading function leaves is the end of what it is given, so that digits which stand in the
rest stand in the whole. `ReadsWithin` carries both facts through the reader.
-/

namespace FactoryRegistry.Json

open Number

/-- So many digits stand in a text one after another. -/
def HasDigits (count : Nat) (cs : List Char) : Prop :=
  ∃ digits, digits <:+: cs ∧ digits.length = count ∧ ∀ c ∈ digits, isAsciiDigit c = true

/-- An error is a broken rule of the format, or an integer of the text with too many digits. -/
def Error.AccountedIn (cs : List Char) : Error → Prop
  | .malformed _ _ => True
  | .tooManyDigits count => maxDigits < count ∧ HasDigits count cs

/-- An error is `AccountedIn` a text if it is in an end of the text. -/
theorem Error.AccountedIn.mono {cs rest : List Char} (hrest : rest <:+ cs) {e : Error}
    (h : e.AccountedIn rest) : e.AccountedIn cs := by
  cases e with
  | malformed => trivial
  | tooManyDigits count =>
    obtain ⟨hcount, digits, hinfix, hdigits⟩ := h
    exact ⟨hcount, digits, hinfix.trans hrest.isInfix, hdigits⟩

/-- A reading function that is given `cs` leaves an end of it, or refuses an integer in it. -/
def ReadsWithin {α : Type} (cs : List Char) : Except Error (Before α) → Prop
  | .ok (_, _, rest) => rest <:+ cs
  | .error e => e.AccountedIn cs

namespace ReadsWithin

variable {α β : Type} {cs rest : List Char} {r : Except Error (Before α)}

theorem malformed {problem : Problem} {index : Nat} :
    ReadsWithin cs (.error (.malformed problem index) : Except Error (Before α)) := trivial

/-- What is read from an end is read from the whole. -/
theorem mono (hrest : rest <:+ cs) (h : ReadsWithin rest r) : ReadsWithin cs r := by
  match r, h with
  | .ok (_, _, _), h => exact List.IsSuffix.trans h hrest
  | .error _, h => exact Error.AccountedIn.mono hrest h

theorem map {f : Before α → Before β} (h : ReadsWithin cs r) (hf : ∀ p, (f p).2 = p.2) :
    ReadsWithin cs (r.map f) := by
  match r, h with
  | .ok p, h =>
    change (f p).2.2 <:+ cs
    rwa [hf p]
  | .error _, h => exact h

/-- What is read after something else is read from what is left. -/
theorem bind {f : Before α → Except Error (Before β)} (h : ReadsWithin cs r)
    (hf : ∀ a i rest, rest <:+ cs → ReadsWithin cs (f (a, i, rest))) :
    ReadsWithin cs (r >>= f) := by
  match r, h with
  | .ok (a, i, rest), h => exact hf a i rest h
  | .error _, h => exact h

theorem ite {c : Prop} [Decidable c] {r' : Except Error (Before α)} (h : ReadsWithin cs r)
    (h' : ReadsWithin cs r') : ReadsWithin cs (if c then r else r') := by
  split
  · exact h
  · exact h'

/-- The errors of what `ReadsWithin` a text are `AccountedIn` it. -/
theorem failsOnly (h : ReadsWithin cs r) : FailsOnly (Error.AccountedIn cs) r := by
  rintro e rfl
  exact h

end ReadsWithin

/-! ## Blanks, texts and numbers -/

theorem skipSpace_suffix (i : Nat) (cs : List Char) : (skipSpace i cs).2 <:+ cs := by
  fun_induction skipSpace i cs with
  | case1 i c cs _ ih => exact ih.trans (List.suffix_cons c cs)
  | case2 => exact List.suffix_rfl
  | case3 => exact List.suffix_rfl

theorem skipSpace_eq_suffix {i j : Nat} {cs rest : List Char} (h : skipSpace i cs = (j, rest)) :
    rest <:+ cs := by
  have hsuffix := skipSpace_suffix i cs
  rwa [h] at hsuffix

/-- `readText` leaves an end of the text. The cases are those of the function. -/
theorem readsWithin_readText (start i : Nat) (cs : List Char) :
    ReadsWithin cs (readText start i cs) := by
  fun_induction readText start i cs with
  | case1 | case3 | case4 | case5 | case10 | case11 | case13 => exact .malformed
  | case2 => exact List.suffix_cons _ _
  | case6 =>
    rename_i hpair _ _ _ _ ih
    exact ReadsWithin.map (ih.mono (by simp [hpair, List.suffix_cons_iff])) fun _ => rfl
  | case7 | case8 | case9 | case12 | case14 =>
    rename_i ih
    -- an escape before the rest, or a character of its own
    exact ReadsWithin.map (ih.mono (by simp [List.suffix_cons_iff])) fun _ => rfl

theorem wholeDigits_begin (cs : List Char) : wholeDigits cs <+: cs := by
  fun_cases wholeDigits cs with
  | case1 cs => exact ⟨cs, rfl⟩
  | case2 => exact List.takeWhile_prefix _

theorem isAsciiDigit_of_mem_wholeDigits {cs : List Char} :
    ∀ c ∈ wholeDigits cs, isAsciiDigit c = true := by
  fun_cases wholeDigits cs with
  | case1 =>
    intro c hc
    rw [List.mem_singleton.1 hc]
    decide
  | case2 => exact fun c hc => List.mem_takeWhile_imp hc

/-- `readNumber` leaves an end of the text, or fails on an integer of too many digits in it. -/
theorem readsWithin_readNumber (i : Nat) (cs : List Char) :
    ReadsWithin cs (readNumber i cs) := by
  unfold readNumber
  extract_lets sign body whole afterWhole fraction afterFraction exponent rest shown
  have hbody : body <:+ cs := List.drop_suffix _ _
  have hrest : rest <:+ cs :=
    ((List.drop_suffix _ _).trans (List.drop_suffix _ _)).trans
      ((List.drop_suffix _ _).trans hbody)
  by_cases hempty : whole.isEmpty
  · rw [if_pos hempty]
    exact .malformed
  rw [if_neg hempty]
  by_cases hinteger : (fraction.isEmpty && exponent.isEmpty) = true
  case neg =>
    rw [if_neg hinteger]
    exact hrest
  rw [if_pos hinteger]
  -- an integer with too many digits: these are part of the text
  have hshown : shown = signed (cs.head? == some '-') whole := by
    obtain ⟨hfraction, hexponent⟩ := Bool.and_eq_true_iff.1 hinteger
    simp only [shown, List.isEmpty_iff.1 hfraction, List.isEmpty_iff.1 hexponent,
      List.append_nil, signed, sign]
    split <;> rfl
  have hne : whole ≠ [] := fun h => hempty (List.isEmpty_iff.2 h)
  rw [hshown, readInteger_signed isAsciiDigit_of_mem_wholeDigits hne]
  by_cases hlong : maxDigits < whole.length
  · rw [if_pos hlong]
    exact ⟨hlong, whole, (wholeDigits_begin _).isInfix.trans hbody.isInfix, rfl,
      isAsciiDigit_of_mem_wholeDigits⟩
  · rw [if_neg hlong]
    exact hrest

/-! ## Values -/

/-- The reading functions of one depth leave an end of what they are given, or refuse an integer in
it. -/
structure ReadsEndings (fuel : Nat) : Prop where
  value : ∀ i cs, ReadsWithin cs (readValue fuel i cs)
  members : ∀ before i cs, ReadsWithin cs (readMembers fuel before i cs)
  items : ∀ i cs, ReadsWithin cs (readItems fuel i cs)

variable {fuel : Nat}

/-- `readValue` leaves an end of the text, if the functions with less `fuel` do. -/
theorem readsWithin_readValue (ih : ReadsEndings fuel) (i : Nat) (cs : List Char) :
    ReadsWithin cs (readValue (fuel + 1) i cs) := by
  cases cs with
  | nil => exact .malformed
  | cons c cs =>
    have htail : cs <:+ c :: cs := List.suffix_cons c cs
    rw [readValue]
    -- a string, an object, an array, and a word or a number
    refine .ite (((readsWithin_readText _ _ _).mono htail).map fun _ => rfl) (.ite ?_ (.ite ?_ ?_))
    · split
      next j rest hskip =>
        have hrest : rest <:+ c :: cs := (skipSpace_eq_suffix hskip).trans htail
        split
        · exact (List.suffix_cons _ _).trans hrest
        · exact ((ih.members _ _ _).mono hrest).map fun _ => rfl
    · split
      next j rest hskip =>
        have hrest : rest <:+ c :: cs := (skipSpace_eq_suffix hskip).trans htail
        split
        · exact (List.suffix_cons _ _).trans hrest
        · exact ((ih.items _ _).mono hrest).map fun _ => rfl
    · split
      · exact List.drop_suffix _ _
      · exact readsWithin_readNumber _ _

/-- `readMembers` leaves an end of the text, if the functions with less `fuel` do. -/
theorem readsWithin_readMembers (ih : ReadsEndings fuel) (before : List (String × Json)) (i : Nat)
    (cs : List Char) : ReadsWithin cs (readMembers (fuel + 1) before i cs) := by
  rw [readMembers.eq_def]
  split
  · exact .malformed
  next cs heq =>
    cases heq
    have htail : cs <:+ '"' :: cs := List.suffix_cons _ cs
    refine ((readsWithin_readText _ _ _).mono htail).bind fun name j rest hname => ?_
    dsimp only
    split
    next hskip =>
      have hcolon := (List.suffix_cons _ _).trans ((skipSpace_eq_suffix hskip).trans hname)
      refine ((ih.value _ _).mono ((skipSpace_suffix _ _).trans hcolon)).bind
        fun value j rest hrest => ?_
      dsimp only
      -- the member is the last one, or others follow
      split
      next hskip => exact (List.suffix_cons _ _).trans ((skipSpace_eq_suffix hskip).trans hrest)
      next hskip =>
        have hcomma := (List.suffix_cons _ _).trans ((skipSpace_eq_suffix hskip).trans hrest)
        exact (ih.members _ _ _).mono ((skipSpace_suffix _ _).trans hcomma)
      · exact .malformed
    · exact .malformed
  · exact .malformed

/-- `readItems` leaves an end of the text, if the functions with less `fuel` do. -/
theorem readsWithin_readItems (ih : ReadsEndings fuel) (i : Nat) (cs : List Char) :
    ReadsWithin cs (readItems (fuel + 1) i cs) := by
  rw [readItems]
  refine (ih.value _ _).bind fun value j rest hrest => ?_
  dsimp only
  split
  next hskip => exact (List.suffix_cons _ _).trans ((skipSpace_eq_suffix hskip).trans hrest)
  next hskip =>
    have hcomma := (List.suffix_cons _ _).trans ((skipSpace_eq_suffix hskip).trans hrest)
    exact ((ih.items _ _).mono ((skipSpace_suffix _ _).trans hcomma)).bind
      fun _ _ _ hrest => hrest
  · exact .malformed

/-- All three functions leave ends of the text. The induction is on `fuel`. -/
theorem readsEndings (fuel : Nat) : ReadsEndings fuel := by
  induction fuel with
  | zero => exact ⟨fun _ _ => .malformed, fun _ _ _ => .malformed, fun _ _ => .malformed⟩
  | succ fuel ih =>
    exact ⟨readsWithin_readValue ih, readsWithin_readMembers ih, readsWithin_readItems ih⟩

/-- `read` fails because a text is no JSON, or because an integer in it has too many digits. -/
theorem accounted_read (s : String) : FailsOnly (Error.AccountedIn s.toList) (read s) := by
  unfold read
  extract_lets cs next
  have hnext : ∀ u, FailsOnly (Error.AccountedIn cs) (next u) := fun _ =>
    (((readsEndings _).value _ _).mono (skipSpace_suffix _ _)).failsOnly.bind fun _ =>
      .ite .pure (.error trivial)
  exact .ite (FailsOnly.bind (.error trivial) hnext) (hnext ())

end FactoryRegistry.Json
