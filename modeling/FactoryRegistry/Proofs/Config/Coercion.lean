import FactoryRegistry.Proofs.Config.Precedence
import FactoryRegistry.Proofs.Json.Limit
import FactoryRegistry.Proofs.Text.Lines

/-!
# Texts that stand for nothing

Every text stands for a value, the text itself if for nothing else (`meaning`), except where an
array or an object holds an integer with more digits than may be read. A variable with such a text
ends the merge of the variables (`coerce_total_but_for_long_integers`).

An integer that stands alone is never too long, since it is then read as a real number.
-/

namespace FactoryRegistry.Config

open Json Number Text

/-- The value of a text that is an array or an object in JSON. -/
def structured? (raw : String) : Option Json :=
  if opensJson raw then (Json.read raw).toOption else none

/-- What a text stands for: a truth word, a number, an array or an object, or else itself. -/
def meaning (raw : String) : Json :=
  (((readTruth? raw).map .bool).or ((readNumber? raw).or (structured? raw))).getD (.text raw)

/-- A text begins like an array or an object, and an integer in it has this many digits, more than
may be read. -/
structure Refused (raw : String) (count : Nat) : Prop where
  /-- It begins like an array or an object. -/
  opens : opensJson raw = true
  /-- Reading ends at the integer. -/
  stopped : Json.read raw = .error (.tooManyDigits count)

/-- A text that is `Refused` has the digits of the integer in it, more than `maxDigits` of them. -/
theorem Refused.hasDigits {raw : String} {count : Nat} (h : Refused raw count) :
    maxDigits < count ∧ HasDigits count raw.toList :=
  accounted_read raw _ h.stopped

/-! ## Texts that begin like JSON -/

section Opening

variable {raw : String}

/-- The brackets that begin an array or an object. -/
def IsOpening (c : Char) : Prop := c = '{' ∨ c = '['

theorem ofList_cons_ne {c : Char} {cs : List Char} {w : String} (h : w.toList.head? ≠ some c) :
    String.ofList (c :: cs) ≠ w := by
  rintro rfl
  simp at h

/-- What `opensJson` accepts begins with a bracket or a brace. -/
theorem exists_opening (h : opensJson raw = true) :
    ∃ c cs, raw.toList = c :: cs ∧ IsOpening c := by
  rw [opensJson] at h
  cases hcs : raw.toList with
  | nil => simp [hcs] at h
  | cons c cs =>
    refine ⟨c, cs, rfl, ?_⟩
    simpa [hcs, IsOpening] using h

/-- No truth word begins with a bracket, so `readTruth?` does not take the text. -/
theorem readTruth?_of_opensJson (h : opensJson raw = true) : readTruth? raw = none := by
  obtain ⟨c, cs, hraw, hc⟩ := exists_opening h
  have hblank : isBlank c = false := by rcases hc with rfl | rfl <;> decide
  have hlower : ∀ ds, ∃ ds', lowercaseFrom [] (c :: ds) = c :: ds' := by
    rcases hc with rfl | rfl <;> exact fun _ => ⟨_, rfl⟩
  have hother : ∀ w ∈ trueWords ++ falseWords, w.toList.head? ≠ some c := by
    rcases hc with rfl | rfl <;> decide
  -- stripping and lowering leave the bracket in front
  have hnot : lowercase (strip raw) ∉ trueWords ++ falseWords := by
    intro hmem
    rw [lowercase, strip, String.toList_ofList, hraw, stripWhere_cons hblank] at hmem
    obtain ⟨ds', hlower⟩ := hlower (dropTrailing isBlank cs)
    rw [hlower] at hmem
    exact ofList_cons_ne (hother _ hmem) rfl
  rw [List.mem_append, not_or] at hnot
  rw [readTruth?, if_neg hnot.1, if_neg hnot.2]

/-- `readInteger` does not take a text that begins with a bracket. -/
theorem readInteger_of_opening {c : Char} (hc : IsOpening c) (cs : List Char) :
    readInteger 10 (c :: cs) = .error .malformed := by
  rcases hc with rfl | rfl
  · rw [readInteger, stripWhere_cons (by decide)]
    rfl
  · rw [readInteger, stripWhere_cons (by decide)]
    rfl

theorem readUnsigned?_of_opening {c : Char} (hc : IsOpening c) (negative : Bool) (cs : List Char) :
    readUnsigned? negative (c :: cs) = none := by
  rcases hc with rfl | rfl <;> rfl

theorem readPlainReal?_of_opening {c : Char} (hc : IsOpening c) (cs : List Char) :
    readPlainReal? (c :: cs) = none := by
  have hsign : splitSign (c :: cs) = (false, c :: cs) := by
    rcases hc with rfl | rfl <;> rfl
  have hother : ∀ w ∈ ["inf", "infinity", "nan"], w.toList.head? ≠ some c.toLower := by
    rcases hc with rfl | rfl <;> decide
  have hword : ∀ w ∈ ["inf", "infinity", "nan"],
      (String.ofList ((c :: cs).map Char.toLower) == w) = false := by
    intro w hw
    rw [beq_eq_false_iff_ne]
    exact ofList_cons_ne (hother w hw)
  rw [readPlainReal?, hsign]
  simp only [hword, List.mem_cons, true_or, or_true, Bool.or_self, Bool.false_eq_true, if_false,
    readUnsigned?_of_opening hc]

/-- `readReal?` finds neither a number nor one of the words for infinity and for no number. -/
theorem readReal?_of_opening {c : Char} (hc : IsOpening c) (cs : List Char) :
    readReal? (c :: cs) = none := by
  have hblank : isNumberBlank c = false := by rcases hc with rfl | rfl <;> decide
  have hplain : plainDigit c = c := by rcases hc with rfl | rfl <;> decide
  have hdigit : isAsciiDigit c = false := by rcases hc with rfl | rfl <;> decide
  have hfirst : ∀ ds, dropUnderscores? false (c :: ds) =
      (dropUnderscores? false ds).map (c :: ·) := by
    rcases hc with rfl | rfl <;> exact fun _ => rfl
  rw [readReal?, stripWhere_cons hblank, List.map_cons, hplain, hfirst, Option.bind_map]
  refine Option.bind_eq_none_iff.2 fun ds _ => ?_
  rw [Function.comp_apply, readPlainReal?_of_opening hc]

/-- Numbers have no brackets in front, so `readNumber?` does not take the text. -/
theorem readNumber?_of_opensJson (h : opensJson raw = true) : readNumber? raw = none := by
  obtain ⟨c, cs, hraw, hc⟩ := exists_opening h
  unfold readNumber?
  rw [hraw, readInteger_of_opening hc, readReal?_of_opening hc]
  rfl

end Opening

/-! ## Every text -/

section Coerce

variable {raw : String} {count : Nat} {failure : Failure}

/-- What begins with a bracket is left to `readStructured`: the readers before it do not take it. -/
theorem coerce_of_opensJson (h : opensJson raw = true) : coerce raw = readStructured raw := by
  unfold coerce
  rw [readTruth?_of_opensJson h, readNumber?_of_opensJson h]
  exact if_pos h

/-- `coerce` fails exactly on the texts that are `Refused`: arrays and objects that hold an integer
of too many digits. -/
theorem coerce_eq_error_iff :
    coerce raw = .error failure ↔ ∃ count, failure = .longInteger count ∧ Refused raw count := by
  constructor
  · intro h
    unfold coerce at h
    split at h
    · cases h
    split at h
    · cases h
    split at h
    -- only the structured reader can fail, and only on too many digits
    next hopens =>
      rw [readStructured] at h
      split at h
      · cases h
      · cases h
      next count hread => exact ⟨count, (Except.error.inj h).symm, hopens, hread⟩
    · cases h
  · rintro ⟨count, rfl, hopens, hstopped⟩
    rw [coerce_of_opensJson hopens, readStructured, hstopped]

/-- `coerce` gives every other text its `meaning`. -/
theorem coerce_eq_meaning (h : ∀ count, ¬ Refused raw count) : coerce raw = .ok (meaning raw) := by
  unfold coerce meaning
  cases readTruth? raw with
  | some b => rfl
  | none =>
    cases readNumber? raw with
    | some number => rfl
    | none =>
      by_cases hopens : opensJson raw = true
      · -- a text that is no JSON stands for itself, so nothing but the length is left
        simp only [if_pos hopens, readStructured, structured?]
        cases hread : Json.read raw with
        | ok value => rfl
        | error e =>
          cases e with
          | malformed => rfl
          | tooManyDigits count => exact absurd ⟨hopens, hread⟩ (h count)
      · simp [hopens, structured?]

end Coerce

/-! ## Variables -/

section Variables

variable {namePrefix : String} {path : List String} {vars : List (String × String)}
  {failure : Failure}

/-- Variables have values if the first has and the `others` have. -/
theorem haveValues_cons {v : String × String} {others : List (String × String)} :
    HaveValues namePrefix (v :: others) ↔
      HaveValues namePrefix [v] ∧ HaveValues namePrefix others := by
  simp [HaveValues]

/-- A failure is that of the first variable with the prefix that has no value. -/
def FirstFailure (namePrefix : String) (vars : List (String × String)) (failure : Failure) : Prop :=
  ∃ before v after, vars = before ++ v :: after ∧ HaveValues namePrefix before ∧
    (variablePath? namePrefix v.1).isSome ∧ coerce v.2 = .error failure

/-- The `FirstFailure` is that of the first variable, or the first has a value and a later one
fails. -/
theorem firstFailure_cons {v : String × String} {others : List (String × String)} :
    FirstFailure namePrefix (v :: others) failure ↔
      (variablePath? namePrefix v.1).isSome ∧ coerce v.2 = .error failure ∨
        HaveValues namePrefix [v] ∧ FirstFailure namePrefix others failure := by
  constructor
  · -- the variable that fails is the first one, or stands behind it
    rintro ⟨before, w, after, hsplit, hbefore, hw⟩
    cases before with
    | nil =>
      obtain ⟨rfl, -⟩ := List.cons.inj hsplit
      exact Or.inl hw
    | cons u before =>
      obtain ⟨rfl, hothers⟩ := List.cons.inj hsplit
      obtain ⟨hv, hbefore⟩ := haveValues_cons.1 hbefore
      exact Or.inr ⟨hv, before, w, after, hothers, hbefore, hw⟩
  · rintro (hv | ⟨hv, before, w, after, rfl, hbefore, hw⟩)
    · exact ⟨[], v, others, rfl, by simp [HaveValues], hv⟩
    · exact ⟨v :: before, w, after, rfl, haveValues_cons.2 ⟨hv, hbefore⟩, hw⟩

/-- A variable with the prefix has no value if `coerce` fails on its text. -/
theorem not_haveValues_singleton {v : String × String} {e : Failure}
    (hpath : (variablePath? namePrefix v.1).isSome) (hraw : coerce v.2 = .error e) :
    ¬ HaveValues namePrefix [v] := by
  intro hv
  obtain ⟨j, hj⟩ := hv v (List.mem_singleton_self v) hpath
  rw [hraw] at hj
  cases hj

namespace Configuration

/-- `setPath` fails as `coerce` does. -/
theorem setPath_fst (c : Configuration) (holder : Value) (raw : String) (hpath : path ≠ []) :
    (c.setPath holder raw path).1 = (coerce raw).map fun _ => () := by
  induction path generalizing c holder with
  | nil => exact absurd rfl hpath
  | cons name path ih =>
    by_cases hrest : path = []
    · subst hrest
      rw [setPath.eq_def]
      dsimp only
      cases coerce raw <;> rfl
    · rw [setPath_cons c holder raw name hrest]
      exact ih _ _ hrest

/-- `mergeVariables` passes the first variable over, or sets its path, or ends with the failure of
`coerce`. -/
theorem mergeVariables_cons_fst (namePrefix : String) (c : Configuration) (v : String × String)
    (others : List (String × String)) :
    (HaveValues namePrefix [v] ∧ ∃ c' : Configuration,
        c.mergeVariables namePrefix (v :: others) = c'.mergeVariables namePrefix others) ∨
      ∃ e, (variablePath? namePrefix v.1).isSome ∧ coerce v.2 = .error e ∧
        (c.mergeVariables namePrefix (v :: others)).1 = .error e := by
  obtain ⟨name, raw⟩ := v
  rw [mergeVariables]
  cases hpath : variablePath? namePrefix name with
  | none => exact Or.inl ⟨by simp [HaveValues, hpath], c, rfl⟩
  | some path =>
    have hset := c.setPath_fst c.root raw (variablePath?_ne_nil hpath)
    dsimp only
    -- only whether the path can be set counts, not what comes of it
    generalize c.setPath c.root raw path = run at hset ⊢
    obtain ⟨result, c'⟩ := run
    cases hraw : coerce raw with
    | ok j =>
      rw [hraw] at hset
      cases hset
      exact Or.inl ⟨by simp [HaveValues, hraw], c', rfl⟩
    | error e =>
      rw [hraw] at hset
      cases hset
      exact Or.inr ⟨e, rfl, rfl, rfl⟩

/-- `mergeVariables` fails exactly with the `FirstFailure`. -/
theorem mergeVariables_eq_error_iff (c : Configuration) :
    (c.mergeVariables namePrefix vars).1 = .error failure ↔
      FirstFailure namePrefix vars failure := by
  induction vars generalizing c with
  | nil => simp [mergeVariables, FirstFailure]
  | cons v others ih =>
    -- a variable with a value only changes the configuration that the others are merged into
    rw [firstFailure_cons]
    rcases mergeVariables_cons_fst namePrefix c v others with
      ⟨hv, c', hmerge⟩ | ⟨e, hpath, hraw, hmerge⟩
    · have hvalue : ¬ ((variablePath? namePrefix v.1).isSome ∧ coerce v.2 = .error failure) :=
        fun hfails => not_haveValues_singleton hfails.1 hfails.2 hv
      rw [hmerge, ih c']
      simp [hv, hvalue]
    · have hvalue := not_haveValues_singleton hpath hraw
      rw [hmerge]
      simp [hvalue, hpath, hraw]

/-- `mergeVariables` succeeds exactly if `HaveValues` holds of the variables. -/
theorem mergeVariables_eq_ok_iff (c : Configuration) :
    (c.mergeVariables namePrefix vars).1 = .ok () ↔ HaveValues namePrefix vars := by
  induction vars generalizing c with
  | nil => simp [mergeVariables, HaveValues]
  | cons v others ih =>
    rw [haveValues_cons]
    rcases mergeVariables_cons_fst namePrefix c v others with
      ⟨hv, c', hmerge⟩ | ⟨e, hpath, hraw, hmerge⟩
    · rw [hmerge, ih c']
      simp [hv]
    · have hvalue := not_haveValues_singleton hpath hraw
      rw [hmerge]
      simp [hvalue]

end Configuration

end Variables

/-- `coerce` gives every text its `meaning`, unless the text is `Refused`: an array or an object
that holds an integer of more than `maxDigits` digits. So `mergeVariables` succeeds exactly if none
of the variables with the prefix is such a text, and else ends with the first one that is. -/
theorem coerce_total_but_for_long_integers (raw : String) (c : Configuration) (namePrefix : String)
    (vars : List (String × String)) :
    ((∀ count, ¬ Refused raw count) → coerce raw = .ok (meaning raw)) ∧
      (∀ failure, coerce raw = .error failure ↔
        ∃ count, failure = .longInteger count ∧ Refused raw count) ∧
      (∀ count, Refused raw count → maxDigits < count ∧ HasDigits count raw.toList) ∧
      ((c.mergeVariables namePrefix vars).1 = .ok () ↔
        ∀ v ∈ vars, (variablePath? namePrefix v.1).isSome → ∀ count, ¬ Refused v.2 count) ∧
      ∀ failure, (c.mergeVariables namePrefix vars).1 = .error failure ↔
        FirstFailure namePrefix vars failure := by
  refine ⟨coerce_eq_meaning, fun _ => coerce_eq_error_iff, fun _ => Refused.hasDigits, ?_,
    fun _ => c.mergeVariables_eq_error_iff⟩
  have hvalue : ∀ text, (∃ j, coerce text = .ok j) ↔ ∀ count, ¬ Refused text count := by
    intro text
    constructor
    · rintro ⟨j, hj⟩ count hrefused
      rw [coerce_eq_error_iff.2 ⟨count, rfl, hrefused⟩] at hj
      cases hj
    · exact fun h => ⟨_, coerce_eq_meaning h⟩
  rw [c.mergeVariables_eq_ok_iff]
  simp only [HaveValues, hvalue]

/-! ## A long integer in an array -/

/-- An array of one integer, which is written with so many ones. -/
def arrayOfOnes (count : Nat) : String :=
  String.ofList ('[' :: (List.replicate count '1' ++ [']']))

/-- An integer of more than `maxDigits` ones inside an array is not read. -/
theorem readNumber_ones {count : Nat} (h : maxDigits < count) (i : Nat) :
    readNumber i (List.replicate count '1' ++ [']']) = .error (.tooManyDigits count) := by
  obtain ⟨n, rfl⟩ := Nat.exists_eq_add_one_of_ne_zero (Nat.ne_zero_of_lt h)
  have hdigits : ∀ c ∈ List.replicate (n + 1) '1', isAsciiDigit c = true := by
    intro c hc
    rw [List.eq_of_mem_replicate hc]
    decide
  have hsign : ((List.replicate (n + 1) '1' ++ [']']).head? == some '-') = false := by
    simp [List.replicate_succ]
  -- all the ones are whole digits, and neither a fraction nor an exponent follows
  have hwhole : wholeDigits (List.replicate (n + 1) '1' ++ [']']) = List.replicate (n + 1) '1' := by
    rw [wholeDigits]
    · rw [List.takeWhile_append_of_pos hdigits]
      simp +decide
    · simp [List.replicate_succ]
  have hread := readInteger_signed hdigits (by simp) false
  rw [List.length_replicate, if_pos h] at hread
  rw [signed, if_neg Bool.false_ne_true] at hread
  unfold readNumber
  simp only [hsign, Bool.false_eq_true, if_false, List.length_nil, List.drop_zero, List.nil_append,
    hwhole, List.drop_left, fractionPart, exponentPart]
  simp [hread]

/-- `readValue` leaves a value that begins with a digit to `readNumber`. -/
theorem readValue_one (fuel i : Nat) (cs : List Char) :
    readValue (fuel + 1) i ('1' :: cs) = readNumber i ('1' :: cs) := by
  rw [readValue, if_neg (by decide), if_neg (by decide), if_neg (by decide)]
  rfl

/-- `arrayOfOnes count` is `Refused` if `count` is more than `maxDigits`. -/
theorem refused_arrayOfOnes {count : Nat} (h : maxDigits < count) :
    Refused (arrayOfOnes count) count := by
  have hnumber := readNumber_ones h
  obtain ⟨n, rfl⟩ := Nat.exists_eq_add_one_of_ne_zero (Nat.ne_zero_of_lt h)
  rw [List.replicate_succ, List.cons_append] at hnumber
  -- the array is opened, and its first item is the number that fails
  have hvalue : ∀ fuel i, readValue (fuel + 3) i (arrayOfOnes (n + 1)).toList =
      .error (.tooManyDigits (n + 1)) := by
    intro fuel i
    rw [arrayOfOnes, String.toList_ofList, List.replicate_succ, List.cons_append, readValue,
      if_neg (by decide), if_neg (by decide), if_pos (by decide), skipSpace_cons (by decide)]
    change Except.map _ (readItems (fuel + 1 + 1) (i + 1) _) = _
    rw [readItems, readValue_one, hnumber]
    rfl
  have hcs : (arrayOfOnes (n + 1)).toList = '[' :: (List.replicate (n + 1) '1' ++ [']']) :=
    String.toList_ofList
  -- the depth that `Json.read` provides is enough to get there
  have hlength : 2 * (arrayOfOnes (n + 1)).toList.length + 2 = 2 * n + 5 + 3 := by
    rw [hcs]
    simp
    omega
  have hspace : skipSpace 0 (arrayOfOnes (n + 1)).toList = (0, (arrayOfOnes (n + 1)).toList) := by
    rw [hcs, skipSpace_cons (by decide)]
  have hmark : ((arrayOfOnes (n + 1)).toList.head? == some (Char.ofNat 0xfeff)) = false := by
    rw [hcs]
    rfl
  constructor
  · rw [opensJson, hcs]
    rfl
  · rw [Json.read, hmark, hspace, hlength]
    simp only [hvalue]
    rfl

/-- A plain word stands for itself, and `arrayOfOnes 5000` has no value. -/
theorem values_of_word_and_long_integer :
    coerce "on call" = .ok (meaning "on call") ∧
      coerce (arrayOfOnes 5000) = .error (.longInteger 5000) ∧
      HasDigits 5000 (arrayOfOnes 5000).toList := by
  have hplain : ∀ count, ¬ Refused "on call" count := fun count h => absurd h.opens (by decide)
  have hrefused : Refused (arrayOfOnes 5000) 5000 := refused_arrayOfOnes (by decide)
  obtain ⟨hmeaning, -⟩ := coerce_total_but_for_long_integers "on call" {} "SF_" []
  obtain ⟨-, herror, hdigits, -⟩ :=
    coerce_total_but_for_long_integers (arrayOfOnes 5000) {} "SF_" []
  exact ⟨hmeaning hplain, (herror _).2 ⟨5000, rfl, hrefused⟩, (hdigits _ hrefused).2⟩

/-- The text has no value, and a variable with it is not merged. -/
theorem coerce_long_integer_in_array :
    coerce (arrayOfOnes 4301) = .error (.longInteger 4301) ∧
      ((({} : Configuration).mergeVariables "SF_" [("SF_A", arrayOfOnes 4301)]).1 =
        .error (.longInteger 4301)) := by
  have hraw : coerce (arrayOfOnes 4301) = .error (.longInteger 4301) :=
    coerce_eq_error_iff.2 ⟨4301, rfl, refused_arrayOfOnes (by decide)⟩
  refine ⟨hraw, ?_⟩
  rw [Configuration.mergeVariables_eq_error_iff]
  exact ⟨[], ("SF_A", arrayOfOnes 4301), [], rfl, by simp [HaveValues], by decide +kernel, hraw⟩

end FactoryRegistry.Config
