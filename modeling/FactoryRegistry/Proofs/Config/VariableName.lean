import Mathlib.Data.List.Infix
import FactoryRegistry.Config.Configuration
import FactoryRegistry.Proofs.Number.Integer

/-!
# Names of variables

The name of a variable is a prefix and the levels of a path in upper case, with two underscores
between them. Levels of lower-case letters, digits and single underscores are read back from it
(`variablePath?_variableName`), except that an underscore at the end of a level would be taken for
part of the separator.
-/

namespace FactoryRegistry

namespace Text

/-- What holds of the code points below 128 one by one holds of all characters of ASCII. -/
theorem forall_ascii {p : Char → Prop} (h : ∀ n < 0x80, p (Char.ofNat n)) {c : Char}
    (hc : c.toNat < 0x80) : p c := by
  rw [← Char.ofNat_toNat c]
  exact h c.toNat hc

/-- In ASCII every character has a lower-case form of its own, wherever it stands. -/
theorem lowercaseFrom_of_ascii {cs : List Char} (h : ∀ c ∈ cs, c.toNat < 0x80)
    (before : List Char) : lowercaseFrom before cs = cs.map Char.toLower := by
  induction cs generalizing before with
  | nil => rfl
  | cons c cs ih =>
    obtain ⟨hc, hcs⟩ := List.forall_mem_cons.1 h
    have hsigma : (c.toNat == 0x3a3) = false := by
      rw [beq_eq_false_iff_ne]
      omega
    rw [lowercaseFrom, hsigma, lowercaseOf, if_pos hc, ih hcs]
    rfl

end Text

namespace Config

open Number Text

/-- A lower-case letter, a digit or an underscore. -/
def isNameCharacter (c : Char) : Bool :=
  ('a' ≤ c && c ≤ 'z') || isAsciiDigit c || c == '_'

/-- A level of a path that the name of a variable can spell. -/
structure Spelled (level : String) : Prop where
  /-- It consists of characters that are their own lower-case forms. -/
  characters : ∀ c ∈ level.toList, isNameCharacter c = true
  /-- No separator stands in it. -/
  single : ¬ ['_', '_'] <:+: level.toList

/-- A text in upper case. -/
def upper (s : String) : String := String.ofList (s.toList.map Char.toUpper)

/-- The name of the variable for a key of a section. -/
def variableName (namePrefix sectionName key : String) : String :=
  namePrefix ++ (upper sectionName ++ "__" ++ upper key)

theorem toNat_lt_of_isNameCharacter {c : Char} (h : isNameCharacter c = true) : c.toNat < 0x80 := by
  simp only [isNameCharacter, isAsciiDigit, Bool.or_eq_true, Bool.and_eq_true, decide_eq_true_eq,
    beq_iff_eq] at h
  rcases h with (h | h) | rfl
  · exact lt_of_le_of_lt h.2 (by decide)
  · exact lt_of_le_of_lt h.2 (by decide)
  · decide

/-- The upper-case form of a character of a name is in ASCII and has the character as its lower-case
form. -/
theorem isNameCharacter_upper {c : Char} (h : isNameCharacter c = true) :
    c.toUpper.toNat < 0x80 ∧ c.toUpper.toLower = c :=
  forall_ascii (p := fun c => isNameCharacter c = true → c.toUpper.toNat < 0x80 ∧
    c.toUpper.toLower = c) (by decide +kernel) (toNat_lt_of_isNameCharacter h) h

/-- The `upper` form of a level is read back as the level. -/
theorem Spelled.lower_upper {level : String} (h : Spelled level) :
    (∀ c ∈ (upper level).toList, c.toNat < 0x80) ∧
      (upper level).toList.map Char.toLower = level.toList := by
  rw [upper, String.toList_ofList]
  constructor
  · rw [List.forall_mem_map]
    exact fun c hc => (isNameCharacter_upper (h.characters c hc)).1
  · have hsame : ∀ c ∈ level.toList, (Char.toLower ∘ Char.toUpper) c = id c := fun c hc =>
      (isNameCharacter_upper (h.characters c hc)).2
    rw [List.map_map, List.map_congr_left hsame, List.map_id]

section Levels

variable {level : List Char}

theorem splitLevelsFrom_cons {c : Char} {cs : List Char} (h : ∀ ds, c = '_' → cs ≠ '_' :: ds)
    (current : List Char) :
    splitLevelsFrom current (c :: cs) = splitLevelsFrom (c :: current) cs := by
  rw [splitLevelsFrom]
  rintro ds rfl rfl
  exact h ds rfl rfl

/-- `splitLevelsFrom` splits off whole a level with neither a separator in it nor an underscore at
its end. -/
theorem splitLevelsFrom_append (hsingle : ¬ ['_', '_'] <:+: level)
    (hlast : level.getLast? ≠ some '_') (current cs : List Char) :
    splitLevelsFrom current (level ++ '_' :: '_' :: cs) =
      (current.reverse ++ level) :: splitLevelsFrom [] cs := by
  induction level generalizing current with
  | nil => rw [List.nil_append, splitLevelsFrom, List.append_nil]
  | cons c level ih =>
    -- no second underscore follows, neither in the level nor from the separator behind it
    have hnext : ∀ ds, c = '_' → level ++ '_' :: '_' :: cs ≠ '_' :: ds := by
      rintro ds rfl h
      cases level with
      | nil => exact hlast rfl
      | cons d level =>
        obtain rfl := (List.cons.inj h).1
        exact hsingle ⟨[], level, rfl⟩
    rw [List.cons_append, splitLevelsFrom_cons hnext, ih, List.reverse_cons, List.append_assoc]
    · rfl
    · exact fun h => hsingle (h.trans (List.suffix_cons c level).isInfix)
    · intro h
      refine hlast ?_
      rw [List.getLast?_cons, h]
      rfl

/-- A level without a separator in it is the last one. -/
theorem splitLevelsFrom_last (hsingle : ¬ ['_', '_'] <:+: level) (current : List Char) :
    splitLevelsFrom current level = [current.reverse ++ level] := by
  induction level generalizing current with
  | nil => rw [splitLevelsFrom, List.append_nil]
  | cons c level ih =>
    have hnext : ∀ ds, c = '_' → level ≠ '_' :: ds := by
      rintro ds rfl rfl
      exact hsingle ⟨[], ds, rfl⟩
    rw [splitLevelsFrom_cons hnext, ih, List.reverse_cons, List.append_assoc]
    · rfl
    · exact fun h => hsingle (h.trans (List.suffix_cons c level).isInfix)

end Levels

/-- The `variableName` of a section and a key stands for them. -/
theorem variablePath?_variableName {sectionName key : String} (hsection : Spelled sectionName)
    (hlast : sectionName.toList.getLast? ≠ some '_') (hkey : Spelled key) (namePrefix : String) :
    variablePath? namePrefix (variableName namePrefix sectionName key) =
      some [sectionName, key] := by
  obtain ⟨hsectionAscii, hsectionLower⟩ := hsection.lower_upper
  obtain ⟨hkeyAscii, hkeyLower⟩ := hkey.lower_upper
  have hrest : (variableName namePrefix sectionName key).toList =
      namePrefix.toList ++ ((upper sectionName).toList ++ ('_' :: '_' :: (upper key).toList)) := by
    simp [variableName]
  -- in ASCII lowering the case of the name undoes what raised it
  have hascii : ∀ c ∈ (upper sectionName).toList ++ ('_' :: '_' :: (upper key).toList),
      c.toNat < 0x80 := by
    simp only [List.mem_append, List.mem_cons]
    rintro c (hc | rfl | rfl | hc)
    · exact hsectionAscii c hc
    · decide
    · decide
    · exact hkeyAscii c hc
  have hlower :
      ((upper sectionName).toList ++ ('_' :: '_' :: (upper key).toList)).map Char.toLower =
        sectionName.toList ++ '_' :: '_' :: key.toList := by
    rw [List.map_append, hsectionLower, List.map_cons, List.map_cons, hkeyLower]
    rfl
  rw [variablePath?, hrest, if_pos (by simp), ← String.length_toList, List.drop_left,
    lowercaseFrom_of_ascii hascii, hlower, splitLevels,
    splitLevelsFrom_append hsection.single hlast, splitLevelsFrom_last hkey.single]
  simp

end Config

end FactoryRegistry
