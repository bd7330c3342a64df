import FactoryRegistry.Proofs.Config.Interruption
import FactoryRegistry.Proofs.Config.Validation

/-!
# Sections with keys of any kind

The keys of a section are put in order before they are looked at. Keys of different classes have no
common order, and then reading the section fails without a fault, as it does when the first key is
an integer that is too long to be written (`readSection_failures`). A document can have such keys
(`mixed_keys_unreported`).
-/

namespace FactoryRegistry

open Number

namespace Config

open Value

section AnyKeys

variable {name : String} {fields : List FieldSpec} {entries : List (Scalar × Value)}
  {sorted : List Scalar}

/-- `sorted?` fails exactly if two of the keys are of different `orderClass`es. -/
theorem sorted?_keys_eq_none_iff : Scalar.sorted? (entries.map Prod.fst) = none ↔
    ∃ d ∈ entries, ∃ e ∈ entries, d.1.orderClass ≠ e.1.orderClass := by
  rw [Scalar.sorted?_eq_none_iff]
  constructor
  · rintro ⟨a, ha, b, hb, hne⟩
    obtain ⟨d, hd, rfl⟩ := List.mem_map.1 ha
    obtain ⟨e, he, rfl⟩ := List.mem_map.1 hb
    exact ⟨d, hd, e, he, hne⟩
  · rintro ⟨d, hd, e, he, hne⟩
    exact ⟨d.1, List.mem_map_of_mem hd, e.1, List.mem_map_of_mem he, hne⟩

/-- No number is a field, so beside an integer the first of the `sorted` keys is none. -/
theorem find?_undeclared_of_int {n : Int}
    (hsorted : Scalar.sorted? (entries.map Prod.fst) = some sorted) (hn : .int n ∈ sorted) :
    sorted.find? (fun k => !isDeclared fields k) = sorted.head? := by
  cases sorted with
  | nil => cases hn
  | cons key keys =>
    -- the first key has the class of the integer, and the names of fields have another one
    have hclass : key.orderClass = .number :=
      Scalar.orderClass_eq_of_sorted? hsorted List.mem_cons_self hn
    have hundeclared : isDeclared fields key = false := by
      cases key with
      | text s => cases hclass
      | _ => rfl
    rw [List.find?_cons_of_pos (by rw [hundeclared]; rfl), List.head?_cons]

/-- `readRecord` fails with `unorderedKeys` exactly if two of the keys are of different
`orderClass`es. -/
theorem readRecord_eq_unorderedKeys_iff :
    readRecord name fields entries = .error .unorderedKeys ↔
      ∃ d ∈ entries, ∃ e ∈ entries, d.1.orderClass ≠ e.1.orderClass := by
  rw [← sorted?_keys_eq_none_iff]
  refine ⟨fun h => ?_, readRecord_of_unordered⟩
  rcases readRecord_cases name fields entries with
    ⟨hnone, -⟩ | ⟨sorted, -, ⟨key, -, hread⟩ | ⟨-, hread⟩⟩
  · exact hnone
  · rw [h] at hread
    split at hread <;> cases hread
  · obtain ⟨f, -, hf⟩ := mapM_readField_eq_error_iff.1 (hread.symm.trans h)
    cases hf

theorem isWritable_int_iff {n : Int} :
    (Scalar.int n).isWritable = true ↔ n.natAbs < 10 ^ maxDigits := by
  rw [Scalar.isWritable, decide_eq_true_iff, Nat.pow_eq]

/-- `readRecord` fails with `unwritableInteger` exactly if the first of the sorted keys is an
integer of more than `maxDigits` digits. -/
theorem readRecord_eq_unwritableInteger_iff :
    readRecord name fields entries = .error .unwritableInteger ↔
      ∃ n keys, Scalar.sorted? (entries.map Prod.fst) = some (.int n :: keys) ∧
        10 ^ maxDigits ≤ n.natAbs := by
  constructor
  · intro h
    rcases readRecord_cases name fields entries with
      ⟨-, hread⟩ | ⟨sorted, hsorted, ⟨key, hkey, hread⟩ | ⟨-, hread⟩⟩
    · cases h.symm.trans hread
    · rw [h] at hread
      split at hread
      next => cases hread
      next hlong =>
        -- of all keys only an integer can be too long
        cases key with
        | int n =>
          rw [find?_undeclared_of_int hsorted (List.mem_of_find?_eq_some hkey)] at hkey
          obtain ⟨keys, rfl⟩ := List.head?_eq_some_iff.1 hkey
          exact ⟨n, keys, hsorted, Nat.le_of_not_lt fun h => hlong (isWritable_int_iff.2 h)⟩
        | _ => exact absurd rfl hlong
    · obtain ⟨f, -, hf⟩ := mapM_readField_eq_error_iff.1 (hread.symm.trans h)
      cases hf
  · rintro ⟨n, keys, hsorted, hlong⟩
    rw [readRecord_of_unknown hsorted (find?_undeclared_of_int hsorted List.mem_cons_self)]
    exact if_neg fun h => (isWritable_int_iff.1 h).not_ge hlong

/-- All other failures of `readRecord` are faults about the configuration. -/
theorem isConfigFault_of_readRecord {failure : Failure}
    (h : readRecord name fields entries = .error failure) :
    failure.isConfigFault = true ∨ failure = .unorderedKeys ∨ failure = .unwritableInteger := by
  rcases readRecord_cases name fields entries with
    ⟨-, hread⟩ | ⟨sorted, -, ⟨key, -, hread⟩ | ⟨-, hread⟩⟩
  · cases h.symm.trans hread
    exact Or.inr (Or.inl rfl)
  · rw [h] at hread
    split at hread <;> cases hread
    · exact Or.inl rfl
    · exact Or.inr (Or.inr rfl)
  · obtain ⟨f, -, rfl⟩ := mapM_readField_eq_error_iff.1 (hread.symm.trans h)
    rw [FieldSpec.fault]
    split <;> exact Or.inl rfl

/-- Among keys of one `orderClass` that can be written, `readRecord` reports an unknown one of
whatever kind. -/
theorem readRecord_of_ordered (hsame : ∀ d ∈ entries, ∀ e ∈ entries,
    d.1.orderClass = e.1.orderClass) (hwritable : ∀ e ∈ entries, e.1.isWritable = true)
    (hunknown : ∃ e ∈ entries, ¬ Declared fields e.1) :
    ∃ e ∈ entries, ¬ Declared fields e.1 ∧ readRecord name fields entries =
      invalid s!"{name}.{e.1.plain}" (unknownKeyReason (fields.map FieldSpec.name)) := by
  rcases readRecord_cases name fields entries with
    ⟨hnone, -⟩ | ⟨sorted, hsorted, ⟨key, hkey, hread⟩ | ⟨hdeclared, -⟩⟩
  · obtain ⟨d, hd, e, he, hne⟩ := sorted?_keys_eq_none_iff.1 hnone
    exact absurd (hsame d hd e he) hne
  · have hmem := (Scalar.mem_sorted? hsorted).1 (List.mem_of_find?_eq_some hkey)
    obtain ⟨e, he, rfl⟩ := List.mem_map.1 hmem
    refine ⟨e, he, isDeclared_eq_false_iff.1 (by simpa using List.find?_some hkey), ?_⟩
    rw [hread, if_pos (hwritable e he)]
  · obtain ⟨e, he, hundeclared⟩ := hunknown
    exact absurd (hdeclared e he) hundeclared

end AnyKeys

/-- A section is a mapping, in the sense of `HasSection`, or `readSection` reports that it is
none. -/
theorem Configuration.hasSection_or_invalid (c : Configuration) (name : String)
    (fields : List FieldSpec) : (∃ entries, c.HasSection name entries) ∨
      c.readSection name (.record fields) = invalid name "section must be a mapping" := by
  rw [readSection]
  cases hget : c.get? name with
  | none => exact Or.inl ⟨[], Or.inl ⟨hget, rfl⟩⟩
  | some v =>
    by_cases hmap : v.isMap = true
    · exact Or.inl ⟨v.entries, Or.inr ⟨v, hget, hmap, rfl⟩⟩
    · exact Or.inr (if_neg hmap)

/-- A `failure` of `readSection` that is no fault is a failure of `readRecord`. -/
theorem Configuration.readSection_eq_error_iff {c : Configuration} {name : String}
    {fields : List FieldSpec} {failure : Failure} (hfailure : failure.isConfigFault = false) :
    c.readSection name (.record fields) = .error failure ↔ ∃ entries,
      c.HasSection name entries ∧ readRecord name fields entries = .error failure := by
  constructor
  · intro h
    rcases c.hasSection_or_invalid name fields with ⟨entries, hs⟩ | hinvalid
    · exact ⟨entries, hs, (readSection_eq_readRecord hs).symm.trans h⟩
    · cases h.symm.trans hinvalid
      cases hfailure
  · rintro ⟨entries, hs, h⟩
    rw [readSection_eq_readRecord hs, h]

/-- `readSection` fails with a fault about the configuration, unless two of the keys have no common
order (`unorderedKeys`), or the first key in order is an integer that is too long to be written
(`unwritableInteger`). Among keys that have a common order and can be written, an unknown one of
whatever kind is reported. -/
theorem readSection_failures (c : Configuration) (name : String) (fields : List FieldSpec) :
    (c.readSection name (.record fields) = .error .unorderedKeys ↔ ∃ entries,
      c.HasSection name entries ∧ ∃ d ∈ entries, ∃ e ∈ entries, d.1.orderClass ≠ e.1.orderClass) ∧
    (c.readSection name (.record fields) = .error .unwritableInteger ↔ ∃ entries,
      c.HasSection name entries ∧ ∃ n keys,
        Scalar.sorted? (entries.map Prod.fst) = some (.int n :: keys) ∧
          10 ^ maxDigits ≤ n.natAbs) ∧
    (∀ failure, c.readSection name (.record fields) = .error failure →
      failure.isConfigFault = true ∨ failure = .unorderedKeys ∨ failure = .unwritableInteger) ∧
    (∀ entries, c.HasSection name entries →
      (∀ d ∈ entries, ∀ e ∈ entries, d.1.orderClass = e.1.orderClass) →
      (∀ e ∈ entries, e.1.isWritable = true) → (∃ e ∈ entries, ¬ Declared fields e.1) →
      ∃ e ∈ entries, ¬ Declared fields e.1 ∧ c.readSection name (.record fields) =
        invalid s!"{name}.{e.1.plain}" (unknownKeyReason (fields.map FieldSpec.name))) := by
  refine ⟨?_, ?_, fun failure h => ?_, ?_⟩
  · rw [Configuration.readSection_eq_error_iff rfl]
    simp only [readRecord_eq_unorderedKeys_iff]
  · rw [Configuration.readSection_eq_error_iff rfl]
    simp only [readRecord_eq_unwritableInteger_iff]
  · rcases c.hasSection_or_invalid name fields with ⟨entries, hs⟩ | hinvalid
    · rw [Configuration.readSection_eq_readRecord hs] at h
      exact isConfigFault_of_readRecord h
    · cases h.symm.trans hinvalid
      exact Or.inl rfl
  · intro entries hs hsame hwritable hunknown
    rw [Configuration.readSection_eq_readRecord hs]
    exact readRecord_of_ordered hsame hwritable hunknown

/-- A section with a number for a key. -/
def numbered : Configuration where
  root := .map 0 [(.text "output", .map 1 [(.int 1, .text "a")])]
  next := 2

/-- In the section `numbered` the number among no other keys is reported. -/
theorem number_reported_alone :
    numbered.HasSection "output" [(.int 1, .text "a")] ∧
      numbered.readSection "output" (.record []) =
        .error (.fault (.configInvalid "output.1" "unknown key (expected one of [])")) := by
  have hsection : numbered.HasSection "output" [(.int 1, .text "a")] :=
    Or.inr ⟨_, by rw [Configuration.get?, dottedPath_of_no_dot (by decide)]; rfl, rfl, rfl⟩
  obtain ⟨e, he, -, hread⟩ := (readSection_failures numbered "output" []).2.2.2 _ hsection
    (by simp) (by decide +kernel) ⟨_, List.mem_singleton_self _, by simp [Declared]⟩
  obtain rfl := List.mem_singleton.1 he
  have hkey : "output" ++ "." ++ (Scalar.int 1).plain = "output.1" := by decide +kernel
  have hreason : unknownKeyReason [] = "unknown key (expected one of [])" := by decide +kernel
  refine ⟨hsection, hread.trans ?_⟩
  rw [List.map_nil, hreason]
  exact congrArg (invalid · _) hkey

/-- Files whose documents have a section with keys of two classes. -/
def mixedFiles : FileSystem where
  root := .directory [("c.yaml", .file "output: {1: a, registry_class: B}\n".toUTF8)]
  workingDirectory := []

/-- The configuration of the document. -/
def mixed : Configuration := (Configuration.mergeFile mixedFiles { names := ["c.yaml"] } {}).2

/-- In the section of `mixed` a number has no common order with the text beside it, and no fault
reports it. -/
theorem mixed_keys_unreported : mixed.Reachable ∧
    failsWith (!Failure.isConfigFault ·) (mixed.readSection "output" outputShape) = true :=
  ⟨.mergeFile .empty mixedFiles _ defaultDepth, by decide +kernel⟩

end Config

end FactoryRegistry
