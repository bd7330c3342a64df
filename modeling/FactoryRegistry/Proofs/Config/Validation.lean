import FactoryRegistry.Proofs.Config.FieldType
import FactoryRegistry.Proofs.Config.Section

/-!
# Which sections a record accepts

Reading a record comes to one of three things (`readRecord_cases`): its keys have no common order,
or the first unknown key in order is reported, or else the fields are read, up to the first one that
is missing or has a value of another type (`mapM_readField_eq_error_iff`).

A section whose keys are texts is read exactly if every key is a field, every field without a
default is there and every value is one of its field's type (`readSection_iff_well_typed`).
-/

namespace FactoryRegistry.Config

open Value

/-! ## Fields -/

namespace FieldSpec

/-- A field has a value of its type, or it is left out and has a default. -/
structure Satisfied (f : FieldSpec) (entries : List (Scalar × Value)) : Prop where
  /-- A value that is there is one of the field's type. -/
  admits : ∀ v, lookup (.text f.name) entries = some v → f.type.Admits v
  /-- A field that is left out has a default. -/
  optional : lookup (.text f.name) entries = none → f.default.isSome = true

/-- The value of a field, from the section or else the default. -/
def valueIn (f : FieldSpec) (entries : List (Scalar × Value)) : Value :=
  ((lookup (.text f.name) entries).or f.default).getD .null

/-- What is reported of a field that is missing, or whose value is of another type. -/
def fault (sectionName : String) (f : FieldSpec) (entries : List (Scalar × Value)) : Fault :=
  match lookup (.text f.name) entries with
  | none => .configMissing s!"{sectionName}.{f.name}"
  | some v => .configInvalid s!"{sectionName}.{f.name}" s!"expected {f.shown}, got {v.kind.name}"

end FieldSpec

section Fields

variable {sectionName : String} {entries : List (Scalar × Value)} {f : FieldSpec}

/-- `readField` takes the value of a field that is `Satisfied`, or its default. -/
theorem readField_of_satisfied (h : f.Satisfied entries) :
    readField sectionName entries f = .ok (f.name, f.valueIn entries) := by
  rw [readField, FieldSpec.valueIn]
  cases hfound : lookup (.text f.name) entries with
  | some v =>
    have haccepts : f.type.accepts v = true := (FieldType.accepts_iff v _).2 (h.admits v hfound)
    simp [haccepts]
  | none =>
    obtain ⟨v, hv⟩ := Option.isSome_iff_exists.1 (h.optional hfound)
    simp [hv]

/-- `readField` reports a field that is not `Satisfied`. -/
theorem readField_of_not_satisfied (h : ¬ f.Satisfied entries) :
    readField sectionName entries f = .error (.fault (f.fault sectionName entries)) := by
  rw [readField, FieldSpec.fault]
  cases hfound : lookup (.text f.name) entries with
  | some v =>
    have haccepts : f.type.accepts v = false := by
      rw [← Bool.not_eq_true]
      intro haccepts
      refine h ⟨fun w hw => ?_, fun hnone => ?_⟩
      · obtain rfl := Option.some.inj (hfound.symm.trans hw)
        exact (FieldType.accepts_iff v _).1 haccepts
      · cases hfound.symm.trans hnone
    simp [haccepts, invalid]
  | none =>
    cases hdefault : f.default with
    | some v =>
      refine absurd (FieldSpec.Satisfied.mk (fun w hw => ?_) fun _ => ?_) h
      · cases hfound.symm.trans hw
      · rw [hdefault]
        rfl
    | none => rfl

/-- The first field that is missing, or whose value is of another type. -/
def FirstUnsatisfied (fields : List FieldSpec) (entries : List (Scalar × Value)) (f : FieldSpec) :
    Prop :=
  ∃ before after, fields = before ++ f :: after ∧ (∀ g ∈ before, g.Satisfied entries) ∧
    ¬ f.Satisfied entries

/-- All fields are `Satisfied`, or there is a first one that is not. -/
theorem satisfied_or_firstUnsatisfied (fields : List FieldSpec)
    (entries : List (Scalar × Value)) :
    (∀ f ∈ fields, f.Satisfied entries) ∨ ∃ f, FirstUnsatisfied fields entries f := by
  induction fields with
  | nil => exact Or.inl fun _ hf => nomatch hf
  | cons f fields ih =>
    by_cases hf : f.Satisfied entries
    · refine ih.imp (fun h => List.forall_mem_cons.2 ⟨hf, h⟩) ?_
      rintro ⟨g, before, after, rfl, hbefore, hg⟩
      exact ⟨g, f :: before, after, rfl, List.forall_mem_cons.2 ⟨hf, hbefore⟩, hg⟩
    · exact Or.inr ⟨f, [], fields, rfl, List.forall_mem_nil _, hf⟩

theorem FirstUnsatisfied.not_satisfied {fields : List FieldSpec}
    (h : FirstUnsatisfied fields entries f) : ¬ ∀ g ∈ fields, g.Satisfied entries := by
  obtain ⟨before, after, rfl, -, hf⟩ := h
  exact fun hall => hf (hall f (List.mem_append_right _ List.mem_cons_self))

theorem mapM_readField_of_satisfied {fields : List FieldSpec}
    (h : ∀ f ∈ fields, f.Satisfied entries) :
    fields.mapM (readField sectionName entries) =
      .ok (fields.map fun f => (f.name, f.valueIn entries)) :=
  mapM_eq_ok fun f hf => readField_of_satisfied (h f hf)

/-- The fields are read in order up to the `FirstUnsatisfied` one. -/
theorem mapM_readField_of_firstUnsatisfied {fields : List FieldSpec}
    (h : FirstUnsatisfied fields entries f) :
    fields.mapM (readField sectionName entries) =
      .error (.fault (f.fault sectionName entries)) := by
  obtain ⟨before, after, rfl, hbefore, hf⟩ := h
  rw [List.mapM_append, List.mapM_cons, readField_of_not_satisfied hf,
    mapM_readField_of_satisfied hbefore]
  rfl

/-- The fields are read exactly if all are `Satisfied`. -/
theorem mapM_readField_eq_ok_iff {fields : List FieldSpec} {r : Config.Fields} :
    fields.mapM (readField sectionName entries) = .ok r ↔
      (∀ f ∈ fields, f.Satisfied entries) ∧
        r = fields.map fun f => (f.name, f.valueIn entries) := by
  rcases satisfied_or_firstUnsatisfied fields entries with hall | ⟨f, hf⟩
  · rw [mapM_readField_of_satisfied hall, Except.ok.injEq, and_iff_right hall, eq_comm]
  · rw [mapM_readField_of_firstUnsatisfied hf]
    exact iff_of_false nofun fun h => hf.not_satisfied h.1

/-- Reading the fields fails exactly with the fault of the `FirstUnsatisfied` one. -/
theorem mapM_readField_eq_error_iff {fields : List FieldSpec} {failure : Failure} :
    fields.mapM (readField sectionName entries) = .error failure ↔
      ∃ f, FirstUnsatisfied fields entries f ∧ failure = .fault (f.fault sectionName entries) := by
  constructor
  · intro h
    rcases satisfied_or_firstUnsatisfied fields entries with hall | ⟨f, hf⟩
    · rw [mapM_readField_of_satisfied hall] at h
      cases h
    · rw [mapM_readField_of_firstUnsatisfied hf, Except.error.injEq] at h
      exact ⟨f, hf, h.symm⟩
  · rintro ⟨f, hf, rfl⟩
    exact mapM_readField_of_firstUnsatisfied hf

end Fields

/-! ## Keys -/

/-- A key is the name of a field. -/
def Declared (fields : List FieldSpec) (key : Scalar) : Prop :=
  ∃ f ∈ fields, key = .text f.name

section Keys

variable {sectionName : String} {fields : List FieldSpec} {entries : List (Scalar × Value)}
  {sorted : List Scalar} {key : Scalar}

theorem isDeclared_iff : isDeclared fields key = true ↔ Declared fields key := by
  cases key with
  | text name =>
    simp only [isDeclared, Declared, List.any_eq_true, beq_iff_eq, Scalar.text.injEq,
      eq_comm (a := name)]
  | _ => simp [isDeclared, Declared]

theorem isDeclared_eq_false_iff : isDeclared fields key = false ↔ ¬ Declared fields key := by
  rw [← isDeclared_iff, Bool.not_eq_true]

/-- `readRecord` fails where the keys have no common order. -/
theorem readRecord_of_unordered (h : Scalar.sorted? (entries.map Prod.fst) = none) :
    readRecord sectionName fields entries = .error .unorderedKeys := by
  rw [readRecord, h]
  rfl

/-- `readRecord` reports the first key in order that is no field, if it can be written. -/
theorem readRecord_of_unknown (hsorted : Scalar.sorted? (entries.map Prod.fst) = some sorted)
    (hkey : sorted.find? (fun k => !isDeclared fields k) = some key) :
    readRecord sectionName fields entries =
      if key.isWritable then
        invalid s!"{sectionName}.{key.plain}" (unknownKeyReason (fields.map FieldSpec.name))
      else .error .unwritableInteger := by
  rw [readRecord, hsorted]
  simp only [hkey]
  rw [Value.written, Value.isWritable, Value.plain]
  by_cases hwritable : key.isWritable = true
  · rw [if_pos hwritable, if_pos hwritable]
    rfl
  · rw [if_neg hwritable, if_neg hwritable]
    rfl

/-- `readRecord` reads the fields where every key is one. -/
theorem readRecord_of_declared (hsorted : Scalar.sorted? (entries.map Prod.fst) = some sorted)
    (hkeys : sorted.find? (fun k => !isDeclared fields k) = none) :
    readRecord sectionName fields entries =
      fields.mapM (readField sectionName entries) := by
  rw [readRecord, hsorted]
  simp only [hkeys]

/-- What `readRecord` comes to: the keys have no common order, or the first unknown one is reported,
or else the fields are read. -/
theorem readRecord_cases (sectionName : String) (fields : List FieldSpec)
    (entries : List (Scalar × Value)) :
    (Scalar.sorted? (entries.map Prod.fst) = none ∧
        readRecord sectionName fields entries = .error .unorderedKeys) ∨
      ∃ sorted, Scalar.sorted? (entries.map Prod.fst) = some sorted ∧
        ((∃ key, sorted.find? (fun k => !isDeclared fields k) = some key ∧
            readRecord sectionName fields entries =
              if key.isWritable then
                invalid s!"{sectionName}.{key.plain}" (unknownKeyReason (fields.map FieldSpec.name))
              else .error .unwritableInteger) ∨
          (∀ e ∈ entries, Declared fields e.1) ∧
            readRecord sectionName fields entries =
              fields.mapM (readField sectionName entries)) := by
  cases hsorted : Scalar.sorted? (entries.map Prod.fst) with
  | none => exact Or.inl ⟨rfl, readRecord_of_unordered hsorted⟩
  | some sorted =>
    refine Or.inr ⟨sorted, rfl, ?_⟩
    cases hkey : sorted.find? (fun k => !isDeclared fields k) with
    | some key => exact Or.inl ⟨key, rfl, readRecord_of_unknown hsorted hkey⟩
    | none =>
      refine Or.inr ⟨fun e he => ?_, readRecord_of_declared hsorted hkey⟩
      have hmem := (Scalar.mem_sorted? hsorted).2 (List.mem_map_of_mem he)
      simpa [isDeclared_iff] using List.find?_eq_none.1 hkey e.1 hmem

end Keys

/-! ## Sections whose keys are texts -/

namespace Configuration

variable {c : Configuration} {name : String} {fields : List FieldSpec}
  {entries : List (Scalar × Value)}

/-- The section of a name has these entries; one that is not there has none. -/
def HasSection (c : Configuration) (name : String) (entries : List (Scalar × Value)) : Prop :=
  (c.get? name = none ∧ entries = []) ∨
    ∃ found, c.get? name = some found ∧ found.isMap = true ∧ found.entries = entries

/-- `readSection` reads the record from the entries of the section. -/
theorem readSection_eq_readRecord (h : c.HasSection name entries) :
    c.readSection name (.record fields) = readRecord name fields entries := by
  rcases h with ⟨h, rfl⟩ | ⟨found, h, hmap, rfl⟩
  · rw [readSection, h]
    rfl
  · exact readSection_of_get? h hmap fields

end Configuration

section Texts

variable {name : String} {fields : List FieldSpec} {entries : List (Scalar × Value)}

/-- In a list in order, what `find?` finds first is the least. -/
theorem le_of_find?_eq_some {names : List String} {p : String → Bool} {s t : String}
    (hsorted : names.Pairwise (· ≤ ·)) (hfind : names.find? p = some s) (ht : t ∈ names)
    (hp : p t = true) : s ≤ t := by
  obtain ⟨-, before, after, rfl, hbefore⟩ := List.find?_eq_some_iff_append.1 hfind
  obtain ⟨-, hafter, -⟩ := List.pairwise_append.1 hsorted
  obtain hmem | rfl | hmem : t ∈ before ∨ t = s ∨ t ∈ after := by simpa using ht
  · have hnot := hbefore t hmem
    rw [hp] at hnot
    cases hnot
  · exact String.le_refl t
  · exact (List.pairwise_cons.1 hafter).1 t hmem

/-- Keys that are texts have a common order, that of their names. -/
theorem exists_sorted?_keys (hkeys : ∀ e ∈ entries, ∃ s, e.1 = .text s) :
    ∃ names : List String, Scalar.sorted? (entries.map Prod.fst) = some (names.map .text) ∧
      names.Pairwise (· ≤ ·) ∧ ∀ s, s ∈ names ↔ ∃ e ∈ entries, e.1 = .text s := by
  have htexts : ∀ k ∈ entries.map Prod.fst, ∃ s, k = .text s := List.forall_mem_map.2 hkeys
  obtain ⟨names, hnames⟩ := Scalar.exists_texts htexts
  refine ⟨names.mergeSort (· ≤ ·), by rw [hnames, Scalar.sorted?_texts],
    Scalar.pairwise_mergeSort_texts names, fun s => ?_⟩
  rw [List.mem_mergeSort]
  have hmem : Scalar.text s ∈ entries.map Prod.fst ↔ s ∈ names := by rw [hnames]; simp
  rw [← hmem, List.mem_map]

/-- The least key, in the order of code points, that is no field. -/
structure LeastUnknown (fields : List FieldSpec) (entries : List (Scalar × Value)) (s : String) :
    Prop where
  /-- It is a key. -/
  mem : ∃ e ∈ entries, e.1 = .text s
  /-- It is no field. -/
  unknown : ¬ Declared fields (.text s)
  /-- Every other such key is greater. -/
  least : ∀ e ∈ entries, ∀ t, e.1 = .text t → ¬ Declared fields (.text t) → s ≤ t

/-- There is one `LeastUnknown` key at most. -/
theorem LeastUnknown.unique {s t : String} (hs : LeastUnknown fields entries s)
    (ht : LeastUnknown fields entries t) : s = t := by
  obtain ⟨d, hd, hdkey⟩ := hs.mem
  obtain ⟨e, he, hekey⟩ := ht.mem
  exact String.le_antisymm (hs.least e he t hekey ht.unknown) (ht.least d hd s hdkey hs.unknown)

theorem LeastUnknown.not_declared {s : String} (h : LeastUnknown fields entries s) :
    ¬ ∀ e ∈ entries, Declared fields e.1 := by
  obtain ⟨e, he, hkey⟩ := h.mem
  exact fun hall => h.unknown (hkey ▸ hall e he)

/-- `readRecord` reports the `LeastUnknown` key. If there is none, it reads the fields. -/
theorem readRecord_of_texts (name : String) (fields : List FieldSpec)
    (hkeys : ∀ e ∈ entries, ∃ s, e.1 = .text s) :
    ((∀ e ∈ entries, Declared fields e.1) ∧
        readRecord name fields entries = fields.mapM (readField name entries)) ∨
      ∃ s, LeastUnknown fields entries s ∧
        readRecord name fields entries =
          invalid s!"{name}.{s}" (unknownKeyReason (fields.map FieldSpec.name)) := by
  obtain ⟨names, hnames, hpairs, hmem⟩ := exists_sorted?_keys hkeys
  rcases readRecord_cases name fields entries with
    ⟨hnone, -⟩ | ⟨sorted, hsorted, ⟨key, hkey, hread⟩ | hfields⟩
  · cases hnone.symm.trans hnames
  · -- the key that is found first is a text, and the least one since the texts are in order
    obtain rfl : names.map .text = sorted := Option.some.inj (hnames.symm.trans hsorted)
    rw [List.find?_map] at hkey
    obtain ⟨s, hfirst, rfl⟩ := Option.map_eq_some_iff.1 hkey
    have hs : isDeclared fields (.text s) = false := by simpa using List.find?_some hfirst
    refine Or.inr ⟨s, ⟨?_, isDeclared_eq_false_iff.1 hs, ?_⟩, hread⟩
    · exact (hmem s).1 (List.mem_of_find?_eq_some hfirst)
    · intro e he t ht hunknown
      exact le_of_find?_eq_some hpairs hfirst ((hmem t).2 ⟨e, he, ht⟩)
        (by simpa using isDeclared_eq_false_iff.2 hunknown)
  · exact Or.inl hfields

/-- Where every key is `Declared`, `readRecord` reads the fields. -/
theorem readRecord_of_all_declared (name : String) (h : ∀ e ∈ entries, Declared fields e.1) :
    readRecord name fields entries = fields.mapM (readField name entries) := by
  have hkeys : ∀ e ∈ entries, ∃ s, e.1 = .text s := by
    intro e he
    obtain ⟨f, -, hkey⟩ := h e he
    exact ⟨f.name, hkey⟩
  rcases readRecord_of_texts name fields hkeys with ⟨-, hread⟩ | ⟨s, hs, -⟩
  · exact hread
  · exact absurd h hs.not_declared

end Texts

/-- A section whose keys are texts is read exactly if every key is a field, every field without a
default is there and every value is one of its field's type; then the record has the values of the
section, and the defaults for the rest. Otherwise the least unknown key is reported, or if there is
none the first field that is missing or has a value of another type. A truth value is one of no type
but that of truth values, that of all values and the unions that have one of these, and `null` alone
is one of the type of no value. -/
theorem readSection_iff_well_typed {c : Configuration} {name : String}
    {entries : List (Scalar × Value)} (fields : List FieldSpec)
    (hsection : c.HasSection name entries)
    (hkeys : ∀ e ∈ entries, ∃ s, e.1 = .text s) :
    (∀ r, c.readSection name (.record fields) = .ok r ↔
      (∀ e ∈ entries, Declared fields e.1) ∧ (∀ f ∈ fields, f.Satisfied entries) ∧
        r = fields.map fun f => (f.name, f.valueIn entries)) ∧
    (∀ failure, c.readSection name (.record fields) = .error failure ↔
      (∃ s, LeastUnknown fields entries s ∧ failure =
        .fault (.configInvalid s!"{name}.{s}" (unknownKeyReason (fields.map FieldSpec.name)))) ∨
      (∀ e ∈ entries, Declared fields e.1) ∧
        ∃ f, FirstUnsatisfied fields entries f ∧ failure = .fault (f.fault name entries)) ∧
    (∀ (b : Bool) (t : FieldType), t.Admits (.scalar (.bool b)) ↔
      FieldType.any.ArmOf t ∨ (FieldType.kind .bool).ArmOf t) ∧
    (∀ v : Value, (FieldType.kind .null).Admits v ↔ v = .null) := by
  -- the cases of `readRecord_of_texts`, once for success and once for failure
  rw [Configuration.readSection_eq_readRecord hsection]
  refine ⟨fun r => ?_, fun failure => ?_, fun b t => FieldType.admits_bool_iff b,
    fun v => FieldType.admits_null_iff⟩
  · rcases readRecord_of_texts name fields hkeys with
      ⟨hdeclared, hread⟩ | ⟨s, hs, hread⟩
    · rw [hread, mapM_readField_eq_ok_iff, and_iff_right hdeclared]
    · rw [hread]
      exact iff_of_false nofun fun h => hs.not_declared h.1
  · rcases readRecord_of_texts name fields hkeys with
      ⟨hdeclared, hread⟩ | ⟨s, hs, hread⟩
    · rw [hread, mapM_readField_eq_error_iff, and_iff_right hdeclared]
      exact ⟨Or.inr, fun h => h.resolve_left fun ⟨s, hs, _⟩ => hs.not_declared hdeclared⟩
    · rw [hread, invalid, Except.error.injEq]
      constructor
      · rintro rfl
        exact Or.inl ⟨s, hs, rfl⟩
      · rintro (⟨t, ht, rfl⟩ | ⟨hdeclared, -⟩)
        · rw [hs.unique ht]
        · exact absurd hdeclared hs.not_declared

/-- A number that may be left out. -/
def countField : FieldSpec where
  name := "count"
  type := .union [.kind .int, .kind .null]
  shown := "Optional"
  default := some .null

/-- A section with a truth value for the number. -/
def flaggedCount : Configuration where
  root := .map 0 [(.text "limits", .map 1 [(.text "count", .scalar (.bool true))])]
  next := 2

/-- The truth value of `flaggedCount` is refused for a count. -/
theorem flag_is_no_count :
    flaggedCount.HasSection "limits" [(.text "count", .scalar (.bool true))] ∧
      flaggedCount.readSection "limits" (.record [countField]) =
        .error (.fault (.configInvalid "limits.count" "expected Optional, got bool")) := by
  have hsection : flaggedCount.HasSection "limits" [(.text "count", .scalar (.bool true))] :=
    Or.inr ⟨_, by rw [Configuration.get?, dottedPath_of_no_dot (by decide)]; rfl, rfl, rfl⟩
  have hkeys : ∀ e ∈ [(Scalar.text "count", Value.scalar (.bool true))], ∃ s, e.1 = .text s := by
    simp
  have hdeclared : ∀ e ∈ [(Scalar.text "count", Value.scalar (.bool true))],
      Declared [countField] e.1 := by
    simp [Declared, countField]
  -- neither an integer nor `null`, so it is of no arm of the type
  have hill : ¬ countField.Satisfied [(.text "count", .scalar (.bool true))] := by
    intro h
    have hadmits := h.admits (.scalar (.bool true)) rfl
    rw [← FieldType.accepts_iff] at hadmits
    cases hadmits
  refine ⟨hsection, ((readSection_iff_well_typed [countField] hsection hkeys).2.1 _).2 ?_⟩
  exact Or.inr ⟨hdeclared, countField, ⟨[], [], rfl, List.forall_mem_nil _, hill⟩, rfl⟩

end FactoryRegistry.Config
