import FactoryRegistry.Config.Section
import FactoryRegistry.Proofs.Value.OfJson
import FactoryRegistry.Proofs.Value.Order

/-!
# Sections that are read again

A section that has every field of a record, each with a value of its type, is read as these values
(`readRecord_of_complete`). The views of `AotOptions` and `OutputSettings` are such sections, so a
configuration made of the two has the same options and settings (`aotOptions_ofViews`,
`outputSettings_ofViews`).
-/

namespace FactoryRegistry

theorem mapM_eq_ok {ε α β : Type} {f : α → Except ε β} {g : α → β} {as : List α}
    (h : ∀ a ∈ as, f a = .ok (g a)) : as.mapM f = .ok (as.map g) := by
  induction as with
  | nil => rfl
  | cons a as ih =>
    obtain ⟨ha, has⟩ := List.forall_mem_cons.1 h
    rw [List.mapM_cons, ha, ih has]
    rfl

namespace Config

/-- The entries of a section that has a value for each of some fields. -/
def completeEntries (cells : List (FieldSpec × Value)) : List (Scalar × Value) :=
  cells.map fun c => (.text c.1.name, c.2)

/-- `lookup` finds the value of each field, where no two fields have one name. -/
theorem lookup_completeEntries {cells : List (FieldSpec × Value)} {c : FieldSpec × Value}
    (hnodup : (cells.map (·.1.name)).Nodup) (hc : c ∈ cells) :
    Value.lookup (.text c.1.name) (completeEntries cells) = some c.2 := by
  induction cells with
  | nil => cases hc
  | cons d cells ih =>
    obtain ⟨hnew, hnodup⟩ := List.nodup_cons.1 hnodup
    rw [completeEntries, List.map_cons, Value.lookup, Scalar.sameKey_text]
    obtain rfl | hc := List.mem_cons.1 hc
    · rw [if_pos BEq.rfl]
    · have hne : d.1.name ≠ c.1.name := fun h => hnew (List.mem_map.2 ⟨c, hc, h.symm⟩)
      rw [if_neg (by simpa using hne)]
      exact ih hnodup hc

/-- A section that has a value of the right type for every field, and nothing else, is read by
`readRecord` as these values. -/
theorem readRecord_of_complete (cells : List (FieldSpec × Value)) (sectionName : String)
    (hnodup : (cells.map (·.1.name)).Nodup)
    (haccepts : ∀ c ∈ cells, c.1.type.accepts c.2 = true) :
    readRecord sectionName (cells.map Prod.fst) (completeEntries cells) =
      .ok (cells.map fun c => (c.1.name, c.2)) := by
  have hkeys : (completeEntries cells).map Prod.fst = (cells.map (·.1.name)).map .text := by
    simp [completeEntries]
  obtain ⟨keys, hsorted, htexts⟩ := Scalar.exists_sorted?_texts (cells.map (·.1.name))
  -- every key is declared
  have hknown : keys.find? (fun k => !isDeclared (cells.map Prod.fst) k) = none := by
    rw [List.find?_eq_none]
    intro k hk
    obtain ⟨name, hname, rfl⟩ := htexts k hk
    obtain ⟨c, hc, rfl⟩ := List.mem_map.1 hname
    simp only [isDeclared, Bool.not_eq_true', Bool.not_eq_false, List.any_map, List.any_eq_true]
    exact ⟨c, hc, BEq.rfl⟩
  -- and every declared field has a key with a value of its type
  have hfields : (cells.map Prod.fst).mapM (readField sectionName (completeEntries cells)) =
      .ok (cells.map fun c => (c.1.name, c.2)) := by
    rw [List.mapM_map]
    refine mapM_eq_ok fun c hc => ?_
    simp [readField, lookup_completeEntries hnodup hc, haccepts c hc]
  rw [readRecord, hkeys, hsorted]
  simp only [hknown]
  exact hfields

/-! ## Options and settings -/

theorem dottedPath_of_no_dot {path : String} (h : '.' ∉ path.toList) :
    Configuration.dottedPath path = [path] := by
  rw [Configuration.dottedPath, Text.pieces_eq_singleton h]
  simp

/-- `readSection` reads a record from the entries of the mapping that `get?` finds. -/
theorem readSection_of_get? {c : Configuration} {name : String} {found : Value}
    (hfound : c.get? name = some found) (hmap : found.isMap = true) (fields : List FieldSpec) :
    c.readSection name (.record fields) = readRecord name fields found.entries := by
  simp [Configuration.readSection, hfound, hmap]

/-- The configuration whose data are the views of options and settings. -/
def ofViews (label next : Nat) (options : AotOptions) (output : OutputSettings) : Configuration :=
  { root := (Value.ofJson label (.object [("aot", options.view), ("output", output.view)])).1
    next }

/-- The fields of the options with their values. -/
def aotCells (options : AotOptions) : List (FieldSpec × Value) :=
  options.flags.map fun (name, b) =>
    (⟨name, .kind .bool, Kind.bool.name, some (.scalar (.bool false))⟩, .scalar (.bool b))

/-- The options are read back from their view. -/
theorem aotOptions_ofViews (label next : Nat) (options : AotOptions) (output : OutputSettings) :
    (ofViews label next options output).aotOptions = .ok options := by
  -- the section is found first in the data, labelled after the whole
  have hsection : (ofViews label next options output).get? "aot" =
      some (Value.ofJson (label + 1) options.view).1 := by
    rw [Configuration.get?, dottedPath_of_no_dot (by decide), ofViews, Configuration.valueAt?,
      Value.get?, Value.entries_ofJson_object]
    simp [Configuration.valueAt?, Value.ofMembers, Value.lookup]
  have hentries : (Value.ofJson (label + 1) options.view).1.entries =
      completeEntries (aotCells options) := by
    rw [AotOptions.view, Value.entries_ofJson_object]
    simp [AotOptions.flags, Value.ofJson, Value.ofMembers, completeEntries, aotCells]
  have hread := readRecord_of_complete (aotCells options) "aot"
    (by simp [aotCells, AotOptions.flags])
    (by simp [aotCells, AotOptions.flags, FieldType.accepts, FieldType.passes, Value.kind])
  have hshape : aotShape = .record ((aotCells options).map Prod.fst) := rfl
  rw [Configuration.aotOptions, hshape, readSection_of_get? hsection rfl, hentries, hread]
  simp [Except.map, flagOf, aotCells, AotOptions.flags, List.lookup_cons]

/-- The fields of the settings with their values. -/
def outputCells (output : OutputSettings) : List (FieldSpec × Value) :=
  (output.fields.zip (OutputSettings.fields {})).map fun (field, default) =>
    (⟨field.1, .kind .text, Kind.text.name, some (.text default.2)⟩, .text field.2)

/-- The settings are read back from their view. -/
theorem outputSettings_ofViews (label next : Nat) (options : AotOptions) (output : OutputSettings) :
    (ofViews label next options output).outputSettings = .ok output := by
  -- the section is found behind the other one, labelled after it
  have hsection : (ofViews label next options output).get? "output" =
      some (Value.ofJson (label + 2) output.view).1 := by
    rw [Configuration.get?, dottedPath_of_no_dot (by decide), ofViews, Configuration.valueAt?,
      Value.get?, Value.entries_ofJson_object]
    simp [Configuration.valueAt?, AotOptions.view, AotOptions.flags, Value.ofJson, Value.ofMembers,
      Value.lookup]
  have hentries : (Value.ofJson (label + 2) output.view).1.entries =
      completeEntries (outputCells output) := by
    rw [OutputSettings.view, Value.entries_ofJson_object]
    simp [OutputSettings.fields, Value.ofJson, Value.ofMembers, completeEntries, outputCells]
  have hread := readRecord_of_complete (outputCells output) "output"
    (by simp [outputCells, OutputSettings.fields])
    (by simp [outputCells, OutputSettings.fields, FieldType.accepts, FieldType.passes, Value.kind,
      Value.text])
  have hshape : outputShape = .record ((outputCells output).map Prod.fst) := rfl
  rw [Configuration.outputSettings, hshape, readSection_of_get? hsection rfl, hentries, hread]
  simp [Except.map, textOf, outputCells, OutputSettings.fields, List.lookup_cons, Value.text]

end Config

end FactoryRegistry
