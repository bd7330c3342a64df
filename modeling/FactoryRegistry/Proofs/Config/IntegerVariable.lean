import FactoryRegistry.Proofs.Config.Reachable
import FactoryRegistry.Proofs.Config.Validation
import FactoryRegistry.Proofs.Config.VariableName

/-!
# Integers in variables

A variable that is written as an integer stands for it, unless it is 0 or 1: these two are truth
words (`coerce_intText`). So a field of integers takes every other integer from a variable, and
refuses a variable that is 0 or 1 (`integer_variable_read`).

A variable of a section sets its key among the entries of the section, and maybe changes mappings in
them that stand at several places or hold the section; these stay mappings, so the other fields are
as they were (`SetIn`, `mergeVariables_section`).
-/

namespace FactoryRegistry.Config

open Number Text Value

/-! ## What an integer stands for -/

theorem lowercase_strip_intText (n : Int) : lowercase (strip (intText n)) = intText n := by
  have hblank : ∀ c ∈ (intText n).toList, isBlank c = false :=
    forall_mem_intText (p := (isBlank · = false)) (by decide) (by decide) n
  have hascii : ∀ c ∈ (intText n).toList, c.toNat < 0x80 :=
    forall_mem_intText (p := (·.toNat < 0x80)) (by decide) (by decide) n
  have hlower : ∀ c ∈ (intText n).toList, c.toLower = id c :=
    forall_mem_intText (p := fun c => c.toLower = id c) (by decide) (by decide) n
  rw [strip, stripWhere_eq_self hblank, String.ofList_toList, lowercase,
    lowercaseFrom_of_ascii hascii, List.map_congr_left hlower, List.map_id, String.ofList_toList]

/-- `intText n` is made of digits and the sign, so it is no `word` with another character in it. -/
theorem intText_ne_word (n : Int) {word : String}
    (h : word.toList.all (fun c => isAsciiDigit c || c == '-') = false) : intText n ≠ word := by
  rintro rfl
  have hall : (intText n).toList.all (fun c => isAsciiDigit c || c == '-') = true :=
    List.all_eq_true.2 (forall_mem_intText
      (p := fun c => (isAsciiDigit c || c == '-') = true) (by decide) (by decide) n)
  rw [h] at hall
  cases hall

/-- Of the integers `readTruth?` takes only 0 and 1 for truth words. -/
theorem readTruth?_intText {n : Int} (h : (decimal n.natAbs).length ≤ maxDigits) :
    readTruth? (intText n) = if n = 0 then some false else if n = 1 then some true else none := by
  have hone : intText n = "1" ↔ n = 1 := by
    have htext : intText 1 = "1" := by decide +kernel
    rw [← htext]
    exact intText_eq_iff h (by decide +kernel)
  have hzero : intText n = "0" ↔ n = 0 := by
    have htext : intText 0 = "0" := by decide +kernel
    rw [← htext]
    exact intText_eq_iff h (by decide +kernel)
  -- the other words have letters in them
  have htrue : intText n ∈ trueWords ↔ n = 1 := by
    rw [← hone]
    have hother : ∀ w ∈ ["true", "yes", "on"], intText n ≠ w := fun w hw =>
      intText_ne_word n (by revert w; decide)
    simp [trueWords, hother]
  have hfalse : intText n ∈ falseWords ↔ n = 0 := by
    rw [← hzero]
    have hother : ∀ w ∈ ["false", "no", "off"], intText n ≠ w := fun w hw =>
      intText_ne_word n (by revert w; decide)
    simp [falseWords, hother]
  rw [readTruth?, lowercase_strip_intText]
  simp only [htrue, hfalse]
  by_cases hn : n = 0
  · subst hn
    rfl
  · simp [hn]

/-- What an integer in decimal stands for. -/
def integerValue (n : Int) : Json :=
  if n = 0 then .bool false else if n = 1 then .bool true else .int n

/-- `coerce` reads the text of an integer as `integerValue`. -/
theorem coerce_intText {n : Int} (h : (decimal n.natAbs).length ≤ maxDigits) :
    coerce (intText n) = .ok (integerValue n) := by
  unfold coerce readNumber? integerValue
  rw [readTruth?_intText h, readInteger_intText h]
  by_cases hzero : n = 0
  · simp [hzero]
  · by_cases hone : n = 1 <;> simp [hzero, hone]

/-! ## Variables of a section -/

/-- Entries after a value has been set under a key. What stands under the other keys may be changed
inside, where it holds the mapping of the entries, and is of the same kind as before. -/
structure SetIn (key : String) (v : Value) (before after : List (Scalar × Value)) : Prop where
  /-- No other key is new. -/
  keys : ∀ e ∈ after, e.1 ∈ before.map Prod.fst ∨ e.1 = .text key
  /-- The key has the value. -/
  found : lookup (.text key) after = some v
  /-- The other keys have values of the same kinds. -/
  kinds : ∀ name ≠ key,
    (lookup (.text name) after).map Value.kind = (lookup (.text name) before).map Value.kind

/-- `assign` sets `v` under `key` among the `entries` of the mapping `i`, also where that mapping
stands inside itself. `hv`: the value does not hold the mapping. -/
theorem setIn_assign {i : Nat} {v : Value} (hv : i ∉ v.labels) (key : String)
    (is : List (Scalar × Value)) :
    SetIn key v (Value.map i is).entries (assign i (.text key) v (.map i is)).entries := by
  rw [assign, if_pos rfl]
  constructor
  · intro e he
    have hkey := List.mem_map_of_mem (f := Prod.fst) he
    rw [map_fst_entries] at hkey
    rw [map_fst_entries]
    exact (fst_mem_putEntry hkey).imp_left (map_fst_assignInEntries i _ v is ▸ ·)
  · rw [lookup_entries_map, lookup_putEntry, if_pos (by simp), Option.map_some,
      unroll_of_not_mem hv]
  · intro name hname
    have hkey : ¬ (Scalar.text key).sameKey (.text name) = true := by simpa using Ne.symm hname
    rw [lookup_entries_map, lookup_entries_map, lookup_putEntry, if_neg hkey,
      lookup_assignInEntries, Option.map_map, Option.map_map, Option.map_map]
    -- the values under other keys are the same but for what is set in them, and keep their kinds
    refine congrArg (Option.map · _) (funext fun w => ?_)
    rw [Function.comp_apply, Function.comp_apply, Function.comp_apply, kind_unroll rfl,
      kind_unroll rfl, kind_assign]

namespace Configuration

variable {c : Configuration} {name raw namePrefix sectionName key : String} {j : Json}
  {es : List (Scalar × Value)}

/-- The entries of a section as a variable finds them. What is no mapping has none, since a mapping
takes its place. -/
def sectionEntries (c : Configuration) (name : String) : List (Scalar × Value) :=
  ((c.root.get? name).getD (.map 0 [])).entries

/-- What `enter` leads to from the root: a mapping below it, which has the entries of the
section. -/
structure Entered (c : Configuration) (name : String) (i : Nat) (is es : List (Scalar × Value))
    (next : Nat) : Prop where
  /-- It is entered in a configuration with these entries at the root. -/
  enter_eq : c.enter c.root name = (.map i is, { root := .map 0 es, next })
  /-- It stands under the key. -/
  found : lookup (.text name) es = some (.map i is)
  /-- The root does not stand inside itself. -/
  root_alone : 0 ∉ entryLabels es
  /-- It is another mapping than the root. -/
  ne_root : i ≠ 0
  /-- Its label is in use. -/
  lt_next : i < next
  /-- It has the entries of the section. -/
  entries_eq : (Value.map i is).entries = c.sectionEntries name

/-- A key of the root leads into a mapping, which has the `sectionEntries`. -/
theorem exists_entered (hc : c.Reachable) (name : String) :
    ∃ i is es next, c.Entered name i is es next := by
  obtain ⟨hpos, es, hroot, hlabels⟩ := hc.rooted
  have halone := hc.root_alone hroot
  have hget : c.root.get? name = lookup (.text name) es := by rw [hroot, get?_map halone]
  rcases map_or_not_map (lookup (.text name) es) with ⟨i, is, hold⟩ | hold
  · -- there is a mapping already, and it is not the root
    have hmem : i ∈ entryLabels es :=
      Multiset.mem_of_le (labels_le_of_lookup hold) (Multiset.mem_cons_self i _)
    refine ⟨i, is, es, c.next, ?_, hold, halone, ?_, (hlabels i hmem).2, ?_⟩
    · rw [hroot, enter_of_map c halone hold, ← hroot]
    · exact Nat.ne_of_gt (hlabels i hmem).1
    · rw [sectionEntries, hget, hold]
      rfl
  · -- a new mapping takes the place of what is none
    have hplug : c.root = plug [] (.map 0 es) := hroot
    refine ⟨c.next, [], putEntry (.text name) (.map c.next []) es, c.next + 1, ?_, ?_, ?_,
      Nat.ne_of_gt hpos, Nat.lt_succ_self _, ?_⟩
    · rw [hroot]
      exact enter_of_not_map hplug hc.root_unshared hold
    · rw [lookup_putEntry, if_pos (by simp)]
    · intro h0
      have hput := Multiset.mem_of_le (entryLabels_putEntry_le _ _ es) h0
      rcases Multiset.mem_add.1 hput with h0 | h0
      · exact halone h0
      · exact Nat.ne_of_lt hpos (Multiset.mem_singleton.1 h0)
    · rw [sectionEntries, hget]
      cases hfound : lookup (.text name) es with
      | none => rfl
      | some v =>
        cases v with
        | map i is => exact absurd hfound (hold i is)
        | _ => rfl

/-- Merging one variable with the prefix is `setPath` from the root. -/
theorem mergeVariables_of_setPath {path : List String} {c' : Configuration}
    (hpath : variablePath? namePrefix name = some path)
    (hset : c.setPath c.root raw path = (.ok (), c')) :
    c.mergeVariables namePrefix [(name, raw)] = (.ok (), c') := by
  rw [mergeVariables, hpath]
  dsimp only
  rw [hset]
  rfl

/-- A variable of a section sets its key there: `SetIn` holds of the `sectionEntries` before and of
the entries of what is `found` after. -/
theorem mergeVariables_section (hc : c.Reachable)
    (hpath : variablePath? namePrefix name = some [sectionName, key]) (hj : coerce raw = .ok j) :
    ∃ c' n found, c.mergeVariables namePrefix [(name, raw)] = (.ok (), c') ∧
      c'.root.get? sectionName = some found ∧ found.isMap = true ∧
      SetIn key (ofJson n j).1 (c.sectionEntries sectionName) found.entries := by
  obtain ⟨i, is, es, next, henter⟩ := exists_entered hc sectionName
  -- the section is entered, and the key is set there
  have hset : c.setPath c.root raw [sectionName, key] =
      (.ok (), setAt { root := .map 0 es, next } (.map i is) key j) := by
    rw [setPath_cons c c.root raw sectionName (by simp), henter.enter_eq, setPath_leaf hj]
  refine ⟨_, next, assign i (.text key) (ofJson next j).1 (.map i is),
    mergeVariables_of_setPath hpath hset, ?_, rfl, ?_⟩
  · -- the root is another mapping than the section, and still does not stand inside itself
    have halone : 0 ∉ entryLabels (assignInEntries i (.text key) (ofJson next j).1 es) := by
      have hvalue : (ofJson next j).1.Within (· ≠ 0) := fun l hl =>
        Nat.ne_of_gt ((Nat.zero_le i).trans_lt (henter.lt_next.trans_le (mem_labels_ofJson hl).1))
      refine fun h0 => assignInEntries_within hvalue i _ es (fun l hl => ?_) 0 h0 rfl
      rintro rfl
      exact henter.root_alone hl
    change Value.get? sectionName (assign i (.text key) (ofJson next j).1 (.map 0 es)) = _
    rw [assign, if_neg henter.ne_root.symm, get?_map halone, lookup_assignInEntries, henter.found,
      Option.map_some]
  · rw [← henter.entries_eq]
    exact setIn_assign (fun h => (mem_labels_ofJson h).1.not_gt henter.lt_next) key is

end Configuration

/-! ## A section with one more value -/

section OneMore

variable {fields : List FieldSpec} {f : FieldSpec} {entries after : List (Scalar × Value)}
  {v : Value}

/-- A field of a record that takes integers. -/
structure IntegerField (fields : List FieldSpec) (f : FieldSpec) : Prop where
  /-- It is one of the fields. -/
  mem : f ∈ fields
  /-- No two fields have the same name. -/
  names_nodup : (fields.map FieldSpec.name).Nodup
  /-- It takes integers and nothing else. -/
  type_eq : f.type = .kind .int

/-- Entries are those of a valid section, but for one field: that one may be missing or have a value
of another type. -/
structure ValidBut (fields : List FieldSpec) (f : FieldSpec) (entries : List (Scalar × Value)) :
    Prop where
  /-- Every key is a field. -/
  declared : ∀ e ∈ entries, Declared fields e.1
  /-- Every other field has a value of its type, or a default. -/
  satisfied : ∀ g ∈ fields, g.name ≠ f.name → g.Satisfied entries

/-- Whether a field is `Satisfied` depends only on the `kind` of its value. -/
theorem FieldSpec.Satisfied.of_kind_eq {g : FieldSpec} (h : g.Satisfied entries)
    (hkind : (lookup (.text g.name) after).map Value.kind =
      (lookup (.text g.name) entries).map Value.kind) : g.Satisfied after := by
  constructor
  · intro w hw
    rw [hw, Option.map_some] at hkind
    obtain ⟨u, hu, huw⟩ := Option.map_eq_some_iff.1 hkind.symm
    rw [← FieldType.accepts_iff, ← FieldType.accepts_congr huw, FieldType.accepts_iff]
    exact h.admits u hu
  · intro hw
    rw [hw, Option.map_none] at hkind
    exact h.optional (Option.map_eq_none_iff.1 hkind.symm)

namespace ValidBut

/-- The fields other than `f` are `Satisfied` as before. -/
theorem satisfied_after (h : ValidBut fields f entries) (hset : SetIn f.name v entries after)
    {g : FieldSpec} (hg : g ∈ fields) (hname : g.name ≠ f.name) : g.Satisfied after :=
  (h.satisfied g hg hname).of_kind_eq (hset.kinds g.name hname)

/-- Every key is still that of a field: no key is new but the name of `f`. -/
theorem declared_after (h : ValidBut fields f entries) (hset : SetIn f.name v entries after)
    (hf : f ∈ fields) : ∀ e ∈ after, Declared fields e.1 := by
  intro e he
  rcases hset.keys e he with hkey | hkey
  · obtain ⟨d, hd, hde⟩ := List.mem_map.1 hkey
    exact hde ▸ h.declared d hd
  · exact ⟨f, hf, hkey⟩

/-- If the type of `f` admits the value that has been set, the section is valid, and `readRecord`
takes the value of each field with `valueIn`. -/
theorem readRecord_of_admits (h : ValidBut fields f entries) (hset : SetIn f.name v entries after)
    (hf : IntegerField fields f) (hv : f.type.Admits v) (sectionName : String) :
    readRecord sectionName fields after =
      .ok (fields.map fun g => (g.name, g.valueIn after)) := by
  have hself : f.Satisfied after := by
    constructor
    · intro w hw
      obtain rfl := Option.some.inj (hset.found.symm.trans hw)
      exact hv
    · intro hnone
      cases hset.found.symm.trans hnone
  have hall : ∀ g ∈ fields, g.Satisfied after := by
    intro g hg
    -- names of fields are distinct, so a field called as `f` is `f`
    by_cases hname : g.name = f.name
    · exact List.inj_on_of_nodup_map hf.names_nodup hg hf.mem hname ▸ hself
    · exact h.satisfied_after hset hg hname
  rw [readRecord_of_all_declared sectionName (h.declared_after hset hf.mem),
    mapM_readField_of_satisfied hall]

/-- If the type of `f` does not admit the value, `readRecord` reports `f`, since nothing else is
wrong with the section. -/
theorem readRecord_of_not_admits (h : ValidBut fields f entries)
    (hset : SetIn f.name v entries after) (hf : IntegerField fields f) (hv : ¬ f.type.Admits v)
    (sectionName : String) :
    readRecord sectionName fields after =
      invalid s!"{sectionName}.{f.name}" s!"expected {f.shown}, got {v.kind.name}" := by
  have hself : ¬ f.Satisfied after := fun hself => hv (hself.admits v hset.found)
  have hfirst : FirstUnsatisfied fields after f := by
    obtain ⟨before, behind, hsplit⟩ := List.append_of_mem hf.mem
    refine ⟨before, behind, hsplit, fun g hg => h.satisfied_after hset ?_ ?_, hself⟩
    · exact hsplit ▸ List.mem_append_left _ hg
    · -- a field before this one has another name
      have hnodup := hf.names_nodup
      rw [hsplit, List.map_append, List.map_cons] at hnodup
      exact (List.nodup_append.1 hnodup).2.2 _ (List.mem_map_of_mem hg) _ List.mem_cons_self
  rw [readRecord_of_all_declared sectionName (h.declared_after hset hf.mem),
    mapM_readField_of_firstUnsatisfied hfirst, FieldSpec.fault, hset.found]
  rfl

end ValidBut

/-- The record has for `f` the value `v` that is found among the entries. -/
theorem lookup_valueIn (hfound : lookup (.text f.name) after = some v) (hf : f ∈ fields) :
    (fields.map fun g => (g.name, g.valueIn after)).lookup f.name = some v := by
  have hvalue : ∀ g : FieldSpec, g.name = f.name → g.valueIn after = v := by
    intro g hg
    rw [FieldSpec.valueIn, hg, hfound]
    rfl
  -- every field with this name has the value, so the first one that is found does
  induction fields with
  | nil => cases hf
  | cons g fields ih =>
    rw [List.map_cons, List.lookup_cons]
    by_cases hname : g.name = f.name
    · rw [hname, BEq.rfl, hvalue g hname]
    · have hother : (f.name == g.name) = false := by simpa using Ne.symm hname
      rw [hother]
      exact ih ((List.mem_cons.1 hf).resolve_left fun h => hname (h ▸ rfl))

end OneMore

/-- A variable that is written as an integer of not too many digits is merged into every
configuration that sources lead to. If it is the variable of a field of integers in a section that
is valid otherwise, the section is read with this integer in the field. Only 0 and 1 are not, which
are truth values: then the field is reported. The name of the variable may be the one that spells
the section and the field. -/
theorem integer_variable_read {c : Configuration} (hc : c.Reachable) {sectionName : String}
    {fields : List FieldSpec} {f : FieldSpec} (hf : IntegerField fields f)
    (hvalid : ValidBut fields f (c.sectionEntries sectionName)) (hdot : '.' ∉ sectionName.toList)
    {n : Int} (hn : (decimal n.natAbs).length ≤ maxDigits) (namePrefix : String) :
    (∀ name, variablePath? namePrefix name = some [sectionName, f.name] →
      ∃ c', c.mergeVariables namePrefix [(name, intText n)] = (.ok (), c') ∧
        if n = 0 ∨ n = 1 then
          c'.readSection sectionName (.record fields) =
            invalid s!"{sectionName}.{f.name}" s!"expected {f.shown}, got {Kind.bool.name}"
        else
          ∃ r, c'.readSection sectionName (.record fields) = .ok r ∧
            r.lookup f.name = some (.scalar (.int n))) ∧
    (Spelled sectionName → sectionName.toList.getLast? ≠ some '_' → Spelled f.name →
      variablePath? namePrefix (variableName namePrefix sectionName f.name) =
        some [sectionName, f.name]) := by
  refine ⟨fun name hpath => ?_, fun hsection hlast hkey =>
    variablePath?_variableName hsection hlast hkey namePrefix⟩
  obtain ⟨c', m, found, hmerge, hsection, hmap, hset⟩ :=
    Configuration.mergeVariables_section hc hpath (coerce_intText hn)
  -- without a dot the name of the section is a path of one key
  have hget : c'.get? sectionName = some found := by
    rw [Configuration.get?, dottedPath_of_no_dot hdot, Configuration.valueAt?, hsection]
    rfl
  refine ⟨c', hmerge, ?_⟩
  rw [readSection_of_get? hget hmap]
  by_cases hword : n = 0 ∨ n = 1
  · -- a truth word: the value is one of no type but that of truth values
    rw [if_pos hword]
    have hflag : ∃ b, (ofJson m (integerValue n)).1 = .scalar (.bool b) := by
      rcases hword with rfl | rfl
      · exact ⟨false, rfl⟩
      · exact ⟨true, rfl⟩
    obtain ⟨b, hflag⟩ := hflag
    have hnot : ¬ f.type.Admits (.scalar (.bool b)) := by
      rw [hf.type_eq]
      rintro (_ | h)
      cases h
    rw [hvalid.readRecord_of_not_admits hset hf (hflag ▸ hnot), hflag]
    rfl
  · rw [if_neg hword]
    obtain ⟨hzero, hone⟩ := not_or.1 hword
    have hinteger : (ofJson m (integerValue n)).1 = .scalar (.int n) := by
      rw [integerValue, if_neg hzero, if_neg hone]
      rfl
    have hadmits : f.type.Admits (.scalar (.int n)) := by
      rw [hf.type_eq]
      exact .kind rfl
    rw [hinteger] at hset
    exact ⟨_, hvalid.readRecord_of_admits hset hf hadmits sectionName,
      lookup_valueIn hset.found hf.mem⟩

/-! ## A section with two integers -/

/-- An integer that has to be there. -/
def portField : FieldSpec where
  name := "port"
  type := .kind .int
  shown := "int"

/-- An integer that may be left out. -/
def replicasField : FieldSpec where
  name := "replicas"
  type := .kind .int
  shown := "int"
  default := some (.scalar (.int 0))

/-- A configuration with one value in one section. -/
def sole (sectionName key : String) (j : Json) : Configuration where
  root := .map 0 [(.text sectionName, .map 1 [(.text key, (ofJson 2 j).1)])]
  next := (ofJson 2 j).2

/-- The first variable of a section makes the section: the configuration is `sole` then. -/
theorem mergeVariables_sole {namePrefix name raw sectionName key : String} {j : Json}
    (hpath : variablePath? namePrefix name = some [sectionName, key]) (hj : coerce raw = .ok j) :
    ({} : Configuration).mergeVariables namePrefix [(name, raw)] =
      (.ok (), sole sectionName key j) := by
  refine Configuration.mergeVariables_of_setPath hpath ?_
  have henter : ({} : Configuration).enter (.map 0 []) sectionName =
      (.map 1 [], { root := .map 0 [(.text sectionName, .map 1 [])], next := 2 }) := rfl
  rw [Configuration.setPath_cons _ _ raw sectionName (by simp), henter,
    Configuration.setPath_leaf hj]
  rfl

/-- `replicasField` is a field of integers beside `portField`. -/
theorem integerFields :
    IntegerField [portField, replicasField] replicasField where
  mem := by simp
  names_nodup := by decide
  type_eq := rfl

/-- A section with nothing but an integer for `portField` is valid but for `replicasField`. -/
theorem validBut_port (n : Int) :
    ValidBut [portField, replicasField] replicasField [(.text "port", .scalar (.int n))] where
  declared := by simp [Declared, portField]
  satisfied := by
    intro g hg hname
    obtain rfl | rfl : g = portField ∨ g = replicasField := by simpa using hg
    · refine ⟨fun v hv => ?_, fun hnone => ?_⟩
      · obtain rfl : .scalar (.int n) = v := Option.some.inj hv
        exact .kind rfl
      · cases hnone
    · exact absurd rfl hname

/-- `integer_variable_read` for -12, in a section that has an integer for the other field. -/
theorem replicas_read :
    ∃ c', (sole "limits" "port" (.int 8080)).mergeVariables "SF_"
        [("SF_LIMITS__REPLICAS", intText (-12))] = (.ok (), c') ∧
      ∃ r, c'.readSection "limits" (.record [portField, replicasField]) = .ok r ∧
        r.lookup "replicas" = some (.scalar (.int (-12))) := by
  have hport : coerce (intText 8080) = .ok (.int 8080) := coerce_intText (by decide +kernel)
  -- one variable before has made the section with the other field
  have hreachable : (sole "limits" "port" (.int 8080)).Reachable := by
    have hpath : variablePath? "SF_" "SF_LIMITS__PORT" = some ["limits", "port"] := by
      decide +kernel
    have hmerge := mergeVariables_sole hpath hport
    have h := Configuration.Reachable.mergeVariables .empty "SF_"
      [("SF_LIMITS__PORT", intText 8080)]
    rwa [hmerge] at h
  have hname : variablePath? "SF_" "SF_LIMITS__REPLICAS" = some ["limits", "replicas"] := by
    decide +kernel
  have hvalid : ValidBut [portField, replicasField] replicasField
      ((sole "limits" "port" (.int 8080)).sectionEntries "limits") := validBut_port 8080
  exact (integer_variable_read hreachable integerFields hvalid (by decide) (n := -12)
    (by decide +kernel) "SF_").1 _ hname

/-- From a section without entries `replicasField` is read at its default. -/
theorem readSection_default {c : Configuration} {sectionName : String}
    (h : c.HasSection sectionName []) :
    c.readSection sectionName (.record [replicasField]) = .ok [("replicas", .scalar (.int 0))] := by
  rw [Configuration.readSection_eq_readRecord h,
    readRecord_of_all_declared _ (List.forall_mem_nil _)]
  rfl

/-- A variable that is 1 is refused by `replicasField`. The sections `Limits` and `limits.hard` do
not get the variables `SF_LIMITS__REPLICAS` and `SF_LIMITS.HARD__REPLICAS`, which spell them. -/
theorem one_refused_and_sections_missed :
    (∃ c', ({} : Configuration).mergeVariables "SF_" [("SF_LIMITS__REPLICAS", intText 1)] =
        (.ok (), c') ∧
      c'.readSection "limits" (.record [replicasField]) =
        invalid "limits.replicas" "expected int, got bool") ∧
    (∃ c', ({} : Configuration).mergeVariables "SF_" [("SF_LIMITS__REPLICAS", intText 5)] =
        (.ok (), c') ∧
      c'.readSection "Limits" (.record [replicasField]) =
        .ok [("replicas", .scalar (.int 0))]) ∧
    ∃ c', ({} : Configuration).mergeVariables "SF_" [("SF_LIMITS.HARD__REPLICAS", intText 5)] =
        (.ok (), c') ∧
      c'.readSection "limits.hard" (.record [replicasField]) =
        .ok [("replicas", .scalar (.int 0))] := by
  have hname : variablePath? "SF_" "SF_LIMITS__REPLICAS" = some ["limits", "replicas"] := by
    decide +kernel
  have hpoint :
      variablePath? "SF_" "SF_LIMITS.HARD__REPLICAS" = some ["limits.hard", "replicas"] := by
    decide +kernel
  -- each variable makes the only section of the configuration
  refine ⟨⟨_, mergeVariables_sole hname (coerce_intText (by decide +kernel)), ?_⟩,
    ⟨_, mergeVariables_sole hname (coerce_intText (by decide +kernel)), ?_⟩,
    ⟨_, mergeVariables_sole hpoint (coerce_intText (by decide +kernel)), ?_⟩⟩
  · have hentries : (sole "limits" "replicas" (integerValue 1)).HasSection "limits"
        [(.text "replicas", .scalar (.bool true))] :=
      Or.inr ⟨_, by rw [Configuration.get?, dottedPath_of_no_dot (by decide)]; rfl, rfl, rfl⟩
    rw [Configuration.readSection_eq_readRecord hentries,
      readRecord_of_all_declared _ (by simp [Declared, replicasField])]
    rfl
  · refine readSection_default (Or.inl ⟨?_, rfl⟩)
    rw [Configuration.get?, dottedPath_of_no_dot (by decide)]
    rfl
  · -- the point parts the name of the section into two levels
    have hlevels : Configuration.dottedPath "limits.hard" = ["limits", "hard"] := by decide +kernel
    refine readSection_default (Or.inl ⟨?_, rfl⟩)
    rw [Configuration.get?, hlevels]
    rfl

end FactoryRegistry.Config
