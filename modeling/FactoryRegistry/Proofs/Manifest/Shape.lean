import FactoryRegistry.Manifest
import FactoryRegistry.Proofs.Except
import Mathlib.Algebra.Ring.Int.Defs

/-!
# The shape of a manifest

A manifest is `null` or a mapping, and what it lists is a list of entries (`Lists`). An entry is a
mapping that states a contract and an implementation and, if it says whether the registry can call
the constructor, says it with a truth value (`WellShaped`). Whatever is wrong with an entry comes to
one report, the first of four checks that fails (`Reported`).

* `readEntry_of_wellShaped`, `readEntry_of_reported`: an entry by itself;
* `readEntries_of_readable`, `readEntries_of_firstRejected`: the entries are read in order, up to
  the first one that is not read;
* `read_iff_shape`: what a manifest is read as, and what is reported of it otherwise.

An entry of the right shape is still not read when one of its names is an integer with too many
digits to be written, and no fault reports that (`long_name_unreported`).
-/

namespace FactoryRegistry.Manifest

open Config Number

/-! ## Entries -/

/-- An entry states something under a name: a value that is not null, false, zero or empty. -/
def States (entry : Value) (name : String) : Prop :=
  ∃ v, entry.get? name = some v ∧ v.isTruthy = true

/-- An entry of the right shape. -/
structure WellShaped (entry : Value) : Prop where
  /-- It is a mapping. -/
  mapping : entry.isMap = true
  /-- It states a contract. -/
  contract : States entry "contract"
  /-- It states an implementation. -/
  implementation : States entry "implementation"
  /-- What it says about the constructor is a truth value. -/
  accessible : ∀ v, entry.get? "accessible" = some v → v.kind = .bool

/-- What is reported of an entry with this key: the first of the four checks that fails. -/
inductive Reported (key : String) (entry : Value) : Fault → Prop where
  /-- The entry is no mapping. -/
  | mapping (h : entry.isMap = false) :
      Reported key entry (.configInvalid key "entry must be a mapping")
  /-- It states no contract. -/
  | contract (hmap : entry.isMap = true) (h : ¬ States entry "contract") :
      Reported key entry (.configInvalid key "missing 'contract'")
  /-- It states a contract, but no implementation. -/
  | implementation (hmap : entry.isMap = true) (hcontract : States entry "contract")
      (h : ¬ States entry "implementation") :
      Reported key entry (.configInvalid key "missing 'implementation'")
  /-- It states both, but what it says about the constructor is no truth value. -/
  | accessible {v : Value} (hmap : entry.isMap = true) (hcontract : States entry "contract")
      (himplementation : States entry "implementation")
      (hv : entry.get? "accessible" = some v) (h : v.kind ≠ .bool) :
      Reported key entry
        (.configInvalid s!"{key}.accessible" s!"expected bool, got {v.kind.name}")

/-- The text of what an entry states under a name, and the empty text where it states nothing. -/
def statedText (entry : Value) (name : String) : String :=
  match entry.get? name with
  | some v => if v.isTruthy then v.plain else ""
  | none => ""

/-- The registry can call the constructor, unless the entry says that it cannot. -/
def statedAccess (entry : Value) : Bool :=
  match entry.get? "accessible" with
  | some (.scalar (.bool b)) => b
  | _ => true

/-- The binding that an entry of the right shape declares. -/
def declared (entry : Value) : Binding :=
  .of (statedText entry "contract") (statedText entry "implementation")
    (statedText entry "package") (statedAccess entry)

/-- The names in an entry can be written: there is no integer in them with too many digits. -/
def Writable (entry : Value) : Prop :=
  ∀ name ∈ ["contract", "implementation", "package"], ∀ v, entry.get? name = some v →
    v.isWritable = true

section Entries

variable {key name : String} {entry : Value} {fault : Fault}

/-- What is null, false, zero or empty `isWritable`. -/
theorem isWritable_of_not_truthy {v : Value} (h : v.isTruthy = false) : v.isWritable = true := by
  cases v with
  | scalar s =>
    cases s with
    | int n =>
      have hn : n = 0 := by simpa [Value.isTruthy] using h
      subst hn
      decide +kernel
    | _ => rfl
  | list label items =>
    have hitems : items = [] := by simpa [Value.isTruthy] using h
    rw [hitems]
    rfl
  | map label entries =>
    have hentries : entries = [] := by simpa [Value.isTruthy] using h
    rw [hentries]
    rfl
  | set members =>
    have hmembers : members = [] := by simpa [Value.isTruthy] using h
    rw [hmembers]
    rfl
  | pair first second => cases h
  | loop container label => cases h

/-- An entry `States` a name if what stands under it is truthy. -/
theorem states_iff_valueOf : States entry name ↔ (valueOf entry.entries name).isTruthy = true := by
  rw [States, valueOf, Value.get?]
  cases Value.lookup (.text name) entry.entries with
  | none => simp [Value.null, Value.isTruthy]
  | some v => simp

theorem statedText_eq (entry : Value) (name : String) :
    statedText entry name =
      if (valueOf entry.entries name).isTruthy then (valueOf entry.entries name).plain else "" := by
  rw [statedText, valueOf, Value.get?]
  cases Value.lookup (.text name) entry.entries with
  | none => rfl
  | some v => rfl

/-- The `statedText` of a name that is stated is the plain text of what stands there. -/
theorem statedText_of_states (h : States entry name) :
    statedText entry name = (valueOf entry.entries name).plain := by
  rw [statedText_eq, if_pos (states_iff_valueOf.1 h)]

theorem written_of_isWritable {v : Value} (h : v.isWritable = true) : v.written = .ok v.plain := by
  rw [Value.written, if_pos h]

theorem written_of_not_isWritable {v : Value} (h : ¬ v.isWritable = true) :
    v.written = .error .unwritableInteger := by
  rw [Value.written, if_neg h]

/-- What stands under a name `isWritable`, or nothing stands there. -/
theorem isWritable_valueOf_iff :
    (∀ v, entry.get? name = some v → v.isWritable = true) ↔
      (valueOf entry.entries name).isWritable = true := by
  rw [valueOf, Value.get?]
  cases Value.lookup (.text name) entry.entries with
  | none => simp [Value.null, Value.isWritable, Scalar.isWritable]
  | some v => simp

/-- An entry is `Writable` if what stands under each of its three names is. -/
theorem writable_iff_valueOf :
    Writable entry ↔ (valueOf entry.entries "contract").isWritable = true ∧
      (valueOf entry.entries "implementation").isWritable = true ∧
      (valueOf entry.entries "package").isWritable = true := by
  simp only [Writable, isWritable_valueOf_iff, List.forall_mem_cons, List.not_mem_nil,
    false_implies, implies_true, and_true]

/-- `require` accepts a name that is stated. -/
theorem require_of_states (h : States entry name) : require key entry.entries name = .ok () := by
  rw [require, if_pos (states_iff_valueOf.1 h)]

/-- `require` reports a name that is not stated. -/
theorem require_of_not_states (h : ¬ States entry name) :
    require key entry.entries name = invalid key s!"missing '{name}'" := by
  rw [require, if_neg fun htruthy => h (states_iff_valueOf.2 htruthy)]

/-- `accessibleOf` takes a truth value, or the default where there is none. -/
theorem accessibleOf_of_bool (h : ∀ v, entry.get? "accessible" = some v → v.kind = .bool) :
    accessibleOf key entry.entries = .ok (statedAccess entry) := by
  rw [accessibleOf, statedAccess]
  rw [Value.get?] at h ⊢
  cases hfound : Value.lookup (.text "accessible") entry.entries with
  | none => rfl
  | some v =>
    have hkind := h v hfound
    cases v with
    | scalar s =>
      cases s with
      | bool b => rfl
      | _ => cases hkind
    | loop container label => cases container <;> cases hkind
    | _ => cases hkind

/-- `accessibleOf` reports a value of another kind. -/
theorem accessibleOf_of_other {v : Value} (hv : entry.get? "accessible" = some v)
    (h : v.kind ≠ .bool) :
    accessibleOf key entry.entries =
      invalid s!"{key}.accessible" s!"expected bool, got {v.kind.name}" := by
  rw [Value.get?] at hv
  rw [accessibleOf, hv]
  cases v with
  | scalar s =>
    cases s with
    | bool b => exact absurd rfl h
    | _ => rfl
  | _ => rfl

theorem packageOf_of_writable (h : (valueOf entry.entries "package").isWritable = true) :
    packageOf entry.entries = .ok (statedText entry "package") := by
  rw [packageOf, statedText_eq, written_of_isWritable h]
  split <;> rfl

theorem packageOf_of_not_writable (h : ¬ (valueOf entry.entries "package").isWritable = true) :
    packageOf entry.entries = .error .unwritableInteger := by
  -- only what is stated can fail to be written
  have htruthy : (valueOf entry.entries "package").isTruthy = true := by
    by_contra hfalsy
    exact h (isWritable_of_not_truthy (by simpa using hfalsy))
  rw [packageOf, written_of_not_isWritable h]
  exact if_pos htruthy

/-- `readEntry` reads an entry that is `WellShaped` as the binding that it declares, if its names
can be written. -/
theorem readEntry_of_wellShaped (key : String) (h : WellShaped entry) :
    (Writable entry → readEntry key entry = .ok (declared entry)) ∧
      (¬ Writable entry → readEntry key entry = .error .unwritableInteger) := by
  obtain ⟨hmap, hcontract, himplementation, haccessible⟩ := h
  -- every check but the writing of the names is passed
  rw [writable_iff_valueOf, readEntry, if_pos hmap, require_of_states hcontract,
    require_of_states himplementation, accessibleOf_of_bool haccessible]
  constructor
  · rintro ⟨hc, hi, hp⟩
    rw [written_of_isWritable hc, written_of_isWritable hi, packageOf_of_writable hp, declared,
      statedText_of_states hcontract, statedText_of_states himplementation]
    rfl
  · -- the three names are written one after another
    intro hunwritable
    by_cases hc : (valueOf entry.entries "contract").isWritable = true
    · by_cases hi : (valueOf entry.entries "implementation").isWritable = true
      · have hp : ¬ (valueOf entry.entries "package").isWritable = true :=
          fun hp => hunwritable ⟨hc, hi, hp⟩
        rw [written_of_isWritable hc, written_of_isWritable hi, packageOf_of_not_writable hp]
        rfl
      · rw [written_of_isWritable hc, written_of_not_isWritable hi]
        rfl
    · rw [written_of_not_isWritable hc]
      rfl

/-- `readEntry` refuses an entry of another shape with its report. -/
theorem readEntry_of_reported (h : Reported key entry fault) :
    readEntry key entry = .error (.fault fault) := by
  rw [readEntry]
  cases h with
  | mapping h =>
    rw [if_neg (by simp [h])]
    rfl
  | contract hmap h =>
    rw [if_pos hmap, require_of_not_states h]
    rfl
  | implementation hmap hcontract h =>
    rw [if_pos hmap, require_of_states hcontract, require_of_not_states h]
    rfl
  | accessible hmap hcontract himplementation hv h =>
    rw [if_pos hmap, require_of_states hcontract, require_of_states himplementation,
      accessibleOf_of_other hv h]
    rfl

/-- An entry is `WellShaped`, or something is `Reported` of it. -/
theorem wellShaped_or_reported (key : String) (entry : Value) :
    WellShaped entry ∨ ∃ fault, Reported key entry fault := by
  by_cases hmap : entry.isMap = true
  · by_cases hcontract : States entry "contract"
    · by_cases himplementation : States entry "implementation"
      · by_cases haccessible : ∀ v, entry.get? "accessible" = some v → v.kind = .bool
        · exact .inl ⟨hmap, hcontract, himplementation, haccessible⟩
        · push Not at haccessible
          obtain ⟨v, hv, hkind⟩ := haccessible
          exact .inr ⟨_, .accessible hmap hcontract himplementation hv hkind⟩
      · exact .inr ⟨_, .implementation hmap hcontract himplementation⟩
    · exact .inr ⟨_, .contract hmap hcontract⟩
  · exact .inr ⟨_, .mapping (by simpa using hmap)⟩

end Entries

/-- An entry is read: it has the right shape and its names can be written. -/
structure Readable (entry : Value) : Prop where
  /-- It has the right shape. -/
  wellShaped : WellShaped entry
  /-- Its names can be written. -/
  writable : Writable entry

/-- An entry with this key is not read, and the failure that comes of it. -/
inductive Rejected (key : String) (entry : Value) : Failure → Prop where
  /-- Something is reported of its shape. -/
  | reported {fault : Fault} (h : Reported key entry fault) : Rejected key entry (.fault fault)
  /-- It has the right shape, but one of its names cannot be written. -/
  | unwritable (hshape : WellShaped entry) (h : ¬ Writable entry) :
      Rejected key entry .unwritableInteger

/-! ## Lists of entries -/

section Lists

variable {source key : String} {entry : Value} {items before : List Value} {failure : Failure}

/-- `readEntry` reads an entry that is `Readable`. -/
theorem Readable.readEntry (key : String) (h : Readable entry) :
    Manifest.readEntry key entry = .ok (declared entry) :=
  (readEntry_of_wellShaped key h.wellShaped).1 h.writable

/-- `readEntry` fails on an entry that is `Rejected`. -/
theorem Rejected.readEntry (h : Rejected key entry failure) :
    Manifest.readEntry key entry = .error failure := by
  cases h with
  | reported h => exact readEntry_of_reported h
  | unwritable hshape h => exact (readEntry_of_wellShaped key hshape).2 h

/-- An entry is `Readable` or `Rejected`. -/
theorem readable_or_rejected (key : String) (entry : Value) :
    Readable entry ∨ ∃ failure, Rejected key entry failure := by
  rcases wellShaped_or_reported key entry with hshape | ⟨fault, hfault⟩
  · by_cases hwritable : Writable entry
    · exact .inl ⟨hshape, hwritable⟩
    · exact .inr ⟨_, .unwritable hshape hwritable⟩
  · exact .inr ⟨_, .reported hfault⟩

/-- The key of the entry at an index. -/
def entryKey (source : String) (index : Nat) : String := s!"{source}:bindings[{natText index}]"

/-- The first entry of a list that is not read, and the failure that comes of it. -/
def FirstRejected (source : String) (index : Nat) (items : List Value) (failure : Failure) : Prop :=
  ∃ before entry after, items = before ++ entry :: after ∧ (∀ e ∈ before, Readable e) ∧
    Rejected (entryKey source (index + before.length)) entry failure

/-- Either every entry of a list is `Readable`, or there is a first one that is not. The induction
is on the list. -/
theorem readable_or_firstRejected (source : String) (index : Nat) (items : List Value) :
    (∀ e ∈ items, Readable e) ∨ ∃ failure, FirstRejected source index items failure := by
  induction items generalizing index with
  | nil => exact .inl fun _ he => nomatch he
  | cons entry items ih =>
    rcases readable_or_rejected (entryKey source index) entry with hentry | ⟨failure, hfailure⟩
    · rcases ih (index + 1) with hitems | ⟨failure, before, e, after, rfl, hbefore, he⟩
      · exact .inl (List.forall_mem_cons.2 ⟨hentry, hitems⟩)
      · refine .inr ⟨failure, entry :: before, e, after, rfl,
          List.forall_mem_cons.2 ⟨hentry, hbefore⟩, ?_⟩
        have hindex : index + (before.length + 1) = index + 1 + before.length := by omega
        rwa [List.length_cons, hindex]
    · exact .inr ⟨failure, [], entry, items, rfl, List.forall_mem_nil _, hfailure⟩

/-- `readEntries` gives the bindings of entries that are all `Readable`, in order. -/
theorem readEntries_of_readable (index : Nat) (h : ∀ e ∈ items, Readable e) :
    readEntries source index items = .ok (items.map declared) := by
  induction items generalizing index with
  | nil => rfl
  | cons entry items ih =>
    obtain ⟨hentry, hitems⟩ := List.forall_mem_cons.1 h
    rw [readEntries, hentry.readEntry, ih (index + 1) hitems]
    rfl

/-- `readEntries` fails as the first entry does that is not read; those before it make no
difference. -/
theorem readEntries_of_firstRejected {index : Nat} (h : FirstRejected source index items failure) :
    readEntries source index items = .error failure := by
  obtain ⟨before, entry, after, rfl, hbefore, hentry⟩ := h
  induction before generalizing index with
  | nil =>
    rw [List.nil_append, readEntries]
    exact congrArg (· >>= _) hentry.readEntry
  | cons first before ih =>
    obtain ⟨hfirst, hbefore⟩ := List.forall_mem_cons.1 hbefore
    rw [List.length_cons, show index + (before.length + 1) = index + 1 + before.length by omega]
      at hentry
    rw [List.cons_append, readEntries, hfirst.readEntry, ih hbefore hentry]
    rfl

end Lists

/-! ## Documents -/

/-- The entries that a document lists. A document may list none by saying nothing about them. -/
inductive Lists : Value → List Value → Prop where
  /-- The document is empty. -/
  | empty : Lists .null []
  /-- The document has no list. -/
  | absent {v : Value} (hmap : v.isMap = true) (h : v.get? "bindings" = none) : Lists v []
  /-- The list is left empty. -/
  | null {v : Value} (h : v.get? "bindings" = some .null) : Lists v []
  /-- The document has a list. -/
  | items {v : Value} {label : Nat} {items : List Value}
      (h : v.get? "bindings" = some (.list label items)) : Lists v (Value.list label items).items

/-- What is reported of a document that has no entries to read. -/
inductive ReportedWhole (source : String) (v : Value) : Fault → Prop where
  /-- The document is neither empty nor a mapping. -/
  | top (hnull : v ≠ .null) (hmap : v.isMap = false) :
      ReportedWhole source v (.configInvalid source "top level must be a mapping")
  /-- What stands in the place of the list is neither empty nor a list. -/
  | bindings {w : Value} (h : v.get? "bindings" = some w) (hnull : w ≠ .null)
      (hlist : ∀ label items, w ≠ .list label items) :
      ReportedWhole source v (.configInvalid s!"{source}:bindings" "must be a list")

section Documents

variable {source : String} {v : Value} {items items' : List Value} {fault : Fault}

/-- What has something under a name is a mapping. -/
theorem exists_map_of_get? {name : String} {w : Value} (h : v.get? name = some w) :
    ∃ label entries, v = .map label entries := by
  cases v with
  | map label entries => exact ⟨label, entries, rfl⟩
  | _ => cases h

/-- `read` reads the entries that a document `Lists`. -/
theorem read_of_lists (source : String) (h : Lists v items) :
    read source v = readEntries source 0 items := by
  cases h with
  | empty => rfl
  | absent hmap h =>
    cases v with
    | map label entries =>
      rw [read, h]
      rfl
    | _ => cases hmap
  | null h | items h =>
    obtain ⟨label, entries, rfl⟩ := exists_map_of_get? h
    rw [read, h]
    rfl

/-- `read` reports what is to be reported of the whole. -/
theorem read_of_reportedWhole (h : ReportedWhole source v fault) :
    read source v = .error (.fault fault) := by
  cases h with
  | top hnull hmap =>
    -- what is neither `null` nor a mapping has no entries to look into
    cases v with
    | map label entries => cases hmap
    | scalar s =>
      cases s with
      | null => exact absurd rfl hnull
      | _ => rfl
    | _ => rfl
  | @bindings w h hnull hlist =>
    obtain ⟨label, entries, rfl⟩ := exists_map_of_get? h
    rw [read, h]
    cases w with
    | list label items => exact absurd rfl (hlist label items)
    | scalar s =>
      cases s with
      | null => exact absurd rfl hnull
      | _ => rfl
    | _ => rfl

/-- A document `Lists` entries, or something is reported of the whole. -/
theorem lists_or_reportedWhole (source : String) (v : Value) :
    (∃ items, Lists v items) ∨ ∃ fault, ReportedWhole source v fault := by
  -- the questions in the order in which `read` asks them
  by_cases hnull : v = .null
  · subst hnull
    exact .inl ⟨[], .empty⟩
  · cases hmap : v.isMap with
    | false => exact .inr ⟨_, .top hnull hmap⟩
    | true =>
      cases hfound : v.get? "bindings" with
      | none => exact .inl ⟨[], .absent hmap hfound⟩
      | some w =>
        by_cases hw : w = .null
        · exact .inl ⟨[], .null (hw ▸ hfound)⟩
        · by_cases hlist : ∃ label items, w = .list label items
          · obtain ⟨label, items, rfl⟩ := hlist
            exact .inl ⟨_, .items hfound⟩
          · push Not at hlist
            exact .inr ⟨_, .bindings hfound hw hlist⟩

/-- Every entry that a document `Lists` is read, or something is reported of the whole, or there is
a first entry that is not read. -/
theorem read_cases (source : String) (v : Value) :
    (∃ items, Lists v items ∧ ∀ e ∈ items, Readable e) ∨
      (∃ fault, ReportedWhole source v fault) ∨
      ∃ items failure, Lists v items ∧ FirstRejected source 0 items failure := by
  rcases lists_or_reportedWhole source v with ⟨items, hitems⟩ | hfault
  · rcases readable_or_firstRejected source 0 items with hall | ⟨failure, hfirst⟩
    · exact .inl ⟨items, hitems, hall⟩
    · exact .inr (.inr ⟨items, failure, hitems, hfirst⟩)
  · exact .inr (.inl hfault)

end Documents

/-- `read` succeeds exactly if the manifest is `null`, or a mapping whose list is missing, `null` or
a list of entries that are all `Readable`; then its bindings are those that the entries declare, in
order. Otherwise it is reported that there is no list to read (`ReportedWhole`), or the failure is
that of the first entry that is not read (`FirstRejected`): what the first check that fails reports
of it under its key, or an integer too long to be written among the names of an entry of the right
shape. -/
theorem read_iff_shape (source : String) (v : Value) :
    (∀ bindings, read source v = .ok bindings ↔
      ∃ items, Lists v items ∧ (∀ e ∈ items, Readable e) ∧ bindings = items.map declared) ∧
    (∀ failure, read source v = .error failure ↔
      (∃ fault, ReportedWhole source v fault ∧ failure = .fault fault) ∨
      ∃ items, Lists v items ∧ FirstRejected source 0 items failure) := by
  have hread : ∀ {items}, Lists v items → (∀ e ∈ items, Readable e) →
      read source v = .ok (items.map declared) := fun hitems hall =>
    (read_of_lists source hitems).trans (readEntries_of_readable 0 hall)
  have hfirst : ∀ {items failure}, Lists v items → FirstRejected source 0 items failure →
      read source v = .error failure := fun hitems hfailure =>
    (read_of_lists source hitems).trans (readEntries_of_firstRejected hfailure)
  -- each of the three cases tells the result, and one of them is always there
  refine ⟨fun bindings => ⟨fun h => ?_, ?_⟩, fun failure => ⟨fun h => ?_, ?_⟩⟩
  · rcases read_cases source v with ⟨items, hitems, hall⟩ | ⟨fault, hfault⟩ |
      ⟨items, failure, hitems, hfailure⟩
    · rw [hread hitems hall] at h
      exact ⟨items, hitems, hall, (Except.ok.inj h).symm⟩
    · cases h.symm.trans (read_of_reportedWhole hfault)
    · cases h.symm.trans (hfirst hitems hfailure)
  · rintro ⟨items, hitems, hall, rfl⟩
    exact hread hitems hall
  · rcases read_cases source v with ⟨items, hitems, hall⟩ | ⟨fault, hfault⟩ |
      ⟨items, failure', hitems, hfailure⟩
    · cases h.symm.trans (hread hitems hall)
    · rw [read_of_reportedWhole hfault] at h
      exact .inl ⟨fault, hfault, (Except.error.inj h).symm⟩
    · obtain rfl := Except.error.inj (h.symm.trans (hfirst hitems hfailure))
      exact .inr ⟨items, hitems, hfailure⟩
  · rintro (⟨fault, hfault, rfl⟩ | ⟨items, hitems, hfailure⟩)
    · exact read_of_reportedWhole hfault
    · exact hfirst hitems hfailure

/-- An entry with an integer for a contract that has more digits than may be written. -/
def longNameEntry : Value := .map 1 [
  (.text "contract", .scalar (.int (16 ^ 3600))),
  (.text "implementation", .text "p.B")]

/-- The entry `longNameEntry` has the right shape, and still a manifest that lists it is not read
and no fault reports it. -/
theorem long_name_unreported :
    WellShaped longNameEntry ∧
      read "m.yaml" (.map 0 [(.text "bindings", .list 2 [longNameEntry])]) =
        .error .unwritableInteger := by
  have hcontract : longNameEntry.get? "contract" = some (.scalar (.int (16 ^ 3600))) := rfl
  have hshape : WellShaped longNameEntry := by
    refine ⟨rfl, ⟨_, hcontract, by decide +kernel⟩, ⟨.text "p.B", rfl, rfl⟩, ?_⟩
    intro v hv
    cases hv
  have hunwritable : ¬ Writable longNameEntry := by
    intro h
    have hlong := h "contract" (by simp) _ hcontract
    exact absurd hlong (by decide +kernel)
  refine ⟨hshape, ?_⟩
  rw [read_of_lists "m.yaml" (.items rfl)]
  exact readEntries_of_firstRejected
    ⟨[], longNameEntry, [], rfl, List.forall_mem_nil _, .unwritable hshape hunwritable⟩

end FactoryRegistry.Manifest
