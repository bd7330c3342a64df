import FactoryRegistry.Config.Loader
import FactoryRegistry.Proofs.Config.Source
import FactoryRegistry.Proofs.Json.RoundTrip
import FactoryRegistry.Proofs.Yaml.Value

/-!
# Which source has the say

Sources change a configuration one after another: first the documents, then the variables of the
settings file and of the environment one by one, and last the overrides. On every path the loaded
configuration holds what the last source that decides the path holds there, and nothing where none
decides it (`Sources.load_precedence`).

`Configuration.Follows` states this of a configuration and the sources so far, together with what
keeps labels from interfering: none occurs twice, and the next one is free. Each source preserves it
(`Follows.merge`, `Follows.setPath`), so runs of sources do (`Follows.mergeFiles`,
`Follows.mergeVariables`). The last source need not preserve it (`Follows.mergeOverrides`).
-/

namespace FactoryRegistry.Config

open Value

/-! ## Documents -/

/-- A document that `readDocument` reads has labels from `next` on, up to the one after, and no
mapping in it has a key twice. -/
theorem readDocument_labels {fs : FileSystem} {path : Path} {next next' : Nat} {v : Value}
    (h : readDocument fs path next = .ok (v, next')) :
    next ≤ next' ∧ (∀ l ∈ v.labels, next ≤ l ∧ l < next') ∧ v.Proper := by
  obtain ⟨text, -, h⟩ := bind_eq_ok_iff.1 h
  split at h
  · -- a JSON document is labelled as its value is made
    rw [readJson] at h
    split at h
    next j hread =>
      obtain ⟨rfl, rfl⟩ := Prod.ext_iff.1 (Except.ok.inj h)
      exact ⟨le_ofJson_next next j, fun l => mem_labels_ofJson,
        ofJson_proper (Json.read_proper hread) next⟩
    next => cases h
    next => cases h
  · -- a YAML document is labelled by the numbers of its nodes
    rw [readYaml] at h
    split at h <;> cases h
    next hread =>
      obtain ⟨hnext, hlabels⟩ := Yaml.read_labels hread
      exact ⟨hnext, hlabels, Yaml.read_proper hread⟩

/-- The documents of files in order, each with labels that the ones before it leave free. A file may
hold nothing at all. -/
def documents (fs : FileSystem) (next : Nat) : List Path → Except Failure (List Value)
  | [] => .ok []
  | path :: paths => do
    match ← readDocument fs path next with
    | (.map label entries, after) =>
      return .map label entries :: (← documents fs (max next after) paths)
    | (.scalar .null, _) => documents fs next paths
    | _ => invalid path.text "top level must be a mapping"

/-- The path and the value that a variable sets, if it has the prefix and a value. -/
def assignment? (namePrefix : String) (v : String × String) : Option (List String × Json) :=
  match variablePath? namePrefix v.1, coerce v.2 with
  | some path, .ok j => some (path, j)
  | _, _ => none

/-- A variable without the prefix sets nothing. -/
theorem assignment?_of_none {namePrefix name : String}
    (hpath : variablePath? namePrefix name = none) (raw : String) :
    assignment? namePrefix (name, raw) = none := by
  rw [assignment?, hpath]

/-- A variable with the prefix sets what `coerce` makes of its text, on its `variablePath?`. -/
theorem assignment?_of_some {namePrefix name raw : String} {path : List String} {j : Json}
    (hpath : variablePath? namePrefix name = some path) (hj : coerce raw = .ok j) :
    assignment? namePrefix (name, raw) = some (path, j) := by
  rw [assignment?, hpath, hj]

/-- What variables set, in order. -/
def settingsOf (namePrefix : String) (vars : List (String × String)) : List Source :=
  (vars.filterMap (assignment? namePrefix)).map fun s => .setting s.1 s.2

/-- Every variable with the prefix has a value. -/
def HaveValues (namePrefix : String) (vars : List (String × String)) : Prop :=
  ∀ v ∈ vars, (variablePath? namePrefix v.1).isSome → ∃ j, coerce v.2 = .ok j

theorem splitLevelsFrom_ne_nil (current cs : List Char) : splitLevelsFrom current cs ≠ [] := by
  fun_induction splitLevelsFrom current cs with
  | case1 => exact List.cons_ne_nil _ _
  | case2 _ _ _ _ ih => exact ih
  | case3 => exact List.cons_ne_nil _ _

/-- The `variablePath?` of a variable with the prefix is not empty. -/
theorem variablePath?_ne_nil {namePrefix name : String} {path : List String}
    (h : variablePath? namePrefix name = some path) : path ≠ [] := by
  rw [variablePath?] at h
  split at h <;> cases h
  exact fun h => splitLevelsFrom_ne_nil _ _ (List.map_eq_nil_iff.1 h)

namespace Configuration

/-- A configuration follows some sources: its mappings are told apart by labels, none of which is a
free one, and on every path it holds what the last source that decides the path does. -/
structure Follows (c : Configuration) (sources : List Source) : Prop where
  /-- No label occurs twice. -/
  separate : c.Separate
  /-- The root has the label that sources are merged into. -/
  exists_entries : ∃ es, c.root = .map 0 es
  /-- The last source that decides a path has the say. -/
  holding_eq : ∀ path ≠ [], Holding.of (c.root.at? path) = lastHolding sources path

variable {fs : FileSystem} {c : Configuration} {sources : List Source} {v : Value} {next l : Nat}
  {es : List (Scalar × Value)} {raw namePrefix : String} {j : Json} {path : List String}
  {vars : List (String × String)}

theorem follows_empty : Follows {} [] where
  separate := ⟨Multiset.nodup_singleton 0, fun l hl => by
    rw [Multiset.mem_singleton.1 hl]
    exact Nat.one_pos⟩
  exists_entries := ⟨[], rfl⟩
  holding_eq := fun path hpath => by
    obtain ⟨d, path, rfl⟩ := List.exists_cons_of_ne_nil hpath
    rfl

theorem merge_next (c : Configuration) (v : Value) (next : Nat) :
    (c.merge v next).2.next = max c.next next := rfl

namespace Follows

/-- The root is `Detached` from every document whose labels are free. -/
theorem detached (h : c.Follows sources) (hproper : v.Proper) (hfree : ∀ l ∈ v.labels, c.next ≤ l) :
    Detached c.root v where
  proper := hproper
  unshared := fun i _ => unshared_of_nodup h.separate.1 i
  disjoint := Multiset.disjoint_left.2 fun {l} hl hls =>
    (h.separate.2 l hl).not_ge (hfree l hls)

/-- `merge` of a document whose labels are free comes to its end, and the document has the last say
on the paths that it decides. The document may refer back to its mappings. -/
theorem merge_holding (h : c.Follows sources) (hproper : v.Proper)
    (hfree : ∀ l ∈ v.labels, c.next ≤ l) (next depth : Nat) :
    ∃ c', c.merge v next depth = (.ok (), c') ∧ ∀ path ≠ [],
      Holding.of (c'.root.at? path) = lastHolding (sources ++ [.document v]) path := by
  obtain ⟨es, hroot⟩ := h.exists_entries
  have hdetached : Detached (.map 0 es) v := hroot ▸ h.detached hproper hfree
  obtain ⟨root, hmerged, hat⟩ := mergeInto_at? hdetached depth
  refine ⟨_, by rw [Configuration.merge, hroot, hmerged], fun path hpath => ?_⟩
  rw [lastHolding_append, ← h.holding_eq path hpath, hroot]
  by_cases hdecides : v.Decides path
  · exact ((hat path hpath).1 hdecides).trans (if_pos hdecides).symm
  · exact (congrArg Holding.of ((hat path hpath).2 hdecides)).trans (if_neg hdecides).symm

/-- `merge` of a document whose labels are free, and that has no mapping at two places, adds it to
the sources. -/
theorem merge (h : c.Follows sources) (hproper : (Value.map l es).Proper)
    (hnodup : (Value.map l es).labels.Nodup)
    (hfree : ∀ i ∈ (Value.map l es).labels, c.next ≤ i ∧ i < next) :
    ∃ c', c.merge (.map l es) next = (.ok (), c') ∧
      c'.Follows (sources ++ [.document (.map l es)]) := by
  obtain ⟨c', hrun, hholding⟩ :=
    h.merge_holding hproper (fun i hi => (hfree i hi).1) next defaultDepth
  obtain ⟨rs, hroot⟩ := h.exists_entries
  have hfree' : ∀ i ∈ (Value.map l es).labels, c.next ≤ i ∧ i < max c.next next := fun i hi =>
    (hfree i hi).imp_right (lt_max_of_lt_right ·)
  -- the merge is an overlay at the root, so that no mapping stands at two places after it
  have hmerged : c.merge (.map l es) next =
      (.ok (), { root := .map 0 (overlay rs es), next := max c.next next }) := by
    have hdetached : Detached (.map 0 rs) (.map l es) :=
      hroot ▸ h.detached hproper fun i hi => (hfree i hi).1
    rw [Configuration.merge, hroot, mergeInto_eq_overlay hdetached (loopless_of_nodup _ hnodup)]
  obtain rfl := (Prod.mk.inj (hrun.symm.trans hmerged)).2
  exact ⟨_, hrun, h.separate.of_le (hroot ▸ labels_overlay_le 0 l rs es) hnodup hfree'
    (le_max_left _ _), ⟨_, rfl⟩, hholding⟩

/-- `mergeOverrides` comes to its end, and the overrides have the last say on the paths that they
decide. They may have mappings at several places. -/
theorem mergeOverrides (h : c.Follows sources) (hproper : v.Proper) :
    ∃ c', c.mergeOverrides v = (.ok (), c') ∧ ∀ path ≠ [],
      Holding.of (c'.root.at? path) = lastHolding (sources ++ [.document v]) path := by
  have hfree : ∀ l ∈ (v.relabel (c.next + ·)).labels, c.next ≤ l := fun l hl => by
    rw [labels_relabel] at hl
    obtain ⟨i, -, rfl⟩ := Multiset.mem_map.1 hl
    exact Nat.le_add_right _ _
  obtain ⟨c', hrun, hholding⟩ := h.merge_holding (hproper.relabel (c.next + ·)) hfree
    (c.next + v.labelBound) defaultDepth
  refine ⟨c', hrun, fun path hpath => (hholding path hpath).trans ?_⟩
  exact lastHolding_document_relabel (add_right_injective c.next) v sources path

/-- `setPath` from the root adds the variable to the sources. -/
theorem setPath (h : c.Follows sources) (hpath : path ≠ []) (hj : coerce raw = .ok j) :
    ∃ c', c.setPath c.root raw path = (.ok (), c') ∧
      c'.Follows (sources ++ [.setting path j]) := by
  obtain ⟨hseparate, ⟨es, hroot⟩, hholding⟩ := h
  have hroot' : c.root = plug [] (.map 0 es) := hroot
  refine ⟨_, hroot ▸ setPath_plug hj hroot' hseparate, separate_setEntries hseparate hroot j path,
    ⟨_, rfl⟩, fun p hp => ?_⟩
  rw [lastHolding_append, ← hholding p hp, hroot]
  exact holding_setEntries hpath hp j (hroot ▸ hseparate)

/-- `mergeVariables` with variables that have values adds their `settingsOf` to the sources. -/
theorem mergeVariables (h : c.Follows sources) (hvalues : HaveValues namePrefix vars) :
    ∃ c', c.mergeVariables namePrefix vars = (.ok (), c') ∧
      c'.Follows (sources ++ settingsOf namePrefix vars) := by
  induction vars generalizing c sources with
  | nil => exact ⟨c, rfl, by rwa [settingsOf, List.filterMap_nil, List.map_nil, List.append_nil]⟩
  | cons first others ih =>
    obtain ⟨name, raw⟩ := first
    obtain ⟨hvalue, hothers⟩ := List.forall_mem_cons.1 hvalues
    dsimp only at hvalue
    rw [settingsOf, Configuration.mergeVariables]
    -- a variable without the prefix is passed over, and is no setting either
    cases hpath : variablePath? namePrefix name with
    | none =>
      rw [List.filterMap_cons_none (assignment?_of_none hpath raw)]
      exact ih h hothers
    | some path =>
      obtain ⟨j, hj⟩ := hvalue (by rw [hpath]; rfl)
      obtain ⟨c', hset, hc'⟩ := h.setPath (variablePath?_ne_nil hpath) hj
      rw [List.filterMap_cons_some (assignment?_of_some hpath hj), List.map_cons, List.append_cons]
      dsimp only
      rw [hset]
      exact ih hc' hothers

/-- `mergeFiles` adds the documents of the files to the sources. -/
theorem mergeFiles {paths : List Path} {docs : List Value} (h : c.Follows sources)
    (hdocs : documents fs c.next paths = .ok docs) (hnodup : ∀ d ∈ docs, d.labels.Nodup) :
    ∃ c', c.mergeFiles fs paths = (.ok (), c') ∧
      c'.Follows (sources ++ docs.map .document) := by
  induction paths generalizing c sources docs with
  | nil =>
    cases hdocs
    exact ⟨c, rfl, by rwa [List.map_nil, List.append_nil]⟩
  | cons path paths ih =>
    rw [documents] at hdocs
    obtain ⟨⟨v, after⟩, hread, hdocs⟩ := bind_eq_ok_iff.1 hdocs
    obtain ⟨hnext, hfree, hproper⟩ := readDocument_labels hread
    rw [Configuration.mergeFiles, mergeFile, hread]
    split at hdocs
    next heq =>
      -- the labels of the documents after this one begin past its own
      cases heq
      obtain ⟨rest, hrest, hdocs⟩ := bind_eq_ok_iff.1 hdocs
      cases hdocs
      obtain ⟨hdoc, hnodup⟩ := List.forall_mem_cons.1 hnodup
      obtain ⟨c₁, hmerge, hc₁⟩ := h.merge hproper hdoc hfree
      have hafter : c₁.next = max c.next after := by
        rw [← merge_next c (.map _ _), hmerge]
      obtain ⟨c', hrun, hc'⟩ := ih hc₁ (hafter ▸ hrest) hnodup
      refine ⟨c', ?_, ?_⟩
      · dsimp only
        rw [hmerge]
        exact hrun
      · rwa [List.map_cons, List.append_cons]
    next heq =>
      -- a file that holds nothing
      cases heq
      exact ih h hdocs hnodup
    next => cases hdocs

end Follows

/-- A path of names leads where the path of the names as keys does. -/
theorem valueAt?_eq_at? (v : Value) (names : List String) :
    valueAt? v names = v.at? (names.map .text) := by
  induction names generalizing v with
  | nil => rw [valueAt?, List.map_nil, at?_nil]
  | cons name names ih =>
    rw [valueAt?, List.map_cons, at?_cons, Value.get?]
    exact congrArg _ (funext ih)

/-- Names without points, joined by points, lead where the path of the names does. -/
theorem get?_intercalate (c : Configuration) {names : List String} (hnames : names ≠ [])
    (hpoints : ∀ name ∈ names, '.' ∉ name.toList) :
    c.get? (".".intercalate names) = c.root.at? (names.map .text) := by
  have hpieces : dottedPath (".".intercalate names) = names := by
    rw [dottedPath, String.toList_intercalate]
    have hcut : Text.pieces '.' (['.'].intercalate (names.map String.toList)) =
        names.map String.toList :=
      Text.pieces_intercalate (fun h => hnames (List.map_eq_nil_iff.1 h)) (by simpa using hpoints)
    rw [show ".".toList = ['.'] from rfl, hcut, List.map_map]
    simp
  rw [get?, hpieces, valueAt?_eq_at?]

end Configuration

/-! ## Loading -/

/-- The sources of a configuration in the order in which they are merged. -/
def Sources.inOrder (s : Sources) (docs : List Value)
    (dotenv environment : List (String × String)) :
    List Source :=
  docs.map .document ++ settingsOf s.namePrefix dotenv ++ settingsOf s.namePrefix environment ++
    s.overrides.toList.map .document

/-- On every path a loaded configuration holds what the last source that decides the path holds
there (`lastHolding`), and nothing where none decides it. So does a lookup by names that are joined
by points.

The documents have no mapping at two places, the variables with the prefix have values
(`HaveValues`), and no mapping in the overrides has a key twice. -/
theorem Sources.load_precedence {fs : FileSystem} {environment dotenv : List (String × String)}
    {s : Sources} {paths : List Path} {docs : List Value} (hpaths : s.filesToMerge fs = .ok paths)
    (hdocs : documents fs 1 paths = .ok docs) (hunshared : ∀ d ∈ docs, d.labels.Nodup)
    (hdotenv : s.settingsVariables fs = .ok dotenv)
    (hvalues : HaveValues s.namePrefix (dotenv ++ environment))
    (hoverrides : ∀ v ∈ s.overrides, v.Proper) :
    ∃ c, s.load fs environment = .ok c ∧
      (∀ path ≠ [], Holding.of (c.root.at? path) =
        lastHolding (s.inOrder docs dotenv environment) path) ∧
      ∀ names ≠ [], (∀ name ∈ names, '.' ∉ name.toList) →
        Holding.of (c.get? (".".intercalate names)) =
          lastHolding (s.inOrder docs dotenv environment) (names.map .text) := by
  -- files, settings, environment and overrides, each on top of what is there
  obtain ⟨c₁, hfiles, hc₁⟩ := Configuration.follows_empty.mergeFiles hdocs hunshared
  obtain ⟨c₂, hsettings, hc₂⟩ := hc₁.mergeVariables fun v hv =>
    hvalues v (List.mem_append_left _ hv)
  obtain ⟨c₃, henvironment, hc₃⟩ :=
    hc₂.mergeVariables fun v hv => hvalues v (List.mem_append_right _ hv)
  obtain ⟨c, hload, hc⟩ : ∃ c, s.load fs environment = .ok c ∧ ∀ path ≠ [],
      Holding.of (c.root.at? path) = lastHolding (s.inOrder docs dotenv environment) path := by
    rw [Sources.load, hpaths, hdotenv, Sources.inOrder]
    simp only [bind, Except.bind, hfiles, Except.map, hsettings, henvironment]
    cases hv : s.overrides with
    | none => exact ⟨c₃, rfl, by simpa using hc₃.holding_eq⟩
    | some v =>
      obtain ⟨c, hmerge, hc⟩ := hc₃.mergeOverrides (hoverrides v hv)
      refine ⟨c, ?_, by simpa using hc⟩
      dsimp only
      rw [hmerge]
  refine ⟨c, hload, hc, fun names hnames hpoints => ?_⟩
  -- a path of names without dots is the one that they spell
  rw [c.get?_intercalate hnames hpoints]
  exact hc _ fun h => hnames (List.map_eq_nil_iff.1 h)

/-- What is written in UTF-8 is read back. -/
theorem fromUTF8?_toUTF8 (s : String) : String.fromUTF8? s.toUTF8 = some s :=
  dif_pos s.isValidUTF8

/-- A file of text that is there is read by `readText`, with its line breaks unified. -/
theorem readText_of_text {fs : FileSystem} {path : Path} {content : String}
    (hfile : fs.entryAt path = .ok (.file content.toUTF8)) :
    fs.readText path = .ok (String.ofList (Text.unifyNewlines content.toList)) := by
  rw [FileSystem.readText, hfile]
  simp only [bind, Except.bind, fromUTF8?_toUTF8]
  rfl

/-- A document with a mapping in it. -/
def nestedDocument : Json := .object [("a", .object [("b", .text "x"), ("c", .text "y")])]

/-- The working directory with the document in a file. -/
def nestedFiles : FileSystem where
  root := .directory [("base.json", .file nestedDocument.compact.toUTF8)]
  workingDirectory := []

/-- The file, with overrides. -/
def nestedSources : Sources where
  files := some [{ names := ["base.json"] }]
  overrides := some (.map 0 [(.text "d", .null)])

theorem nestedDocument_readable : nestedDocument.Readable := by
  refine .object (List.nodup_singleton _) fun m hm => ?_
  rw [List.mem_singleton.1 hm]
  refine .object (by decide) fun m hm => ?_
  rcases List.mem_pair.1 hm with rfl | rfl <;> exact .text _

theorem readDocument_nestedFiles (next : Nat) :
    readDocument nestedFiles { names := ["base.json"] } next =
      .ok (ofJson next nestedDocument) := by
  have hsorted : nestedDocument.sorted = nestedDocument := by
    rw [nestedDocument, Json.sorted, List.mergeSort_of_pairwise (by decide)]
    simp only [Json.sortedMembers, Json.sorted]
    rw [List.mergeSort_of_pairwise (by decide)]
  have hread : Json.read nestedDocument.compact = .ok nestedDocument :=
    (Json.read_compact nestedDocument_readable).trans (congrArg _ hsorted)
  have htext : nestedFiles.readText { names := ["base.json"] } = .ok nestedDocument.compact := by
    have hlines :
        Text.unifyNewlines nestedDocument.compact.toList = nestedDocument.compact.toList := by
      rw [Json.compact, String.toList_ofList, nestedDocument]
      simp only [Json.write, Json.writeMembers, Json.sortMembers]
      rw [List.mergeSort_of_pairwise (by decide), List.mergeSort_of_pairwise (by decide)]
      decide
    have hentry : nestedFiles.entryAt { names := ["base.json"] } =
        .ok (.file nestedDocument.compact.toUTF8) := rfl
    rw [readText_of_text hentry, hlines, String.ofList_toList]
  have hsuffix : (Path.suffix { names := ["base.json"] } == ".json") = true := by decide
  have hthere : nestedFiles.hasEntry { names := ["base.json"] } = .ok true := rfl
  rw [readDocument, readRequired, hthere, htext, hsuffix]
  change readJson _ _ _ = _
  rw [readJson, hread]

theorem documents_nestedFiles :
    documents nestedFiles 1 [{ names := ["base.json"] }] =
      .ok [.map 1 [(.text "a", .map 2 [(.text "b", text "x"), (.text "c", text "y")])]] := by
  rw [documents, readDocument_nestedFiles]
  rfl

/-- A variable takes precedence over the document at its own path, and leaves the rest to it. -/
theorem load_nestedSources :
    ∃ c, nestedSources.load nestedFiles [("SF_A__B", "yes"), ("HOME", "/")] = .ok c ∧
      Holding.of (c.get? "a.b") = .value (.scalar (.bool true)) ∧
      Holding.of (c.get? "a.c") = .value (text "y") ∧
      Holding.of (c.get? "a") = .mapping ∧ Holding.of (c.get? "e") = .nothing := by
  -- the hypotheses of `load_precedence`, one by one
  have hunshared : ∀ d ∈ [Value.map 1
      [(.text "a", .map 2 [(.text "b", text "x"), (.text "c", text "y")])]], d.labels.Nodup := by
    intro d hd
    rw [List.mem_singleton.1 hd]
    decide
  have hpaths : nestedSources.filesToMerge nestedFiles = .ok [{ names := ["base.json"] }] := rfl
  have hdotenv : nestedSources.settingsVariables nestedFiles = .ok [] := rfl
  have hvalues :
      HaveValues nestedSources.namePrefix ([] ++ [("SF_A__B", "yes"), ("HOME", "/")]) := by
    intro v hv hpath
    rcases List.mem_pair.1 hv with rfl | rfl
    · exact ⟨.bool true, rfl⟩
    · cases hpath
  have hoverrides : ∀ v ∈ nestedSources.overrides, v.Proper := by
    rintro _ ⟨⟩
    exact .map (List.pairwise_singleton _ _) fun e he => List.mem_singleton.1 he ▸ .leaf rfl
  obtain ⟨c, hload, -, hget⟩ :=
    Sources.load_precedence hpaths documents_nestedFiles hunshared hdotenv hvalues hoverrides
  exact ⟨c, hload, hget ["a", "b"] (by simp) (by decide), hget ["a", "c"] (by simp) (by decide),
    hget ["a"] (by simp) (by decide), hget ["e"] (by simp) (by decide)⟩

end FactoryRegistry.Config
