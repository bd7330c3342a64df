import FactoryRegistry.Proofs.Config.Precedence

/-!
# Configurations that sources lead to

A configuration is reachable if files, variables and overrides lead to it from the empty one,
whether they all succeed or not (`Configuration.Reachable`); `Sources.load` leads to such a one
(`Sources.load_reachable`). Its documents may refer back, so that one mapping stands at several
places of it, also inside itself. Still its root has the label that sources are merged into, and the
next label is free (`Reachable.labelled`): the values that a source sets bring in labels that were
free before, and no others (`Configuration.Rooted`). So the root stands at one place
(`Reachable.root_alone`).
-/

namespace FactoryRegistry

namespace Value

variable {P : Nat → Prop} {l i m : Nat} {k : Scalar} {v w : Value} {es : List (Scalar × Value)}
  {d : Change} {changes : List Change}

/-- A property is true of all labels in a value. -/
def Within (P : Nat → Prop) (v : Value) : Prop := ∀ i ∈ v.labels, P i

theorem Within.of_mem_entries (h : v.Within P) {e : Scalar × Value} (he : e ∈ v.entries) :
    e.2.Within P := fun i hi => h i (mem_labels_of_mem_entries he hi)

/-- `folded` brings in no label. -/
theorem Within.folded (h : v.Within P) (l : Nat) : (v.folded l).Within P := fun i hi =>
  h i (mem_labels_folded hi)

mutual

/-- `assign` brings in the labels of its value and no others. -/
theorem Within.assign (hw : w.Within P) (l : Nat) (k : Scalar) :
    ∀ v : Value, v.Within P → (assign l k w v).Within P
  | map m es, h => by
    have hentries := assignInEntries_within hw l k es fun i hi => h i (Multiset.mem_cons_of_mem hi)
    intro i hi
    rw [Value.assign, labels, Multiset.mem_cons] at hi
    rcases hi with rfl | hi
    · exact h _ (Multiset.mem_cons_self _ _)
    · -- the value goes into this mapping or only into those inside it
      split at hi
      · have hput := Multiset.mem_of_le (entryLabels_putEntry_le k w _) hi
        exact (Multiset.mem_add.1 hput).elim (hentries i) (hw i)
      · exact hentries i hi
  | list m items, h => by
    intro i hi
    rw [Value.assign, labels] at hi
    exact assignInItems_within hw l k items h i hi
  | pair a b, h => by
    intro i hi
    rw [Value.assign, labels, Multiset.mem_add] at hi
    exact hi.elim (hw.assign l k a (fun j hj => h j (Multiset.mem_add.2 (Or.inl hj))) i)
      (hw.assign l k b (fun j hj => h j (Multiset.mem_add.2 (Or.inr hj))) i)
  | scalar _, h | set _, h | loop _ _, h => h

theorem assignInItems_within (hw : w.Within P) (l : Nat) (k : Scalar) : ∀ items : List Value,
    (∀ i ∈ itemLabels items, P i) → ∀ i ∈ itemLabels (assignInItems l k w items), P i
  | [], h => h
  | v :: items, h => by
    intro i hi
    rw [assignInItems, itemLabels, Multiset.mem_add] at hi
    exact hi.elim (hw.assign l k v (fun j hj => h j (Multiset.mem_add.2 (Or.inl hj))) i)
      (assignInItems_within hw l k items (fun j hj => h j (Multiset.mem_add.2 (Or.inr hj))) i)

theorem assignInEntries_within (hw : w.Within P) (l : Nat) (k : Scalar) :
    ∀ es : List (Scalar × Value),
      (∀ i ∈ entryLabels es, P i) → ∀ i ∈ entryLabels (assignInEntries l k w es), P i
  | [], h => h
  | (_, v) :: es, h => by
    intro i hi
    rw [assignInEntries, entryLabels, Multiset.mem_add] at hi
    exact hi.elim (hw.assign l k v (fun j hj => h j (Multiset.mem_add.2 (Or.inl hj))) i)
      (assignInEntries_within hw l k es (fun j hj => h j (Multiset.mem_add.2 (Or.inr hj))) i)

end

/-- A `change` brings in labels of its value and no others. -/
theorem Within.change (h : v.Within P) (hd : d.value.Within P) : (v.change d).Within P :=
  (hd.folded d.label).assign d.label d.key v h

/-- `Within.change` for some changes. -/
theorem Within.changed (h : v.Within P) (hchanges : ∀ d ∈ changes, d.value.Within P) :
    (v.changed changes).Within P := by
  induction changes generalizing v with
  | nil => exact h
  | cons d changes ih =>
    obtain ⟨hd, hchanges⟩ := List.forall_mem_cons.1 hchanges
    exact ih (h.change hd) hchanges

/-- `assign` leaves a mapping a mapping with its label, and brings in labels of the value among its
entries. -/
theorem exists_assign_map (l m : Nat) (k : Scalar) (hes : ∀ i ∈ entryLabels es, P i)
    (hw : w.Within P) :
    ∃ es', assign l k w (map m es) = map m es' ∧ ∀ i ∈ entryLabels es', P i := by
  have hassigned := assignInEntries_within hw l k es hes
  refine ⟨_, rfl, ?_⟩
  split
  · intro i hi
    have hput := Multiset.mem_of_le (entryLabels_putEntry_le k w _) hi
    exact (Multiset.mem_add.1 hput).elim (hassigned i) (hw i)
  · exact hassigned

/-- `exists_assign_map` for some changes. -/
theorem exists_changed_map (m : Nat) (hes : ∀ i ∈ entryLabels es, P i)
    (hchanges : ∀ d ∈ changes, d.value.Within P) :
    ∃ es', (map m es).changed changes = map m es' ∧ ∀ i ∈ entryLabels es', P i := by
  induction changes generalizing es with
  | nil => exact ⟨es, rfl, hes⟩
  | cons d changes ih =>
    obtain ⟨hd, hchanges⟩ := List.forall_mem_cons.1 hchanges
    obtain ⟨es', hassign, hes'⟩ := exists_assign_map d.label m d.key hes (hd.folded d.label)
    rw [changed, List.foldl_cons, Value.change, hassign]
    exact ih hes' hchanges

/-! ## The labels of a merge -/

section Merge

variable {inner : Value → Value → Merge} {source : Value}

/-- What `mergeEntry` sets is its value, or a value in it. -/
theorem mergeEntry_within
    (hinner : ∀ t s : Value, s.Within P → ∀ d ∈ (inner t s).2, d.value.Within P)
    (hv : v.Within P) (target : Value) (k : Scalar) :
    ∀ d ∈ (mergeEntry inner target k v).2, d.value.Within P := by
  rw [mergeEntry.eq_def]
  split
  · exact hinner _ _ hv
  · exact fun d hd => List.mem_singleton.1 hd ▸ hv
  · exact List.forall_mem_nil _

/-- What `mergeEntries` sets are values in the source. -/
theorem mergeEntries_within
    (hinner : ∀ t s : Value, s.Within P → ∀ d ∈ (inner t s).2, d.value.Within P)
    (hsource : source.Within P) (size left : Nat) (target : Value) :
    ∀ d ∈ (mergeEntries inner size left target source).2, d.value.Within P := by
  induction left generalizing target source with
  | zero =>
    rw [mergeEntries.eq_def]
    split <;> exact List.forall_mem_nil _
  | succ left ih =>
    rw [mergeEntries.eq_def]
    split
    · exact List.forall_mem_nil _
    · dsimp only
      split
      · exact List.forall_mem_nil _
      next key value hentry =>
        -- the value is one of the source, and the source stays within the same labels
        have hvalue : value.Within P := hsource.of_mem_entries (List.mem_of_getElem? hentry)
        have hfirst := mergeEntry_within hinner hvalue target key
        split
        next heq => rwa [heq] at hfirst
        next changes heq =>
          rw [heq] at hfirst
          exact fun d hd => (List.mem_append.1 hd).elim (hfirst d)
            (ih (hsource.changed hfirst) (target.changed changes) d)

/-- What `mergeMapping` sets are values in its source. The induction is on `fuel`. -/
theorem mergeMapping_within (fuel : Nat) (target : Value) (hsource : source.Within P) :
    ∀ d ∈ (mergeMapping fuel target source).2, d.value.Within P := by
  induction fuel generalizing target source with
  | zero => exact List.forall_mem_nil _
  | succ fuel ih => exact mergeEntries_within (fun t s hs => ih t hs) hsource _ _ target

end Merge

end Value

namespace Config

open Value

namespace Configuration

variable {c : Configuration} {v : Value} {next : Nat}

/-- Every label is less than the next one, and the root has the label 0. -/
structure Labelled (c : Configuration) : Prop where
  /-- Sources are merged into the mapping with the label 0. -/
  exists_entries : ∃ es, c.root = .map 0 es
  /-- The next label is free. -/
  fresh : c.root.Within (· < c.next)

/-- The root has the label that sources are merged into, and nothing in it has this label or one
that is free. -/
structure Rooted (c : Configuration) : Prop where
  /-- The label of the root is in use. -/
  next_pos : 1 ≤ c.next
  /-- The labels in the root are other ones that are in use. -/
  exists_entries : ∃ es, c.root = .map 0 es ∧ ∀ i ∈ entryLabels es, 1 ≤ i ∧ i < c.next

namespace Rooted

/-- The empty configuration is `Rooted`. -/
theorem empty : Rooted {} := ⟨le_rfl, [], rfl, fun i hi => absurd hi (Multiset.notMem_zero i)⟩

/-- Labels that have been free may come into use. -/
theorem mono {root : Value} {next next' : Nat} (h : Rooted { root, next }) (hnext : next ≤ next') :
    Rooted { root, next := next' } := by
  obtain ⟨hpos, es, hroot, hlabels⟩ := h
  exact ⟨hpos.trans hnext, es, hroot, fun i hi => (hlabels i hi).imp_right (·.trans_le hnext)⟩

/-- `assign` of a value whose labels have been free leaves the configuration `Rooted`. -/
theorem assign (h : c.Rooted) (l : Nat) (k : Scalar) (hnext : c.next ≤ next)
    (hv : v.Within fun i => c.next ≤ i ∧ i < next) :
    Rooted { root := Value.assign l k v c.root, next } := by
  obtain ⟨hpos, es, hroot, hlabels⟩ := h.mono hnext
  obtain ⟨es', hassign, hes'⟩ := exists_assign_map l 0 k hlabels
    (w := v) fun i hi => ⟨h.next_pos.trans (hv i hi).1, (hv i hi).2⟩
  exact ⟨hpos, es', (congrArg (Value.assign l k v) hroot).trans hassign, hes'⟩

/-- `merge` of a document whose labels have been free leaves the configuration `Rooted`, also where
the merge ends before its time. -/
theorem merge (h : c.Rooted) (hv : v.Within fun i => c.next ≤ i ∧ i < next) (depth : Nat) :
    (c.merge v next depth).2.Rooted := by
  obtain ⟨hpos, es, hroot, hlabels⟩ := h.mono (le_max_left c.next next)
  have hdocument : v.Within fun i => 1 ≤ i ∧ i < max c.next next := fun i hi =>
    ⟨h.next_pos.trans (hv i hi).1, lt_max_of_lt_right (hv i hi).2⟩
  have hchanges := mergeMapping_within (depth + c.root.mappings + v.mappings) c.root hdocument
  obtain ⟨es', hchanged, hes'⟩ := exists_changed_map 0 hlabels hchanges
  exact ⟨hpos, es', (congrArg (Value.changed · _) hroot).trans hchanged, hes'⟩

/-- `enter` leaves the configuration `Rooted`: the mapping that it makes is empty. -/
theorem enter (h : c.Rooted) (holder : Value) (name : String) : (c.enter holder name).2.Rooted := by
  rw [Configuration.enter.eq_def]
  split
  · exact h
  · refine h.assign _ _ (Nat.le_succ _) fun i hi => ?_
    rw [Multiset.mem_singleton.1 hi]
    exact ⟨le_rfl, Nat.lt_succ_self _⟩
  · exact h

theorem setAt (h : c.Rooted) (holder : Value) (name : String) (j : Json) :
    (c.setAt holder name j).Rooted := by
  rw [Configuration.setAt.eq_def]
  split
  · exact h.assign _ _ (le_ofJson_next _ _) fun i hi => mem_labels_ofJson hi
  · exact h

/-- `setPath` leaves the configuration `Rooted`, also where its text has no value. -/
theorem setPath (h : c.Rooted) (holder : Value) (raw : String) (path : List String) :
    (c.setPath holder raw path).2.Rooted := by
  induction path generalizing c holder with
  | nil => exact h
  | cons name path ih =>
    by_cases hpath : path = []
    · subst hpath
      rw [Configuration.setPath.eq_def]
      dsimp only
      split
      · exact h.setAt holder name _
      · exact h
    · rw [setPath_cons c holder raw name hpath]
      exact ih (h.enter holder name) _

/-- `mergeVariables` leaves the configuration `Rooted`. -/
theorem mergeVariables (h : c.Rooted) (namePrefix : String) (vars : List (String × String)) :
    (c.mergeVariables namePrefix vars).2.Rooted := by
  induction vars generalizing c with
  | nil => exact h
  | cons first others ih =>
    rw [Configuration.mergeVariables]
    split
    · exact ih h
    next path _ =>
      -- the path is set as far as it can be, and the others follow if it could
      have hset := h.setPath c.root first.2 path
      split
      next heq =>
        rw [heq] at hset
        exact ih hset
      next heq => rwa [heq] at hset

theorem mergeOverrides (h : c.Rooted) (v : Value) (depth : Nat) :
    (c.mergeOverrides v depth).2.Rooted := by
  refine h.merge (fun i hi => ?_) depth
  rw [labels_relabel] at hi
  obtain ⟨j, hj, rfl⟩ := Multiset.mem_map.1 hi
  exact ⟨Nat.le_add_right _ _, Nat.add_lt_add_left (lt_labelBound v hj) _⟩

/-- `mergeFile` leaves the configuration `Rooted`. -/
theorem mergeFile (h : c.Rooted) (fs : FileSystem) (path : Path) (depth : Nat) :
    (c.mergeFile fs path depth).2.Rooted := by
  rw [Configuration.mergeFile]
  split
  · exact h
  next hread => exact h.merge (readDocument_labels hread).2.1 depth
  · exact h
  · exact h

end Rooted

/-- Files, variables and overrides lead to a configuration. A merge without end is given up at any
depth. -/
inductive Reachable : Configuration → Prop where
  /-- Without any sources. -/
  | empty : Reachable {}
  /-- After one more file. -/
  | mergeFile {c : Configuration} (h : Reachable c) (fs : FileSystem) (path : Path) (depth : Nat) :
      Reachable (c.mergeFile fs path depth).2
  /-- After some more variables. -/
  | mergeVariables {c : Configuration} (h : Reachable c) (namePrefix : String)
      (vars : List (String × String)) : Reachable (c.mergeVariables namePrefix vars).2
  /-- After overrides. -/
  | mergeOverrides {c : Configuration} (h : Reachable c) (v : Value) (depth : Nat) :
      Reachable (c.mergeOverrides v depth).2

namespace Reachable

/-- A `Reachable` configuration is `Rooted`: every source leaves the root what it is. -/
theorem rooted (h : c.Reachable) : c.Rooted := by
  induction h with
  | empty => exact .empty
  | mergeFile _ fs path depth ih => exact ih.mergeFile fs path depth
  | mergeVariables _ namePrefix vars ih => exact ih.mergeVariables namePrefix vars
  | mergeOverrides _ v depth ih => exact ih.mergeOverrides v depth

/-- A `Reachable` configuration has a mapping for its root, and `next` is free. -/
theorem labelled (h : c.Reachable) : c.Labelled := by
  obtain ⟨hpos, es, hroot, hlabels⟩ := h.rooted
  refine ⟨⟨es, hroot⟩, fun i hi => ?_⟩
  rw [hroot, labels, Multiset.mem_cons] at hi
  rcases hi with rfl | hi
  · exact hpos
  · exact (hlabels i hi).2

/-- The root of a `Reachable` configuration stands at one place. -/
theorem root_alone (h : c.Reachable) {es : List (Scalar × Value)} (hroot : c.root = .map 0 es) :
    0 ∉ entryLabels es := by
  obtain ⟨-, es', hroot', hlabels⟩ := h.rooted
  obtain ⟨-, rfl⟩ := Value.map.inj (hroot.symm.trans hroot')
  exact fun h0 => absurd (hlabels 0 h0).1 (by decide)

/-- The root of a `Reachable` configuration is `Unshared`. -/
theorem root_unshared (h : c.Reachable) : c.root.Unshared 0 := by
  obtain ⟨-, es, hroot, -⟩ := h.rooted
  have hcount : (entryLabels es).count 0 = 0 := Multiset.count_eq_zero.2 (h.root_alone hroot)
  rw [hroot, Unshared, labels, Multiset.count_cons_self, hcount]

/-- A `Reachable` configuration is `Detached` from a document that is read for it, if every mapping
that the document is `MergedInto` is `Unshared`: the labels of the document are new. -/
theorem detached (h : c.Reachable) {fs : FileSystem} {path : Path} {doc : Value}
    (hread : readDocument fs path c.next = .ok (doc, next))
    (hunshared : ∀ l, MergedInto l c.root doc → c.root.Unshared l) : Detached c.root doc := by
  obtain ⟨-, hlabels, hproper⟩ := readDocument_labels hread
  exact ⟨hproper, hunshared, Multiset.disjoint_left.2 fun {l} hl hls =>
    (h.labelled.2 l hl).not_ge (hlabels l hls).1⟩

/-- `mergeFiles` leads from a `Reachable` configuration to another one, also where one of the files
fails. -/
theorem mergeFiles (h : c.Reachable) (fs : FileSystem) (paths : List Path) :
    (c.mergeFiles fs paths).2.Reachable := by
  induction paths generalizing c with
  | nil => exact h
  | cons path paths ih =>
    have hfirst := h.mergeFile fs path defaultDepth
    rw [Configuration.mergeFiles]
    split
    next heq =>
      rw [heq] at hfirst
      exact ih hfirst
    next heq => rwa [heq] at hfirst

end Reachable

end Configuration

/-- What `load` makes of sources is `Reachable`. -/
theorem Sources.load_reachable {fs : FileSystem} {environment : List (String × String)}
    {s : Sources} {c : Configuration} (h : s.load fs environment = .ok c) : c.Reachable := by
  have hsettle : ∀ {r : Except Failure Unit × Configuration} {c' : Configuration},
      (r.1.map fun _ => r.2) = .ok c' → r.2 = c' := by
    rintro ⟨r, c''⟩ c' h
    cases r <;> cases h
    rfl
  -- each part of a load that succeeds is one of the sources
  obtain ⟨paths, -, h⟩ := bind_eq_ok_iff.1 h
  obtain ⟨c₁, hfiles, h⟩ := bind_eq_ok_iff.1 h
  obtain ⟨dotenv, -, h⟩ := bind_eq_ok_iff.1 h
  obtain ⟨c₂, hsettings, h⟩ := bind_eq_ok_iff.1 h
  obtain ⟨c₃, henvironment, h⟩ := bind_eq_ok_iff.1 h
  have h₃ : c₃.Reachable := by
    rw [← hsettle henvironment, ← hsettle hsettings, ← hsettle hfiles]
    have hfilesReachable := Configuration.Reachable.empty.mergeFiles fs paths
    exact (hfilesReachable.mergeVariables _ _).mergeVariables _ _
  split at h
  next v _ => exact hsettle h ▸ h₃.mergeOverrides v defaultDepth
  next => exact Except.ok.inj h ▸ h₃

end Config

end FactoryRegistry
