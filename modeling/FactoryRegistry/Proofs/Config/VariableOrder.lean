import FactoryRegistry.Proofs.Config.Frame
import FactoryRegistry.Proofs.Config.Validation
import FactoryRegistry.Proofs.Value.Reordering

/-!
# Variables in any order

Variables whose paths part from each other can be merged in any order: the configurations that come
of it hold the same up to the order of keys, so a lookup finds the same in them and a section is
read the same (`Configuration.variable_order_irrelevant`). Variables without the prefix may stand
anywhere.

Two paths that part at some key are set in either order (`setEntries_comm`), and what is set later
does not depend on the order of keys (`setEntries_same`). From these two a permutation of all
settings follows (`setEach_perm`).
-/

namespace FactoryRegistry.Config

open Value

variable {j k : Json} {name : String} {path : List String} {next : Nat} {old old' : Option Value}
  {es fs : List (Scalar × Value)} {c : Configuration} {namePrefix : String}
  {vars vars' : List (String × String)}

/-! ## Two settings -/

/-- Where there is no mapping, there is none in what is `SameUpToOrder`. -/
theorem not_map_of_same (h : Option.Rel SameUpToOrder old old')
    (hold : ∀ i is, old ≠ some (.map i is)) : ∀ i is, old' ≠ some (.map i is) := by
  rintro i is rfl
  cases h with
  | some h =>
    obtain ⟨m, fs, rfl⟩ := h.exists_map
    exact hold m fs rfl

/-- `settled` sets the same under the first key of a path, if this is known of `setEntries` and the
rest of the path. -/
theorem settled_same (hold : Option.Rel SameUpToOrder old old') {n m : Nat}
    (hpath : ∀ {es fs : List (Scalar × Value)} (n m : Nat), Reordered SameUpToOrder es fs →
      Reordered SameUpToOrder (setEntries j path n es).1 (setEntries j path m fs).1) :
    SameUpToOrder (settled j path n old) (settled j path m old') := by
  by_cases hnil : path = []
  · rw [hnil, settled_nil, settled_nil]
    exact .ofJson j n m
  · rcases map_or_not_map old with ⟨i, is, rfl⟩ | hmap
    · cases hold with
      | some hv =>
        -- both sides go on in the mapping that is there
        obtain ⟨l, fs, rfl, hentries⟩ := hv.exists_reordered
        rw [settled_of_map hnil, settled_of_map hnil]
        exact .map (hpath n m hentries)
    · -- both sides begin a new mapping, perhaps with different labels
      rw [settled_of_not_map hnil hmap, settled_of_not_map hnil (not_map_of_same hold hmap)]
      exact .map (hpath (n + 1) (m + 1) .nil)

/-- `setEntries` does not depend on the order of keys, nor on the labels that are free. -/
theorem setEntries_same (h : Reordered SameUpToOrder es fs) (j : Json) (path : List String)
    (n m : Nat) :
    Reordered SameUpToOrder (setEntries j path n es).1 (setEntries j path m fs).1 := by
  induction path generalizing es fs n m with
  | nil => exact h
  | cons name path ih =>
    rw [setEntries_cons, setEntries_cons]
    exact h.putEntry name (settled_same (h.lookup _) fun n m h => ih h n m)

/-- `settled` does not depend on the labels that are free. -/
theorem settled_labels (j : Json) (path : List String) (n m : Nat) (old : Option Value) :
    SameUpToOrder (settled j path n old) (settled j path m old) := by
  refine settled_same ?_ fun n m h => setEntries_same h j path n m
  cases old with
  | none => exact .none
  | some v => exact .some (.refl v)

/-- `setEntries` along two paths that are `Apart` can be made in either order. The induction is on
the first path. -/
theorem setEntries_comm {p q : List String} (hapart : Apart (p.map .text) (q.map .text))
    (j k : Json) (n n' m m' : Nat) (es : List (Scalar × Value)) :
    Reordered SameUpToOrder (setEntries k q n' (setEntries j p n es).1).1
      (setEntries j p m' (setEntries k q m es).1).1 := by
  -- the induction is on the part that the two paths have in common
  induction p generalizing q n n' m m' es with
  | nil => exact absurd List.nil_prefix hapart.1
  | cons a p ih =>
    cases q with
    | nil => exact absurd List.nil_prefix hapart.2
    | cons b q =>
      rw [setEntries_cons, setEntries_cons, setEntries_cons, setEntries_cons]
      by_cases hab : a = b
      · subst hab
        have hrest : Apart (p.map .text) (q.map .text) := apart_cons_cons.1 hapart rfl
        have hp : p ≠ [] := by
          rintro rfl
          exact hrest.1 List.nil_prefix
        have hq : q ≠ [] := by
          rintro rfl
          exact hrest.2 List.nil_prefix
        -- the second setting finds the mapping of the first one
        rw [putEntry_putEntry_text, putEntry_putEntry_text, lookup_putEntry, lookup_putEntry,
          if_pos (by simp), if_pos (by simp)]
        refine .putEntry_value ?_ _ es
        rcases map_or_not_map (lookup (.text a) es) with ⟨i, is, hold⟩ | hold
        · -- it is the mapping that was there
          rw [hold, settled_of_map hp, settled_of_map hq, settled_of_map hq, settled_of_map hp]
          exact .map (ih hrest n n' m m' is)
        · -- it is the one that the first setting made, empty before that
          rw [settled_of_not_map hp hold, settled_of_not_map hq hold, settled_of_map hq,
            settled_of_map hp]
          exact .map (ih hrest (n + 1) n' (m + 1) m' [])
      · -- the two settings are under different keys and do not see each other
        have hba : ¬ (Scalar.text b).sameKey (.text a) = true := by simpa using Ne.symm hab
        have hab' : ¬ (Scalar.text a).sameKey (.text b) = true := by simpa using hab
        rw [lookup_putEntry, if_neg hab', lookup_putEntry, if_neg hba]
        refine (putEntry_comm hab _ _ es).trans ?_
        exact (Reordered.putEntry_value (settled_labels k q n' m _) _ es).putEntry a
          (settled_labels j p n m' _)

/-! ## All settings -/

/-- Entries with the values of some paths set one after another, and the next free label. -/
def setEach : List (List String × Json) → Nat → List (Scalar × Value) → List (Scalar × Value) × Nat
  | [], next, es => (es, next)
  | (path, j) :: settings, next, es =>
    let (es, next) := setEntries j path next es
    setEach settings next es

/-- `setEach` does not depend on the order of keys, nor on the labels that are free. -/
theorem setEach_same (h : Reordered SameUpToOrder es fs) (settings : List (List String × Json))
    (n m : Nat) :
    Reordered SameUpToOrder (setEach settings n es).1 (setEach settings m fs).1 := by
  induction settings generalizing es fs n m with
  | nil => exact h
  | cons s settings ih => exact ih (setEntries_same h s.2 s.1 n m) _ _

/-- No two settings are on paths that lead the one to the end of the other. -/
def PathsApart (settings : List (List String × Json)) : Prop :=
  settings.Pairwise fun s t => Apart (s.1.map .text) (t.1.map .text)

/-- `setEach` on `PathsApart` can be made in any order. -/
theorem setEach_perm {settings settings' : List (List String × Json)}
    (hperm : settings.Perm settings') (hapart : PathsApart settings)
    (h : Reordered SameUpToOrder es fs) (n m : Nat) :
    Reordered SameUpToOrder (setEach settings n es).1 (setEach settings' m fs).1 := by
  induction hperm generalizing es fs n m with
  | nil => exact h
  | cons s _ ih =>
    exact ih (List.pairwise_cons.1 hapart).2 (setEntries_same h s.2 s.1 n m) _ _
  | swap s t settings =>
    have hst := (List.pairwise_cons.1 hapart).1 s List.mem_cons_self
    refine setEach_same ?_ settings _ _
    exact (setEntries_comm hst t.2 s.2 n _ m m es).trans
      (setEntries_same (setEntries_same h s.2 s.1 m m) t.2 t.1 _ _)
  | trans hperm _ ih ih' =>
    -- parting is symmetric, so it passes to the settings in between
    have hapart' : PathsApart _ := hperm.pairwise hapart fun hst => ⟨hst.2, hst.1⟩
    exact (ih hapart h n n).trans (ih' hapart' (.refl fs) n m)

namespace Configuration

/-- `mergeVariables` with variables that have values makes their settings one after another
(`setEach`), and leaves the labels `Separate`. -/
theorem mergeVariables_eq_setEach (hc : c.Separate) (hroot : c.root = .map 0 es)
    (hvalues : HaveValues namePrefix vars) :
    ∃ d : Configuration, c.mergeVariables namePrefix vars = (.ok (), d) ∧ d.Separate ∧
      d.root = .map 0 (setEach (vars.filterMap (assignment? namePrefix)) c.next es).1 := by
  induction vars generalizing c es with
  | nil => exact ⟨c, rfl, hc, hroot⟩
  | cons v others ih =>
    obtain ⟨name, raw⟩ := v
    obtain ⟨hvalue, hothers⟩ := List.forall_mem_cons.1 hvalues
    rw [mergeVariables]
    cases hpath : variablePath? namePrefix name with
    | none =>
      rw [List.filterMap_cons_none (assignment?_of_none hpath raw)]
      exact ih hc hroot hothers
    | some path =>
      obtain ⟨j, hj⟩ := hvalue (by rw [hpath]; rfl)
      -- the root is a place with nothing around it
      have hplug : c.root = plug [] (.map 0 es) := hroot
      rw [List.filterMap_cons_some (assignment?_of_some hpath hj)]
      dsimp only
      rw [hroot, setPath_plug hj hplug hc]
      exact ih (separate_setEntries hc hroot j path) rfl hothers

/-- Variables make the same assignments without those that lack the prefix. -/
theorem filterMap_assignment?_filter (namePrefix : String) (vars : List (String × String)) :
    (vars.filter fun v => (variablePath? namePrefix v.1).isSome).filterMap
        (assignment? namePrefix) =
      vars.filterMap (assignment? namePrefix) := by
  rw [List.filterMap_filter]
  refine congrArg (vars.filterMap ·) (funext fun v => ?_)
  rw [assignment?]
  cases variablePath? namePrefix v.1 with
  | none => rfl
  | some path => rw [Option.isSome_some, if_pos rfl]

/-- Where the paths of variables are `Apart`, so are those of their assignments. -/
theorem pathsApart_assignments
    (h : (vars.filterMap fun v => variablePath? namePrefix v.1).Pairwise fun p q =>
      Apart (p.map .text) (q.map .text)) :
    PathsApart (vars.filterMap (assignment? namePrefix)) := by
  have hpath : ∀ v s, assignment? namePrefix v = some s →
      variablePath? namePrefix v.1 = some s.1 := by
    intro v s hs
    rw [assignment?] at hs
    split at hs
    next path j hpath _ =>
      cases hs
      exact hpath
    next => cases hs
  rw [PathsApart, List.pairwise_filterMap]
  rw [List.pairwise_filterMap] at h
  exact h.imp fun hvw s hs t ht => hvw s.1 (hpath _ s hs) t.1 (hpath _ t ht)

end Configuration

/-! ## Lookups and sections -/

/-- A field has the same name and a value that holds the same. -/
def SameField (f g : String × Value) : Prop := f.1 = g.1 ∧ SameUpToOrder f.2 g.2

/-- `readField` reads the same: whether a type accepts a value depends on the `kind` of the value
alone. -/
theorem readField_same (h : Reordered SameUpToOrder es fs) (sectionName : String) (f : FieldSpec) :
    AgreeUpTo SameField (readField sectionName es f) (readField sectionName fs f) := by
  rw [readField, readField]
  have hfound := h.lookup (.text f.name)
  generalize lookup (.text f.name) es = x, lookup (.text f.name) fs = y at hfound
  cases hfound with
  | none => exact .refl (fun g => ⟨rfl, .refl g.2⟩) _
  | @some v w hvw =>
    dsimp only
    rw [FieldType.accepts_congr hvw.kind_eq, hvw.kind_eq]
    split
    · exact .ok ⟨rfl, hvw⟩
    · exact .error _

/-- `readRecord` reads the same from entries in another order: the same key is reported as unknown,
since keys are sorted for that, or the fields are read in the order of the record. -/
theorem readRecord_same (h : Reordered SameUpToOrder es fs) (sectionName : String)
    (fields : List FieldSpec) :
    AgreeUpTo (List.Forall₂ SameField) (readRecord sectionName fields es)
      (readRecord sectionName fields fs) := by
  -- both sides go the same way, since keys are sorted before they are checked
  have hkeys := h.sorted?_keys
  cases hsorted : Scalar.sorted? (es.map Prod.fst) with
  | none =>
    rw [readRecord_of_unordered hsorted, readRecord_of_unordered (hkeys ▸ hsorted)]
    exact .error _
  | some sorted =>
    cases hkey : sorted.find? (fun k => !isDeclared fields k) with
    | some key =>
      rw [readRecord_of_unknown hsorted hkey, readRecord_of_unknown (hkeys ▸ hsorted) hkey]
      split <;> exact .error _
    | none =>
      rw [readRecord_of_declared hsorted hkey, readRecord_of_declared (hkeys ▸ hsorted) hkey]
      exact .mapM (readField_same h sectionName) fields

namespace Configuration

variable {d : Configuration}

/-- `get?` finds the same where the labels are `Separate`. -/
theorem get?_same (hc : c.Separate) (hd : d.Separate) (h : SameUpToOrder c.root d.root)
    (path : String) : Option.Rel SameUpToOrder (c.get? path) (d.get? path) := by
  rw [get?, get?, valueAt?_eq_at?, valueAt?_eq_at?]
  exact h.at? (loopless_of_nodup _ hc.1) (loopless_of_nodup _ hd.1) _

/-- What is read as a section is `Loopless` where the labels are `Separate`. -/
theorem loopless_section (hc : c.Separate) (name : String) :
    ((c.get? name).getD (.map 0 [])).Loopless := by
  rw [get?, valueAt?_eq_at?]
  cases hat : c.root.at? ((dottedPath name).map .text) with
  | none => exact loopless_map_iff.2 ⟨Multiset.notMem_zero 0, List.forall_mem_nil _⟩
  | some v => exact (loopless_of_nodup _ hc.1).of_at? hat

/-- `readSection` reads the same where the labels are `Separate`. -/
theorem readSection_same (hc : c.Separate) (hd : d.Separate) (h : SameUpToOrder c.root d.root)
    (name : String) (shape : Shape) :
    AgreeUpTo (List.Forall₂ SameField) (c.readSection name shape) (d.readSection name shape) := by
  have hgetD : SameUpToOrder ((c.get? name).getD (.map 0 [])) ((d.get? name).getD (.map 0 [])) := by
    -- a section that is not there on one side is not there on the other, and counts as empty
    have hget := get?_same hc hd h name
    generalize c.get? name = x, d.get? name = y at hget
    cases hget with
    | none => exact .refl _
    | some hxy => exact hxy
  have hloopless := loopless_section hc name
  have hloopless' := loopless_section hd name
  rw [readSection.eq_def, readSection.eq_def]
  generalize (c.get? name).getD (.map 0 []) = v, (d.get? name).getD (.map 0 []) = w
    at hgetD hloopless hloopless'
  rcases hgetD.maps_or_not with ⟨l, es, m, fs, rfl, rfl, hentries⟩ | ⟨hv, hw⟩
  · cases shape with
    | record fields =>
      dsimp only
      rw [hloopless.entries, hloopless'.entries]
      exact readRecord_same hentries name fields
    | other other => exact .error _
  · -- what is no mapping is refused, whatever it is
    simp only [hv, hw, Bool.false_eq_true, if_false]
    exact .error _

/-- The order of variables is irrelevant to `mergeVariables`.

The lists `vars` and `vars'` have the same variables with the prefix, in any order, and any others
between them. Those with the prefix have values (`HaveValues`), and no path of one leads to the end
of another's (`Apart`). Then both lists can be merged into a configuration that has no mapping at
two places, and the two results are `SameUpToOrder`: every lookup finds the same, and every section
is read the same. -/
theorem variable_order_irrelevant (hc : c.Labelled) (hshared : c.root.labels.Nodup)
    (hperm : (vars.filter fun v => (variablePath? namePrefix v.1).isSome).Perm
      (vars'.filter fun v => (variablePath? namePrefix v.1).isSome))
    (hvalues : HaveValues namePrefix vars)
    (hapart : (vars.filterMap fun v => variablePath? namePrefix v.1).Pairwise fun p q =>
      Apart (p.map .text) (q.map .text)) :
    ∃ d d', c.mergeVariables namePrefix vars = (.ok (), d) ∧
      c.mergeVariables namePrefix vars' = (.ok (), d') ∧
      SameUpToOrder d.root d'.root ∧
      (∀ path, Option.Rel SameUpToOrder (d.get? path) (d'.get? path)) ∧
      ∀ name shape, AgreeUpTo (List.Forall₂ SameField) (d.readSection name shape)
        (d'.readSection name shape) := by
  obtain ⟨es, hroot⟩ := hc.exists_entries
  have hseparate : c.Separate := ⟨hshared, hc.fresh⟩
  have hvalues' : HaveValues namePrefix vars' := by
    intro v hv hpath
    have hmem := hperm.mem_iff.2 (List.mem_filter.2 ⟨hv, hpath⟩)
    exact hvalues v (List.mem_of_mem_filter hmem) hpath
  -- only the variables with the prefix make settings, and they are the same in another order
  have hsettings : (vars.filterMap (assignment? namePrefix)).Perm
      (vars'.filterMap (assignment? namePrefix)) := by
    rw [← filterMap_assignment?_filter, ← filterMap_assignment?_filter namePrefix vars']
    exact hperm.filterMap _
  obtain ⟨d, hmerge, hd, hdroot⟩ := mergeVariables_eq_setEach hseparate hroot hvalues
  obtain ⟨d', hmerge', hd', hdroot'⟩ := mergeVariables_eq_setEach hseparate hroot hvalues'
  have hsame : SameUpToOrder d.root d'.root := by
    rw [hdroot, hdroot']
    exact .map (setEach_perm hsettings (pathsApart_assignments hapart) (.refl es) c.next c.next)
  exact ⟨d, d', hmerge, hmerge', hsame, fun path => get?_same hd hd' hsame path,
    fun name shape => readSection_same hd hd' hsame name shape⟩

/-- A scalar, and a mapping with one key. -/
def scalarAndMapping : Configuration where
  root := .map 0 [(.text "a", .scalar (.int 1)), (.text "m", .map 1 [(.text "x", .null)])]
  next := 2

/-- One variable takes the place of the scalar, one goes into the mapping and one is new. -/
theorem scalarAndMapping_any_order :
    ∃ d d',
      scalarAndMapping.mergeVariables "SF_" [("SF_A__B", "yes"), ("SF_M__Y", "no"), ("SF_C", "x")] =
        (.ok (), d) ∧
      scalarAndMapping.mergeVariables "SF_"
          [("HOME", "/"), ("SF_C", "x"), ("SF_M__Y", "no"), ("LANG", "["), ("SF_A__B", "yes")] =
        (.ok (), d') ∧
      SameUpToOrder d.root d'.root ∧
      (∀ path, Option.Rel SameUpToOrder (d.get? path) (d'.get? path)) ∧
      ∀ name shape, AgreeUpTo (List.Forall₂ SameField) (d.readSection name shape)
        (d'.readSection name shape) := by
  have hlabels : scalarAndMapping.root.labels = {0, 1} := rfl
  have hlabelled : scalarAndMapping.Labelled :=
    ⟨⟨_, rfl⟩, by unfold Value.Within; rw [hlabels]; decide⟩
  have hvalues : HaveValues "SF_" [("SF_A__B", "yes"), ("SF_M__Y", "no"), ("SF_C", "x")] := by
    intro v hv _
    simp only [List.mem_cons, List.not_mem_nil, or_false] at hv
    rcases hv with rfl | rfl | rfl
    · exact ⟨.bool true, rfl⟩
    · exact ⟨.bool false, rfl⟩
    · exact ⟨.text "x", rfl⟩
  exact variable_order_irrelevant hlabelled (by rw [hlabels]; decide) (by decide) hvalues
    (by decide)

end Configuration

end FactoryRegistry.Config
