import FactoryRegistry.Proofs.Config.Reachable

/-!
# What a source leaves alone

A source changes what is held on the paths that it decides, and nothing on any other path, as long
as every mapping that it changes stands at one place (`changes_own_paths_only`). Other mappings may
stand at several places, and inside themselves. A mapping that a document refers back to stands at
two places, and then a variable for one of them shows at the other as well (`other_path_changed`).

Setting a path changes the mappings that the path leads through (`LeadsThrough`), one inside another
(`setPath_frame`).
-/

namespace FactoryRegistry

namespace Value

variable {l m : Nat} {c : Scalar} {v : Value} {es ss : List (Scalar × Value)} {path : List Scalar}

/-- Two paths part at some key: neither leads to the end of the other. -/
def Apart (p q : List Scalar) : Prop := ¬ p <+: q ∧ ¬ q <+: p

instance (p q : List Scalar) : Decidable (Apart p q) :=
  inferInstanceAs (Decidable (¬ p <+: q ∧ ¬ q <+: p))

/-- Two paths are `Apart` if they begin differently, or the rest of one is apart from the rest of
the other. -/
theorem apart_cons_cons {a b : Scalar} {p q : List Scalar} :
    Apart (a :: p) (b :: q) ↔ (a = b → Apart p q) := by
  by_cases h : a = b
  · simp [Apart, List.cons_prefix_cons, h]
  · simp [Apart, List.cons_prefix_cons, h, Ne.symm h]

theorem Apart.exists_cons {p q : List Scalar} (h : Apart p q) : ∃ d r, q = d :: r :=
  List.exists_cons_of_ne_nil fun hq => h.2 (hq ▸ List.nil_prefix)

/-! ## Variables -/

/-- `putEntry` under a text leaves alone the paths apart from a path `own` that goes on from the
text, if the new value leaves alone those apart from `own`. -/
theorem at?_putEntry_of_apart {name : String} {own : List Scalar}
    (h : ∀ q, Apart own q → v.at? q = (lookup (.text name) es).bind fun w => w.at? q)
    (hbefore : l ∉ entryLabels es) (hafter : l ∉ entryLabels (putEntry (.text name) v es))
    (hapart : Apart (.text name :: own) path) :
    (map l (putEntry (.text name) v es)).at? path = (map l es).at? path := by
  obtain ⟨c, path, rfl⟩ := hapart.exists_cons
  rw [apart_cons_cons] at hapart
  rw [at?_map_cons hafter, at?_map_cons hbefore, lookup_putEntry]
  by_cases hc : (Scalar.text name).sameKey c = true
  · obtain rfl := Scalar.sameKey_text_iff.1 (Scalar.sameKey_symm hc)
    rw [if_pos hc, Option.bind_some, h path (hapart rfl)]
  · rw [if_neg hc]

end Value

namespace Config

open Value

section Way

variable {l i : Nat} {es : List (Scalar × Value)} {path : List String}

/-- A label is that of a mapping which a path leads through, the root included. -/
def LeadsThrough (v : Value) (path : List String) (l : Nat) : Prop :=
  ∃ n < path.length, ∃ es, v.at? ((path.take n).map .text) = some (.map l es)

/-- Where a path `LeadsThrough` a mapping, a longer one does so that leads to the mapping first. -/
theorem LeadsThrough.cons {name : String} {v : Value} (hl : l ∉ entryLabels es)
    (hold : lookup (.text name) es = some v) (h : LeadsThrough v path i) :
    LeadsThrough (.map l es) (name :: path) i := by
  obtain ⟨n, hn, is, hat⟩ := h
  refine ⟨n + 1, Nat.succ_lt_succ hn, is, ?_⟩
  rw [List.take_succ_cons, List.map_cons, at?_map_cons hl, hold, Option.bind_some, hat]

/-- Through an empty mapping a path leads nowhere else. -/
theorem leadsThrough_empty (h : LeadsThrough (.map l []) path i) : i = l := by
  obtain ⟨n, hn, is, hat⟩ := h
  cases path with
  | nil => cases hn
  | cons name path =>
    cases n with
    | zero =>
      cases hat
      rfl
    | succ n => cases hat

end Way

namespace Configuration

variable {c : Configuration} {l : Nat} {es : List (Scalar × Value)} {place : List Frame}
  {raw : String} {path : List String}

/-- An empty mapping with the label `next` stands at one place, and the label after it is free. -/
theorem enter_new (hroot : c.root = plug place (.map l es)) (hfresh : c.root.Within (· < c.next))
    (name : String) :
    (plug place (.map l (putEntry (.text name) (.map c.next []) es))).Within (· < c.next + 1) ∧
      (plug place (.map l (putEntry (.text name) (.map c.next []) es))).Unshared c.next := by
  have hlabels := labels_plug_putEntry_le place l (.text name) (.map c.next []) es
  rw [← hroot] at hlabels
  constructor
  · intro i hi
    rcases Multiset.mem_add.1 (Multiset.mem_of_le hlabels hi) with hi | hi
    · exact (hfresh i hi).trans (Nat.lt_succ_self _)
    · exact Multiset.mem_singleton.1 hi ▸ Nat.lt_succ_self _
  · have hfree : c.next ∉ c.root.labels := fun h => lt_irrefl _ (hfresh _ h)
    have hcount := Multiset.count_le_of_le c.next hlabels
    rw [Multiset.count_add, Multiset.count_eq_zero.2 hfree] at hcount
    exact hcount.trans (by simp [labels, entryLabels])

/-- A mapping becomes another one that has no label more often, new ones apart, and that leads to
the same on the paths apart from `own`. -/
structure Kept (next l : Nat) (own : List Scalar) (es es' : List (Scalar × Value)) : Prop where
  /-- No label that was in use comes up more often. -/
  count_le : ∀ i < next, (entryLabels es').count i ≤ (entryLabels es).count i
  /-- Other paths lead to the same. -/
  at?_eq : ∀ q, Apart own q → (Value.map l es').at? q = (Value.map l es).at? q

/-- A put under a text keeps the rest, if its value has no label more often than what was there, and
leads to the same on the paths apart from `own`. -/
theorem Kept.putEntry {next : Nat} {name : String} {own : List Scalar} {v : Value} (hlt : l < next)
    (hl : l ∉ entryLabels es)
    (hcount : ∀ i < next, v.labels.count i ≤ ((lookup (.text name) es).elim 0 labels).count i)
    (hsame : ∀ q, Apart own q → v.at? q = (lookup (.text name) es).bind fun w => w.at? q) :
    Kept next l (.text name :: own) es (putEntry (.text name) v es) := by
  have hle : ∀ i < next, (entryLabels (Value.putEntry (.text name) v es)).count i ≤
      (entryLabels es).count i := fun i hi => count_putEntry_le (hcount i hi)
  have hafter : l ∉ entryLabels (Value.putEntry (.text name) v es) := by
    rw [← Multiset.count_eq_zero] at hl ⊢
    exact Nat.le_zero.1 (hl ▸ hle l hlt)
  exact ⟨hle, fun q hq => at?_putEntry_of_apart hsame hl hafter hq⟩

/-- `setPath` along a path of one key changes the mapping that it starts at, and there no path apart
from it. -/
theorem setPath_leaf_frame (hroot : c.root = plug place (.map l es)) (hl : c.root.Unshared l)
    (hlt : l < c.next) (raw leaf : String) :
    ∃ es', (c.setPath (.map l es) raw [leaf]).2.root = plug place (.map l es') ∧
      Kept c.next l [.text leaf] es es' := by
  rw [setPath.eq_def]
  dsimp only
  split
  next j _ =>
    -- the text has a value, which is put into the mapping
    refine ⟨putEntry (.text leaf) (ofJson c.next j).1 es, ?_,
      .putEntry hlt (hroot ▸ hl).not_mem.2 ?_ ?_⟩
    · change assign l (.text leaf) (ofJson c.next j).1 c.root = _
      rw [hroot, assign_plug_map (hroot ▸ hl)]
    · intro i hi
      have hnew : i ∉ (ofJson c.next j).1.labels := fun hmem => hi.not_ge (mem_labels_ofJson hmem).1
      rw [Multiset.count_eq_zero.2 hnew]
      exact Nat.zero_le _
    · -- every path goes on from the empty one
      exact fun q hq => absurd List.nil_prefix hq.1
  next => exact ⟨es, hroot, fun _ _ => le_rfl, fun _ _ => rfl⟩

/-- `setPath` changes the mapping that it starts at, and there no path apart from its own: the
entries are `Kept`. A text without a value only makes mappings on the way. The induction is on the
path; `hway` says that the mappings on the way are `Unshared`, and `hfresh` that `next` is free for
a new one. -/
theorem setPath_frame (hroot : c.root = plug place (.map l es))
    (hfresh : c.root.Within (· < c.next))
    (hway : ∀ i, LeadsThrough (.map l es) path i → c.root.Unshared i) :
    ∃ es', (c.setPath (.map l es) raw path).2.root = plug place (.map l es') ∧
      Kept c.next l (path.map .text) es es' := by
  -- each level of the path leads one frame deeper
  induction path generalizing c place l es with
  | nil => exact ⟨es, hroot, fun _ _ => le_rfl, fun _ _ => rfl⟩
  | cons name path ih =>
    have hl : c.root.Unshared l := hway l ⟨0, Nat.succ_pos _, es, rfl⟩
    have hes : l ∉ entryLabels es := (hroot ▸ hl).not_mem.2
    have hlt : l < c.next := hfresh l <| by
      rw [hroot, labels_plug]
      exact Multiset.mem_add.2 (Or.inr (Multiset.mem_cons_self l _))
    by_cases hpath : path = []
    · subst hpath
      exact setPath_leaf_frame hroot hl hlt raw name
    · rw [setPath_cons c _ raw name hpath]
      rcases map_or_not_map (lookup (.text name) es) with ⟨i, is, hold⟩ | hold
      · -- the path goes on in a mapping that is there
        obtain ⟨f, hfill, hput⟩ := exists_frame hold l
        rw [enter_of_map c hes hold]
        obtain ⟨is', hset, hkept⟩ := ih (by rw [hroot, hfill, plug_append]) hfresh
          fun j hj => hway j (hj.cons hes hold)
        refine ⟨putEntry (.text name) (.map i is') es, by rw [hset, hput, plug_append],
          .putEntry hlt hes (fun j hj => ?_) fun q hq => ?_⟩
        · rw [hold, Option.elim_some, labels, labels, Multiset.count_cons, Multiset.count_cons]
          exact Nat.add_le_add_right (hkept.count_le j hj) _
        · rw [hkept.at?_eq q hq, hold, Option.bind_some]
      · -- the path goes on in an empty mapping, which takes the place of what was there
        obtain ⟨f, hfill⟩ := exists_frame_putEntry_text name l es
        obtain ⟨hfresh', hunshared⟩ := enter_new hroot hfresh name
        rw [enter_of_not_map hroot hl hold]
        have hroot' : plug place (.map l (putEntry (.text name) (.map c.next []) es)) =
            plug (place ++ [f]) (.map c.next []) := by rw [hfill, plug_append]
        obtain ⟨is', hset, hkept⟩ := ih (c := ⟨_, c.next + 1⟩) hroot' hfresh'
          fun j hj => by rwa [leadsThrough_empty hj]
        refine ⟨putEntry (.text name) (.map c.next is') es,
          hset.trans (by rw [hfill, plug_append]),
          .putEntry hlt hes (fun j hj => ?_) fun q hq => ?_⟩
        · -- the new mapping has no labels but new ones
          have hzero : (entryLabels is').count j ≤ 0 := hkept.count_le j (Nat.lt_succ_of_lt hj)
          rw [labels, Multiset.count_cons_of_ne hj.ne, Nat.le_zero.1 hzero]
          exact Nat.zero_le _
        · -- neither the new mapping nor what was there before it has anything on the paths apart
          obtain ⟨d, q, rfl⟩ := hq.exists_cons
          rw [hkept.at?_eq _ hq, bind_at?_cons_of_not_map hold]
          rfl

theorem mergeVariables_singleton {namePrefix name : String}
    (h : variablePath? namePrefix name = some path) (c : Configuration) (raw : String) :
    (c.mergeVariables namePrefix [(name, raw)]).2 = (c.setPath c.root raw path).2 := by
  rw [mergeVariables, h]
  dsimp only
  split
  next heq => rw [heq]; rfl
  next heq => rw [heq]

/-- A source of a `Reachable` configuration changes nothing on the paths that it does not decide, if
every mapping that it changes is `Unshared`. The mappings that a variable may change are those that
its path `LeadsThrough`; those that a document changes are the ones that it is `MergedInto`. All
others, of the configuration and of the document, may stand at several places and inside
themselves. -/
theorem changes_own_paths_only (h : c.Reachable) :
    (∀ namePrefix name raw own, variablePath? namePrefix name = some own →
      (∀ l, LeadsThrough c.root own l → c.root.Unshared l) →
      ∀ q, Apart (own.map .text) q →
        (c.mergeVariables namePrefix [(name, raw)]).2.root.at? q = c.root.at? q) ∧
    ∀ fs file doc next depth, readDocument fs file c.next = .ok (doc, next) →
      (∀ l, MergedInto l c.root doc → c.root.Unshared l) →
      ∀ q, ¬ doc.Decides q → (c.mergeFile fs file depth).2.root.at? q = c.root.at? q := by
  obtain ⟨⟨es, hroot⟩, hfresh⟩ := h.labelled
  constructor
  · intro namePrefix name raw own hown hway q hq
    have hplug : c.root = plug [] (.map 0 es) := hroot
    obtain ⟨es', hset, hkept⟩ := setPath_frame hplug hfresh fun i hi => hway i (hroot ▸ hi)
    rw [mergeVariables_singleton hown, hroot, hset]
    exact hkept.at?_eq q hq
  · intro fs file doc next depth hread hunshared q hq
    have hdetached : Detached (.map 0 es) doc := hroot ▸ h.detached hread hunshared
    obtain ⟨root, hmerged, hat⟩ := mergeInto_at? hdetached depth
    rw [mergeFile, hread]
    cases doc with
    | map m ss =>
      dsimp only
      rw [merge, hroot, hmerged]
      exact (hat q fun hnil => hq (Or.inl (hnil ▸ rfl))).2 hq
    | scalar s => cases s <;> rfl
    | _ => rfl

end Configuration

/-! ## One mapping at two places -/

/-- The working directory with a document that refers back to a mapping, and one in which a mapping
stands inside itself. -/
def sharedFiles : FileSystem where
  root := .directory [
    ("shared.yaml", .file "{a: &x {}, b: *x}\n".toUTF8),
    ("looped.yaml", .file "{a: &x {b: *x}}\n".toUTF8)]
  workingDirectory := []

/-- The configuration of the first document. -/
def shared : Configuration :=
  (Configuration.mergeFile sharedFiles { names := ["shared.yaml"] } {}).2

theorem shared_reachable : shared.Reachable := .mergeFile .empty sharedFiles _ _

/-- The configuration of the second document. -/
def looped : Configuration :=
  (Configuration.mergeFile sharedFiles { names := ["looped.yaml"] } {}).2

/-- A path of one key leads through the root only, which is `Unshared`. -/
theorem unshared_on_way_of_one {c : Configuration} (h : c.Reachable) {name : String} {l : Nat}
    (hl : LeadsThrough c.root [name] l) : c.root.Unshared l := by
  obtain ⟨n, hn, es, hat⟩ := hl
  obtain rfl : n = 0 := Nat.lt_one_iff.1 hn
  obtain ⟨es', hroot⟩ := h.labelled.exists_entries
  have hunshared := h.root_unshared
  rw [hroot] at hat
  cases hat
  exact hunshared

/-- No files. -/
def noFiles : Sources where
  files := some []

/-- The configuration that is loaded from one variable. -/
def single : Configuration :=
  (noFiles.load nestedFiles [("SF_A__D", "1")]).toOption.getD {}

theorem load_single : noFiles.load nestedFiles [("SF_A__D", "1")] = .ok single := by
  have hloaded : (noFiles.load nestedFiles [("SF_A__D", "1")]).toOption.isSome = true := by
    decide +kernel
  unfold single
  cases hload : noFiles.load nestedFiles [("SF_A__D", "1")] with
  | ok c => rfl
  | error failure =>
    rw [hload] at hloaded
    cases hloaded

/-- Beside a mapping at two places (`shared`), and beside one that stands inside itself (`looped`),
a variable changes nothing but its own path. So does a document in the configuration `single`, which
has no such mappings. -/
theorem others_kept_beside_shared :
    (shared.mergeVariables "SF_" [("SF_C", "2")]).2.root.at? [.text "b"] =
        shared.root.at? [.text "b"] ∧
      ((looped.root.at? [.text "a", .text "b", .text "b"]).isSome = true ∧
        (looped.mergeVariables "SF_" [("SF_C", "2")]).2.root.at? [.text "a", .text "b", .text "b"] =
          looped.root.at? [.text "a", .text "b", .text "b"]) ∧
      (single.mergeFile nestedFiles { names := ["base.json"] }).2.root.at? [.text "a", .text "d"] =
        single.root.at? [.text "a", .text "d"] := by
  have hown : variablePath? "SF_" "SF_C" = some ["c"] := by decide +kernel
  have hlooped : looped.Reachable := .mergeFile .empty sharedFiles _ _
  refine ⟨?_, ⟨by decide +kernel, ?_⟩, ?_⟩
  · exact (Configuration.changes_own_paths_only shared_reachable).1 "SF_" "SF_C" "2" _ hown
      (fun _ => unshared_on_way_of_one shared_reachable) _ (by decide)
  · exact (Configuration.changes_own_paths_only hlooped).1 "SF_" "SF_C" "2" _ hown
      (fun _ => unshared_on_way_of_one hlooped) _ (by decide)
  · have hreachable : single.Reachable := Sources.load_reachable load_single
    have hnodup : single.root.labels.Nodup := by decide +kernel
    exact (Configuration.changes_own_paths_only hreachable).2 nestedFiles _ _ _ _
      (readDocument_nestedFiles single.next) (fun l _ => unshared_of_nodup hnodup l) _
      (by decide +kernel)

/-- In `shared` a variable for the mapping at one place shows at the other place too. -/
theorem other_path_changed :
    Apart [.text "a", .text "k"] [.text "b", .text "k"] ∧
      (shared.mergeVariables "SF_" [("SF_A__K", "2")]).2.root.at? [.text "b", .text "k"] ≠
        shared.root.at? [.text "b", .text "k"] := by
  -- there is nothing before, and something after
  have hafter : ((shared.mergeVariables "SF_" [("SF_A__K", "2")]).2.root.at?
      [.text "b", .text "k"]).isSome = true := by decide +kernel
  have hbefore : (shared.root.at? [.text "b", .text "k"]).isSome = false := by decide +kernel
  refine ⟨by decide, fun h => ?_⟩
  rw [h, hbefore] at hafter
  cases hafter

end Config

end FactoryRegistry
