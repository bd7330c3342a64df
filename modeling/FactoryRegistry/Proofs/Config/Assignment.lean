import FactoryRegistry.Config.Configuration
import FactoryRegistry.Proofs.Value.Merging
import FactoryRegistry.Proofs.Value.OfJson

/-!
# Setting the value of a path

`setEntries` sets the value of a path among entries without regard to labels: it goes through the
mappings that are there, and an empty mapping with the next free label takes the place of everything
else on the way. What it puts under the first key is `settled` (`setEntries_cons`). In a
configuration in which no label occurs twice, this is what setting a path through labels comes to
(`setPath_plug`).
-/

namespace FactoryRegistry.Config

open Value

/-- Entries with the value of a path set, and the next free label. -/
def setEntries (j : Json) : List String → Nat → List (Scalar × Value) → List (Scalar × Value) × Nat
  | [], next, es => (es, next)
  | [leaf], next, es =>
    let (value, next) := ofJson next j
    (putEntry (.text leaf) value es, next)
  | name :: path, next, es =>
    match lookup (.text name) es with
    | some (.map l inner) =>
      let (inner, next) := setEntries j path next inner
      (putEntry (.text name) (.map l inner) es, next)
    | _ =>
      let (inner, after) := setEntries j path (next + 1) []
      (putEntry (.text name) (.map next inner) es, after)

variable {j : Json} {name : String} {path : List String} {next l i : Nat} {old : Option Value}
  {es is : List (Scalar × Value)} {place : List Frame}

theorem setEntries_leaf (j : Json) (leaf : String) (next : Nat) (es : List (Scalar × Value)) :
    setEntries j [leaf] next es =
      (putEntry (.text leaf) (ofJson next j).1 es, (ofJson next j).2) := by
  rw [setEntries]

/-- `setEntries` goes on among the entries of the mapping that is found under the first key. -/
theorem setEntries_of_map (hpath : path ≠ []) (hold : lookup (.text name) es = some (.map i is)) :
    setEntries j (name :: path) next es =
      (putEntry (.text name) (.map i (setEntries j path next is).1) es,
        (setEntries j path next is).2) := by
  obtain ⟨d, path, rfl⟩ := List.exists_cons_of_ne_nil hpath
  rw [setEntries, hold]
  rintro ⟨⟩

/-- `setEntries` goes on in a new mapping, labelled `next`, if the first key leads to none. -/
theorem setEntries_of_not_map (hpath : path ≠ [])
    (hold : ∀ i is, lookup (.text name) es ≠ some (.map i is)) :
    setEntries j (name :: path) next es =
      (putEntry (.text name) (.map next (setEntries j path (next + 1) []).1) es,
        (setEntries j path (next + 1) []).2) := by
  obtain ⟨d, path, rfl⟩ := List.exists_cons_of_ne_nil hpath
  rw [setEntries]
  · split
    next i is h => exact absurd h (hold i is)
    next => rfl
  · rintro ⟨⟩

/-- What setting a path puts under its first key, `path` being the rest of it: the value at the end
of the path, and before that a mapping, the old one or else a new one. -/
def settled (j : Json) (path : List String) (next : Nat) (old : Option Value) : Value :=
  match path, old with
  | [], _ => (ofJson next j).1
  | path, some (.map l inner) => .map l (setEntries j path next inner).1
  | path, _ => .map next (setEntries j path (next + 1) []).1

theorem settled_nil (j : Json) (next : Nat) (old : Option Value) :
    settled j [] next old = (ofJson next j).1 := by
  rw [settled]

/-- A mapping that is found keeps its label, and `setEntries` sets the rest of the path in it. -/
theorem settled_of_map (hpath : path ≠ []) (j : Json) (next i : Nat) (is : List (Scalar × Value)) :
    settled j path next (some (.map i is)) = .map i (setEntries j path next is).1 := by
  rw [settled]
  exact hpath

/-- In place of anything else comes a new mapping, labelled `next`, with the rest of the path set in
it. -/
theorem settled_of_not_map (hpath : path ≠ []) (hold : ∀ i is, old ≠ some (.map i is)) (j : Json)
    (next : Nat) : settled j path next old = .map next (setEntries j path (next + 1) []).1 := by
  rw [settled]
  · exact hpath
  · exact hold

/-- `setEntries` changes what is under the first key of the path, into what is `settled` there. -/
theorem setEntries_cons (j : Json) (name : String) (path : List String) (next : Nat)
    (es : List (Scalar × Value)) :
    (setEntries j (name :: path) next es).1 =
      putEntry (.text name) (settled j path next (lookup (.text name) es)) es := by
  by_cases hpath : path = []
  · rw [hpath, setEntries_leaf, settled_nil]
  · rcases map_or_not_map (lookup (.text name) es) with ⟨i, is, hold⟩ | hold
    · rw [setEntries_of_map hpath hold, hold, settled_of_map hpath]
    · rw [setEntries_of_not_map hpath hold, settled_of_not_map hpath hold]

/-- `setEntries` adds mappings with the labels from `next` on, as many as it takes. -/
theorem exists_labels_setEntries (j : Json) (path : List String) (next : Nat)
    (es : List (Scalar × Value)) :
    ∃ a, (setEntries j path next es).2 = next + a ∧
      entryLabels (setEntries j path next es).1 ≤
        entryLabels es + (List.range' next a : Multiset Nat) := by
  induction path generalizing next es with
  | nil => exact ⟨0, rfl, Multiset.le_add_right _ _⟩
  | cons name path ih =>
    by_cases hpath : path = []
    · subst hpath
      obtain ⟨a, hnext, hlabels⟩ := exists_labels_ofJson j next
      rw [setEntries_leaf]
      exact ⟨a, hnext, (entryLabels_putEntry_le _ _ es).trans (add_le_add_right hlabels _)⟩
    · rcases map_or_not_map (lookup (.text name) es) with ⟨i, is, hold⟩ | hold
      · obtain ⟨a, hnext, hlabels⟩ := ih next is
        rw [setEntries_of_map hpath hold]
        exact ⟨a, hnext, entryLabels_putEntry_map_le hold hlabels⟩
      · -- a new mapping takes the label `next`, and the rest of the path begins in it
        obtain ⟨a, hnext, hlabels⟩ := ih (next + 1) []
        rw [setEntries_of_not_map hpath hold]
        refine ⟨a + 1, by rw [hnext]; omega, (entryLabels_putEntry_le _ _ es).trans ?_⟩
        rw [entryLabels, zero_add] at hlabels
        rw [labels, List.range'_succ, ← Multiset.cons_coe]
        exact add_le_add_right (Multiset.cons_le_cons next hlabels) _

/-! ## Setting through labels -/

namespace Configuration

variable {c : Configuration} {raw : String}

/-- No label occurs twice, and none is a free one. -/
def Separate (c : Configuration) : Prop :=
  c.root.labels.Nodup ∧ ∀ l ∈ c.root.labels, l < c.next

/-- In a configuration whose labels are `Separate` every mapping stands at one place. -/
theorem Separate.unshared (hc : c.Separate) (l : Nat) : c.root.Unshared l :=
  unshared_of_nodup hc.1 l

/-- `get?` finds what `lookup` finds in a mapping that does not stand inside itself. -/
theorem get?_map (hl : l ∉ entryLabels es) (name : String) :
    (Value.map l es).get? name = lookup (.text name) es := by
  rw [Value.get?, entries_map hl]

/-- `enter` goes on in the mapping that is there. -/
theorem enter_of_map (c : Configuration) (hl : l ∉ entryLabels es)
    (hold : lookup (.text name) es = some (.map i is)) :
    c.enter (.map l es) name = (.map i is, c) := by
  rw [enter.eq_def, get?_map hl, hold]

/-- `enter` goes on in an empty mapping, which takes the place of what is there. -/
theorem enter_of_not_map (hroot : c.root = plug place (.map l es)) (hl : c.root.Unshared l)
    (hold : ∀ i is, lookup (.text name) es ≠ some (.map i is)) :
    c.enter (.map l es) name = (.map c.next [],
      { root := plug place (.map l (putEntry (.text name) (.map c.next []) es))
        next := c.next + 1 }) := by
  rw [hroot] at hl
  rw [← assign_plug_map hl, ← hroot, enter.eq_def, get?_map hl.not_mem.2]
  cases hfound : lookup (.text name) es with
  | none => rfl
  | some v =>
    cases v with
    | map i is => exact absurd hfound (hold i is)
    | _ => rfl

/-- Labels stay `Separate` when free ones are added, as long as `next` is past them. -/
theorem Separate.of_le (hc : c.Separate) {root : Value} {next : Nat} {s : Multiset Nat}
    (hle : root.labels ≤ c.root.labels + s) (hs : s.Nodup)
    (hfree : ∀ l ∈ s, c.next ≤ l ∧ l < next) (hnext : c.next ≤ next) :
    Separate { root, next } := by
  have hdisjoint : Disjoint c.root.labels s :=
    Multiset.disjoint_left.2 fun {l} hl hls => (hc.2 l hl).not_ge (hfree l hls).1
  refine ⟨Multiset.nodup_of_le hle (Multiset.nodup_add.2 ⟨hc.1, hs, hdisjoint⟩), fun l hl => ?_⟩
  rcases Multiset.mem_add.1 (Multiset.mem_of_le hle hl) with hl | hl
  · exact (hc.2 l hl).trans_le hnext
  · exact (hfree l hl).2

/-- Putting an empty mapping with the free label `next` leaves the labels `Separate`. -/
theorem separate_putEntry (hroot : c.root = plug place (.map l es)) (hc : c.Separate) (k : Scalar) :
    Separate {
      root := plug place (.map l (putEntry k (.map c.next []) es)), next := c.next + 1 } := by
  have hle : (plug place (.map l (putEntry k (.map c.next []) es))).labels ≤
      c.root.labels + {c.next} := hroot ▸ labels_plug_putEntry_le place l k (.map c.next []) es
  refine hc.of_le hle (Multiset.nodup_singleton _) (fun n hn => ?_) (Nat.le_succ _)
  rw [Multiset.mem_singleton.1 hn]
  exact ⟨le_rfl, Nat.lt_succ_self _⟩

/-- `setPath` along a path of one key is `setAt`. -/
theorem setPath_leaf (hj : coerce raw = .ok j) (c : Configuration) (holder : Value)
    (leaf : String) :
    c.setPath holder raw [leaf] = (.ok (), c.setAt holder leaf j) := by
  rw [setPath.eq_def]
  dsimp only
  rw [hj]

/-- `setPath` along a longer path goes on in the mapping that `enter` finds or makes. -/
theorem setPath_cons (c : Configuration) (holder : Value) (raw name : String) (hpath : path ≠ []) :
    c.setPath holder raw (name :: path) =
      (c.enter holder name).2.setPath (c.enter holder name).1 raw path := by
  cases path with
  | nil => exact absurd rfl hpath
  | cons d path => rfl

/-- `setPath` from the mapping labelled `l`, which stands at one place, is `setEntries` among its
entries. The `place` around it stays as it is. -/
theorem setPath_plug (hj : coerce raw = .ok j) (hroot : c.root = plug place (.map l es))
    (hc : c.Separate) :
    c.setPath (.map l es) raw path = (.ok (),
      { root := plug place (.map l (setEntries j path c.next es).1)
        next := (setEntries j path c.next es).2 }) := by
  -- each level of the path leads one frame deeper
  induction path generalizing c place l es with
  | nil =>
    rw [setEntries, ← hroot]
    rfl
  | cons name path ih =>
    have hl := hroot ▸ hc.unshared l
    by_cases hpath : path = []
    · subst hpath
      rw [setPath_leaf hj, setEntries_leaf, ← assign_plug_map hl, ← hroot]
      rfl
    · rw [setPath_cons c _ raw name hpath]
      rcases map_or_not_map (lookup (.text name) es) with ⟨i, is, hold⟩ | hold
      · obtain ⟨f, hfill, hput⟩ := exists_frame hold l
        rw [enter_of_map c hl.not_mem.2 hold, setEntries_of_map hpath hold, hput, ← plug_append]
        exact ih (by rw [hroot, hfill, plug_append]) hc
      · obtain ⟨f, hfill⟩ := exists_frame_putEntry_text name l es
        rw [enter_of_not_map hroot (hc.unshared l) hold, setEntries_of_not_map hpath hold,
          hfill (.map c.next (setEntries j path (c.next + 1) []).1), ← plug_append]
        exact ih (by rw [hfill, plug_append]) (separate_putEntry hroot hc _)

/-- `setEntries` at the root leaves the labels `Separate`. -/
theorem separate_setEntries (hc : c.Separate) (hroot : c.root = .map l es) (j : Json)
    (path : List String) :
    Separate { root := .map l (setEntries j path c.next es).1
               next := (setEntries j path c.next es).2 } := by
  obtain ⟨a, hnext, hlabels⟩ := exists_labels_setEntries j path c.next es
  refine hc.of_le (s := List.range' c.next a) ?_ (Multiset.coe_nodup.2 List.nodup_range')
    (fun i hi => ?_) (hnext ▸ Nat.le_add_right _ _)
  · rw [hroot]
    exact (Multiset.cons_le_cons l hlabels).trans_eq (Multiset.cons_add _ _ _).symm
  · rwa [hnext, ← List.mem_range'_1, ← Multiset.mem_coe]

end Configuration

end FactoryRegistry.Config
