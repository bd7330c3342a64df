import Mathlib.Tactic.Abel
import FactoryRegistry.Config.Merge
import FactoryRegistry.Proofs.Value.Label

/-!
# Places in a value

A mapping that stands at one place only can be changed there and nowhere else. A place is the way
to it from the root, a list of frames, each of which is a mapping with a hole under one of its keys.

* `changed_of_not_mem`: changes to mappings that a value does not have change nothing in it;
* `Frame`, `plug`: a value in a place, whose labels are those of both (`labels_plug`);
* `Unshared`: a mapping stands at one place only. `assign_plug_map`, `changed_fill`: what a change
  to it does there;
* `exists_frame`: the place of what a lookup finds, one level below the mapping.
-/

namespace FactoryRegistry.Value

/-- Changes to mappings whose labels do not occur in `v` leave `v` as it is. -/
theorem changed_of_not_mem {v : Value} {changes : List Change}
    (h : ∀ d ∈ changes, d.label ∉ v.labels) : v.changed changes = v := by
  induction changes with
  | nil => rfl
  | cons d changes ih =>
    obtain ⟨hd, hchanges⟩ := List.forall_mem_cons.1 h
    rw [changed, List.foldl_cons, change, assign_of_not_mem _ _ _ v hd]
    exact ih hchanges

/-- `changed` by one list of changes after another is `changed` by both of them. -/
theorem changed_append (v : Value) (first rest : List Change) :
    v.changed (first ++ rest) = (v.changed first).changed rest := List.foldl_append

/-! ## Places -/

/-- A mapping with a hole in place of the value of one of its entries. -/
structure Frame where
  /-- The label of the mapping. -/
  label : Nat
  /-- The entries before the hole. -/
  before : List (Scalar × Value)
  /-- The key of the hole. -/
  key : Scalar
  /-- The entries after the hole. -/
  after : List (Scalar × Value)

namespace Frame

/-- The mapping with a value in the hole. -/
def fill (f : Frame) (v : Value) : Value := map f.label (f.before ++ (f.key, v) :: f.after)

/-- The labels of the mapping and of its entries, the hole apart. -/
def labels (f : Frame) : Multiset Nat := f.label ::ₘ (entryLabels f.before + entryLabels f.after)

theorem labels_fill (f : Frame) (v : Value) : (f.fill v).labels = f.labels + v.labels := by
  rw [fill, Value.labels, entryLabels_append, entryLabels, labels, Multiset.cons_add, add_assoc,
    add_comm v.labels]

end Frame

/-- A value in the hole of a place. The frames of the place are listed from the root inwards. -/
def plug (place : List Frame) (v : Value) : Value := place.foldr Frame.fill v

/-- The labels of the frames of a place. -/
def placeLabels (place : List Frame) : Multiset Nat := (place.map Frame.labels).sum

/-- The label occurs at most once in a value: the mapping that has it stands at one place only, and
not inside itself. -/
def Unshared (v : Value) (l : Nat) : Prop := v.labels.count l ≤ 1

section Places

variable {l i : Nat} {k : Scalar} {v w : Value} {es is : List (Scalar × Value)}
  {place : List Frame} {f : Frame}

/-- Every mapping is `Unshared` where no label occurs twice. -/
theorem unshared_of_nodup (h : v.labels.Nodup) (l : Nat) : v.Unshared l :=
  Multiset.nodup_iff_count_le_one.1 h l

theorem Unshared.of_le (h : w.Unshared l) (hle : v.labels ≤ w.labels) : v.Unshared l :=
  (Multiset.count_le_of_le l hle).trans h

theorem plug_append (place : List Frame) (f : Frame) (v : Value) :
    plug (place ++ [f]) v = plug place (f.fill v) := by
  rw [plug, List.foldr_append]
  rfl

/-- The labels of a plugged place are those of the place and of what fills it. -/
theorem labels_plug (place : List Frame) (v : Value) :
    (plug place v).labels = placeLabels place + v.labels := by
  induction place with
  | nil => rw [placeLabels, List.map_nil, List.sum_nil, zero_add]; rfl
  | cons f place ih =>
    rw [plug, List.foldr_cons, Frame.labels_fill, ← plug, ih, placeLabels, placeLabels,
      List.map_cons, List.sum_cons, add_assoc]

/-- `assign` to a mapping that is not the frame's own changes only what fills the frame. -/
theorem assign_fill (h : l ∉ f.labels) (k : Scalar) (w v : Value) :
    assign l k w (f.fill v) = f.fill (assign l k w v) := by
  rw [Frame.labels, Multiset.mem_cons, Multiset.mem_add, not_or, not_or] at h
  obtain ⟨hlabel, hbefore, hafter⟩ := h
  rw [Frame.fill, assign, if_neg (Ne.symm hlabel), assignInEntries_append,
    assignInEntries_of_not_mem l k w _ hbefore, assignInEntries,
    assignInEntries_of_not_mem l k w _ hafter, Frame.fill]

/-- `assign` to a mapping that does not stand around the hole changes only what fills it. -/
theorem assign_plug (h : l ∉ placeLabels place) (k : Scalar) (w v : Value) :
    assign l k w (plug place v) = plug place (assign l k w v) := by
  induction place with
  | nil => rfl
  | cons f place ih =>
    rw [placeLabels, List.map_cons, List.sum_cons, Multiset.mem_add, not_or] at h
    rw [plug, List.foldr_cons, assign_fill h.1]
    exact congrArg f.fill (ih h.2)

/-- An `Unshared` mapping is not in its own place and not among its entries. -/
theorem Unshared.not_mem (h : (plug place (map l es)).Unshared l) :
    l ∉ placeLabels place ∧ l ∉ entryLabels es := by
  rw [Unshared, labels_plug, labels, Multiset.count_add, Multiset.count_cons_self] at h
  rw [← Multiset.count_eq_zero, ← Multiset.count_eq_zero]
  omega

/-- `assign` to an `Unshared` mapping is `putEntry` among its entries, at its place. -/
theorem assign_plug_map (h : (plug place (map l es)).Unshared l) (k : Scalar) (v : Value) :
    assign l k v (plug place (map l es)) = plug place (map l (putEntry k v es)) := by
  obtain ⟨hplace, hentries⟩ := h.not_mem
  rw [assign_plug hplace, assign, if_pos rfl, assignInEntries_of_not_mem l k v es hentries]

/-- Changes to mappings that do not stand around a hole are changes to what fills it. -/
theorem changed_fill {changes : List Change} (h : ∀ d ∈ changes, d.label ∉ f.labels) (v : Value) :
    (f.fill v).changed changes = f.fill (v.changed changes) := by
  induction changes generalizing v with
  | nil => rfl
  | cons d changes ih =>
    obtain ⟨hd, hchanges⟩ := List.forall_mem_cons.1 h
    rw [changed, List.foldl_cons, change, assign_fill hd]
    exact ih hchanges _

/-- What `lookup` finds stands in a frame, and `putEntry` fills the frame anew. -/
theorem exists_frame (h : lookup k es = some w) (l : Nat) :
    ∃ f : Frame, map l es = f.fill w ∧ ∀ v, map l (putEntry k v es) = f.fill v := by
  obtain ⟨before, c, after, rfl, -, hput⟩ := exists_entry_of_lookup h
  exact ⟨⟨l, before, c, after⟩, rfl, fun v => by rw [hput]; rfl⟩

/-- What `putEntry` puts under a text stands in a frame that later puts fill anew. -/
theorem exists_frame_putEntry_text (name : String) (l : Nat) (es : List (Scalar × Value)) :
    ∃ f : Frame, ∀ v, map l (putEntry (.text name) v es) = f.fill v := by
  have hfound : lookup (.text name) (putEntry (.text name) null es) = some null := by
    rw [lookup_putEntry, if_pos (by simp)]
  obtain ⟨f, -, hput⟩ := exists_frame hfound l
  exact ⟨f, fun v => by rw [← hput, putEntry_putEntry_text]⟩

/-- `putEntry` under a key that is there changes the labels of the old value for those of the new
one. -/
theorem entryLabels_putEntry_of_some (h : lookup k es = some w) (v : Value) :
    entryLabels (putEntry k v es) + w.labels = entryLabels es + v.labels := by
  obtain ⟨before, c, after, rfl, -, hput⟩ := exists_entry_of_lookup h
  rw [hput, entryLabels_append, entryLabels_append, entryLabels, entryLabels]
  abel

/-- `putEntry` under a new key adds the labels of its value. -/
theorem entryLabels_putEntry_of_none (h : lookup k es = none) (v : Value) :
    entryLabels (putEntry k v es) = entryLabels es + v.labels := by
  rw [putEntry_of_lookup_eq_none h, entryLabels_append, entryLabels, entryLabels, add_zero]

/-- `putEntry` brings in the labels of its value and no others. -/
theorem entryLabels_putEntry_le (k : Scalar) (v : Value) (es : List (Scalar × Value)) :
    entryLabels (putEntry k v es) ≤ entryLabels es + v.labels := by
  cases h : lookup k es with
  | none => exact (entryLabels_putEntry_of_none h v).le
  | some w => exact (Multiset.le_add_right _ _).trans (entryLabels_putEntry_of_some h v).le

/-- `putEntry` makes a label `i` no more frequent than it was, if the value has it no more often
than the old one. -/
theorem count_putEntry_le (h : v.labels.count i ≤ ((lookup k es).elim 0 labels).count i) :
    (entryLabels (putEntry k v es)).count i ≤ (entryLabels es).count i := by
  cases hfound : lookup k es with
  | none =>
    rw [hfound, Option.elim_none, Multiset.count_zero] at h
    rw [entryLabels_putEntry_of_none hfound, Multiset.count_add]
    omega
  | some w =>
    rw [hfound, Option.elim_some] at h
    have hput := congrArg (Multiset.count i) (entryLabels_putEntry_of_some hfound v)
    rw [Multiset.count_add, Multiset.count_add] at hput
    omega

theorem labels_plug_putEntry_le (place : List Frame) (l : Nat) (k : Scalar) (v : Value)
    (es : List (Scalar × Value)) :
    (plug place (map l (putEntry k v es))).labels ≤ (plug place (map l es)).labels + v.labels := by
  rw [labels_plug, labels_plug, labels, labels, add_assoc, Multiset.cons_add]
  exact add_le_add_right (Multiset.cons_le_cons l (entryLabels_putEntry_le k v es)) _

/-- Where a mapping under a key grows by labels `s`, the entries around it grow by no more. -/
theorem entryLabels_putEntry_map_le {i : Nat} {is is' : List (Scalar × Value)} {s : Multiset Nat}
    (hold : lookup k es = some (map i is)) (h : entryLabels is' ≤ entryLabels is + s) :
    entryLabels (putEntry k (map i is') es) ≤ entryLabels es + s := by
  -- the old mapping leaves the entries and comes back with what it has now
  have hput := entryLabels_putEntry_of_some hold (map i is')
  refine le_of_add_le_add_right (a := (map i is).labels) ?_
  calc _ = entryLabels es + i ::ₘ entryLabels is' := hput
    _ ≤ entryLabels es + i ::ₘ (entryLabels is + s) :=
      add_le_add_right (Multiset.cons_le_cons i h) _
    _ = entryLabels es + s + i ::ₘ entryLabels is := by
      rw [← Multiset.cons_add]
      abel

end Places

end FactoryRegistry.Value
