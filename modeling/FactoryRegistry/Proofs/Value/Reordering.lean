import FactoryRegistry.Proofs.Value.OfJson
import FactoryRegistry.Proofs.Value.Order

/-!
# Values up to the order of keys

Two values hold the same up to the order of keys (`Value.SameUpToOrder`) if they differ in labels
and in the order in which mappings have those of their keys that are texts. Keys of other kinds keep
their places among one another, since no variable sets them.

* `Reordered.lookup`: under each key the two sides have nothing, or values that hold the same;
* `SameUpToOrder.at?`: the same holds on each path of keys;
* `Reordered.sorted?_keys`: the keys come in the same order when they are sorted;
* `Reordered.putEntry`, `putEntry_comm`: puts under a text preserve the relation, and two puts under
  different texts can be made in either order.
-/

namespace FactoryRegistry

theorem optionRel_trans {α : Type} {R : α → α → Prop} (htrans : ∀ a b c, R a b → R b c → R a c) :
    ∀ {a b c : Option α}, Option.Rel R a b → Option.Rel R b c → Option.Rel R a c
  | _, _, _, .some h, .some h' => .some (htrans _ _ _ h h')
  | _, _, _, .none, .none => .none

namespace Value

/-- Two lists of entries have the same keys, with values related by `R`, and differ in the order of
those keys that are texts. -/
inductive Reordered (R : Value → Value → Prop) :
    List (Scalar × Value) → List (Scalar × Value) → Prop where
  /-- No entries. -/
  | nil : Reordered R [] []
  /-- An entry in front, of one key on both sides. -/
  | cons {k : Scalar} {v w : Value} {es fs : List (Scalar × Value)} (hv : R v w)
      (h : Reordered R es fs) : Reordered R ((k, v) :: es) ((k, w) :: fs)
  /-- Two neighbours whose keys are different texts change places. -/
  | swap {s t : String} (hne : s ≠ t) (v w : Value) (es : List (Scalar × Value)) :
      Reordered R ((.text s, v) :: (.text t, w) :: es) ((.text t, w) :: (.text s, v) :: es)
  /-- Two changes, one after the other. -/
  | trans {es fs gs : List (Scalar × Value)} (h : Reordered R es fs) (h' : Reordered R fs gs) :
      Reordered R es gs

/-- Two values hold the same up to labels and the order of keys. -/
inductive SameUpToOrder : Value → Value → Prop where
  /-- They are no mappings, and differ in labels only. -/
  | leaf {v w : Value} (hv : v.isMap = false) (hw : w.isMap = false)
      (h : v.nameless [] = w.nameless []) : SameUpToOrder v w
  /-- They are mappings, and the values under their keys hold the same in turn. -/
  | map {l m : Nat} {es fs : List (Scalar × Value)} (h : Reordered SameUpToOrder es fs) :
      SameUpToOrder (map l es) (map m fs)

variable {l : Nat} {v w u : Value} {es fs : List (Scalar × Value)} {φ ψ : Nat → Nat}

mutual

/-- A value is `SameUpToOrder` as itself. -/
theorem SameUpToOrder.refl : ∀ v : Value, SameUpToOrder v v
  | .map _ es => .map (Reordered.refl es)
  | .scalar _ | .list _ _ | .set _ | .pair _ _ | .loop _ _ => .leaf rfl rfl rfl

/-- Entries are `Reordered` by leaving them as they are. -/
theorem Reordered.refl : ∀ es : List (Scalar × Value), Reordered SameUpToOrder es es
  | [] => .nil
  | (_, v) :: es => .cons (SameUpToOrder.refl v) (Reordered.refl es)

end

mutual

/-- Under injective labels a value is `SameUpToOrder` as under any other injective ones. -/
theorem SameUpToOrder.relabel (hφ : Function.Injective φ) (hψ : Function.Injective ψ) :
    ∀ v : Value, SameUpToOrder (v.relabel φ) (v.relabel ψ)
  | .map _ es => .map (Reordered.relabelEntries hφ hψ es)
  | .scalar _ | .list _ _ | .set _ | .pair _ _ | .loop _ _ => .leaf rfl rfl
    ((nameless_relabel hφ [] _).trans (nameless_relabel hψ [] _).symm)

/-- Entries under injective labels are `Reordered` from those under any other injective ones. -/
theorem Reordered.relabelEntries (hφ : Function.Injective φ) (hψ : Function.Injective ψ) :
    ∀ es : List (Scalar × Value),
      Reordered SameUpToOrder (Value.relabelEntries φ es) (Value.relabelEntries ψ es)
  | [] => .nil
  | (_, v) :: es => .cons (SameUpToOrder.relabel hφ hψ v) (Reordered.relabelEntries hφ hψ es)

end

/-- A value keeps its `kind` without its labels. -/
theorem kind_nameless (around : List Nat) (v : Value) : (v.nameless around).kind = v.kind := by
  cases v with
  | scalar s => cases s <;> rfl
  | _ => rfl

namespace SameUpToOrder

/-- `ofJson j` is the same wherever its labels begin. -/
theorem ofJson (j : Json) (n m : Nat) : SameUpToOrder (ofJson n j).1 (ofJson m j).1 := by
  rw [ofJson_eq_relabel n, ofJson_eq_relabel m]
  exact .relabel (add_right_injective n) (add_right_injective m) _

/-- Values that are `SameUpToOrder` are of one `kind`. -/
theorem kind_eq (h : SameUpToOrder v w) : v.kind = w.kind := by
  cases h with
  | leaf _ _ h => rw [← kind_nameless [] v, h, kind_nameless]
  | map h => rfl

/-- What is `SameUpToOrder` as a mapping is a mapping, with the entries in some order. -/
theorem exists_reordered (h : SameUpToOrder (.map l es) w) :
    ∃ m fs, w = .map m fs ∧ Reordered SameUpToOrder es fs := by
  cases h with
  | leaf hv => cases hv
  | map h => exact ⟨_, _, rfl, h⟩

/-- What a mapping is `SameUpToOrder` as is a mapping. -/
theorem exists_map (h : SameUpToOrder v (.map l es)) : ∃ m fs, v = .map m fs := by
  cases h with
  | leaf _ hw => cases hw
  | map h => exact ⟨_, _, rfl⟩

/-- `SameUpToOrder` is transitive. -/
theorem trans (h : SameUpToOrder v w) (h' : SameUpToOrder w u) : SameUpToOrder v u := by
  cases h with
  | leaf hv hw h =>
    cases h' with
    | leaf _ hu h' => exact .leaf hv hu (h.trans h')
    | map h' => cases hw
  | map h =>
    obtain ⟨m, fs, rfl, hentries⟩ := h'.exists_reordered
    exact .map (h.trans hentries)

end SameUpToOrder

/-! ## Looking up and putting entries -/

namespace Reordered

/-- `lookup` under each key finds values that are `SameUpToOrder`, or none on either side. -/
theorem lookup (h : Reordered SameUpToOrder es fs) (k : Scalar) :
    Option.Rel SameUpToOrder (lookup k es) (lookup k fs) := by
  induction h with
  | nil => exact .none
  | cons hv _ ih =>
    rw [Value.lookup, Value.lookup]
    split
    · exact .some hv
    · exact ih
  | @swap s t hne v w es =>
    -- the key is at most one of the two texts, so either order finds the same value
    have hsame : Value.lookup k ((.text s, v) :: (.text t, w) :: es) =
        Value.lookup k ((.text t, w) :: (.text s, v) :: es) := by
      rw [Value.lookup, Value.lookup, Value.lookup, Value.lookup]
      by_cases hs : (Scalar.text s).sameKey k = true
      · have ht : ¬ (Scalar.text t).sameKey k = true := by
          intro ht
          have hst := Scalar.sameKey_trans hs (Scalar.sameKey_symm ht)
          exact hne (by simpa using hst)
        rw [if_pos hs, if_neg ht, if_pos hs]
      · rw [if_neg hs, if_neg hs]
    rw [hsame]
    cases Value.lookup k ((.text t, w) :: (.text s, v) :: es) with
    | none => exact .none
    | some u => exact .some (.refl u)
  | trans _ _ ih ih' => exact optionRel_trans (fun _ _ _ => .trans) ih ih'

/-- `putEntry` of values that are `SameUpToOrder` leaves the entries `Reordered`. -/
theorem putEntry_value (hv : SameUpToOrder v w) (k : Scalar) (es : List (Scalar × Value)) :
    Reordered SameUpToOrder (Value.putEntry k v es) (Value.putEntry k w es) := by
  induction es with
  | nil => exact .cons hv .nil
  | cons e es ih =>
    rw [Value.putEntry, Value.putEntry]
    split
    · exact .cons hv (.refl es)
    · exact .cons (.refl e.2) ih

/-- `putEntry` under one text on both sides leaves the entries `Reordered`. -/
theorem putEntry (h : Reordered SameUpToOrder es fs) (name : String) (hv : SameUpToOrder v w) :
    Reordered SameUpToOrder (Value.putEntry (.text name) v es)
      (Value.putEntry (.text name) w fs) := by
  suffices hsame : Reordered SameUpToOrder (Value.putEntry (.text name) v es)
      (Value.putEntry (.text name) v fs) from hsame.trans (putEntry_value hv _ fs)
  clear hv
  induction h with
  | nil => exact .refl _
  | cons hu hrest ih =>
    rw [Value.putEntry, Value.putEntry]
    split
    · exact .cons (.refl v) hrest
    · exact .cons hu ih
  | @swap s t hne x y es =>
    -- the put is to the one, to the other or behind the two, and they change places all the same
    simp only [Value.putEntry, Scalar.sameKey_text, beq_iff_eq]
    by_cases hs : s = name
    · have ht : ¬ t = name := fun ht => hne (hs.trans ht.symm)
      simp only [hs, ht, if_true, if_false]
      exact hs ▸ .swap hne v y es
    · by_cases ht : t = name
      · simp only [hs, ht, if_true, if_false]
        exact ht ▸ .swap hne x v es
      · simp only [hs, ht, if_false]
        exact .swap hne x y _
  | trans _ _ ih ih' => exact ih.trans ih'

end Reordered

/-- `putEntry` under two different texts can be made in either order. -/
theorem putEntry_comm {s t : String} (hne : s ≠ t) (v w : Value) (es : List (Scalar × Value)) :
    Reordered SameUpToOrder (putEntry (.text t) w (putEntry (.text s) v es))
      (putEntry (.text s) v (putEntry (.text t) w es)) := by
  induction es with
  | nil =>
    -- both keys are new, and their entries stand in another order
    have hst : (Scalar.text s).sameKey (.text t) = false := by simpa using hne
    have hts : (Scalar.text t).sameKey (.text s) = false := by simpa using hne.symm
    simp only [putEntry, hst, hts, Bool.false_eq_true, if_false]
    exact .swap hne v w []
  | cons e es ih =>
    obtain ⟨k, x⟩ := e
    -- an entry that is there already is replaced in its place on both sides
    by_cases hs : k = .text s
    · have ht : (Scalar.text s).sameKey (.text t) = false := by simpa using hne
      subst hs
      simp only [putEntry, ht, Scalar.sameKey_text, beq_self_eq_true, Bool.false_eq_true, if_true,
        if_false]
      exact .refl _
    · by_cases ht : k = .text t
      · have hs' : (Scalar.text t).sameKey (.text s) = false := by simpa using hne.symm
        subst ht
        simp only [putEntry, hs', Scalar.sameKey_text, beq_self_eq_true, Bool.false_eq_true,
          if_true, if_false]
        exact .refl _
      · -- an entry of another key stays in front
        simp only [putEntry, Scalar.sameKey_text_iff, hs, ht, if_false]
        exact .cons (.refl x) ih

/-! ## Following paths -/

namespace SameUpToOrder

/-- Two values that are `SameUpToOrder` are both mappings, or none is. -/
theorem maps_or_not (h : SameUpToOrder v w) :
    (∃ l es m fs, v = .map l es ∧ w = .map m fs ∧ Reordered SameUpToOrder es fs) ∨
      v.isMap = false ∧ w.isMap = false := by
  by_cases hv : v.isMap = true
  · cases v with
    | map l es =>
      obtain ⟨m, fs, rfl, hentries⟩ := h.exists_reordered
      exact Or.inl ⟨l, es, m, fs, rfl, rfl, hentries⟩
    | _ => cases hv
  · have hw : w.isMap = false := by
      cases w with
      | map m fs =>
        obtain ⟨l, es, rfl⟩ := h.exists_map
        exact absurd rfl hv
      | _ => rfl
    exact Or.inr ⟨Bool.eq_false_of_not_eq_true hv, hw⟩

/-- On each path two values that are `SameUpToOrder` lead to such values again, or neither leads on.
Both are `Loopless`: a loop would lead to a mapping whose keys may stand in another order. -/
theorem at? (h : SameUpToOrder v w) (hv : v.Loopless) (hw : w.Loopless) (path : List Scalar) :
    Option.Rel SameUpToOrder (v.at? path) (w.at? path) := by
  induction path generalizing v w with
  | nil =>
    rw [at?_nil, at?_nil]
    exact .some h
  | cons k path ih =>
    rcases h.maps_or_not with ⟨l, es, m, fs, rfl, rfl, hentries⟩ | ⟨hleaf, hleaf'⟩
    · rw [at?_cons, at?_cons, hv.entries, hw.entries]
      -- under the key there is nothing on both sides, or the path goes on from values that agree
      have hfound := hentries.lookup k
      generalize hes : Value.lookup k es = x, hfs : Value.lookup k fs = y at hfound
      cases hfound with
      | none => exact .none
      | some hxy => exact ih hxy (hv.of_lookup hes) (hw.of_lookup hfs)
    · rw [at?_cons_of_isMap_eq_false hleaf, at?_cons_of_isMap_eq_false hleaf']
      exact .none

end SameUpToOrder

/-! ## Sorting the keys -/

namespace Reordered

variable {R : Value → Value → Prop}

theorem perm_keys (h : Reordered R es fs) : (es.map Prod.fst).Perm (fs.map Prod.fst) := by
  induction h with
  | nil => exact .nil
  | cons _ _ ih => exact .cons _ ih
  | swap hne v w es => exact .swap _ _ _
  | trans _ _ ih ih' => exact ih.trans ih'

/-- Where the order of keys differs, one of them is a text. -/
theorem keys_eq_or_text_mem (h : Reordered R es fs) :
    es.map Prod.fst = fs.map Prod.fst ∨ ∃ s, .text s ∈ es.map Prod.fst := by
  induction h with
  | nil => exact Or.inl rfl
  | @cons k v w es fs _ _ ih =>
    rcases ih with ih | ⟨s, hs⟩
    · exact Or.inl (by rw [List.map_cons, List.map_cons, ih])
    · exact Or.inr ⟨s, List.mem_cons_of_mem k hs⟩
  | @swap s => exact Or.inr ⟨s, List.mem_cons_self⟩
  | trans h _ ih ih' =>
    rcases ih with ih | hs
    · rwa [← ih] at ih'
    · exact Or.inr hs

/-- `sorted?` gives the keys of `Reordered` entries the same order, or none on either side. -/
theorem sorted?_keys (h : Reordered R es fs) :
    Scalar.sorted? (es.map Prod.fst) = Scalar.sorted? (fs.map Prod.fst) := by
  rcases h.keys_eq_or_text_mem with heq | ⟨s, hs⟩
  · rw [heq]
  · exact Scalar.sorted?_eq_of_perm h.perm_keys hs

end Reordered

end Value

end FactoryRegistry
