import FactoryRegistry.Proofs.Value.Relabel

/-!
# Paths of keys

A path of keys leads from a mapping through mappings to a value, each mapping being read from
outside. `Value.at?` is what it leads to, and `Holding.of` what that comes to without labels:
nothing, a mapping, or another value.

A mapping decides a path when it has a value there, or when a value that is no mapping stands in the
way (`Value.Decides`). It decides a longer path by what it has under the first key (`decides_cons`).
Labels play no part in what a path holds and in who decides it (`holding_relabel`,
`decides_relabel`).
-/

namespace FactoryRegistry

namespace Value

/-- What a path of keys leads to. -/
def at? : Value → List Scalar → Option Value
  | v, [] => some v
  | v, k :: path => (lookup k v.entries).bind fun w => w.at? path

/-- A value in which no mapping that a path leads to has a key twice. -/
inductive Proper : Value → Prop where
  /-- A mapping without a key that comes twice, of proper values. -/
  | map {l : Nat} {es : List (Scalar × Value)} (keys_distinct : DistinctKeys es)
      (values_proper : ∀ e ∈ es, Proper e.2) : Proper (map l es)
  /-- A value that paths do not lead through. -/
  | leaf {v : Value} (not_map : v.isMap = false) : Proper v

end Value

/-- What stands at the end of a path, mappings being told apart by what longer paths lead to. -/
inductive Holding where
  /-- Nothing. -/
  | nothing
  /-- A mapping. -/
  | mapping
  /-- A value that is no mapping, without labels. -/
  | value (v : Value)

/-- What a value comes to at the end of a path. -/
def Holding.of : Option Value → Holding
  | none => nothing
  | some (.map _ _) => mapping
  | some v => value (v.nameless [])

namespace Value

variable {l m : Nat} {c : Scalar} {v w : Value} {es ss : List (Scalar × Value)} {path : List Scalar}
  {φ : Nat → Nat}

/-- A document decides a path: it has a value there, or one that is no mapping on the way. -/
def Decides (v : Value) (path : List Scalar) : Prop :=
  (v.at? path).isSome ∨
    ∃ n < path.length, 0 < n ∧ ∃ w ∈ v.at? (path.take n), w.isMap = false

instance (v : Value) (path : List Scalar) : Decidable (v.Decides path) :=
  inferInstanceAs (Decidable (_ ∨ ∃ n < path.length, 0 < n ∧ ∃ w ∈ v.at? (path.take n), _))

/-! ## Following a path -/

theorem at?_nil (v : Value) : v.at? [] = some v := by rw [at?]

/-- A longer path leads on from what `lookup` finds under its first key. -/
theorem at?_cons (v : Value) (c : Scalar) (path : List Scalar) :
    v.at? (c :: path) = (lookup c v.entries).bind fun w => w.at? path := by rw [at?]

/-- A path leads through the entries of a mapping as they are written, if the mapping does not stand
inside itself. -/
theorem at?_map_cons (h : l ∉ entryLabels es) (c : Scalar) (path : List Scalar) :
    (map l es).at? (c :: path) = (lookup c es).bind fun w => w.at? path := by
  rw [at?_cons, entries_map h]

/-- What is no mapping has no `entries`. -/
theorem entries_of_isMap_eq_false (h : v.isMap = false) : v.entries = [] := by
  cases v with
  | map l es => cases h
  | _ => rfl

/-- No path leads through a value that is no mapping. -/
theorem at?_cons_of_isMap_eq_false (h : v.isMap = false) (c : Scalar) (path : List Scalar) :
    v.at? (c :: path) = none := by
  rw [at?_cons, entries_of_isMap_eq_false h]
  rfl

theorem bind_at?_cons_of_not_map {old : Option Value} (hold : ∀ i is, old ≠ some (map i is))
    (c : Scalar) (path : List Scalar) : (old.bind fun w => w.at? (c :: path)) = none := by
  cases old with
  | none => rfl
  | some w =>
    cases w with
    | map i is => exact absurd rfl (hold i is)
    | _ => rfl

/-- What a path leads to in a `Loopless` value is `Loopless`. -/
theorem Loopless.of_at? (h : v.Loopless) (hat : v.at? path = some w) : w.Loopless := by
  induction path generalizing v with
  | nil => exact Option.some.inj ((at?_nil v).symm.trans hat) ▸ h
  | cons c path ih =>
    rw [at?_cons, Option.bind_eq_some_iff] at hat
    obtain ⟨u, hfound, hat⟩ := hat
    cases v with
    | map l es => exact ih (h.of_lookup (h.entries ▸ hfound)) hat
    | _ => cases hfound

/-! ## Deciding a path -/

/-- Where a document does not decide a path, it has nothing there. -/
theorem at?_eq_none_of_not_decides (h : ¬ v.Decides path) : v.at? path = none :=
  Option.not_isSome_iff_eq_none.1 fun hsome => h (Or.inl hsome)

/-- A document `Decides` no path whose first key it does not have. -/
theorem not_decides_of_lookup_eq_none (h : lookup c v.entries = none) (path : List Scalar) :
    ¬ v.Decides (c :: path) := by
  have hnone : ∀ q, v.at? (c :: q) = none := fun q => by rw [at?_cons, h, Option.bind_none]
  rintro (hat | ⟨n, -, hn, w, hw, -⟩)
  · rw [hnone] at hat
    cases hat
  · obtain ⟨n, rfl⟩ := Nat.exists_eq_succ_of_ne_zero hn.ne'
    rw [List.take_succ_cons, hnone] at hw
    cases hw

/-- A document that is no mapping `Decides` no path but the empty one. -/
theorem not_decides_of_isMap_eq_false (h : v.isMap = false) (hpath : path ≠ []) :
    ¬ v.Decides path := by
  obtain ⟨c, path, rfl⟩ := List.exists_cons_of_ne_nil hpath
  exact not_decides_of_lookup_eq_none (by rw [entries_of_isMap_eq_false h, lookup]) path

/-- A document `Decides` a longer path if the path ends at the value `w` of its first key, if `w`
stands in the way, or if `w` decides the rest. -/
theorem decides_cons_of_lookup (h : lookup c v.entries = some w) :
    v.Decides (c :: path) ↔ path = [] ∨ w.isMap = false ∨ w.Decides path := by
  have hcons : ∀ q, v.at? (c :: q) = w.at? q := fun q => by rw [at?_cons, h, Option.bind_some]
  constructor
  · rintro (hat | ⟨n, hlt, hn, u, hu, hleaf⟩)
    · exact Or.inr (Or.inr (Or.inl (by rwa [hcons] at hat)))
    · obtain ⟨n, rfl⟩ := Nat.exists_eq_succ_of_ne_zero hn.ne'
      rw [List.take_succ_cons, hcons] at hu
      cases n with
      | zero =>
        rw [List.take_zero, at?_nil] at hu
        obtain rfl := Option.some.inj hu
        exact Or.inr (Or.inl hleaf)
      | succ n =>
        exact Or.inr (Or.inr (Or.inr
          ⟨n + 1, Nat.lt_of_succ_lt_succ hlt, n.succ_pos, u, hu, hleaf⟩))
  · rintro (rfl | hleaf | hat | ⟨n, hlt, hn, u, hu, hleaf⟩)
    · exact Or.inl (by rw [hcons, at?_nil]; rfl)
    · cases path with
      | nil => exact Or.inl (by rw [hcons, at?_nil]; rfl)
      | cons d path =>
        refine Or.inr ⟨1, by simp, Nat.one_pos, w, ?_, hleaf⟩
        rw [List.take_succ_cons, List.take_zero, hcons, at?_nil]
        rfl
    · exact Or.inl (by rwa [hcons])
    · refine Or.inr ⟨n + 1, Nat.succ_lt_succ hlt, n.succ_pos, u, ?_, hleaf⟩
      rwa [List.take_succ_cons, hcons]

/-- A document `Decides` a longer path by what it has under the first key. -/
theorem decides_cons :
    v.Decides (c :: path) ↔
      ∃ w, lookup c v.entries = some w ∧ (path = [] ∨ w.isMap = false ∨ w.Decides path) := by
  cases hfound : lookup c v.entries with
  | none =>
    exact iff_of_false (not_decides_of_lookup_eq_none hfound path) fun ⟨w, hw, _⟩ => nomatch hw
  | some w =>
    rw [decides_cons_of_lookup hfound]
    simp only [Option.some.injEq, exists_eq_left']

/-! ## Proper values -/

theorem proper_map_iff : (map l es).Proper ↔ DistinctKeys es ∧ ∀ e ∈ es, e.2.Proper := by
  constructor
  · rintro (⟨hdistinct, hvalues⟩ | h)
    · exact ⟨hdistinct, hvalues⟩
    · cases h
  · exact fun h => .map h.1 h.2

theorem proper_of_lookup (h : ∀ e ∈ es, e.2.Proper) (hfound : lookup c es = some v) : v.Proper := by
  obtain ⟨k, hmem⟩ := exists_mem_of_lookup hfound
  exact h (k, v) hmem

/-- `unroll` leaves a value `Proper`, if the whole is. -/
theorem Proper.unroll {container : Container} (hv : v.Proper) (hw : w.Proper) :
    (unroll container l w v).Proper := by
  induction hv with
  | @map m es hdistinct _ ih =>
    rw [unroll_map]
    refine .map ?_ fun e he => ?_
    · rw [DistinctKeys, List.map_map]
      exact hdistinct
    · obtain ⟨e', he', rfl⟩ := List.mem_map.1 he
      exact ih e' he'
  | @leaf v h =>
    rw [Value.unroll]
    -- a loop that leads to the whole becomes the whole, which is proper
    cases v with
    | map m es => cases h
    | loop d m =>
      rw [substitute, looped?]
      split
      · exact hw
      · exact .leaf rfl
    | _ => exact .leaf rfl

/-- The `entries` of a `Proper` value have distinct keys and `Proper` values. -/
theorem Proper.entries (h : v.Proper) : DistinctKeys v.entries ∧ ∀ e ∈ v.entries, e.2.Proper := by
  cases v with
  | map l es =>
    obtain ⟨hdistinct, hvalues⟩ := proper_map_iff.1 h
    refine ⟨?_, fun e he => ?_⟩
    · rwa [DistinctKeys, map_fst_entries]
    · obtain ⟨e', he', rfl⟩ := List.mem_map.1 he
      exact (hvalues e' he').unroll h
  | _ => exact ⟨List.Pairwise.nil, List.forall_mem_nil _⟩

/-! ## Other labels -/

/-- What values hold depends only on whether they are mappings and on what they are without
labels. -/
theorem holding_nameless {v w : Value} (hv : v.isMap = w.isMap)
    (h : v.nameless [] = w.nameless []) :
    Holding.of (some v) = Holding.of (some w) := by
  cases v with
  | map l es =>
    cases w with
    | map m fs => rfl
    | _ => cases hv
  | _ =>
    cases w with
    | map m fs => cases hv
    | _ => exact congrArg Holding.value h

/-- A path leads to the same under other labels, if `φ` tells apart what the old ones do. -/
theorem at?_relabel (hφ : Function.Injective φ) (v : Value) (path : List Scalar) :
    (v.relabel φ).at? path = (v.at? path).map (relabel φ) := by
  induction path generalizing v with
  | nil => rw [at?_nil, at?_nil, Option.map_some]
  | cons c path ih =>
    rw [at?_cons, at?_cons, entries_relabel hφ, lookup_relabelEntries]
    cases lookup c v.entries with
    | none => rfl
    | some w => exact ih w

/-- `relabel` leaves a value `Proper`. -/
theorem Proper.relabel (h : v.Proper) (φ : Nat → Nat) : (v.relabel φ).Proper := by
  induction h with
  | @map l es hdistinct _ ih =>
    rw [Value.relabel, relabelEntries_eq_map]
    refine .map ?_ fun e he => ?_
    · rwa [DistinctKeys, List.map_map]
    · obtain ⟨e', he', rfl⟩ := List.mem_map.1 he
      exact ih e' he'
  | leaf h => exact .leaf (by rwa [isMap_relabel])

/-- What a path holds (`Holding`) does not depend on labels. -/
theorem holding_relabel (hφ : Function.Injective φ) (v : Value) (path : List Scalar) :
    Holding.of ((v.relabel φ).at? path) = Holding.of (v.at? path) := by
  rw [at?_relabel hφ]
  cases v.at? path with
  | none => rfl
  | some w => exact holding_nameless (isMap_relabel φ w) (nameless_relabel hφ [] w)

/-- Which paths a document `Decides` does not depend on labels. -/
theorem decides_relabel (hφ : Function.Injective φ) (v : Value) (path : List Scalar) :
    (v.relabel φ).Decides path ↔ v.Decides path := by
  rw [Decides, Decides, at?_relabel hφ, Option.isSome_map]
  refine or_congr Iff.rfl (exists_congr fun n => and_congr Iff.rfl (and_congr Iff.rfl ?_))
  rw [at?_relabel hφ]
  cases v.at? (path.take n) with
  | none => simp
  | some w => simp [isMap_relabel]

end Value

end FactoryRegistry
