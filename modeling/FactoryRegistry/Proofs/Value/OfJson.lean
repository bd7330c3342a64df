import FactoryRegistry.Proofs.Json.Proper
import FactoryRegistry.Proofs.Value.Path

/-!
# The values of JSON values

The lists and mappings of a JSON value are labelled one after another, so that no label comes twice
and the next label is free (`exists_labels_ofJson`). None of them stands inside itself, so that each
reads as it is written (`items_ofJson_array`, `entries_ofJson_object`). Apart from its labels the
value is the same wherever they begin (`ofJson_add`), and it is proper when no object repeats a name
(`ofJson_proper`).
-/

namespace FactoryRegistry

namespace Value

theorem ofJson_array (n : Nat) (items : List Json) :
    ofJson n (.array items) =
      (list n (ofItems (n + 1) items).1, (ofItems (n + 1) items).2) := by
  rw [ofJson]

theorem ofJson_object (n : Nat) (members : List (String × Json)) :
    ofJson n (.object members) =
      (map n (ofMembers (n + 1) members).1, (ofMembers (n + 1) members).2) := by
  rw [ofJson]

theorem ofItems_cons (n : Nat) (j : Json) (items : List Json) :
    ofItems n (j :: items) = ((ofJson n j).1 :: (ofItems (ofJson n j).2 items).1,
      (ofItems (ofJson n j).2 items).2) := by
  rw [ofItems]

theorem ofMembers_cons (n : Nat) (name : String) (j : Json) (members : List (String × Json)) :
    ofMembers n ((name, j) :: members) =
      ((.text name, (ofJson n j).1) :: (ofMembers (ofJson n j).2 members).1,
        (ofMembers (ofJson n j).2 members).2) := by
  rw [ofMembers]

/-! ## Labels -/

/-- The labels of two parts that are labelled one after another. -/
theorem coe_range'_add (n a b : Nat) :
    (List.range' n a : Multiset Nat) + (List.range' (n + a) b : Multiset Nat) =
      (List.range' n (a + b) : Multiset Nat) := by
  rw [Multiset.coe_add, List.range'_append_1]

mutual

/-- The lists and mappings of a JSON value are labelled one after another from `n` on. -/
theorem exists_labels_ofJson : ∀ (j : Json) (n : Nat),
    ∃ a, (ofJson n j).2 = n + a ∧ (ofJson n j).1.labels ≤ (List.range' n a : Multiset Nat)
  | .null, n | .bool _, n | .int _, n | .real _, n | .text _, n => ⟨0, rfl, le_rfl⟩
  | .array items, n => by
    obtain ⟨a, hnext, hlabels⟩ := exists_labels_ofItems items (n + 1)
    refine ⟨a + 1, by rw [ofJson_array, hnext]; omega, ?_⟩
    rw [ofJson_array, labels, List.range'_succ, ← Multiset.cons_coe]
    exact hlabels.trans (Multiset.le_cons_self _ n)
  | .object members, n => by
    obtain ⟨a, hnext, hlabels⟩ := exists_labels_ofMembers members (n + 1)
    refine ⟨a + 1, by rw [ofJson_object, hnext]; omega, ?_⟩
    rw [ofJson_object, labels, List.range'_succ, ← Multiset.cons_coe]
    exact Multiset.cons_le_cons n hlabels

/-- `exists_labels_ofJson` for some values. -/
theorem exists_labels_ofItems : ∀ (items : List Json) (n : Nat),
    ∃ a, (ofItems n items).2 = n + a ∧
      itemLabels (ofItems n items).1 ≤ (List.range' n a : Multiset Nat)
  | [], n => ⟨0, rfl, le_rfl⟩
  | j :: items, n => by
    obtain ⟨a, hnext, hlabels⟩ := exists_labels_ofJson j n
    obtain ⟨b, hnext', hlabels'⟩ := exists_labels_ofItems items (n + a)
    refine ⟨a + b, by rw [ofItems_cons, hnext, hnext', add_assoc], ?_⟩
    rw [ofItems_cons, itemLabels, hnext, ← coe_range'_add]
    exact add_le_add hlabels hlabels'

/-- `exists_labels_ofJson` for the members of an object. -/
theorem exists_labels_ofMembers : ∀ (members : List (String × Json)) (n : Nat),
    ∃ a, (ofMembers n members).2 = n + a ∧
      entryLabels (ofMembers n members).1 ≤ (List.range' n a : Multiset Nat)
  | [], n => ⟨0, rfl, le_rfl⟩
  | (name, j) :: members, n => by
    obtain ⟨a, hnext, hlabels⟩ := exists_labels_ofJson j n
    obtain ⟨b, hnext', hlabels'⟩ := exists_labels_ofMembers members (n + a)
    refine ⟨a + b, by rw [ofMembers_cons, hnext, hnext', add_assoc], ?_⟩
    rw [ofMembers_cons, entryLabels, hnext, ← coe_range'_add]
    exact add_le_add hlabels hlabels'

end

/-- The label after those of `ofJson n j` is not less than `n`. -/
theorem le_ofJson_next (n : Nat) (j : Json) : n ≤ (ofJson n j).2 := by
  obtain ⟨a, hnext, -⟩ := exists_labels_ofJson j n
  exact hnext ▸ Nat.le_add_right n a

/-- The labels of `ofJson n j` are from `n` on up to the next free one. -/
theorem mem_labels_ofJson {l n : Nat} {j : Json} (h : l ∈ (ofJson n j).1.labels) :
    n ≤ l ∧ l < (ofJson n j).2 := by
  obtain ⟨a, hnext, hlabels⟩ := exists_labels_ofJson j n
  rw [hnext, ← List.mem_range'_1, ← Multiset.mem_coe]
  exact Multiset.mem_of_le hlabels h

/-! ## Reading lists and mappings -/

mutual

/-- There is nothing to `unroll` in a JSON value. -/
theorem unroll_ofJson (c : Container) (l : Nat) (whole : Value) : ∀ (j : Json) (n : Nat),
    unroll c l whole (ofJson n j).1 = (ofJson n j).1
  | .null, _ | .bool _, _ | .int _, _ | .real _, _ | .text _, _ => rfl
  | .array items, n => by
    rw [ofJson_array]
    exact congrArg (list n) (unroll_ofItems c l whole items (n + 1))
  | .object members, n => by
    rw [ofJson_object]
    exact congrArg (map n) (unroll_ofMembers c l whole members (n + 1))

/-- `unroll_ofJson` for some values. -/
theorem unroll_ofItems (c : Container) (l : Nat) (whole : Value) : ∀ (items : List Json) (n : Nat),
    substituteItems (looped? c l whole) (ofItems n items).1 = (ofItems n items).1
  | [], _ => rfl
  | j :: items, n => by
    rw [ofItems_cons]
    exact congrArg₂ List.cons (unroll_ofJson c l whole j n) (unroll_ofItems c l whole items _)

/-- `unroll_ofJson` for the members of an object. -/
theorem unroll_ofMembers (c : Container) (l : Nat) (whole : Value) :
    ∀ (members : List (String × Json)) (n : Nat),
      substituteEntries (looped? c l whole) (ofMembers n members).1 = (ofMembers n members).1
  | [], _ => rfl
  | (name, j) :: members, n => by
    rw [ofMembers_cons]
    exact congrArg₂ (fun v es => (.text name, v) :: es) (unroll_ofJson c l whole j n)
      (unroll_ofMembers c l whole members _)

end

/-- The `items` of an array are the values of its items as `ofItems` makes them. -/
theorem items_ofJson_array (n : Nat) (items : List Json) :
    (ofJson n (.array items)).1.items = (ofItems (n + 1) items).1 := by
  rw [ofJson_array, Value.items]
  exact (substituteItems_eq_map _ _).symm.trans (unroll_ofItems .list n _ items (n + 1))

/-- The `entries` of an object are those that `ofMembers` makes. -/
theorem entries_ofJson_object (n : Nat) (members : List (String × Json)) :
    (ofJson n (.object members)).1.entries = (ofMembers (n + 1) members).1 := by
  rw [ofJson_object, Value.entries]
  exact (substituteEntries_eq_map _ _).symm.trans (unroll_ofMembers .map n _ members (n + 1))

/-! ## The value apart from its labels -/

mutual

/-- `ofJson` from a label further on makes the same value with other labels. -/
theorem ofJson_add (n a : Nat) : ∀ j : Json,
    ofJson (n + a) j = ((ofJson a j).1.relabel (n + ·), n + (ofJson a j).2)
  | .null | .bool _ | .int _ | .real _ | .text _ => rfl
  | .array items => by
    rw [ofJson_array, ofJson_array, add_assoc, ofItems_add n (a + 1) items, relabel]
  | .object members => by
    rw [ofJson_object, ofJson_object, add_assoc, ofMembers_add n (a + 1) members, relabel]

/-- `ofJson_add` for some values. -/
theorem ofItems_add (n a : Nat) : ∀ items : List Json,
    ofItems (n + a) items = (relabelItems (n + ·) (ofItems a items).1, n + (ofItems a items).2)
  | [] => rfl
  | j :: items => by
    rw [ofItems_cons, ofItems_cons, ofJson_add n a j, ofItems_add n _ items, relabelItems]

/-- `ofJson_add` for the members of an object. -/
theorem ofMembers_add (n a : Nat) : ∀ members : List (String × Json),
    ofMembers (n + a) members =
      (relabelEntries (n + ·) (ofMembers a members).1, n + (ofMembers a members).2)
  | [] => rfl
  | (name, j) :: members => by
    rw [ofMembers_cons, ofMembers_cons, ofJson_add n a j, ofMembers_add n _ members, relabelEntries]

end

/-- A JSON value with labels from `n` on is the one with labels from `0` on, labelled anew. -/
theorem ofJson_eq_relabel (n : Nat) (j : Json) : (ofJson n j).1 = (ofJson 0 j).1.relabel (n + ·) :=
  congrArg Prod.fst (ofJson_add n 0 j)

/-- What a path of `ofJson n j` holds does not depend on `n`. -/
theorem holding_ofJson (j : Json) (n : Nat) (path : List Scalar) :
    Holding.of ((ofJson n j).1.at? path) = Holding.of ((ofJson 0 j).1.at? path) := by
  rw [ofJson_eq_relabel n, holding_relabel (add_right_injective n)]

/-! ## Keys -/

theorem map_fst_ofMembers (n : Nat) (members : List (String × Json)) :
    (ofMembers n members).1.map Prod.fst = members.map fun m => .text m.1 := by
  induction members generalizing n with
  | nil => rfl
  | cons m members ih => rw [ofMembers_cons, List.map_cons, ih, List.map_cons]

theorem mem_ofMembers {n : Nat} {members : List (String × Json)} {e : Scalar × Value}
    (h : e ∈ (ofMembers n members).1) : ∃ m ∈ members, ∃ a, e.2 = (ofJson a m.2).1 := by
  induction members generalizing n with
  | nil => cases h
  | cons m members ih =>
    rw [ofMembers_cons] at h
    rcases List.mem_cons.1 h with rfl | h
    · exact ⟨m, List.mem_cons_self, n, rfl⟩
    · obtain ⟨m', hm', ha⟩ := ih h
      exact ⟨m', List.mem_cons_of_mem m hm', ha⟩

/-- An object that repeats no name becomes a mapping without a key that comes twice. -/
theorem ofJson_proper {j : Json} (hj : j.Proper) (n : Nat) : (ofJson n j).1.Proper := by
  induction hj generalizing n with
  | @object members hnodup _ ih =>
    rw [ofJson_object]
    refine .map ?_ fun e he => ?_
    · rw [DistinctKeys, map_fst_ofMembers, List.pairwise_map]
      refine (List.pairwise_map.1 hnodup).imp fun {a b} hab => ?_
      -- keys are texts, so different names are different keys
      rw [Scalar.sameKey_text]
      exact beq_eq_false_iff_ne.2 hab
    · obtain ⟨m, hm, a, ha⟩ := mem_ofMembers he
      exact ha ▸ ih m hm a
  | @leaf j h =>
    refine .leaf ?_
    cases j with
    | object members => exact absurd rfl (h members)
    | array items => rw [ofJson_array]; rfl
    | _ => rfl

end Value

end FactoryRegistry
