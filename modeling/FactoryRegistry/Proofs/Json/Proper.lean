import FactoryRegistry.Json.Reader
import FactoryRegistry.Proofs.Association.Keys
import FactoryRegistry.Proofs.Except

/-!
# Objects without repeated names

A reader keeps one member of each name, so what it reads is proper: no object repeats a name
(`read_proper`). Arrays are not looked into, since names do not lead through them.
-/

namespace FactoryRegistry.Json

/-- A JSON value in which no object that names lead to repeats a name. -/
inductive Proper : Json → Prop where
  /-- An object of proper values under different names. -/
  | object {members : List (String × Json)} (nodup : (members.map Prod.fst).Nodup)
      (members_proper : ∀ m ∈ members, m.2.Proper) : Proper (object members)
  /-- A value that names do not lead through. -/
  | leaf {j : Json} (not_object : ∀ members, j ≠ object members) : Proper j

variable {members : List (String × Json)} {name : String} {j : Json}

/-- An object is `Proper` if it repeats no name and its values are `Proper`. -/
theorem proper_object_iff :
    (object members).Proper ↔ (members.map Prod.fst).Nodup ∧ ∀ m ∈ members, m.2.Proper := by
  constructor
  · rintro (⟨hnodup, hmembers⟩ | h)
    · exact ⟨hnodup, hmembers⟩
    · exact absurd rfl (h members)
  · exact fun h => .object h.1 h.2

theorem mem_put {m : String × Json} (h : m ∈ put name j members) : m ∈ members ∨ m.2 = j := by
  induction members with
  | nil => exact Or.inr (by rw [List.mem_singleton.1 h])
  | cons e members ih =>
    rw [put, Association.put, Association.alter] at h
    split at h
    · rcases List.mem_cons.1 h with rfl | h
      · exact Or.inr rfl
      · exact Or.inl (List.mem_cons_of_mem e h)
    · rcases List.mem_cons.1 h with rfl | h
      · exact Or.inl List.mem_cons_self
      · exact (ih h).imp_left (List.mem_cons_of_mem e)

/-- `put` does not make an object repeat a name. -/
theorem put_proper (name : String) (h : (object members).Proper) (hj : j.Proper) :
    (object (put name j members)).Proper := by
  obtain ⟨hnodup, hmembers⟩ := proper_object_iff.1 h
  refine .object ?_ fun m hm => ?_
  · rw [put, Association.map_fst_put]
    split
    · exact hnodup
    · exact List.nodup_append.2 ⟨hnodup, List.nodup_singleton _, by rintro a ha b hb rfl; simp_all⟩
  · rcases mem_put hm with hm | hm
    · exact hmembers m hm
    · exact hm ▸ hj

theorem object_nil_proper : (object []).Proper :=
  proper_object_iff.2 ⟨List.nodup_nil, List.forall_mem_nil _⟩

/-! ## What a reader gives -/

theorem word?_proper {cs : List Char} {n : Nat} (h : word? cs = some (j, n)) : j.Proper := by
  refine .leaf fun members hj => ?_
  subst hj
  simp only [word?] at h
  split_ifs at h <;> cases h

theorem readNumber_proper {i : Nat} {cs : List Char} {rest : Nat × List Char}
    (h : readNumber i cs = .ok (j, rest)) : j.Proper := by
  refine .leaf fun members hj => ?_
  subst hj
  unfold readNumber at h
  extract_lets sign unsigned whole afterWhole fraction afterFraction exponent after shown at h
  split at h
  · cases h
  · split at h
    · split at h <;> cases h
    · cases h

/-- What the reading functions give at one depth is proper, members being put into a proper
object. -/
structure ReadsProper (fuel : Nat) : Prop where
  /-- Values are proper. -/
  value : ∀ {i : Nat} {cs : List Char} {j : Json} {rest : Nat × List Char},
    readValue fuel i cs = .ok (j, rest) → j.Proper
  /-- Members added to a proper object leave it proper. -/
  members : ∀ {before members : List (String × Json)} {i : Nat} {cs : List Char}
    {rest : Nat × List Char}, (object before).Proper →
      readMembers fuel before i cs = .ok (members, rest) → (object members).Proper

/-- `readValue` reads `Proper` values, if the functions with less `fuel` do. -/
theorem readValue_proper {fuel i : Nat} {cs : List Char} {rest : Nat × List Char}
    (ih : ReadsProper fuel) (h : readValue (fuel + 1) i cs = .ok (j, rest)) : j.Proper := by
  cases cs with
  | nil =>
    rw [readValue] at h
    cases h
  | cons c cs =>
    rw [readValue] at h
    split_ifs at h
    · -- a text
      obtain ⟨_, -, hj⟩ := map_eq_ok_iff.1 h
      cases hj
      exact .leaf fun _ h => nomatch h
    · -- an object, without members or with some
      split at h
      split at h
      · cases h
        exact object_nil_proper
      · obtain ⟨_, hread, hj⟩ := map_eq_ok_iff.1 h
        cases hj
        exact ih.members object_nil_proper hread
    · -- an array
      split at h
      split at h
      · cases h
        exact .leaf fun _ h => nomatch h
      · obtain ⟨_, -, hj⟩ := map_eq_ok_iff.1 h
        cases hj
        exact .leaf fun _ h => nomatch h
    · -- a word or a number
      split at h
      · next hword =>
        cases h
        exact word?_proper hword
      · exact readNumber_proper h

/-- `readMembers` puts `Proper` values under names that are not repeated. -/
theorem readMembers_proper {fuel i : Nat} {before : List (String × Json)} {cs : List Char}
    {rest : Nat × List Char} (ih : ReadsProper fuel) (hbefore : (object before).Proper)
    (h : readMembers (fuel + 1) before i cs = .ok (members, rest)) : (object members).Proper := by
  rw [readMembers.eq_def] at h
  split at h
  · cases h
  · next heq =>
    cases heq
    obtain ⟨⟨name, _, _⟩, -, h⟩ := bind_eq_ok_iff.1 h
    dsimp only at h
    split at h
    · obtain ⟨⟨value, _, _⟩, hvalue, h⟩ := bind_eq_ok_iff.1 h
      have hput := put_proper (String.ofList name) hbefore (ih.value hvalue)
      dsimp only at h
      -- the member is the last one, or others follow
      split at h
      · cases h
        exact hput
      · exact ih.members hput h
      · cases h
    · cases h
  · cases h

/-- All three functions read `Proper` values. The induction is on `fuel`. -/
theorem readsProper (fuel : Nat) : ReadsProper fuel := by
  induction fuel with
  | zero =>
    refine ⟨fun {i cs j rest} h => ?_, fun {before members i cs rest} _ h => ?_⟩
    · rw [readValue] at h
      cases h
    · rw [readMembers] at h
      cases h
  | succ fuel ih => exact ⟨readValue_proper ih, readMembers_proper ih⟩

/-- `read` finds a value in which no object repeats a name. -/
theorem read_proper {s : String} (h : read s = .ok j) : j.Proper := by
  rw [read] at h
  split_ifs at h
  · cases h
  · obtain ⟨⟨value, i, rest⟩, hvalue, h⟩ := bind_eq_ok_iff.1 h
    have hproper := (readsProper _).value hvalue
    change (if (skipSpace i rest).2.isEmpty then Except.ok value else _) = _ at h
    split at h <;> cases h
    exact hproper

end FactoryRegistry.Json
