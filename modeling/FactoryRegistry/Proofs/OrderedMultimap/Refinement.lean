import Mathlib.Data.List.Forall2
import Mathlib.Data.List.Perm.Subperm
import FactoryRegistry.Proofs.OrderedMultimap.Grouping

/-!
# Multimaps as lists of additions

A multimap stands for the list of the additions that were made to it: everything that can be asked
of it is a question about that list (`answers_of_additions`).

* `valuesOf`: the values that were added under a key;
* `grouped`: the additions brought together by key, which is a stable permutation of them
  (`grouped_perm`, `filter_grouped`) and which a multimap is rebuilt from (`ofList_grouped`);
* `agrees_ofList_iff`: two multimaps are equal when every key was given equal values, in whatever
  order the keys took turns.
-/

namespace FactoryRegistry

/-- The distinct ones among blocks of repetitions are the repeated ones. -/
theorem eraseDups_flatMap {α : Type} [BEq α] [LawfulBEq α] {ks : List α} (hnodup : ks.Nodup)
    {block : α → List α} (hblock : ∀ k ∈ ks, block k ≠ [] ∧ ∀ a ∈ block k, a = k) :
    (ks.flatMap block).eraseDups = ks := by
  induction ks using List.reverseRecOn with
  | nil => rfl
  | append_singleton ks k ih =>
    obtain ⟨hnodup, -, hdisjoint⟩ := List.nodup_append.1 hnodup
    obtain ⟨hne, hsame⟩ := hblock k (by simp)
    -- a block is one repetition of its key or more
    obtain ⟨n, hn⟩ : ∃ n, block k = List.replicate (n + 1) k :=
      ⟨(block k).length - 1, List.eq_replicate_iff.2
        ⟨by have := List.length_pos_iff.2 hne; omega, hsame⟩⟩
    have hrepeated : (List.replicate (n + 1) k).eraseDups = [k] := by
      rw [List.replicate_succ, List.eraseDups_cons, List.filter_eq_nil_iff.2 (by simp)]
      rfl
    have hfresh : k ∉ ks.flatMap block := by
      intro hmem
      obtain ⟨a, ha, hk⟩ := List.mem_flatMap.1 hmem
      have hka : k = a := (hblock a (by simp [ha])).2 k hk
      exact hdisjoint a ha k (by simp) hka.symm
    have hkept : (List.replicate (n + 1) k).removeAll (ks.flatMap block) =
        List.replicate (n + 1) k := by
      refine List.filter_eq_self.2 fun a ha => ?_
      rw [List.eq_of_mem_replicate ha]
      simpa using hfresh
    rw [List.flatMap_append, List.flatMap_singleton, List.eraseDups_append, hn, hkept, hrepeated,
      ih hnodup fun a ha => hblock a (by simp [ha])]

namespace OrderedMultimap

variable {K V : Type} [DecidableEq K]

/-- The values that additions give to a key, in order. -/
def valuesOf (key : K) (pairs : List (K × V)) : List V :=
  (pairs.filter fun p => p.1 = key).map Prod.snd

/-- Additions brought together by key: the keys in the order of their first addition, and the
additions of each of them in order. -/
def grouped (pairs : List (K × V)) : List (K × V) :=
  (pairs.map Prod.fst).eraseDups.flatMap fun k => pairs.filter fun p => p.1 = k

/-! ## Values -/

/-- A key has no `valuesOf` exactly if it was never added. -/
theorem valuesOf_eq_nil_iff {key : K} {pairs : List (K × V)} :
    valuesOf key pairs = [] ↔ key ∉ pairs.map Prod.fst := by
  simp only [valuesOf, List.map_eq_nil_iff, List.filter_eq_nil_iff, decide_eq_true_eq,
    List.mem_map, not_exists, not_and]

/-- One more addition gives its value to its own key alone. -/
theorem valuesOf_concat (pairs : List (K × V)) (key : K) (value : V) (k : K) :
    valuesOf k (pairs ++ [(key, value)]) =
      valuesOf k pairs ++ if key = k then [value] else [] := by
  by_cases hk : key = k <;> simp [valuesOf, hk]

/-- `get?` finds the keys that were added, each with the values that it was given. -/
theorem get?_ofList (pairs : List (K × V)) (k : K) :
    (ofList pairs).get? k =
      if k ∈ pairs.map Prod.fst then some (valuesOf k pairs) else none := by
  induction pairs using List.reverseRecOn with
  | nil => rfl
  | append_singleton pairs p ih =>
    obtain ⟨key, value⟩ := p
    rw [ofList_concat, get?_add, getAll_ofList, ih, valuesOf_concat]
    simp only [List.map_append, List.map_singleton, List.mem_append, List.mem_singleton]
    by_cases hk : k = key
    · subst hk
      simp [valuesOf]
    · simp only [hk, Ne.symm hk, if_false, or_false, List.append_nil]

/-- `getFirst` finds the first value that a key was given. -/
theorem getFirst_ofList (pairs : List (K × V)) (k : K) (default : V) :
    (ofList pairs).getFirst k default = (valuesOf k pairs).headD default := by
  rw [getFirst, getAll_ofList, valuesOf]

/-! ## Groups -/

/-- `toPairs` lists the additions brought together by key. -/
theorem toPairs_ofList (pairs : List (K × V)) : (ofList pairs).toPairs = grouped pairs := by
  rw [toPairs, entries_ofList, List.flatMap_map, grouped]
  refine List.flatMap_congr fun k _ => ?_
  change ((pairs.filter fun p => p.1 = k).map Prod.snd).map (k, ·) = _
  rw [List.map_map]
  -- every pair of the group has the key of the group
  refine (List.map_congr_left fun p hp => ?_).trans (List.map_id _)
  have hkey : p.1 = k := by simpa using (List.mem_filter.1 hp).2
  exact Prod.ext hkey.symm rfl

/-- The groups of some keys hold the additions of these keys and no others. -/
theorem flatMap_filter_perm {ks : List K} (hnodup : ks.Nodup) (pairs : List (K × V)) :
    (ks.flatMap fun k => pairs.filter fun p => p.1 = k).Perm (pairs.filter fun p => p.1 ∈ ks) := by
  induction ks with
  | nil => simp
  | cons k ks ih =>
    obtain ⟨hfresh, hnodup⟩ := List.nodup_cons.1 hnodup
    -- the additions under the first key, and all others
    have hsplit := List.filter_append_perm (fun p : K × V => decide (p.1 = k))
      (pairs.filter fun p => p.1 ∈ k :: ks)
    have hgroup : (pairs.filter fun p => p.1 ∈ k :: ks).filter (fun p => p.1 = k) =
        pairs.filter fun p => p.1 = k := by
      rw [List.filter_filter]
      refine List.filter_congr fun p _ => ?_
      by_cases hp : p.1 = k <;> simp [hp]
    have hothers : (pairs.filter fun p => p.1 ∈ k :: ks).filter (fun p => !decide (p.1 = k)) =
        pairs.filter fun p => p.1 ∈ ks := by
      rw [List.filter_filter]
      refine List.filter_congr fun p _ => ?_
      by_cases hp : p.1 = k <;> simp [hp, hfresh]
    rw [hgroup, hothers] at hsplit
    rw [List.flatMap_cons]
    exact ((ih hnodup).append_left _).trans hsplit

/-- `grouped` adds no additions and drops none. -/
theorem grouped_perm (pairs : List (K × V)) : (grouped pairs).Perm pairs := by
  refine (flatMap_filter_perm (nodup_eraseDups _) pairs).trans (.of_eq ?_)
  refine List.filter_eq_self.2 fun p hp => ?_
  simpa using ⟨p.2, hp⟩

/-- `grouped` keeps the additions of each key in order. -/
theorem filter_grouped (pairs : List (K × V)) (k : K) :
    ((grouped pairs).filter fun p => p.1 = k) = pairs.filter fun p => p.1 = k := by
  -- of the groups of any keys, only the one of `k` has additions under `k`
  have hgroups : ∀ ks : List K, ks.Nodup →
      ((ks.flatMap fun n => pairs.filter fun p => p.1 = n).filter fun p => p.1 = k) =
        if k ∈ ks then pairs.filter fun p => p.1 = k else [] := by
    intro ks hnodup
    induction ks with
    | nil => rfl
    | cons n ks ih =>
      obtain ⟨hfresh, hnodup⟩ := List.nodup_cons.1 hnodup
      rw [List.flatMap_cons, List.filter_append, ih hnodup, List.filter_filter]
      by_cases hn : n = k
      · subst hn
        simp [hfresh]
      · have hnone : pairs.filter (fun p => decide (p.1 = k) && decide (p.1 = n)) = [] := by
          refine List.filter_eq_nil_iff.2 fun p _ hp => hn ?_
          simp only [Bool.and_eq_true, decide_eq_true_eq] at hp
          exact hp.2.symm.trans hp.1
        simp [hnone, Ne.symm hn]
  rw [grouped, hgroups _ (nodup_eraseDups _)]
  split
  next => rfl
  next habsent =>
    refine (List.filter_eq_nil_iff.2 fun p hp hk => habsent ?_).symm
    rw [List.mem_eraseDups]
    exact List.mem_map.2 ⟨p, hp, by simpa using hk⟩

/-- `valuesOf` is the same after the additions are `grouped`. -/
theorem valuesOf_grouped (pairs : List (K × V)) (k : K) :
    valuesOf k (grouped pairs) = valuesOf k pairs := by
  rw [valuesOf, filter_grouped, valuesOf]

/-- Keys come first in the same order after the additions are `grouped`. -/
theorem eraseDups_keys_grouped (pairs : List (K × V)) :
    ((grouped pairs).map Prod.fst).eraseDups = (pairs.map Prod.fst).eraseDups := by
  rw [grouped, List.map_flatMap]
  refine eraseDups_flatMap (nodup_eraseDups _) fun k hk => ⟨fun hnone => ?_, fun a ha => ?_⟩
  · rw [List.mem_eraseDups] at hk
    obtain ⟨p, hp, rfl⟩ := List.mem_map.1 hk
    rw [List.map_eq_nil_iff, List.filter_eq_nil_iff] at hnone
    exact hnone p hp (by simp)
  · obtain ⟨p, hp, rfl⟩ := List.mem_map.1 ha
    simpa using (List.mem_filter.1 hp).2

/-- `ofList` rebuilds a multimap from its additions when they are `grouped`. -/
theorem ofList_grouped (pairs : List (K × V)) : ofList (grouped pairs) = ofList pairs := by
  refine congrArg mk (?_ : (ofList _).entries = (ofList _).entries)
  rw [entries_ofList, entries_ofList, eraseDups_keys_grouped]
  exact List.map_congr_left fun k _ => by rw [← valuesOf, valuesOf_grouped, valuesOf]

/-! ## Equality -/

variable {same : V → V → Bool}

theorem listsAgree_iff {vs ws : List V} :
    listsAgree same vs ws = true ↔ List.Forall₂ (fun v w => same v w = true) vs ws := by
  induction vs generalizing ws with
  | nil => cases ws <;> simp [listsAgree]
  | cons v vs ih => cases ws <;> simp [listsAgree, ih]

/-- `agrees` compares multimaps by their sizes and by the keys of the first one. -/
theorem agrees_ofList_iff_keys (pairs pairs' : List (K × V)) :
    agrees same (ofList pairs) (ofList pairs') = true ↔
      (ofList pairs).keys.length = (ofList pairs').keys.length ∧
        ∀ k ∈ (ofList pairs).keys, k ∈ (ofList pairs').keys ∧
          List.Forall₂ (fun v w => same v w = true) (valuesOf k pairs) (valuesOf k pairs') := by
  have hsize : ∀ m : OrderedMultimap K V, m.size = m.keys.length := fun m => by
    rw [size, keys, List.length_map]
  rw [agrees, Bool.and_eq_true, beq_iff_eq, hsize, hsize,
    entries_eq_map_getAll (nodup_keys_ofList pairs), List.all_map, List.all_eq_true]
  refine and_congr_right fun _ => forall₂_congr fun k _ => ?_
  have hkey : k ∈ (ofList pairs').keys ↔ k ∈ pairs'.map Prod.fst := by
    rw [keys_ofList, List.mem_eraseDups]
  have hvalues : (ofList pairs).getAll k = valuesOf k pairs := getAll_ofList pairs k
  simp only [Function.comp_apply, hvalues, get?_ofList, hkey]
  -- a key that only the first map has makes both sides false
  by_cases hk : k ∈ pairs'.map Prod.fst
  · rw [if_pos hk]
    simp only [listsAgree_iff, hk, true_and]
  · rw [if_neg hk]
    simp [hk]

/-- Two multimaps agree (`agrees`) when the values that each key was given agree. -/
theorem agrees_ofList_iff (pairs pairs' : List (K × V)) :
    agrees same (ofList pairs) (ofList pairs') = true ↔
      ∀ k, List.Forall₂ (fun v w => same v w = true) (valuesOf k pairs) (valuesOf k pairs') := by
  have habsent : ∀ {k : K} {pairs : List (K × V)}, k ∉ (ofList pairs).keys ↔
      valuesOf k pairs = [] := by
    intro k pairs
    rw [keys_ofList, List.mem_eraseDups, valuesOf_eq_nil_iff]
  rw [agrees_ofList_iff_keys]
  constructor
  · rintro ⟨hlength, hvalues⟩ k
    by_cases hk : k ∈ (ofList pairs).keys
    · exact (hvalues k hk).2
    · -- there are no more keys on the other side, so it has not got this one either
      have hsame : (ofList pairs).keys.Perm (ofList pairs').keys :=
        ((nodup_keys_ofList pairs).subperm fun k hk => (hvalues k hk).1).perm_of_length_le
          (Nat.le_of_eq hlength.symm)
      rw [habsent.1 hk, habsent.1 fun h => hk (hsame.mem_iff.2 h)]
      exact .nil
  · intro hvalues
    -- values that agree are equally many, so the same keys have some
    have hkeys : ∀ k, k ∈ (ofList pairs).keys ↔ k ∈ (ofList pairs').keys := by
      intro k
      rw [← not_iff_not, habsent, habsent, ← List.length_eq_zero_iff, ← List.length_eq_zero_iff,
        (hvalues k).length_eq]
    have hsame : (ofList pairs).keys.Perm (ofList pairs').keys :=
      (List.perm_ext_iff_of_nodup (nodup_keys_ofList pairs) (nodup_keys_ofList pairs')).2 hkeys
    exact ⟨hsame.length_eq, fun k hk => ⟨(hkeys k).1 hk, hvalues k⟩⟩

/-- Additions determine everything that a multimap answers.

Let `m` be the multimap of some additions, all made at once (`ofList`) or some of them later
(`add`). Its keys are the distinct ones in the order of their first addition. A key that was never
added has no list of values, no values, and any default as its first one; every other key has the
values that it was given, in order (`valuesOf`). The pairs of `m` are the additions brought together
by key (`grouped`), no two of one key changing places, and make up the same multimap again; there
are as many values as additions. Another multimap `agrees` with `m` exactly when every key was given
values that agree, and the same with equality, so that the order in which different keys take turns
does not count. -/
theorem answers_of_additions (pairs : List (K × V)) :
    let m := ofList pairs
    (∀ earlier later, pairs = earlier ++ later →
      m = later.foldl (fun m p => m.add p.1 p.2) (ofList earlier)) ∧
    (m.keys = (pairs.map Prod.fst).eraseDups ∧ m.keys.Nodup) ∧
    (∀ k, m.get? k = if k ∈ pairs.map Prod.fst then some (valuesOf k pairs) else none) ∧
    (∀ k, m.getAll k = valuesOf k pairs ∧ (m.getAll k = [] ↔ k ∉ pairs.map Prod.fst)) ∧
    (∀ k default, m.getFirst k default = (valuesOf k pairs).headD default) ∧
    (m.toPairs = grouped pairs ∧ m.toPairs.Perm pairs ∧
      ∀ k, (m.toPairs.filter fun p => p.1 = k) = pairs.filter fun p => p.1 = k) ∧
    m.valueCount = pairs.length ∧
    ofList m.toPairs = m ∧
    (∀ same pairs', m.agrees same (ofList pairs') = true ↔
      ∀ k, List.Forall₂ (fun v w => same v w = true) (valuesOf k pairs) (valuesOf k pairs')) ∧
    ∀ [DecidableEq V] pairs', m.agrees (fun v w => v = w) (ofList pairs') = true ↔
      ∀ k, valuesOf k pairs = valuesOf k pairs' := by
  intro m
  have hpairs : m.toPairs = grouped pairs := toPairs_ofList pairs
  refine ⟨?_, ⟨keys_ofList pairs, nodup_keys_ofList pairs⟩, get?_ofList pairs, fun k => ?_,
    getFirst_ofList pairs, ⟨hpairs, ?_, ?_⟩, valueCount_ofList pairs, ?_,
    fun _ => agrees_ofList_iff pairs, ?_⟩
  · rintro earlier later rfl
    exact List.foldl_append
  · have hvalues : m.getAll k = valuesOf k pairs := getAll_ofList pairs k
    exact ⟨hvalues, hvalues ▸ valuesOf_eq_nil_iff⟩
  · exact hpairs ▸ grouped_perm pairs
  · exact hpairs ▸ filter_grouped pairs
  · rw [hpairs]
    exact ofList_grouped pairs
  · intro _ pairs'
    rw [agrees_ofList_iff]
    simp only [decide_eq_true_eq, List.forall₂_eq_eq_eq]

end OrderedMultimap

end FactoryRegistry
