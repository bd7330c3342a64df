import FactoryRegistry.OrderedMultimap
import FactoryRegistry.Proofs.Association.Keys

/-!
# Multimaps as groupings

The multimap of a sequence of additions is the sequence grouped by key: the keys are the distinct
ones in the order of their first addition (`keys_ofList`), and the values of a key are those that
were added under it, in order (`getAll_ofList`). Its entries are determined by the two
(`entries_ofList`).
-/

namespace FactoryRegistry.OrderedMultimap

variable {K V : Type} [DecidableEq K]

/-- The `keys` are the distinct keys of the additions, in the order of their first addition. -/
theorem keys_ofList (pairs : List (K × V)) :
    (ofList pairs).keys = (pairs.map Prod.fst).eraseDups := by
  induction pairs using List.reverseRecOn with
  | nil => rfl
  | append_singleton pairs p ih =>
    obtain ⟨k, v⟩ := p
    rw [ofList_concat, keys_add, ih, List.map_append, List.map_singleton, eraseDups_concat]

/-- The `keys` of a multimap of additions are distinct. -/
theorem nodup_keys_ofList (pairs : List (K × V)) : (ofList pairs).keys.Nodup := by
  rw [keys_ofList]
  exact nodup_eraseDups _

/-- `add` lengthens the list of its key and no other. -/
theorem getAll_add (m : OrderedMultimap K V) (key : K) (value : V) (k : K) :
    (m.add key value).getAll k = m.getAll k ++ if key = k then [value] else [] := by
  rw [getAll, get?_add]
  by_cases hk : k = key
  · simp [hk]
  · simp [hk, Ne.symm hk, getAll]

/-- `getAll` finds the values that were added under a key, in order. -/
theorem getAll_ofList (pairs : List (K × V)) (k : K) :
    (ofList pairs).getAll k = (pairs.filter fun p => p.1 = k).map Prod.snd := by
  induction pairs using List.reverseRecOn with
  | nil => rfl
  | append_singleton pairs p ih =>
    obtain ⟨key, value⟩ := p
    rw [ofList_concat, getAll_add, ih, List.filter_append, List.map_append]
    by_cases hk : key = k <;> simp [hk]

/-- A multimap with distinct keys assigns to each key its `getAll`. -/
theorem entries_eq_map_getAll {m : OrderedMultimap K V} (hnodup : m.keys.Nodup) :
    m.entries = m.keys.map fun k => (k, m.getAll k) :=
  Association.eq_map_lookup hnodup []

/-- The multimap of a sequence of additions is the sequence grouped by key. -/
theorem entries_ofList (pairs : List (K × V)) :
    (ofList pairs).entries = (pairs.map Prod.fst).eraseDups.map fun k =>
      (k, (pairs.filter fun p => p.1 = k).map Prod.snd) := by
  rw [entries_eq_map_getAll (nodup_keys_ofList pairs), keys_ofList]
  exact List.map_congr_left fun k _ => by rw [getAll_ofList]

end FactoryRegistry.OrderedMultimap
