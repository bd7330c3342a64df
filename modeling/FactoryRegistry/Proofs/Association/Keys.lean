import Mathlib.Data.List.Induction
import Mathlib.Data.List.Nodup
import FactoryRegistry.Association

/-!
# Distinct keys in order

The keys of an association list that is built by `alter` are the distinct ones among those that were
altered, in the order of their first occurrence. `List.eraseDups` is that list of a list of
occurrences: one more occurrence adds to it only if it is the first (`eraseDups_concat`), as one
more alteration does to the keys (`Association.map_fst_alter`).

An association list whose keys are distinct is determined by its keys and by what is found under
each (`Association.eq_map_lookup`).
-/

namespace FactoryRegistry

section Distinct

variable {α : Type} [BEq α] [LawfulBEq α]

/-- One more occurrence adds to `eraseDups` only if it is the first. -/
theorem eraseDups_concat (l : List α) (a : α) :
    (l ++ [a]).eraseDups = if a ∈ l.eraseDups then l.eraseDups else l.eraseDups ++ [a] := by
  rw [List.eraseDups_append]
  by_cases ha : a ∈ l <;> simp [List.removeAll, List.eraseDups_cons, ha]

/-- The elements that `eraseDups` keeps are distinct. -/
theorem nodup_eraseDups (l : List α) : l.eraseDups.Nodup := by
  induction l using List.reverseRecOn with
  | nil => exact List.nodup_nil
  | append_singleton l a ih =>
    rw [eraseDups_concat]
    split
    next => exact ih
    next ha => exact List.concat_eq_append ▸ ih.concat ha

end Distinct

namespace Association

variable {K V : Type} [DecidableEq K]

/-- A list with distinct keys assigns to each key what `lookup` finds under it. -/
theorem eq_map_lookup {entries : List (K × V)} (hnodup : (entries.map Prod.fst).Nodup)
    (default : V) :
    entries = (entries.map Prod.fst).map fun k => (k, (entries.lookup k).getD default) := by
  induction entries with
  | nil => rfl
  | cons e entries ih =>
    obtain ⟨k, v⟩ := e
    obtain ⟨hfresh, hnodup⟩ := List.nodup_cons.1 hnodup
    -- no later key is the first one, so lookups of later keys pass the first entry
    have hpass : ∀ n ∈ entries.map Prod.fst,
        (((k, v) :: entries).lookup n).getD default = (entries.lookup n).getD default := by
      intro n hn
      have hne : (n == k) = false := by simpa using fun h : n = k => hfresh (h ▸ hn)
      rw [List.lookup_cons, hne]
    rw [List.map_cons, List.map_cons, List.map_congr_left fun n hn => by rw [hpass n hn],
      ← ih hnodup]
    simp

/-- `put` of a new key adds it at the end. -/
theorem put_of_not_mem {key : K} {entries : List (K × V)} (hnew : key ∉ entries.map Prod.fst)
    (value : V) : put key value entries = entries ++ [(key, value)] := by
  induction entries with
  | nil => rfl
  | cons e entries ih =>
    rw [List.map_cons, List.mem_cons, not_or] at hnew
    rw [put, alter, if_neg (Ne.symm hnew.1), List.cons_append, ← ih hnew.2, put]

/-- Where the keys are distinct, their order does not matter to `lookup`. -/
theorem lookup_eq_of_perm {entries entries' : List (K × V)} (hperm : entries.Perm entries')
    (hnodup : (entries.map Prod.fst).Nodup) (key : K) :
    entries.lookup key = entries'.lookup key := by
  induction hperm with
  | nil => rfl
  | cons e _ ih => rw [List.lookup_cons, List.lookup_cons, ih (List.nodup_cons.1 hnodup).2]
  | swap e e' entries =>
    rw [List.lookup_cons, List.lookup_cons, List.lookup_cons, List.lookup_cons]
    have hne : e'.1 ≠ e.1 := fun h => (List.nodup_cons.1 hnodup).1 (h ▸ List.mem_cons_self)
    -- the key can be that of one of the two only
    by_cases he : key = e.1
    · have he' : (key == e'.1) = false := by simpa [he] using Ne.symm hne
      rw [he', beq_iff_eq.2 he]
    · rw [beq_eq_false_iff_ne.2 he]
  | trans hperm _ ih ih' =>
    exact (ih hnodup).trans (ih' ((hperm.map Prod.fst).nodup_iff.1 hnodup))

/-- `lookup` finds the image of what it found before all values were mapped. -/
theorem lookup_map_snd {W : Type} (f : V → W) (entries : List (K × V)) (key : K) :
    (entries.map fun e => (e.1, f e.2)).lookup key = (entries.lookup key).map f := by
  induction entries with
  | nil => rfl
  | cons e entries ih =>
    rw [List.map_cons, List.lookup_cons, List.lookup_cons, ih]
    cases key == e.1 <;> rfl

end Association

end FactoryRegistry
