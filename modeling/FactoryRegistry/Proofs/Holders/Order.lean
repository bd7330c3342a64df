import FactoryRegistry.Proofs.Association.Keys
import FactoryRegistry.Proofs.Holders.Growth

/-!
# The order of packages

Packages stand in the order in which their holders were first updated, and nothing but that order
tells when a holder was updated.

* `Holders.SameUpToOrder`: two sets of holders differ in the order of their packages only;
* `Holders.SameUpToOrder.put`, `Holders.put_put_of_ne`: replacing a holder keeps that relation, and
  holders of different packages can be replaced in either order;
* `Holders.Distinct`: no package has two holders, which updates preserve (`update_distinct`). It is
  what makes the entries determined by the packages and their holders
  (`SameUpToOrder.entries_perm`).
-/

namespace FactoryRegistry.Holders

/-- Holders that differ in the order of their packages only. -/
structure SameUpToOrder (h k : Holders) : Prop where
  /-- The configured name is the same. -/
  className : k.className = h.className
  /-- The packages are the same ones, perhaps in another order. -/
  packages : h.packages.Perm k.packages
  /-- The holder of each package is the same. -/
  get : ∀ p, k.get p = h.get p

/-- No package has two holders. -/
def Distinct (h : Holders) : Prop := h.packages.Nodup

/-- Where no package has two holders, the entries are the packages with their holders. -/
theorem Distinct.entries_eq {h : Holders} (hdistinct : h.Distinct) :
    h.entries = h.packages.map fun p => (p, h.get p) :=
  Association.eq_map_lookup hdistinct (defaultHolder h.className)

namespace SameUpToOrder

variable {h k : Holders}

/-- Holders are `SameUpToOrder` as themselves. -/
theorem refl (h : Holders) : h.SameUpToOrder h := ⟨rfl, .refl _, fun _ => rfl⟩

/-- `put` of one holder on both sides keeps the sides `SameUpToOrder`. -/
theorem put (hk : h.SameUpToOrder k) (package : String) (holder : TypeDescription) :
    (h.put package holder).SameUpToOrder (k.put package holder) where
  className := hk.className
  packages := by
    rw [packages_put, packages_put]
    -- a package is new on both sides or on none
    by_cases hmem : package ∈ h.packages
    · rw [if_pos hmem, if_pos (hk.packages.mem_iff.1 hmem)]
      exact hk.packages
    · rw [if_neg hmem, if_neg fun h => hmem (hk.packages.mem_iff.2 h)]
      exact hk.packages.append_right [package]
  get p := by rw [get_put, get_put, hk.get p]

/-- Where no package has two holders, holders that are `SameUpToOrder` have the same entries. -/
theorem entries_perm (hk : h.SameUpToOrder k) (hdistinct : h.Distinct) :
    h.entries.Perm k.entries := by
  have hdistinct' : k.Distinct := hk.packages.nodup_iff.1 hdistinct
  have hget : ∀ p, (p, k.get p) = (p, h.get p) := fun p => by rw [hk.get p]
  calc
    h.entries = h.packages.map fun p => (p, h.get p) := hdistinct.entries_eq
    _ = h.packages.map fun p => (p, k.get p) := List.map_congr_left fun p _ => (hget p).symm
    List.Perm _ (k.packages.map fun p => (p, k.get p)) := hk.packages.map _
    _ = k.entries := hdistinct'.entries_eq.symm

end SameUpToOrder

/-- The holders of two packages can be put in either order. -/
theorem put_put_of_ne (h : Holders) {p q : String} (hne : p ≠ q) (t u : TypeDescription) :
    ((h.put q u).put p t).SameUpToOrder ((h.put p t).put q u) where
  className := rfl
  packages := by
    -- only two new packages come in different orders
    by_cases hp : p ∈ h.packages <;> by_cases hq : q ∈ h.packages <;>
      simp only [packages_put, hp, hq, hne, hne.symm, if_true, if_false, List.mem_append,
        List.mem_singleton, or_false]
    · exact .refl _
    · exact .refl _
    · exact .refl _
    · rw [List.append_assoc, List.append_assoc]
      exact (List.Perm.swap p q []).append_left h.packages
  get r := by
    simp only [get_put]
    by_cases hp : r = p
    · rw [if_pos hp, if_pos hp, if_neg (hp.trans_ne hne)]
    · rw [if_neg hp, if_neg hp]

/-- `put` gives no package a second holder. -/
theorem put_distinct {h : Holders} (hdistinct : h.Distinct) (package : String)
    (holder : TypeDescription) : (h.put package holder).Distinct := by
  rw [Distinct, packages_put]
  split
  next => exact hdistinct
  next hnew => exact List.concat_eq_append ▸ List.Nodup.concat hnew hdistinct

/-- `update` gives no package a second holder. -/
theorem update_distinct {h k : Holders} (hdistinct : h.Distinct) {package : String}
    {program : Program} {holder : TypeDescription}
    (hk : h.update package program = .ok (holder, k)) : k.Distinct := by
  obtain ⟨b, -, -, rfl⟩ := update_eq_ok hk
  exact put_distinct hdistinct package b.build

end FactoryRegistry.Holders
