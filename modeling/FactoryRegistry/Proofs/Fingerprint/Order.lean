import Mathlib.Data.List.Nodup
import FactoryRegistry.Fingerprint

/-!
# The order of files in a fingerprint

A fingerprint takes the files in the order of their qualified names, compared by code points, and
files of one name in the order in which they were given. `IsStableSort` states that without saying
how the sorting is done, and `canonicalOrder_isStableSort` says that it is what happens.

As long as no two files have one name, the order in which they were given is lost
(`canonicalOrder_eq_of_perm`), so the fingerprint does not depend on it
(`fingerprint_eq_of_perm`).
-/

namespace FactoryRegistry

/-- A list of files is another one sorted by qualified names, where files of one name keep their
order. -/
structure IsStableSort (files sorted : List SourceFile) : Prop where
  /-- The files are the same ones, each as often as before. -/
  perm : sorted.Perm files
  /-- The names are in the order of their code points. -/
  ordered : sorted.Pairwise fun f g => f.qualifiedName ≤ g.qualifiedName
  /-- The files of one name are in the order they had. -/
  stable : ∀ name, sorted.filter (·.qualifiedName = name) = files.filter (·.qualifiedName = name)

section Comparison

variable (f g h : SourceFile)

/-- The comparison by which `canonicalOrder` sorts goes on from file to file. -/
theorem decide_qualifiedName_le_trans (hfg : decide (f.qualifiedName ≤ g.qualifiedName) = true)
    (hgh : decide (g.qualifiedName ≤ h.qualifiedName) = true) :
    decide (f.qualifiedName ≤ h.qualifiedName) = true := by
  rw [decide_eq_true_eq] at *
  exact String.le_trans hfg hgh

/-- Any two files are comparable by their `qualifiedName`. -/
theorem decide_qualifiedName_le_total :
    (decide (f.qualifiedName ≤ g.qualifiedName) || decide (g.qualifiedName ≤ f.qualifiedName)) =
      true := by
  rw [Bool.or_eq_true, decide_eq_true_eq, decide_eq_true_eq]
  exact String.le_total f.qualifiedName g.qualifiedName

end Comparison

/-- `canonicalOrder` sorts files by their names. -/
theorem canonicalOrder_pairwise (files : List SourceFile) :
    (canonicalOrder files).Pairwise fun f g => f.qualifiedName ≤ g.qualifiedName := by
  have hsorted := List.pairwise_mergeSort decide_qualifiedName_le_trans
    decide_qualifiedName_le_total files
  exact hsorted.imp fun h => of_decide_eq_true h

/-- `canonicalOrder` neither adds files nor drops any. -/
theorem canonicalOrder_perm (files : List SourceFile) : (canonicalOrder files).Perm files :=
  List.mergeSort_perm files _

/-- `canonicalOrder` is a stable sort by name. -/
theorem canonicalOrder_isStableSort (files : List SourceFile) :
    IsStableSort files (canonicalOrder files) where
  perm := canonicalOrder_perm files
  ordered := canonicalOrder_pairwise files
  stable name := by
    -- the files of one name are sorted already, so sorting keeps them as a sublist
    have hsame : (files.filter (·.qualifiedName = name)).Pairwise fun f g =>
        decide (f.qualifiedName ≤ g.qualifiedName) = true := by
      refine List.pairwise_of_forall_mem_list fun f hf g hg => ?_
      have hf : f.qualifiedName = name := by simpa using (List.mem_filter.1 hf).2
      have hg : g.qualifiedName = name := by simpa using (List.mem_filter.1 hg).2
      rw [hf, hg]
      exact decide_eq_true (String.le_refl name)
    have hsublist := List.sublist_mergeSort decide_qualifiedName_le_trans
      decide_qualifiedName_le_total hsame List.filter_sublist
    have hfilter := hsublist.filter (·.qualifiedName = name)
    rw [List.filter_filter, List.filter_congr (fun _ _ => Bool.and_self _)] at hfilter
    exact (hfilter.eq_of_length ((canonicalOrder_perm files).filter _).length_eq.symm).symm

/-- `canonicalOrder` of files with different names does not depend on how they were given. -/
theorem canonicalOrder_eq_of_perm {files files' : List SourceFile} (hperm : files.Perm files')
    (hnodup : (files.map SourceFile.qualifiedName).Nodup) :
    canonicalOrder files = canonicalOrder files' := by
  have hperm' : (canonicalOrder files).Perm (canonicalOrder files') :=
    (canonicalOrder_perm files).trans (hperm.trans (canonicalOrder_perm files').symm)
  refine hperm'.eq_of_pairwise (fun f g hf hg hfg hgf => ?_) (canonicalOrder_pairwise files)
    (canonicalOrder_pairwise files')
  -- two files that are each not after the other have one name, and names are different
  have hf := (canonicalOrder_perm files).mem_iff.1 hf
  have hg := hperm.mem_iff.2 ((canonicalOrder_perm files').mem_iff.1 hg)
  exact List.inj_on_of_nodup_map hnodup hf hg (String.le_antisymm hfg hgf)

/-- The `fingerprint` of files with different names does not depend on how they were given. -/
theorem fingerprint_eq_of_perm {files files' : List SourceFile} (hperm : files.Perm files')
    (hnodup : (files.map SourceFile.qualifiedName).Nodup) (registry : SourceFile) :
    fingerprint registry files = fingerprint registry files' := by
  rw [fingerprint, fingerprint, canonicalText, canonicalText, canonicalView, canonicalView,
    canonicalOrder_eq_of_perm hperm hnodup]

end FactoryRegistry
