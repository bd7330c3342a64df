import FactoryRegistry.Proofs.Description.View
import FactoryRegistry.Proofs.Fingerprint.Order

/-!
# What a fingerprint covers

The text that is hashed can be read back, and what is read determines the registry and the sorted
files (`canonicalText_eq_iff`). So two fingerprints of different sources are the same only where the
hash function collides on two different texts (`fingerprint_eq_iff`).
-/

namespace FactoryRegistry

open Json

/-! ## The hashed text -/

theorem canonicalView_readable (registry : SourceFile) (files : List SourceFile) :
    (canonicalView registry files).Readable := by
  refine .object (by simp) ?_
  simp [registry.view_readable, readable_array_map SourceFile.view_readable, Readable.text]

/-- The `canonicalView` determines the registry and the sorted files. -/
theorem eq_of_sorted_canonicalView {registry registry' : SourceFile}
    {files files' : List SourceFile}
    (h : (canonicalView registry files).sorted = (canonicalView registry' files').sorted) :
    registry = registry' ∧ canonicalOrder files = canonicalOrder files' := by
  have hmember := member_eq_of_sorted (by simp) (by simp) h
  have hregistry : registry = registry' :=
    SourceFile.eq_of_sorted_view (by simpa [get?, List.lookup_cons] using hmember "registry")
  have hfiles : canonicalOrder files = canonicalOrder files' :=
    eq_of_sorted_array_map SourceFile.eq_of_sorted_view
      (by simpa [get?, List.lookup_cons] using hmember "factory_classes")
  exact ⟨hregistry, hfiles⟩

/-- A `canonicalText` determines the registry and the sorted files, for it can be read back. -/
theorem canonicalText_eq_iff (registry registry' : SourceFile) (files files' : List SourceFile) :
    canonicalText registry files = canonicalText registry' files' ↔
      registry = registry' ∧ canonicalOrder files = canonicalOrder files' := by
  refine ⟨fun h => eq_of_sorted_canonicalView ?_, fun ⟨hregistry, hfiles⟩ => ?_⟩
  · have hread := read_compact (canonicalView_readable registry files)
    have hread' := read_compact (canonicalView_readable registry' files')
    rw [canonicalText, canonicalText] at h
    rw [h, hread'] at hread
    exact (Except.ok.inj hread).symm
  · rw [canonicalText, canonicalText, canonicalView, canonicalView, hregistry, hfiles]

/-! ## The hashed bytes -/

/-- The loop of `ByteArray.toList` lists the bytes from an index on. -/
theorem toList_loop_eq (bytes : ByteArray) (i : Nat) (before : List UInt8) :
    ByteArray.toList.loop bytes i before = before.reverse ++ bytes.data.toList.drop i := by
  fun_induction ByteArray.toList.loop bytes i before with
  | case1 i before h ih =>
    have hi : i < bytes.data.toList.length := by simpa using h
    rw [ih, List.reverse_cons, List.append_assoc, List.drop_eq_getElem_cons hi]
    congr 2
    simp [ByteArray.get!, h]
  | case2 i before h =>
    rw [List.drop_eq_nil_of_le (by simpa using h), List.append_nil]

/-- Different texts have different bytes. -/
theorem toUTF8_toList_injective : Function.Injective fun s : String => s.toUTF8.toList := by
  intro s t h
  have hdata : s.toUTF8.data.toList = t.toUTF8.data.toList := by
    simpa only [ByteArray.toList, toList_loop_eq, List.reverse_nil, List.nil_append,
      List.drop_zero] using h
  exact String.toByteArray_inj.1 (ByteArray.ext (Array.toList_inj.1 hdata))

/-- A `fingerprint` takes the files in the order of their qualified names by code points, files of
one name in the order given (`canonicalOrder`), and covers everything in them: the hashed text can
be read back, two of these texts are the same exactly when the registries are the same and the
sorted files are the same one by one, and two fingerprints are the same only then or where the hash
function takes one value at two different texts. -/
theorem fingerprint_eq_iff (registry registry' : SourceFile) (files files' : List SourceFile) :
    let text := canonicalText registry files
    let text' := canonicalText registry' files'
    let same := registry = registry' ∧ canonicalOrder files = canonicalOrder files'
    IsStableSort files (canonicalOrder files) ∧ IsStableSort files' (canonicalOrder files') ∧
      Json.read text = .ok (canonicalView registry files).sorted ∧ (text = text' ↔ same) ∧
      (fingerprint registry files = fingerprint registry' files' ↔
        same ∨ text.toUTF8.toList ≠ text'.toUTF8.toList ∧
          Digest.sha256 text.toUTF8.toList = Digest.sha256 text'.toUTF8.toList) := by
  intro text text' same
  have htext : text = text' ↔ same := canonicalText_eq_iff registry registry' files files'
  refine ⟨canonicalOrder_isStableSort files, canonicalOrder_isStableSort files',
    read_compact (canonicalView_readable registry files), htext, fun h => ?_, fun h => ?_⟩
  · by_cases hbytes : text.toUTF8.toList = text'.toUTF8.toList
    · exact .inl (htext.1 (toUTF8_toList_injective hbytes))
    · exact .inr ⟨hbytes, h⟩
  · obtain hsame | ⟨-, hcollision⟩ := h
    · exact congrArg (fun s : String => Digest.sha256 s.toUTF8.toList) (htext.2 hsame)
    · exact hcollision

end FactoryRegistry
