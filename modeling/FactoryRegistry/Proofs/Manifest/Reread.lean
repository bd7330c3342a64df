import Mathlib.Data.List.TakeWhile
import FactoryRegistry.Manifest
import FactoryRegistry.Proofs.Except
import FactoryRegistry.Proofs.Value.Display
import FactoryRegistry.Proofs.Value.OfJson

/-!
# Bindings that are read again

`Binding.of` puts a binding in normal form and leaves a normal form as it is (`Binding.of_of`). The
bindings of a manifest also have a contract and an implementation, whatever kinds of values stood
for them (`wellFormed_of_read`). Such bindings, written out as data, are read back as they are
(`read_views`).
-/

namespace FactoryRegistry

open Number

namespace Binding

section Normalize

variable (contract : String) {implementation package : String} (accessible : Bool)

theorem of_unpackaged (implementation : String) :
    of contract implementation "" accessible =
      ⟨contract, implementation, packageOf implementation, accessible⟩ := by
  simp [of]

theorem of_dotted (hdot : '.' ∈ implementation.toList) (hpackage : package ≠ "") :
    of contract implementation package accessible =
      ⟨contract, implementation, package, accessible⟩ := by
  simp [of, hdot, hpackage]

theorem of_plain (hdot : '.' ∉ implementation.toList) (hpackage : package ≠ "") :
    of contract implementation package accessible =
      ⟨contract, s!"{package}.{implementation}", package, accessible⟩ := by
  simp [of, hdot, hpackage]

/-- Only a name with a dot has a `packageOf`. -/
theorem dot_mem_of_packageOf (h : packageOf implementation ≠ "") :
    '.' ∈ implementation.toList := by
  by_contra hdot
  apply h
  have hall : ∀ c ∈ implementation.toList.reverse, (c != '.') = true := by
    intro c hc
    simpa using fun hc' : c = '.' => hdot (hc' ▸ List.mem_reverse.1 hc)
  rw [packageOf, splitLastDot, List.takeWhile_eq_self_iff.2 hall]
  simp

variable (implementation package)

/-- A binding that `of` made is its own normal form. The implementation of the first one has a dot
unless neither it nor the package says where it belongs. -/
theorem of_of (b : Binding) (hb : b = of contract implementation package accessible) :
    of b.contract b.implementation b.package b.accessible = b := by
  subst hb
  by_cases hpackage : package = ""
  · subst hpackage
    rw [of_unpackaged]
    by_cases hnone : packageOf implementation = ""
    · rw [hnone, of_unpackaged, hnone]
    · exact of_dotted contract accessible (dot_mem_of_packageOf hnone) hnone
  · by_cases hdot : '.' ∈ implementation.toList
    · rw [of_dotted contract accessible hdot hpackage]
      exact of_dotted contract accessible hdot hpackage
    · rw [of_plain contract accessible hdot hpackage]
      exact of_dotted contract accessible (by simp [toString]) hpackage

end Normalize

/-- A binding that a manifest can declare: it has a contract and an implementation and is in normal
form. -/
structure WellFormed (b : Binding) : Prop where
  contract : b.contract ≠ ""
  implementation : b.implementation ≠ ""
  normal : of b.contract b.implementation b.package b.accessible = b

theorem of_contract (contract implementation package : String) (accessible : Bool) :
    (of contract implementation package accessible).contract = contract := by
  rw [of]
  split_ifs <;> rfl

/-- `of` does not make an implementation empty. -/
theorem of_implementation_ne_empty (contract : String) {implementation : String}
    (h : implementation ≠ "") (package : String) (accessible : Bool) :
    (of contract implementation package accessible).implementation ≠ "" := by
  rw [of]
  split_ifs
  · exact ne_empty_of_mem (c := '.') (by simp [toString])
  · exact h
  · exact h

/-- `of` makes a binding `WellFormed`, if there is a contract and an implementation. -/
theorem wellFormed_of {contract implementation : String} (hcontract : contract ≠ "")
    (himplementation : implementation ≠ "") (package : String) (accessible : Bool) :
    (of contract implementation package accessible).WellFormed where
  contract := by rwa [of_contract]
  implementation := of_implementation_ne_empty contract himplementation package accessible
  normal := of_of contract implementation package accessible _ rfl

end Binding

namespace Manifest

/-! ## What a manifest declares -/

/-- What `require` accepts is written as a text that is not empty. -/
theorem written_ne_empty_of_require {key : String} {entries : List (Scalar × Value)}
    {name s : String} (h : require key entries name = .ok ())
    (hs : (valueOf entries name).written = .ok s) : s ≠ "" := by
  rw [require] at h
  split at h
  next htruthy => exact Value.eq_plain_of_written hs ▸ Value.plain_ne_empty htruthy
  next => cases h

/-- The binding that `readEntry` reads is `WellFormed`. -/
theorem wellFormed_of_readEntry {key : String} {entry : Value} {b : Binding}
    (h : readEntry key entry = .ok b) : b.WellFormed := by
  rw [readEntry] at h
  split at h
  · obtain ⟨_, hcontract, h⟩ := bind_eq_ok_iff.1 h
    obtain ⟨_, himplementation, h⟩ := bind_eq_ok_iff.1 h
    obtain ⟨accessible, -, h⟩ := bind_eq_ok_iff.1 h
    obtain ⟨contract, hcontract', h⟩ := bind_eq_ok_iff.1 h
    obtain ⟨implementation, himplementation', h⟩ := bind_eq_ok_iff.1 h
    obtain ⟨package, -, h⟩ := bind_eq_ok_iff.1 h
    cases h
    exact Binding.wellFormed_of (written_ne_empty_of_require hcontract hcontract')
      (written_ne_empty_of_require himplementation himplementation') _ _
  · cases h

/-- The bindings that `readEntries` reads are `WellFormed`. The induction is on the items. -/
theorem wellFormed_of_readEntries {source : String} {items : List Value} {index : Nat}
    {bindings : List Binding} (h : readEntries source index items = .ok bindings) :
    ∀ b ∈ bindings, b.WellFormed := by
  induction items generalizing index bindings with
  | nil =>
    cases h
    exact fun b hb => absurd hb List.not_mem_nil
  | cons entry items ih =>
    rw [readEntries] at h
    obtain ⟨b, hb, h⟩ := bind_eq_ok_iff.1 h
    obtain ⟨bs, hbs, h⟩ := bind_eq_ok_iff.1 h
    cases h
    exact List.forall_mem_cons.2 ⟨wellFormed_of_readEntry hb, ih hbs⟩

/-- Every binding that a manifest declares is `WellFormed`. -/
theorem wellFormed_of_read {source : String} {v : Value} {bindings : List Binding}
    (h : read source v = .ok bindings) : ∀ b ∈ bindings, b.WellFormed := by
  have hnone : (.ok [] : Except Failure (List Binding)) = .ok bindings →
      ∀ b ∈ bindings, b.WellFormed := by
    intro hnil
    cases hnil
    exact fun b hb => absurd hb List.not_mem_nil
  unfold read at h
  split at h
  · exact hnone h
  · split at h
    · exact hnone h
    · exact wellFormed_of_readEntries h
    · cases h
  · cases h

/-! ## Reading the bindings of a view -/

/-- The manifest that lists some bindings as data. -/
def ofViews (label : Nat) (bindings : List Binding) : Value :=
  (Value.ofJson label (.object [("bindings", .array (bindings.map Binding.view))])).1

/-- The entries of a binding that is written out as data. -/
def viewEntries (b : Binding) : List (Scalar × Value) := [
  (.text "contract", .text b.contract),
  (.text "implementation", .text b.implementation),
  (.text "package", .text b.package),
  (.text "accessible", .scalar (.bool b.accessible))]

theorem entries_ofJson_view (label : Nat) (b : Binding) :
    (Value.ofJson label b.view).1.entries = viewEntries b := by
  rw [Binding.view, Value.entries_ofJson_object]
  simp [viewEntries, Value.ofJson, Value.ofMembers]

theorem valueOf_viewEntries (b : Binding) :
    valueOf (viewEntries b) "contract" = .text b.contract ∧
      valueOf (viewEntries b) "implementation" = .text b.implementation ∧
      valueOf (viewEntries b) "package" = .text b.package := by
  simp [valueOf, viewEntries, Value.lookup]

theorem accessibleOf_viewEntries (key : String) (b : Binding) :
    accessibleOf key (viewEntries b) = .ok b.accessible := by
  simp [accessibleOf, viewEntries, Value.lookup]

theorem require_ok {key : String} {entries : List (Scalar × Value)} {name s : String}
    (h : valueOf entries name = .text s) (hs : s ≠ "") : require key entries name = .ok () := by
  simp [require, h, Value.text, Value.isTruthy, hs]

/-- `readEntry` reads back a `WellFormed` binding. -/
theorem readEntry_view {b : Binding} (hb : b.WellFormed) (key : String) (label : Nat) :
    readEntry key (Value.ofJson label b.view).1 = .ok b := by
  obtain ⟨hcontract, himplementation, hpackage⟩ := valueOf_viewEntries b
  have hread : packageOf (viewEntries b) = .ok b.package := by
    -- an empty package counts as none, which is read as the empty one
    simp only [packageOf, hpackage]
    split_ifs with htruthy
    · exact Value.written_text b.package
    · have hempty : b.package = "" := by simpa [Value.text, Value.isTruthy] using htruthy
      rw [hempty]
  have hmap : (Value.ofJson label b.view).1.isMap = true := rfl
  rw [readEntry, if_pos hmap, entries_ofJson_view, require_ok hcontract hb.contract,
    require_ok himplementation hb.implementation, accessibleOf_viewEntries, hcontract,
    himplementation, hread, Value.written_text, Value.written_text]
  exact congrArg Except.ok hb.normal

/-- `readEntries` reads back `WellFormed` bindings one after another. -/
theorem readEntries_views {bindings : List Binding} (h : ∀ b ∈ bindings, b.WellFormed)
    (source : String) (index label : Nat) :
    readEntries source index (Value.ofItems label (bindings.map Binding.view)).1 =
      .ok bindings := by
  induction bindings generalizing index label with
  | nil => rfl
  | cons b bindings ih =>
    obtain ⟨hb, hbindings⟩ := List.forall_mem_cons.1 h
    rw [List.map_cons, Value.ofItems_cons, readEntries, readEntry_view hb, ih hbindings]
    rfl

/-- `read` reads back `WellFormed` bindings that are written out as data. -/
theorem read_views {bindings : List Binding} (h : ∀ b ∈ bindings, b.WellFormed) (source : String)
    (label : Nat) : read source (ofViews label bindings) = .ok bindings := by
  have hget : (ofViews label bindings).get? "bindings" =
      some (Value.ofJson (label + 1) (.array (bindings.map Binding.view))).1 := by
    rw [Value.get?, ofViews, Value.entries_ofJson_object]
    simp [Value.ofMembers, Value.lookup]
  have hread : read source (ofViews label bindings) = readEntries source 0
      (Value.ofJson (label + 1) (.array (bindings.map Binding.view))).1.items := by
    rw [ofViews, Value.ofJson_object] at hget ⊢
    rw [read, hget, Value.ofJson_array]
    rfl
  rw [hread, Value.items_ofJson_array, readEntries_views h]

end Manifest

end FactoryRegistry
