import FactoryRegistry.Proofs.Json.RoundTrip
import FactoryRegistry.Proofs.Text.Lines

/-!
# Indented texts

An indented text consists of printable ASCII and line feeds whatever its strings consist of
(`isPlain_indented`), so that it goes unchanged through an output that drops escape sequences and
through a file whose line breaks are unified. The value that is read from it is the written one up
to the order of members (`read_indented_same`).
-/

namespace FactoryRegistry.Json

open Text

/-! ## Characters -/

/-- Printable ASCII or a line feed. -/
def IsPlain (c : Char) : Prop := c = '\n' ∨ 0x20 ≤ c.toNat ∧ c.toNat ≤ 0x7e

instance : DecidablePred IsPlain := fun c => by
  unfold IsPlain
  infer_instance

theorem isPlain_hexDigit (n : Nat) : IsPlain (hexDigit (n % 16)) := by
  have hsmall : ∀ m < 16, IsPlain (hexDigit m) := by decide
  exact hsmall _ (Nat.mod_lt n (by decide))

theorem isPlain_escapeUnit (n : Nat) : ∀ c ∈ escapeUnit n, IsPlain c := by
  have hdigits : ∀ c ∈ hex 4 n, IsPlain c := by
    simp [hex, isPlain_hexDigit]
  exact List.forall_mem_cons.2 ⟨by decide, List.forall_mem_cons.2 ⟨by decide, hdigits⟩⟩

/-- `escapeChar` escapes whatever is no printable ASCII with such characters. -/
theorem isPlain_escapeChar (c : Char) : ∀ d ∈ escapeChar c, IsPlain d := by
  rw [escapeChar]
  split_ifs with hmark _ _ _ _ _ hplain
  · have hc : c = '"' ∨ c = '\\' := by simpa using hmark
    obtain rfl | rfl := hc <;> simp [IsPlain]
  · simp [IsPlain]
  · simp [IsPlain]
  · simp [IsPlain]
  · simp [IsPlain]
  · simp [IsPlain]
  · simpa [IsPlain] using Or.inr hplain
  · exact isPlain_escapeUnit _
  · exact List.forall_mem_append.2 ⟨isPlain_escapeUnit _, isPlain_escapeUnit _⟩

theorem isPlain_writeText (s : String) : ∀ c ∈ writeText s, IsPlain c := by
  have hescaped : ∀ c ∈ s.toList.flatMap escapeChar, IsPlain c := fun c hc => by
    obtain ⟨d, -, hd⟩ := List.mem_flatMap.1 hc
    exact isPlain_escapeChar d c hd
  exact List.forall_mem_cons.2 ⟨by decide, List.forall_mem_append.2 ⟨hescaped, by simp [IsPlain]⟩⟩

theorem isPlain_lineBreak (level : Nat) : ∀ c ∈ indentedLayout.lineBreak level, IsPlain c := by
  refine List.forall_mem_cons.2 ⟨by decide, fun c hc => ?_⟩
  rw [List.eq_of_mem_replicate hc]
  decide

theorem isPlain_closed (level : Nat) {closing : Char} (hclosing : IsPlain closing)
    (items : List (List Char)) (hitems : ∀ t ∈ items, ∀ c ∈ t, IsPlain c) :
    ∀ c ∈ closed indentedLayout level closing items, IsPlain c := by
  have hend : ∀ c ∈ indentedLayout.lineBreak level ++ [closing], IsPlain c :=
    List.forall_mem_append.2 ⟨isPlain_lineBreak level, by simpa using hclosing⟩
  induction items with
  | nil => exact hend
  | cons t ts ih =>
    obtain ⟨ht, hts⟩ := List.forall_mem_cons.1 hitems
    cases ts with
    | nil =>
      rw [closed_singleton]
      exact List.forall_mem_append.2 ⟨ht, hend⟩
    | cons t' ts =>
      rw [closed_cons_cons]
      exact List.forall_mem_append.2 ⟨ht, List.forall_mem_cons.2
        ⟨by decide, List.forall_mem_append.2 ⟨isPlain_lineBreak _, ih hts⟩⟩⟩

theorem isPlain_writeBracketed (level : Nat) {opening closing : Char} (hopening : IsPlain opening)
    (hclosing : IsPlain closing) (items : List (List Char))
    (hitems : ∀ t ∈ items, ∀ c ∈ t, IsPlain c) :
    ∀ c ∈ writeBracketed indentedLayout level opening closing items, IsPlain c := by
  cases items with
  | nil => exact List.forall_mem_cons.2 ⟨hopening, List.forall_mem_singleton.2 hclosing⟩
  | cons t ts =>
    rw [writeBracketed_cons]
    exact List.forall_mem_cons.2 ⟨hopening, List.forall_mem_append.2
      ⟨isPlain_lineBreak _, isPlain_closed level hclosing _ hitems⟩⟩

/-- `write` uses nothing but plain characters for a value without numbers. The induction is on the
value. -/
theorem isPlain_write {v : Json} (hv : Readable v) (level : Nat) :
    ∀ c ∈ write indentedLayout level v, IsPlain c := by
  induction hv generalizing level with
  | null => simp [write, IsPlain]
  | bool b => cases b <;> simp [write, IsPlain]
  | text s =>
    rw [write]
    exact isPlain_writeText s
  | @array items _ ih =>
    rw [write, writeItems_eq_map]
    refine isPlain_writeBracketed level (by decide) (by decide) _ fun t ht => ?_
    obtain ⟨v, hv, rfl⟩ := List.mem_map.1 ht
    exact ih v hv (level + 1)
  | @object members _ _ ih =>
    rw [write, writeMembers_eq_map, sortMembers]
    refine isPlain_writeBracketed level (by decide) (by decide) _ fun t ht => ?_
    obtain ⟨p, hp, rfl⟩ := List.mem_map.1 ht
    obtain ⟨m, hm, rfl⟩ := List.mem_map.1 (List.mem_mergeSort.1 hp)
    -- a member is its name, the separator and its value
    have hvalue := ih m hm (level + 1)
    exact List.forall_mem_append.2 ⟨List.forall_mem_append.2 ⟨isPlain_writeText m.1,
      List.forall_mem_cons.2 ⟨by decide, by simp [indentedLayout, IsPlain]⟩⟩, hvalue⟩

theorem isPlain_indented {v : Json} (hv : Readable v) : ∀ c ∈ v.indented.toList, IsPlain c := by
  rw [indented, String.toList_ofList]
  exact isPlain_write hv 0

/-- `unifyNewlines` finds nothing to unify in an `indented` text. -/
theorem unifyNewlines_indented {v : Json} (hv : Readable v) :
    unifyNewlines v.indented.toList = v.indented.toList :=
  unifyNewlines_eq_self fun h => absurd (isPlain_indented hv _ h) (by decide)

/-! ## Values up to the order of members -/

/-- Two values are the same up to the order of the members of objects. -/
inductive SameUpToOrder : Json → Json → Prop where
  /-- A value and itself. -/
  | refl (v : Json) : SameUpToOrder v v
  /-- Arrays of one length with the same items in the same places. -/
  | array {items items' : List Json} (length : items'.length = items.length)
      (same : ∀ (i : Nat) v v', items[i]? = some v → items'[i]? = some v' → SameUpToOrder v v') :
      SameUpToOrder (array items) (array items')
  /-- Objects of the same names with the same values under each name. -/
  | object {members members' : List (String × Json)}
      (names : (members'.map Prod.fst).Perm (members.map Prod.fst))
      (same : ∀ name v v', members.lookup name = some v → members'.lookup name = some v' →
        SameUpToOrder v v') :
      SameUpToOrder (object members) (object members')

/-- A value is `SameUpToOrder` as the `sorted` one. -/
theorem same_sorted {v : Json} (hv : Readable v) : v.SameUpToOrder v.sorted := by
  induction hv with
  | null => exact .refl _
  | bool b => exact .refl _
  | text s => exact .refl _
  | @array items _ ih =>
    rw [sorted, sortedItems_eq_map]
    refine .array (List.length_map _) fun i v v' hi hi' => ?_
    rw [List.getElem?_map, hi] at hi'
    obtain rfl := Option.some.inj hi'
    exact ih v (List.mem_of_getElem? hi)
  | @object members hnodup _ ih =>
    have hget := get?_sorted hnodup
    rw [sorted, sortedMembers_eq_map] at hget ⊢
    have hnames : (members.map fun m => (m.1, m.2.sorted)).map Prod.fst = members.map Prod.fst := by
      rw [List.map_map]
      rfl
    refine .object (hnames ▸ (List.mergeSort_perm _ _).map Prod.fst)
      fun name v v' hname hname' => ?_
    -- the name leads to one value only, and to that value sorted after sorting
    have hvalue : some v' = some v.sorted :=
      hname'.symm.trans ((hget name).trans (by rw [get?, hname]; rfl))
    obtain rfl := Option.some.inj hvalue
    obtain ⟨before, after, hmembers, -⟩ := List.lookup_eq_some_iff.1 hname
    exact ih (name, v) (by rw [hmembers]; simp)

/-- What `read` makes of an `indented` text is the value that was written, up to order. -/
theorem read_indented_same {v : Json} (hv : Readable v) :
    ∃ decoded, read v.indented = .ok decoded ∧ v.SameUpToOrder decoded :=
  ⟨v.sorted, read_indented hv, same_sorted hv⟩

end FactoryRegistry.Json
