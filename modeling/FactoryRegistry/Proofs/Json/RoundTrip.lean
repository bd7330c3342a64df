import FactoryRegistry.Proofs.Association.Keys
import FactoryRegistry.Proofs.Json.Escape

/-!
# Written values read back

Both layouts write texts from which a reader gets the value back, except that the members of each
object come in the order of their names (`read_compact`, `read_indented`). This is so for all values
without numbers in which no object repeats a name (`Readable`).

A written value says where it ends, so it can be read from in front of anything: `ReadsAs` states
that of a text and a value, with a depth bound that is no larger than the text. Leaves have it by
computation, and brackets pass it on from their items (`readsAs_array`, `readsAs_object`) in any
layout that consists of blanks (`Layout.IsBlank`).
-/

namespace FactoryRegistry.Json

/-! ## Values in the order of their names -/

mutual

/-- The value with the members of each object in the order of their names. -/
def sorted : Json → Json
  | null => null
  | bool b => bool b
  | int n => int n
  | real x => real x
  | text s => text s
  | array items => array (sortedItems items)
  | object members => object ((sortedMembers members).mergeSort fun a b => a.1 ≤ b.1)

/-- The items of an array, each in the order of its names. -/
def sortedItems : List Json → List Json
  | [] => []
  | v :: items => v.sorted :: sortedItems items

/-- The members of an object in their places, with their values in the order of their names. -/
def sortedMembers : List (String × Json) → List (String × Json)
  | [] => []
  | (name, v) :: members => (name, v.sorted) :: sortedMembers members

end

/-- Values without numbers in which no object has two members of one name. -/
inductive Readable : Json → Prop
  /-- The value `null`. -/
  | null : Readable null
  /-- A truth value. -/
  | bool (b : Bool) : Readable (bool b)
  /-- A string. -/
  | text (s : String) : Readable (text s)
  /-- An array of such values. -/
  | array {items : List Json} (items_readable : ∀ v ∈ items, Readable v) : Readable (array items)
  /-- An object of such values with different names. -/
  | object {members : List (String × Json)} (nodup : (members.map Prod.fst).Nodup)
      (members_readable : ∀ m ∈ members, Readable m.2) : Readable (object members)

section Maps

variable (layout : Layout) (level : Nat) (items : List Json) (members : List (String × Json))

theorem sortedItems_eq_map : sortedItems items = items.map sorted := by
  induction items with
  | nil => rfl
  | cons v items ih => rw [sortedItems, ih, List.map_cons]

theorem sortedMembers_eq_map :
    sortedMembers members = members.map fun m => (m.1, m.2.sorted) := by
  induction members with
  | nil => rfl
  | cons m members ih => rw [sortedMembers, ih, List.map_cons]

theorem writeItems_eq_map : writeItems layout level items = items.map (write layout level) := by
  induction items with
  | nil => rfl
  | cons v items ih => rw [writeItems, ih, List.map_cons]

theorem writeMembers_eq_map :
    writeMembers layout level members = members.map fun m => (m.1, write layout level m.2) := by
  induction members with
  | nil => rfl
  | cons m members ih => rw [writeMembers, ih, List.map_cons]

/-- `mergeSort` by name does not look at the values. -/
theorem mergeSort_map_snd {α β : Type} (f : α → β) (ms : List (String × α)) :
    (ms.map fun m => (m.1, f m.2)).mergeSort (fun a b => decide (a.1 ≤ b.1)) =
      (ms.mergeSort fun a b => decide (a.1 ≤ b.1)).map fun m => (m.1, f m.2) :=
  (List.map_mergeSort (f := fun m : String × α => (m.1, f m.2)) fun _ _ _ _ => rfl).symm

end Maps

/-- `sorted` keeps the members that `get?` finds, each sorted. -/
theorem get?_sorted {members : List (String × Json)} (hnodup : (members.map Prod.fst).Nodup)
    (name : String) :
    (object members).sorted.get? name = ((object members).get? name).map sorted := by
  have hnames : (members.map fun m => (m.1, m.2.sorted)).map Prod.fst = members.map Prod.fst := by
    rw [List.map_map]
    rfl
  rw [sorted, sortedMembers_eq_map, get?, get?, ← Association.lookup_map_snd]
  exact (Association.lookup_eq_of_perm (List.mergeSort_perm _ _).symm (hnames ▸ hnodup) name).symm

/-! ## Blanks -/

/-- A layout that puts nothing but blanks between the parts of a value. -/
structure Layout.IsBlank (layout : Layout) : Prop where
  /-- Blanks come after colons. -/
  afterColon : ∀ c ∈ layout.afterColon, isSpace c = true
  /-- Blanks come before items and closing brackets. -/
  lineBreak : ∀ level, ∀ c ∈ layout.lineBreak level, isSpace c = true

theorem compactLayout_isBlank : compactLayout.IsBlank :=
  ⟨fun _ h => absurd h List.not_mem_nil, fun _ _ h => absurd h List.not_mem_nil⟩

theorem indentedLayout_isBlank : indentedLayout.IsBlank where
  afterColon c hc := by
    obtain rfl := List.mem_singleton.1 hc
    rfl
  lineBreak level c hc := by
    obtain rfl | hc := List.mem_cons.1 hc
    · rfl
    · rw [List.eq_of_mem_replicate hc]
      rfl

/-- `skipSpace` passes over blanks. -/
theorem skipSpace_append {blanks : List Char} (hblanks : ∀ c ∈ blanks, isSpace c = true) (i : Nat)
    (cs : List Char) : skipSpace i (blanks ++ cs) = skipSpace (i + blanks.length) cs := by
  induction blanks generalizing i with
  | nil => rfl
  | cons c blanks ih =>
    rw [List.cons_append, skipSpace, if_pos (hblanks c List.mem_cons_self),
      ih (fun d hd => hblanks d (List.mem_cons_of_mem c hd)), List.length_cons, Nat.add_right_comm,
      Nat.add_assoc]

/-- `skipSpace` ends at anything else. -/
theorem skipSpace_cons {c : Char} (hc : isSpace c = false) (i : Nat) (cs : List Char) :
    skipSpace i (c :: cs) = (i, c :: cs) := by
  rw [skipSpace, hc, if_neg Bool.false_ne_true]

/-! ## Texts that read as values -/

/-- The characters with which a written value without numbers begins. -/
def firstCharacters : List Char := ['n', 't', 'f', '"', '[', '{']

/-- A text begins as a written value does. -/
def BeginsLikeValue (written : List Char) : Prop :=
  ∃ c cs, written = c :: cs ∧ c ∈ firstCharacters

/-- `skipSpace` passes over no blank where a value begins. -/
theorem BeginsLikeValue.skipSpace {t : List Char} (ht : BeginsLikeValue t) (i : Nat)
    (rest : List Char) : skipSpace i (t ++ rest) = (i, t ++ rest) := by
  obtain ⟨c, cs, rfl, hc⟩ := ht
  have hspace : ∀ c ∈ firstCharacters, isSpace c = false := by
    simp [firstCharacters, isSpace]
  exact skipSpace_cons (hspace c hc) i (cs ++ rest)

/-- `skipSpace` finds a value after any blanks. -/
theorem BeginsLikeValue.skipSpace_append {t : List Char} (ht : BeginsLikeValue t)
    {blanks : List Char} (hblanks : ∀ c ∈ blanks, isSpace c = true) (i : Nat) (rest : List Char) :
    ∃ j, Json.skipSpace i (blanks ++ (t ++ rest)) = (j, t ++ rest) :=
  ⟨_, by rw [Json.skipSpace_append hblanks, ht.skipSpace]⟩

/-- A value is read from a text, whatever follows it, with a depth bound of no more than the length
of the text. -/
structure ReadsAs (written : List Char) (v : Json) : Prop where
  /-- The text begins like a value. -/
  begins : BeginsLikeValue written
  /-- The value is read and nothing more. -/
  reads : ∀ fuel i rest, written.length ≤ fuel →
    ∃ j, readValue fuel i (written ++ rest) = .ok (v, j, rest)

/-- A text that is not empty leaves depth to read its first character. -/
theorem exists_eq_succ_of_length_le {c : Char} {cs : List Char} {fuel : Nat}
    (h : (c :: cs).length ≤ fuel) : ∃ n, fuel = n + 1 ∧ cs.length ≤ n := by
  cases fuel with
  | zero => cases h
  | succ n => exact ⟨n, rfl, Nat.le_of_succ_le_succ h⟩

theorem readsAs_null : ReadsAs "null".toList null where
  begins := ⟨'n', _, rfl, by decide⟩
  reads fuel i rest h := by
    obtain ⟨n, rfl, -⟩ := exists_eq_succ_of_length_le h
    exact ⟨_, rfl⟩

theorem readsAs_bool (b : Bool) : ReadsAs (if b then "true" else "false").toList (bool b) := by
  cases b with
  | false =>
    refine ⟨⟨'f', _, rfl, by decide⟩, fun fuel i rest h => ?_⟩
    obtain ⟨n, rfl, -⟩ := exists_eq_succ_of_length_le h
    exact ⟨_, rfl⟩
  | true =>
    refine ⟨⟨'t', _, rfl, by decide⟩, fun fuel i rest h => ?_⟩
    obtain ⟨n, rfl, -⟩ := exists_eq_succ_of_length_le h
    exact ⟨_, rfl⟩

/-- `readText` reads a written string back after its opening mark. -/
theorem readText_writeText (s : String) (start i : Nat) (rest : List Char) :
    ∃ cs j, writeText s ++ rest = '"' :: cs ∧ readText start i cs = .ok (s.toList, j, rest) := by
  refine ⟨s.toList.flatMap escapeChar ++ '"' :: rest, _, ?_, readText_escaped start i s.toList rest⟩
  rw [writeText, List.cons_append, List.cons_append, List.append_assoc, List.singleton_append]

theorem readsAs_text (s : String) : ReadsAs (writeText s) (text s) where
  begins := ⟨'"', _, rfl, by decide⟩
  reads fuel i rest h := by
    obtain ⟨n, rfl, -⟩ := exists_eq_succ_of_length_le h
    obtain ⟨cs, j, hcs, hread⟩ := readText_writeText s i (i + 1) rest
    rw [hcs, readValue, if_pos (beq_self_eq_true _), hread]
    exact ⟨j, by simp only [Except.map, String.ofList_toList]⟩

/-! ## Brackets -/

section Brackets

variable (layout : Layout) (level : Nat) (closing : Char)

/-- Some items up to and with the closing bracket. -/
def closed (items : List (List Char)) : List Char :=
  (items.intersperse (',' :: layout.lineBreak (level + 1))).flatten ++
    (layout.lineBreak level ++ [closing])

theorem closed_singleton (t : List Char) :
    closed layout level closing [t] = t ++ (layout.lineBreak level ++ [closing]) := by
  rw [closed, List.intersperse_singleton, List.flatten_singleton]

theorem closed_cons_cons (t t' : List Char) (ts : List (List Char)) :
    closed layout level closing (t :: t' :: ts) =
      t ++ ',' :: (layout.lineBreak (level + 1) ++ closed layout level closing (t' :: ts)) := by
  rw [closed, List.intersperse_cons_cons, List.flatten_cons, List.flatten_cons, List.append_assoc,
    List.append_assoc, List.cons_append, closed]

/-- Items begin with the first of them. -/
theorem exists_closed_eq (t : List Char) (ts : List (List Char)) :
    ∃ tail, closed layout level closing (t :: ts) = t ++ tail := by
  cases ts with
  | nil => exact ⟨_, closed_singleton layout level closing t⟩
  | cons t' ts => exact ⟨_, closed_cons_cons layout level closing t t' ts⟩

theorem writeBracketed_cons (opening : Char) (t : List Char) (ts : List (List Char)) :
    writeBracketed layout level opening closing (t :: ts) =
      opening :: (layout.lineBreak (level + 1) ++ closed layout level closing (t :: ts)) := by
  rw [writeBracketed, if_neg (by simp), closed]
  simp only [List.cons_append, List.append_assoc]

/-- A member of an object: its name, a colon and the text of its value. -/
def memberText (layout : Layout) (name : String) (t : List Char) : List Char :=
  writeText name ++ ':' :: layout.afterColon ++ t

/-- A member begins with a quotation mark. -/
theorem beginsLikeValue_memberText (name : String) (t : List Char) :
    BeginsLikeValue (memberText layout name t) :=
  ⟨'"', _, rfl, by decide⟩

variable {layout} (hlayout : layout.IsBlank)
include hlayout

/-- `skipSpace` finds the closing bracket behind the blanks after an item. -/
theorem skipSpace_closing (hclosing : isSpace closing = false) (i : Nat) (rest : List Char) :
    ∃ j, skipSpace i (layout.lineBreak level ++ (closing :: rest)) = (j, closing :: rest) :=
  ⟨_, by rw [skipSpace_append (hlayout.lineBreak level), skipSpace_cons hclosing]⟩

omit hlayout in
/-- Items begin like a value, so no closing bracket is taken for them. -/
theorem closed_append_ne {t : List Char} (ht : BeginsLikeValue t) (ts : List (List Char)) {c : Char}
    (hc : c ∉ firstCharacters) (rest cs : List Char) :
    closed layout level closing (t :: ts) ++ rest ≠ c :: cs := by
  obtain ⟨tail, htail⟩ := exists_closed_eq layout level closing t ts
  obtain ⟨d, ds, rfl, hd⟩ := ht
  rw [htail]
  rintro ⟨⟩
  exact hc hd

/-- `skipSpace` finds items behind the blanks before them. -/
theorem skipSpace_closed {t : List Char} (ht : BeginsLikeValue t) (ts : List (List Char)) (i : Nat)
    (rest : List Char) :
    ∃ j, skipSpace i
        (layout.lineBreak (level + 1) ++ closed layout level closing (t :: ts) ++ rest) =
      (j, closed layout level closing (t :: ts) ++ rest) := by
  obtain ⟨tail, htail⟩ := exists_closed_eq layout level closing t ts
  rw [htail, List.append_assoc, List.append_assoc]
  exact ht.skipSpace_append (hlayout.lineBreak (level + 1)) i (tail ++ rest)

/-- `readItems` reads the items of an array up to and with the closing bracket. The induction is on
the items after the first. -/
theorem readItems_reads (t : List Char × Json) (ts : List (List Char × Json))
    (hts : ∀ p ∈ t :: ts, ReadsAs p.1 p.2) (fuel i : Nat) (rest : List Char)
    (hfuel : (closed layout level ']' ((t :: ts).map Prod.fst)).length ≤ fuel) :
    ∃ j, readItems fuel i (closed layout level ']' ((t :: ts).map Prod.fst) ++ rest) =
      .ok ((t :: ts).map Prod.snd, j, rest) := by
  have ht : ReadsAs t.1 t.2 := hts t List.mem_cons_self
  induction ts generalizing t fuel i with
  | nil =>
    rw [List.map_singleton, closed_singleton] at hfuel ⊢
    simp only [List.length_append, List.length_singleton] at hfuel
    obtain ⟨n, rfl⟩ : ∃ n, fuel = n + 1 := ⟨fuel - 1, by omega⟩
    obtain ⟨j, hread⟩ := ht.reads n i (layout.lineBreak level ++ (']' :: rest)) (by omega)
    obtain ⟨k, hclose⟩ := skipSpace_closing level ']' hlayout rfl j rest
    rw [List.append_assoc, List.append_assoc, List.singleton_append, readItems, hread]
    simp only [bind, Except.bind, hclose]
    exact ⟨_, rfl⟩
  | cons t' ts ih =>
    have hts' : ∀ p ∈ t' :: ts, ReadsAs p.1 p.2 := fun p hp => hts p (List.mem_cons_of_mem t hp)
    have ht' : ReadsAs t'.1 t'.2 := hts' t' List.mem_cons_self
    rw [List.map_cons, List.map_cons, closed_cons_cons, ← List.map_cons] at hfuel ⊢
    simp only [List.length_append, List.length_cons] at hfuel
    obtain ⟨n, rfl⟩ : ∃ n, fuel = n + 1 := ⟨fuel - 1, by omega⟩
    -- the first item, the comma after it, and then the others with the depth that is left
    obtain ⟨j, hread⟩ := ht.reads n i
      (',' :: (layout.lineBreak (level + 1) ++ closed layout level ']' ((t' :: ts).map Prod.fst)) ++
        rest) (by omega)
    obtain ⟨k, hspace⟩ :=
      skipSpace_closed level ']' hlayout ht'.begins (ts.map Prod.fst) (j + 1) rest
    obtain ⟨l, hitems⟩ := ih t' hts' n k (by simp only [List.map_cons] at hfuel ⊢; omega) ht'
    rw [List.append_assoc, readItems, hread]
    simp only [bind, Except.bind, List.cons_append, skipSpace_cons (c := ',') rfl]
    rw [← List.map_cons] at hspace
    rw [hspace]
    simp only [hitems]
    exact ⟨_, rfl⟩

/-- An array of items that are read back is read back. -/
theorem readsAs_array (ts : List (List Char × Json)) (hts : ∀ p ∈ ts, ReadsAs p.1 p.2) :
    ReadsAs (writeBracketed layout level '[' ']' (ts.map Prod.fst)) (array (ts.map Prod.snd)) := by
  cases ts with
  | nil =>
    refine ⟨⟨'[', _, rfl, by decide⟩, fun fuel i rest h => ?_⟩
    obtain ⟨n, rfl, -⟩ := exists_eq_succ_of_length_le h
    exact ⟨_, rfl⟩
  | cons t ts =>
    have ht : ReadsAs t.1 t.2 := hts t List.mem_cons_self
    rw [List.map_cons, writeBracketed_cons]
    refine ⟨⟨'[', _, rfl, by decide⟩, fun fuel i rest h => ?_⟩
    obtain ⟨n, rfl, hn⟩ := exists_eq_succ_of_length_le h
    rw [List.length_append] at hn
    obtain ⟨j, hspace⟩ :=
      skipSpace_closed level ']' hlayout ht.begins (ts.map Prod.fst) (i + 1) rest
    obtain ⟨k, hitems⟩ := readItems_reads level hlayout t ts hts n j rest
      (by rw [List.map_cons]; omega)
    -- so the bracket that closes an empty array is not taken for the first item
    have hne := @closed_append_ne layout level ']' t.1 ht.begins (ts.map Prod.fst) ']'
      (by decide) rest
    rw [List.map_cons] at hitems
    rw [List.cons_append, readValue, if_neg (by decide), if_neg (by decide), if_pos (by decide),
      hspace]
    refine ⟨k, ?_⟩
    dsimp only
    split
    next hclose => exact absurd hclose (hne _)
    next => rw [hitems]; rfl

/-- `readMembers` reads and sets one member, and what comes after it decides how the object goes
on. -/
theorem readMembers_memberText {t : List Char} {v : Json} (ht : ReadsAs t v) (name : String)
    (before : List (String × Json)) (n i : Nat) (rest : List Char) (hn : t.length ≤ n) :
    ∃ j, readMembers (n + 1) before i (memberText layout name t ++ rest) =
      match skipSpace j rest with
      | (j, '}' :: rest) => .ok (put name v before, j + 1, rest)
      | (j, ',' :: rest) =>
        let (j, rest) := skipSpace (j + 1) rest
        readMembers n (put name v before) j rest
      | (j, _) => .error (.malformed .expectingComma j) := by
  obtain ⟨cs, j, hcs, hname⟩ :=
    readText_writeText name i (i + 1) (':' :: (layout.afterColon ++ (t ++ rest)))
  obtain ⟨k, hspace⟩ := ht.begins.skipSpace_append hlayout.afterColon (j + 1) rest
  obtain ⟨l, hread⟩ := ht.reads n k rest hn
  refine ⟨l, ?_⟩
  rw [memberText, List.append_assoc, List.append_assoc, List.cons_append, hcs, readMembers, hname]
  simp only [bind, Except.bind, skipSpace_cons (c := ':') rfl, hspace, String.ofList_toList]
  exact hread ▸ rfl

/-- `readMembers` reads the members of an object up to and with the closing brace, and joins them to
those before. The induction is on the members after the first. -/
theorem readMembers_reads (m : String × List Char × Json) (ms : List (String × List Char × Json))
    (hms : ∀ p ∈ m :: ms, ReadsAs p.2.1 p.2.2) (before : List (String × Json))
    (hnodup : (before.map Prod.fst ++ (m :: ms).map Prod.fst).Nodup) (fuel i : Nat)
    (rest : List Char)
    (hfuel : (closed layout level '}'
      ((m :: ms).map fun p => memberText layout p.1 p.2.1)).length ≤ fuel) :
    ∃ j, readMembers fuel before i
        (closed layout level '}' ((m :: ms).map fun p => memberText layout p.1 p.2.1) ++ rest) =
      .ok (before ++ (m :: ms).map fun p => (p.1, p.2.2), j, rest) := by
  induction ms generalizing m before fuel i with
  | nil =>
    -- the last member: the brace closes the object
    have hm : ReadsAs m.2.1 m.2.2 := hms m List.mem_cons_self
    have hnew : m.1 ∉ before.map Prod.fst := fun h =>
      (List.nodup_append.1 hnodup).2.2 m.1 h m.1 List.mem_cons_self rfl
    rw [List.map_singleton, closed_singleton] at hfuel ⊢
    simp only [memberText, List.length_append, List.length_cons] at hfuel
    obtain ⟨n, rfl⟩ : ∃ n, fuel = n + 1 := ⟨fuel - 1, by omega⟩
    obtain ⟨j, hread⟩ := readMembers_memberText hlayout hm m.1 before n i
      (layout.lineBreak level ++ ('}' :: rest)) (by omega)
    obtain ⟨k, hclose⟩ := skipSpace_closing level '}' hlayout rfl j rest
    rw [List.append_assoc, List.append_assoc, List.singleton_append, hread, hclose,
      put, Association.put_of_not_mem hnew]
    exact ⟨_, rfl⟩
  | cons m' ms ih =>
    have hm : ReadsAs m.2.1 m.2.2 := hms m List.mem_cons_self
    have hms' : ∀ p ∈ m' :: ms, ReadsAs p.2.1 p.2.2 := fun p hp => hms p (List.mem_cons_of_mem m hp)
    have hnew : m.1 ∉ before.map Prod.fst := fun h =>
      (List.nodup_append.1 hnodup).2.2 m.1 h m.1 List.mem_cons_self rfl
    -- the member has joined those before, which the hypothesis of the induction is about
    have hnodup' : ((before ++ [(m.1, m.2.2)]).map Prod.fst ++ (m' :: ms).map Prod.fst).Nodup := by
      rw [List.map_append, List.append_assoc]
      exact hnodup
    simp only [List.map_cons, closed_cons_cons] at ih hfuel ⊢
    have hlength : m.2.1.length ≤ (memberText layout m.1 m.2.1).length := by
      rw [memberText, List.length_append]
      omega
    simp only [List.length_append, List.length_cons] at hfuel
    obtain ⟨n, rfl⟩ : ∃ n, fuel = n + 1 := ⟨fuel - 1, by omega⟩
    obtain ⟨j, hread⟩ := readMembers_memberText hlayout hm m.1 before n i
      (',' :: (layout.lineBreak (level + 1) ++ closed layout level '}'
        (memberText layout m'.1 m'.2.1 :: ms.map fun p => memberText layout p.1 p.2.1)) ++ rest)
      (by omega)
    obtain ⟨k, hspace⟩ := skipSpace_closed level '}' hlayout
      (beginsLikeValue_memberText layout m'.1 m'.2.1) (ms.map fun p => memberText layout p.1 p.2.1)
      (j + 1) rest
    obtain ⟨l, hmembers⟩ := ih m' hms' (before ++ [(m.1, m.2.2)]) hnodup' n k (by omega)
    rw [List.append_assoc, hread, List.cons_append, skipSpace_cons (c := ',') rfl]
    simp only [hspace, put, Association.put_of_not_mem hnew]
    rw [hmembers, List.append_assoc]
    exact ⟨_, rfl⟩

/-- An object of members that are read back, with different names, is read back. -/
theorem readsAs_object (ms : List (String × List Char × Json))
    (hms : ∀ p ∈ ms, ReadsAs p.2.1 p.2.2) (hnodup : (ms.map Prod.fst).Nodup) :
    ReadsAs
      (writeBracketed layout level '{' '}' (ms.map fun p => memberText layout p.1 p.2.1))
      (object (ms.map fun p => (p.1, p.2.2))) := by
  cases ms with
  | nil =>
    refine ⟨⟨'{', _, rfl, by decide⟩, fun fuel i rest h => ?_⟩
    obtain ⟨n, rfl, -⟩ := exists_eq_succ_of_length_le h
    exact ⟨_, rfl⟩
  | cons m ms =>
    have hm := beginsLikeValue_memberText layout m.1 m.2.1
    rw [List.map_cons, writeBracketed_cons]
    refine ⟨⟨'{', _, rfl, by decide⟩, fun fuel i rest h => ?_⟩
    obtain ⟨n, rfl, hn⟩ := exists_eq_succ_of_length_le h
    rw [List.length_append] at hn
    obtain ⟨j, hspace⟩ := skipSpace_closed level '}' hlayout hm
      (ms.map fun p => memberText layout p.1 p.2.1) (i + 1) rest
    obtain ⟨k, hmembers⟩ := readMembers_reads level hlayout m ms hms [] hnodup n j rest
      (by rw [List.map_cons]; omega)
    -- so the brace that closes an empty object is not taken for the first member
    have hne := @closed_append_ne layout level '}' (memberText layout m.1 m.2.1) hm
      (ms.map fun p => memberText layout p.1 p.2.1) '}' (by decide) rest
    rw [List.map_cons] at hmembers
    rw [List.cons_append, readValue, if_neg (by decide), if_pos (by decide), hspace]
    refine ⟨k, ?_⟩
    dsimp only
    split
    next hclose => exact absurd hclose (hne _)
    next => rw [hmembers]; rfl

/-! ## Values -/

/-- A value that is `Readable` is read back from what a layout writes, with the members of each
object in the order of their names. The induction is on the value. -/
theorem readsAs_write {v : Json} (hv : Readable v) : ReadsAs (write layout level v) v.sorted := by
  induction hv generalizing level with
  | null => exact readsAs_null
  | bool b => exact readsAs_bool b
  | text s => exact readsAs_text s
  | @array items _ ih =>
    have harray := readsAs_array level hlayout
      (items.map fun v => (write layout (level + 1) v, v.sorted)) (fun p hp => by
        obtain ⟨v, hv, rfl⟩ := List.mem_map.1 hp
        exact ih v hv (level + 1))
    rw [List.map_map, List.map_map] at harray
    rwa [write, sorted, writeItems_eq_map, sortedItems_eq_map]
  | @object members hnodup _ ih =>
    -- writing and sorting both go through the members in one order
    have hperm := List.mergeSort_perm members fun a b => decide (a.1 ≤ b.1)
    have hobject := readsAs_object level hlayout
      ((members.mergeSort fun a b => decide (a.1 ≤ b.1)).map fun m =>
        (m.1, write layout (level + 1) m.2, m.2.sorted)) (fun p hp => by
          obtain ⟨m, hm, rfl⟩ := List.mem_map.1 hp
          exact ih m (hperm.mem_iff.1 hm) (level + 1)) (by
        rw [List.map_map]
        exact (hperm.map Prod.fst).nodup_iff.2 hnodup)
    rw [List.map_map, List.map_map] at hobject
    rw [write, sorted, sortMembers, writeMembers_eq_map, sortedMembers_eq_map, mergeSort_map_snd,
      mergeSort_map_snd]
    simp only [List.map_map]
    exact hobject

end Brackets

/-- `read` takes a text that reads as a value for that value and nothing more. -/
theorem read_ofList {written : List Char} {v : Json} (h : ReadsAs written v) :
    read (String.ofList written) = .ok v := by
  have hmark : written.head? ≠ some (Char.ofNat 0xfeff) := by
    obtain ⟨c, cs, rfl, hc⟩ := h.begins
    intro hmark
    exact absurd (Option.some.inj hmark ▸ hc) (by decide)
  have hspace := h.begins.skipSpace 0 []
  obtain ⟨j, hread⟩ := h.reads (2 * written.length + 2) 0 [] (by omega)
  rw [List.append_nil] at hspace hread
  rw [read, String.toList_ofList, if_neg (by simpa using hmark)]
  simp only [hspace, hread, bind, Except.bind, pure, Except.pure, skipSpace]
  rfl

/-- `read` finds a value back in its `compact` text, in the order of its names. -/
theorem read_compact {v : Json} (hv : Readable v) : read v.compact = .ok v.sorted :=
  read_ofList (readsAs_write 0 compactLayout_isBlank hv)

/-- `read` finds a value back in its `indented` text, in the order of its names. -/
theorem read_indented {v : Json} (hv : Readable v) : read v.indented = .ok v.sorted :=
  read_ofList (readsAs_write 0 indentedLayout_isBlank hv)

end FactoryRegistry.Json
