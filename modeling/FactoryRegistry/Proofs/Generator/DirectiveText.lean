import FactoryRegistry.Proofs.Generator.Transcript

/-!
# What the text of a directive tells

The key and the value of a directive are put between quotation marks as they are, so a key with a
quotation mark in it can take up a part of a value. `Overlap` lists the ways in which two different
directives have one statement, and `directiveStatement_eq_iff` says that there are no others. As
long as keys are free of quotation marks, or values are, the statement determines both.

`readDirective` reads a statement as a call with two string literals, which end at the first
quotation mark that is not escaped. It gives the key and the value back exactly when neither of them
ends its literal too early (`readDirective_eq_some_iff`).
-/

namespace FactoryRegistry

/-! ## Equal statements -/

/-- Two directives, the second one with the longer key, that have one statement: where the shorter
key ends the longer one goes on with the mark. -/
inductive Overlap : String × String → String × String → Prop
  /-- The longer key has the whole mark in it, and the longer value another one. -/
  | across (key between value : String) :
      Overlap (key, between ++ directiveMark ++ value) (key ++ directiveMark ++ between, value)
  /-- The longer key ends with the mark without its last character, which is that of the mark after
  the longer key. -/
  | astride (key value : String) : Overlap (key, ", \"" ++ value) (key ++ "\", ", value)

namespace Overlap

variable {d d' : String × String}

/-- Directives that `Overlap` have one `directiveStatement`. -/
theorem statement_eq (h : Overlap d d') :
    Generator.directiveStatement d.1 d.2 = Generator.directiveStatement d'.1 d'.2 := by
  cases h with
  | across key between value => simp only [directiveStatement_eq, String.append_assoc]
  | astride key value =>
    have hmarks : directiveMark ++ ", \"" = "\", " ++ directiveMark := by decide
    have hshift : ∀ rest : String,
        directiveMark ++ (", \"" ++ rest) = "\", " ++ (directiveMark ++ rest) := by
      intro rest
      rw [← String.append_assoc, hmarks, String.append_assoc]
    simp only [directiveStatement_eq, String.append_assoc, hshift]

/-- Directives that `Overlap` differ in their keys and in their values, and there is a quotation
mark in the longer key as well as in the longer value. -/
theorem parts (h : Overlap d d') :
    d.1 ≠ d'.1 ∧ d.2 ≠ d'.2 ∧ '"' ∈ d'.1.toList ∧ '"' ∈ d.2.toList := by
  have hmark : directiveMark.length = 4 := by decide
  cases h with
  | across key between value =>
    refine ⟨fun h => ?_, fun h => ?_, by simp [directiveMark], by simp [directiveMark]⟩ <;>
    · have hlength := congrArg String.length h
      simp only [String.length_append, hmark] at hlength
      omega
  | astride key value =>
    refine ⟨fun h => ?_, fun h => ?_, by simp, by simp⟩ <;>
    · have hlength := congrArg String.length h
      simp [String.length_append] at hlength

end Overlap

/-- A text that begins with `directiveMark` begins with it anew after none, three, four or more of
its characters. -/
theorem mark_again {x v v' : List Char}
    (h : directiveMark.toList ++ v = x ++ (directiveMark.toList ++ v')) :
    x = [] ∧ v = v' ∨ x = "\", ".toList ∧ v = ", \"".toList ++ v' ∨
      ∃ between, x = directiveMark.toList ++ between ∧
        v = between ++ (directiveMark.toList ++ v') := by
  have hmark : directiveMark.toList = ['"', ',', ' ', '"'] := by decide
  rw [hmark] at h ⊢
  -- the second mark begins at the end of the first one, inside it, or behind it
  match x with
  | [] => exact Or.inl ⟨rfl, by simpa using h⟩
  | [a] => simp at h
  | [a, b] => simp at h
  | [a, b, c] =>
    simp only [List.cons_append, List.nil_append, List.cons.injEq, true_and] at h
    obtain ⟨rfl, rfl, rfl, rfl⟩ := h
    exact Or.inr (Or.inl ⟨rfl, rfl⟩)
  | a :: b :: c :: d :: between =>
    simp only [List.cons_append, List.nil_append, List.cons.injEq] at h
    obtain ⟨rfl, rfl, rfl, rfl, rfl⟩ := h
    exact Or.inr (Or.inr ⟨between, rfl, rfl⟩)

/-- Where the first key is no longer than the second one, directives of one statement are the same
or `Overlap`. -/
theorem overlap_of_append {key value key' value' : String} {x : List Char}
    (hkey : key'.toList = key.toList ++ x)
    (h : directiveMark.toList ++ value.toList = x ++ (directiveMark.toList ++ value'.toList)) :
    (key, value) = (key', value') ∨ Overlap (key, value) (key', value') := by
  have hkey' : key' = key ++ String.ofList x := String.toList_injective (by simpa using hkey)
  obtain ⟨rfl, hvalue⟩ | ⟨rfl, hvalue⟩ | ⟨between, rfl, hvalue⟩ := mark_again h
  · obtain rfl : value = value' := String.toList_injective hvalue
    exact Or.inl (by rw [hkey', String.ofList_nil, String.append_empty])
  · obtain rfl : value = ", \"" ++ value' := String.toList_injective (by simpa using hvalue)
    rw [hkey', String.ofList_toList]
    exact Or.inr (.astride key value')
  · obtain rfl : value = String.ofList between ++ directiveMark ++ value' :=
      String.toList_injective (by simpa using hvalue)
    rw [hkey', String.ofList_append, String.ofList_toList, ← String.append_assoc]
    exact Or.inr (.across key _ value')

/-- Two directives have one `directiveStatement` when they are the same or `Overlap`, and not
otherwise. -/
theorem directiveStatement_eq_iff {d d' : String × String} :
    Generator.directiveStatement d.1 d.2 = Generator.directiveStatement d'.1 d'.2 ↔
      d = d' ∨ Overlap d d' ∨ Overlap d' d := by
  constructor
  · intro h
    rw [directiveStatement_eq, directiveStatement_eq, String.append_right_inj] at h
    have htexts := congrArg String.toList h
    simp only [String.toList_append, ← List.append_assoc, List.append_cancel_right_eq] at htexts
    rw [List.append_assoc, List.append_assoc] at htexts
    -- one key is the other one and some more text
    obtain ⟨x, hkey, hrest⟩ | ⟨x, hkey, hrest⟩ := List.append_eq_append_iff.1 htexts
    · exact (overlap_of_append hkey hrest).imp_right Or.inl
    · exact (overlap_of_append hkey hrest).imp Eq.symm Or.inr
  · rintro (rfl | h | h)
    · rfl
    · exact h.statement_eq
    · exact h.statement_eq.symm

/-! ## Reading a statement -/

/-- The characters that stand for themselves in a string literal. -/
def StandsAlone (c : Char) : Prop := c ≠ '"' ∧ c ≠ '\\' ∧ c ≠ '\n' ∧ c ≠ '\r'

instance (c : Char) : Decidable (StandsAlone c) := inferInstanceAs (Decidable (_ ∧ _ ∧ _ ∧ _))

/-- The characters that may follow a reverse solidus in a string literal. -/
def escapable : List Char := "btnfrs\"'\\01234567".toList

/-- The text of a string literal up to its closing mark, and what follows the mark. -/
def readLiteral : List Char → Option (List Char × List Char)
  | '"' :: cs => some ([], cs)
  | '\\' :: c :: cs =>
    if c ∈ escapable then (readLiteral cs).map fun (s, rest) => ('\\' :: c :: s, rest) else none
  | c :: cs =>
    if StandsAlone c then (readLiteral cs).map fun (s, rest) => (c :: s, rest) else none
  | [] => none

/-- The key and the value of a statement that is a call with two string literals and nothing
more. -/
def readDirective (statement : String) : Option (String × String) := do
  let cs ← "System.setProperty(\"".toList.isPrefixOf? statement.toList
  let (key, cs) ← readLiteral cs
  let cs ← ", \"".toList.isPrefixOf? cs
  let (value, cs) ← readLiteral cs
  if cs = [')'] then some (String.ofList key, String.ofList value) else none

/-- A text that a string literal can hold: its quotation marks are escaped, and so is its last
character if that is a reverse solidus. -/
inductive Enclosed : List Char → Prop
  /-- Nothing. -/
  | nil : Enclosed []
  /-- A character that stands for itself. -/
  | plain {c : Char} {cs : List Char} (hc : StandsAlone c) (rest : Enclosed cs) : Enclosed (c :: cs)
  /-- A character after a reverse solidus. -/
  | escaped {c : Char} {cs : List Char} (hc : c ∈ escapable) (rest : Enclosed cs) :
      Enclosed ('\\' :: c :: cs)

/-- Characters that stand for themselves (`StandsAlone`) make up a text that a literal can hold. -/
theorem enclosed_of_standsAlone {cs : List Char} (h : ∀ c ∈ cs, StandsAlone c) : Enclosed cs := by
  induction cs with
  | nil => exact .nil
  | cons c cs ih =>
    exact .plain (h c List.mem_cons_self) (ih fun d hd => h d (List.mem_cons_of_mem c hd))

/-- `readLiteral` reads a text that is `Enclosed` up to the mark after it. -/
theorem Enclosed.readLiteral {s : List Char} (h : Enclosed s) (rest : List Char) :
    readLiteral (s ++ '"' :: rest) = some (s, rest) := by
  induction h with
  | nil => rfl
  | @plain c cs hc _ ih =>
    rw [List.cons_append, FactoryRegistry.readLiteral.eq_3 _ _ hc.1 fun _ _ h => absurd h hc.2.1,
      if_pos hc, ih]
    rfl
  | @escaped c cs hc _ ih =>
    rw [List.cons_append, List.cons_append, FactoryRegistry.readLiteral, if_pos hc, ih]
    rfl

/-- What `readLiteral` reads is `Enclosed`, with the closing mark after it. -/
theorem enclosed_of_readLiteral {cs s rest : List Char} (h : readLiteral cs = some (s, rest)) :
    cs = s ++ '"' :: rest ∧ Enclosed s := by
  fun_induction readLiteral cs generalizing s with
  | case1 cs =>
    cases h
    exact ⟨rfl, .nil⟩
  | case2 c cs hc ih =>
    obtain ⟨⟨t, _⟩, hread, h⟩ := Option.map_eq_some_iff.1 h
    cases h
    obtain ⟨rfl, ht⟩ := ih hread
    exact ⟨rfl, .escaped hc ht⟩
  | case3 => cases h
  | case4 c cs _ _ hc ih =>
    obtain ⟨⟨t, _⟩, hread, h⟩ := Option.map_eq_some_iff.1 h
    cases h
    obtain ⟨rfl, ht⟩ := ih hread
    exact ⟨rfl, .plain hc ht⟩
  | case5 => cases h
  | case6 => cases h

/-- `readDirective` reads a statement as a call with a key and a value exactly when it is their
`directiveStatement` and both are `Enclosed`. -/
theorem readDirective_eq_some_iff {statement key value : String} :
    readDirective statement = some (key, value) ↔
      statement = Generator.directiveStatement key value ∧
        Enclosed key.toList ∧ Enclosed value.toList := by
  have hmark : directiveMark.toList = '"' :: ", \"".toList := by decide
  have htext : ∀ key value, (Generator.directiveStatement key value).toList =
      "System.setProperty(\"".toList ++
        (key.toList ++ '"' :: (", \"".toList ++ (value.toList ++ '"' :: [')']))) := by
    intro key value
    rw [directiveStatement_eq]
    simp only [String.toList_append, hmark, List.cons_append]
    rfl
  constructor
  · intro h
    rw [readDirective] at h
    -- the five stages of reading: the opening, the key, the comma, the value and the end
    obtain ⟨cs, hopening, hafter⟩ := Option.bind_eq_some_iff.1 h
    obtain ⟨⟨s, afterKey⟩, hkey, hafterKey⟩ := Option.bind_eq_some_iff.1 hafter
    obtain ⟨cs', hcomma, hafterComma⟩ := Option.bind_eq_some_iff.1 hafterKey
    obtain ⟨⟨t, closing⟩, hvalue, hclosing⟩ := Option.bind_eq_some_iff.1 hafterComma
    dsimp only at hcomma hclosing
    rw [List.isPrefixOf?_eq_some_iff_append_eq] at hopening hcomma
    split_ifs at hclosing with hend
    cases hclosing
    obtain ⟨rfl, hs⟩ := enclosed_of_readLiteral hkey
    obtain ⟨rfl, ht⟩ := enclosed_of_readLiteral hvalue
    -- put together again, the parts that were read are the statement
    have hs' : (String.ofList s).toList = s := String.toList_ofList
    have ht' : (String.ofList t).toList = t := String.toList_ofList
    refine ⟨String.toList_injective ?_, hs'.symm ▸ hs, ht'.symm ▸ ht⟩
    rw [htext, hs', ht', ← hopening, ← hcomma, hend]
  · rintro ⟨rfl, hkey, hvalue⟩
    have hopening := List.isPrefixOf?_eq_some_iff_append_eq.2 (htext key value).symm
    have hcomma := List.isPrefixOf?_eq_some_iff_append_eq.2
      (Eq.refl (", \"".toList ++ (value.toList ++ '"' :: [')'])))
    simp only [readDirective, hopening, hkey.readLiteral, hcomma, hvalue.readLiteral,
      Option.bind_eq_bind, Option.bind_some, if_true, String.ofList_toList]

namespace Generator

/-- A directive that `setProperty` accepts is written at the end of the block. -/
theorem statements_of_setProperty {g : Generator} {key value : String}
    (hset : (g.setProperty key value).1 = .ok ()) :
    (g.setProperty key value).2.block.block.statements =
      g.block.block.statements ++ [directiveStatement key value] := by
  rw [setProperty_eq] at hset ⊢
  -- in the other three outcomes the directive is refused
  split_ifs at hset ⊢
  rfl

/-- The directives of a build have pairwise different statements exactly when no two of them
`Overlap`. -/
theorem nodup_directives_iff (options : AotOptions) (output : OutputSettings)
    (ops : List Operation) :
    let directives := directivesOf (reachedHistory options output ops)
    ((reached options output ops).block.block.statements.take directives.length).Nodup ↔
      ∀ d ∈ directives, ∀ d' ∈ directives, ¬ Overlap d d' := by
  intro directives
  have ha := agrees_reached options output ops
  have hdirectives : directives.Nodup := by
    have hnodup := ha.nodup
    rw [ha.keys] at hnodup
    exact .of_map _ hnodup.of_append_left
  -- the directives stand in front, one statement each
  have hfront : (reached options output ops).block.block.statements.take directives.length =
      directives.map fun d => directiveStatement d.1 d.2 := by
    rw [ha.statements, List.take_left' (List.length_map _)]
  rw [hfront, List.nodup_map_iff_inj_on hdirectives]
  constructor
  · intro hinj d hd d' hd' hoverlap
    exact hoverlap.parts.1 (congrArg Prod.fst (hinj d hd d' hd' hoverlap.statement_eq))
  · intro hapart d hd d' hd' hsame
    obtain hsame | hoverlap | hoverlap := directiveStatement_eq_iff.1 hsame
    · exact hsame
    · exact absurd hoverlap (hapart d hd d' hd')
    · exact absurd hoverlap (hapart d' hd' d hd)

/-- Two directives are set on generators, which write one `directiveStatement` each. The statements
are the same exactly when the directives are the same or `Overlap`. So they determine the directives
where the keys are equal, where the values are equal, where no key contains a quotation mark and
where no value does. Within one build, directives have different statements unless two of them
overlap. `readDirective` reads a statement as the call with just its key and its value as long as
string literals can hold them, which is the case for texts of characters that stand for
themselves. -/
theorem directive_determined_unless_overlap {g g' : Generator} {key value key' value' : String}
    (hset : (g.setProperty key value).1 = .ok ())
    (hset' : (g'.setProperty key' value').1 = .ok ()) :
    ∃ s s', (g.setProperty key value).2.block.block.statements = g.block.block.statements ++ [s] ∧
      (g'.setProperty key' value').2.block.block.statements = g'.block.block.statements ++ [s'] ∧
      (s = s' ↔ (key, value) = (key', value') ∨ Overlap (key, value) (key', value') ∨
        Overlap (key', value') (key, value)) ∧
      (s = s' → key = key' ∨ value = value' ∨ ('"' ∉ key.toList ∧ '"' ∉ key'.toList) ∨
        ('"' ∉ value.toList ∧ '"' ∉ value'.toList) → key = key' ∧ value = value') ∧
      (∀ options output ops,
        let directives := directivesOf (reachedHistory options output ops)
        ((reached options output ops).block.block.statements.take directives.length).Nodup ↔
          ∀ d ∈ directives, ∀ d' ∈ directives, ¬ Overlap d d') ∧
      (readDirective s = some (key, value) ↔ Enclosed key.toList ∧ Enclosed value.toList) ∧
      ((∀ c ∈ key.toList ++ value.toList, StandsAlone c) →
        readDirective s = some (key, value)) := by
  have hsame := @directiveStatement_eq_iff (key, value) (key', value')
  have hread : readDirective (directiveStatement key value) = some (key, value) ↔
      Enclosed key.toList ∧ Enclosed value.toList := by
    simp [readDirective_eq_some_iff]
  refine ⟨_, _, statements_of_setProperty hset, statements_of_setProperty hset', hsame,
    fun h hparts => ?_, nodup_directives_iff, hread, fun h => hread.2 ⟨?_, ?_⟩⟩
  · -- directives that overlap violate each of the four conditions
    obtain hpair | hoverlap | hoverlap := hsame.1 h
    · exact Prod.mk.injEq .. ▸ hpair
    · obtain ⟨hkey, hvalue, hmark, hmark'⟩ := hoverlap.parts
      obtain h | h | h | h := hparts
      exacts [absurd h hkey, absurd h hvalue, absurd hmark h.2, absurd hmark' h.1]
    · obtain ⟨hkey, hvalue, hmark, hmark'⟩ := hoverlap.parts
      obtain h | h | h | h := hparts
      exacts [absurd h.symm hkey, absurd h.symm hvalue, absurd hmark h.1, absurd hmark' h.2]
  · exact enclosed_of_standsAlone fun c hc => h c (List.mem_append_left _ hc)
  · exact enclosed_of_standsAlone fun c hc => h c (List.mem_append_right _ hc)

/-- Directives that `Overlap`, set on two fresh generators: the keys differ, the values differ, and
the statement is one. -/
theorem overlapping_directives_written :
    let g := new {} {}
    (g.setProperty "a" "b\", \"c").1 = .ok () ∧ (g.setProperty "a\", \"b" "c").1 = .ok () ∧
      ∃ s, (g.setProperty "a" "b\", \"c").2.block.block.statements = [s] ∧
        (g.setProperty "a\", \"b" "c").2.block.block.statements = [s] := by
  intro g
  have hset : (g.setProperty "a" "b\", \"c").1 = .ok () := rfl
  have hset' : (g.setProperty "a\", \"b" "c").1 = .ok () := rfl
  obtain ⟨s, s', hs, hs', hsame, -⟩ := directive_determined_unless_overlap hset hset'
  obtain rfl : s = s' := hsame.2 (Or.inr (Or.inl (.across "a" "b" "c")))
  exact ⟨hset, hset', s, hs, hs'⟩

/-- Two different keys of one generator have one statement, and a value ends its literal and goes on
as text of the statement. -/
theorem quotation_marks_taken_literally :
    let g := (new {} {}).setProperty "a" "b\", \"c"
    let g' := g.2.setProperty "a\", \"b" "c"
    let statement := directiveStatement "a" "b\", \"c"
    g.1 = .ok () ∧ g'.1 = .ok () ∧
      g'.2.block.block.statements = [statement, statement] ∧
      ((new {} {}).setProperty "k" "x\"); exit(\"").2.block.block.statements =
        ["System.setProperty(\"k\", \"" ++ "x\"); exit(\"" ++ "\")"] ∧
      readLiteral "x\"); exit(\"\")".toList = some ("x".toList, "); exit(\"\")".toList) :=
  ⟨rfl, rfl, by decide +kernel, by decide +kernel, by decide +kernel⟩

end Generator

end FactoryRegistry
