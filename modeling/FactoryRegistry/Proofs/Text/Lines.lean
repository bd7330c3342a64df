import Mathlib.Data.List.TakeWhile
import FactoryRegistry.Text.Blank
import FactoryRegistry.Text.Lines

/-!
# Lines put together

Stripping gives back a text to which characters of the class have been added at both ends, if the
text has none there itself (`stripWhere_pad`).

A text that begins with a line and what ends it has that line first (`lineValues_append`). Between a
line that ends with `CR` and an empty one that ends with `LF` there is no boundary of its own, so
this is told of the values that are taken from lines, where nothing is taken from an empty one.
-/

namespace FactoryRegistry.Text

/-! ## Stripping -/

section Stripping

variable {p : Char → Bool} {before cs after : List Char}

/-- A text neither begins nor ends with a character of a class. -/
structure Bare (p : Char → Bool) (cs : List Char) : Prop where
  /-- It does not begin with one. -/
  head : ∀ c, cs.head? = some c → p c = false
  /-- It does not end with one. -/
  last : ∀ c, cs.getLast? = some c → p c = false

theorem bare_iff :
    Bare p cs ↔ (cs.head?.any p || cs.getLast?.any p) = false := by
  have hany : ∀ o : Option Char, o.any p = false ↔ ∀ c, o = some c → p c = false := by
    rintro (_ | c) <;> simp
  rw [Bool.or_eq_false_iff, hany, hany]
  exact ⟨fun h => ⟨h.head, h.last⟩, fun h => ⟨h.1, h.2⟩⟩

instance (p : Char → Bool) (cs : List Char) : Decidable (Bare p cs) :=
  decidable_of_iff _ bare_iff.symm

/-- `dropWhile` takes away what stands before a text that begins outside the class. -/
theorem dropWhile_append_of_head (hbefore : ∀ c ∈ before, p c = true)
    (hcs : ∀ c, cs.head? = some c → p c = false) : (before ++ cs).dropWhile p = cs := by
  rw [List.dropWhile_append_of_pos hbefore]
  cases cs with
  | nil => rfl
  | cons c cs => exact List.dropWhile_cons_of_neg (by simp [hcs c rfl])

/-- `dropTrailing` takes away what stands after a text that ends outside the class. -/
theorem dropTrailing_append_of_last (hafter : ∀ c ∈ after, p c = true)
    (hcs : ∀ c, cs.getLast? = some c → p c = false) : dropTrailing p (cs ++ after) = cs := by
  rw [dropTrailing, List.reverse_append, dropWhile_append_of_head, List.reverse_reverse]
  · intro c hc
    exact hafter c (List.mem_reverse.1 hc)
  · intro c hc
    exact hcs c (by rwa [List.head?_reverse] at hc)

/-- What stands after a character outside the class is all that `dropTrailing` can take away. -/
theorem dropTrailing_append_cons {c : Char} (hc : p c = false) (cs after : List Char) :
    dropTrailing p (cs ++ c :: after) = cs ++ c :: dropTrailing p after := by
  have hstop : [c].dropWhile p = [c] := List.dropWhile_cons_of_neg (by simp [hc])
  rw [dropTrailing, dropTrailing, List.reverse_append, List.reverse_cons, List.append_assoc,
    List.dropWhile_append]
  split <;> rename_i hempty
  · rw [List.isEmpty_iff.1 hempty, List.singleton_append, List.dropWhile_cons_of_neg (by simp [hc])]
    simp
  · simp

/-- What stands in front outside the class stays there. -/
theorem stripWhere_cons {c : Char} (hc : p c = false) (cs : List Char) :
    stripWhere p (c :: cs) = c :: dropTrailing p cs := by
  rw [stripWhere, List.dropWhile_cons_of_neg (by simp [hc])]
  exact dropTrailing_append_cons hc [] cs

/-- `stripWhere` brings in no character. -/
theorem mem_of_mem_stripWhere {c : Char} (h : c ∈ stripWhere p cs) : c ∈ cs := by
  rw [stripWhere, dropTrailing, List.mem_reverse] at h
  have hdrop := (List.dropWhile_sublist p).mem h
  exact (List.dropWhile_sublist p).mem (List.mem_reverse.1 hdrop)

/-- `stripWhere` takes away what has been added at both ends. -/
theorem stripWhere_pad (hbefore : ∀ c ∈ before, p c = true) (hcs : Bare p cs)
    (hafter : ∀ c ∈ after, p c = true) : stripWhere p (before ++ (cs ++ after)) = cs := by
  rw [stripWhere]
  by_cases hempty : cs = []
  · -- nothing is left of the first text, so all of it goes from the front
    have hall : ∀ c ∈ before ++ ([] ++ after), p c = true := by
      simpa [or_imp, forall_and] using And.intro hbefore hafter
    rw [hempty, List.dropWhile_eq_nil_iff.2 hall]
    rfl
  · have hhead : (cs ++ after).head? = cs.head? := by
      obtain ⟨c, cs, rfl⟩ := List.exists_cons_of_ne_nil hempty
      rfl
    rw [dropWhile_append_of_head hbefore (hhead ▸ hcs.head)]
    exact dropTrailing_append_of_last hafter hcs.last

end Stripping

/-! ## Line feeds -/

section Newlines

variable {c : Char} {line cs : List Char}

theorem unifyNewlines_cons (hc : c ≠ '\r') (cs : List Char) :
    unifyNewlines (c :: cs) = c :: unifyNewlines cs := by
  rw [unifyNewlines]
  · rintro _ rfl
    exact absurd rfl hc
  · rintro rfl
    exact absurd rfl hc

/-- `unifyNewlines` leaves what stands before a carriage return. -/
theorem unifyNewlines_append (h : '\r' ∉ line) (cs : List Char) :
    unifyNewlines (line ++ cs) = line ++ unifyNewlines cs := by
  induction line with
  | nil => rfl
  | cons c line ih =>
    obtain ⟨hc, hline⟩ := List.ne_and_not_mem_of_not_mem_cons h
    rw [List.cons_append, unifyNewlines_cons (Ne.symm hc), ih hline, List.cons_append]

/-- A `CR` without an `LF` after it becomes one. -/
theorem unifyNewlines_cr (h : ∀ ds, cs ≠ '\n' :: ds) :
    unifyNewlines ('\r' :: cs) = '\n' :: unifyNewlines cs := by
  rw [unifyNewlines]
  exact fun ds => h ds

/-- A text without carriage returns has no line breaks to unify. -/
theorem unifyNewlines_eq_self (h : '\r' ∉ cs) : unifyNewlines cs = cs := by
  have happend := unifyNewlines_append h []
  rwa [List.append_nil, unifyNewlines, List.append_nil] at happend

/-- `unifyNewlines` leaves no carriage return. -/
theorem cr_not_mem_unifyNewlines (cs : List Char) : '\r' ∉ unifyNewlines cs := by
  fun_induction unifyNewlines cs with
  | case1 cs ih => simpa using ih
  | case2 cs _ ih => simpa using ih
  | case3 c cs _ hcr ih =>
    have hc : c ≠ '\r' := fun h => hcr h
    simpa [Ne.symm hc] using ih
  | case4 => exact List.not_mem_nil

/-- `unifyNewlines` unifies all line breaks of a text at once. -/
theorem unifyNewlines_unifyNewlines (cs : List Char) :
    unifyNewlines (unifyNewlines cs) = unifyNewlines cs :=
  unifyNewlines_eq_self (cr_not_mem_unifyNewlines cs)

end Newlines

/-! ## Lines -/

/-- No character of a text ends a line. -/
def Inline (cs : List Char) : Prop := ∀ c ∈ cs, isLineBoundary c = false

instance (cs : List Char) : Decidable (Inline cs) := List.decidableBAll _ cs

theorem inline_nil : Inline [] := List.forall_mem_nil _

/-- A text is within a line if its first character ends none and the rest is. -/
theorem inline_cons {c : Char} {cs : List Char} :
    Inline (c :: cs) ↔ isLineBoundary c = false ∧ Inline cs := List.forall_mem_cons

theorem inline_append {cs ds : List Char} : Inline (cs ++ ds) ↔ Inline cs ∧ Inline ds :=
  List.forall_mem_append

/-- What ends a line. -/
inductive LineEnd where
  /-- One character. -/
  | boundary (c : Char) (h : isLineBoundary c = true)
  /-- `CR LF`. -/
  | crlf

/-- The characters that end a line. -/
def LineEnd.text : LineEnd → List Char
  | boundary c _ => [c]
  | crlf => ['\r', '\n']

section Lines

variable {α : Type} {c : Char} {line cs : List Char}

/-- `splitLines` splits off a line at the boundary after it. -/
theorem splitLines_append (hline : Inline line)
    (hc : isLineBoundary c = true) (hcr : c ≠ '\r') (cs : List Char) :
    splitLines (line ++ c :: cs) = line :: splitLines cs := by
  -- the characters of the line that are read already stand in front
  have hfrom : ∀ current, splitLinesFrom current (line ++ c :: cs) =
      (current.reverse ++ line) :: splitLinesFrom [] cs := by
    induction line with
    | nil =>
      intro current
      rw [List.nil_append, splitLinesFrom]
      · simp [hc]
      · rintro _ rfl
        exact absurd rfl hcr
    | cons d line ih =>
      obtain ⟨hd, hline⟩ := inline_cons.1 hline
      intro current
      rw [List.cons_append, splitLinesFrom_cons hd, ih hline]
      simp
  exact hfrom []

/-- What is taken from the lines of a text. -/
def lineValues (f : List Char → Option α) (cs : List Char) : List α :=
  (splitLines (unifyNewlines cs)).filterMap f

/-- A line has no line breaks to unify. -/
theorem unifyNewlines_line (hline : Inline line) (cs : List Char) :
    unifyNewlines (line ++ cs) = line ++ unifyNewlines cs := by
  refine unifyNewlines_append (fun hmem => ?_) cs
  exact absurd (hline '\r' hmem) (by decide)

variable {f : List Char → Option α}

/-- A text without a line boundary is a line. -/
theorem lineValues_singleton (hf : f [] = none) (hline : Inline line) :
    lineValues f line = (f line).toList := by
  have hunified : unifyNewlines line = line := by
    have happend := unifyNewlines_line hline []
    rwa [List.append_nil, unifyNewlines, List.append_nil] at happend
  rw [lineValues, hunified, splitLines]
  by_cases hempty : line = []
  · rw [hempty, hf]
    rfl
  · rw [splitLinesFrom_eq_singleton hline (.inr hempty), List.reverse_nil, List.nil_append,
      List.filterMap_cons]
    cases f line <;> rfl

/-- The value of a line that a boundary ends comes first. -/
theorem lineValues_boundary (hline : Inline line) (hc : isLineBoundary c = true) (hcr : c ≠ '\r')
    (cs : List Char) : lineValues f (line ++ c :: cs) = (f line).toList ++ lineValues f cs := by
  rw [lineValues, unifyNewlines_line hline, unifyNewlines_cons hcr,
    splitLines_append hline hc hcr, List.filterMap_cons, lineValues]
  cases f line <;> rfl

theorem lineValues_crlf (hline : Inline line) (cs : List Char) :
    lineValues f (line ++ '\r' :: '\n' :: cs) = (f line).toList ++ lineValues f cs := by
  have hfeed : unifyNewlines (line ++ '\r' :: '\n' :: cs) = unifyNewlines (line ++ '\n' :: cs) := by
    rw [unifyNewlines_line hline, unifyNewlines_line hline, unifyNewlines,
      unifyNewlines_cons (by decide : '\n' ≠ '\r')]
  rw [lineValues, hfeed]
  exact lineValues_boundary hline (by decide) (by decide) cs

/-- A text that begins with a line and what ends it has the value of that line first. -/
theorem lineValues_append (hf : f [] = none) (hline : Inline line) (e : LineEnd) (cs : List Char) :
    lineValues f (line ++ (e.text ++ cs)) = (f line).toList ++ lineValues f cs := by
  cases e with
  | crlf => exact lineValues_crlf hline cs
  | boundary c hc =>
    by_cases hcr : c = '\r'
    · subst hcr
      by_cases hnext : ∃ ds, cs = '\n' :: ds
      · -- the line feed that follows ends no line of its own, but then that line is empty
        obtain ⟨ds, rfl⟩ := hnext
        have hempty : lineValues f ([] ++ '\n' :: ds) = (f []).toList ++ lineValues f ds :=
          lineValues_boundary inline_nil (by decide) (by decide) ds
        rw [List.nil_append, hf, Option.toList_none, List.nil_append] at hempty
        rw [hempty]
        exact lineValues_crlf hline ds
      · have hfeed : unifyNewlines (line ++ '\r' :: cs) = unifyNewlines (line ++ '\n' :: cs) := by
          rw [unifyNewlines_line hline, unifyNewlines_line hline,
            unifyNewlines_cr (not_exists.1 hnext), unifyNewlines_cons (by decide : '\n' ≠ '\r')]
        change lineValues f (line ++ '\r' :: cs) = _
        rw [lineValues, hfeed]
        exact lineValues_boundary hline (by decide) (by decide) cs
    · exact lineValues_boundary hline hc hcr cs

end Lines

end FactoryRegistry.Text
