/-!
# Pieces of a text

A text cut at every occurrence of one character. The pieces joined by that character are the text
again, so there is always one piece more than there are cuts.
-/

namespace FactoryRegistry.Text

/-- The pieces between the occurrences of a character. -/
def pieces (separator : Char) : List Char → List (List Char)
  | [] => [[]]
  | c :: cs =>
    if c = separator then [] :: pieces separator cs
    else match pieces separator cs with
      | [] => [[c]]
      | p :: ps => (c :: p) :: ps

/-- A text without the character is a single piece. -/
theorem pieces_eq_singleton {separator : Char} {cs : List Char} (h : separator ∉ cs) :
    pieces separator cs = [cs] := by
  induction cs with
  | nil => rfl
  | cons c cs ih =>
    simp only [List.mem_cons, not_or] at h
    rw [pieces, if_neg (Ne.symm h.1), ih h.2]

/-- A cut ends the first piece. -/
theorem pieces_append {separator : Char} {p : List Char} (h : separator ∉ p) (cs : List Char) :
    pieces separator (p ++ separator :: cs) = p :: pieces separator cs := by
  induction p with
  | nil => rw [List.nil_append, pieces, if_pos rfl]
  | cons c p ih =>
    simp only [List.mem_cons, not_or] at h
    rw [List.cons_append, pieces, if_neg (Ne.symm h.1), ih h.2]

/-- Pieces that are joined come apart again. -/
theorem pieces_intercalate {separator : Char} {ps : List (List Char)} (hps : ps ≠ [])
    (h : ∀ p ∈ ps, separator ∉ p) : pieces separator ([separator].intercalate ps) = ps := by
  induction ps with
  | nil => exact absurd rfl hps
  | cons p ps ih =>
    have hp := h p List.mem_cons_self
    cases ps with
    | nil => rw [List.intercalate_singleton, pieces_eq_singleton hp]
    | cons q ps =>
      rw [List.intercalate_cons_cons, List.append_assoc, List.singleton_append, pieces_append hp,
        ih (List.cons_ne_nil q ps) fun r hr => h r (List.mem_cons_of_mem p hr)]

end FactoryRegistry.Text
