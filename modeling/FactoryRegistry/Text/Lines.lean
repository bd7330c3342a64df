/-!
# Lines of text

Two notions of a line meet when a settings file is read. Opening a file for reading turns `CR LF`
and a lone `CR` into `LF` (`unifyNewlines`). Splitting a text into lines then ends a line at a
larger class of characters, `isLineBoundary`, and treats `CR LF` as one boundary.
-/

namespace FactoryRegistry.Text

/-- The characters at which a text is split into lines: line feed, vertical tab, form feed,
carriage return, the first three information separators, next line, and the line and paragraph
separators. -/
def isLineBoundary (c : Char) : Bool :=
  let n := c.toNat
  (0x0a ≤ n && n ≤ 0x0d) || (0x1c ≤ n && n ≤ 0x1e) || n == 0x85 || n == 0x2028 || n == 0x2029

/-- `CR LF` and a lone `CR` become `LF`; all else is kept. -/
def unifyNewlines : List Char → List Char
  | '\r' :: '\n' :: cs => '\n' :: unifyNewlines cs
  | '\r' :: cs => '\n' :: unifyNewlines cs
  | c :: cs => c :: unifyNewlines cs
  | [] => []

/-- The lines of a text, where `current` holds the characters of the line being read, last first. -/
def splitLinesFrom (current : List Char) : List Char → List (List Char)
  | '\r' :: '\n' :: cs => current.reverse :: splitLinesFrom [] cs
  | c :: cs =>
    if isLineBoundary c then current.reverse :: splitLinesFrom [] cs
    else splitLinesFrom (c :: current) cs
  | [] => if current.isEmpty then [] else [current.reverse]

/-- The lines of a text without their boundaries. A boundary at the very end begins no further
line. -/
def splitLines (cs : List Char) : List (List Char) :=
  splitLinesFrom [] cs

/-- A character that is no boundary belongs to the line being read. -/
theorem splitLinesFrom_cons {c : Char} (hc : isLineBoundary c = false) (current cs : List Char) :
    splitLinesFrom current (c :: cs) = splitLinesFrom (c :: current) cs := by
  have hr : c ≠ '\r' := by rintro rfl; exact absurd hc (by decide)
  rw [splitLinesFrom]
  · simp [hc]
  · rintro _ rfl; exact absurd rfl hr

/-- A text without a line boundary is one line, unless it is empty. -/
theorem splitLinesFrom_eq_singleton {current cs : List Char}
    (h : ∀ c ∈ cs, isLineBoundary c = false)
    (hne : current ≠ [] ∨ cs ≠ []) :
    splitLinesFrom current cs = [current.reverse ++ cs] := by
  induction cs generalizing current with
  | nil =>
    have : current ≠ [] := by simpa using hne
    simp [splitLinesFrom, this]
  | cons c cs ih =>
    rw [splitLinesFrom_cons (h c (by simp)), ih (fun d hd => h d (by simp [hd])) (by simp)]
    simp

end FactoryRegistry.Text
