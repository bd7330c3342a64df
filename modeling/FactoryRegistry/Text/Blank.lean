/-!
# Blank characters

The blank characters are those with the Unicode white-space property together with the four
information separators. `strip` removes them from both ends of a text. Where text is stripped of
another class of characters, `stripWhere` takes the class as a parameter.
-/

namespace FactoryRegistry.Text

/-- White space in the sense of the Unicode standard, and the four information separators
`U+001C` to `U+001F`. -/
def isBlank (c : Char) : Bool :=
  let n := c.toNat
  (0x09 ≤ n && n ≤ 0x0d) || (0x1c ≤ n && n ≤ 0x20) || n == 0x85 || n == 0xa0 || n == 0x1680 ||
    (0x2000 ≤ n && n ≤ 0x200a) || n == 0x2028 || n == 0x2029 || n == 0x202f || n == 0x205f ||
    n == 0x3000

/-- The characters of a text without the members of a class at its end. -/
def dropTrailing (p : Char → Bool) (cs : List Char) : List Char :=
  (cs.reverse.dropWhile p).reverse

/-- The characters of a text without the members of a class at either end. -/
def stripWhere (p : Char → Bool) (cs : List Char) : List Char :=
  dropTrailing p (cs.dropWhile p)

/-- A text without blank characters at either end. -/
def strip (s : String) : String :=
  String.ofList (stripWhere isBlank s.toList)

/-- A text whose characters are all outside the class is left as it is. -/
theorem stripWhere_eq_self {p : Char → Bool} {cs : List Char} (h : ∀ c ∈ cs, p c = false) :
    stripWhere p cs = cs := by
  have drop : ∀ {l : List Char}, (∀ c ∈ l, p c = false) → l.dropWhile p = l := by
    intro l hl
    cases l with
    | nil => rfl
    | cons a l => simp [List.dropWhile, hl a]
  rw [stripWhere, dropTrailing, drop h, drop (by simpa using h), List.reverse_reverse]

end FactoryRegistry.Text
