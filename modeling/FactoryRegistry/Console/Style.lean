import FactoryRegistry.Number.Decimal

/-!
# Styled text

A terminal shows text in colours and weights when escape sequences stand around it. `Style.apply`
adds them, and `stripStyles` removes every such sequence from a text that goes elsewhere than to a
terminal.
-/

namespace FactoryRegistry.Console

open Number

/-- A colour of text. -/
inductive Colour where
  /-- For errors. -/
  | red
  /-- For success. -/
  | green
  /-- For headings and values. -/
  | cyan
  /-- For labels. -/
  | white
  deriving DecidableEq, Repr

/-- The number of a colour in escape sequences. -/
def Colour.code : Colour → Nat
  | red => 31
  | green => 32
  | cyan => 36
  | white => 37

/-- How a text is shown. -/
structure Style where
  /-- The colour, unless it is the usual one. -/
  colour : Option Colour := none
  /-- Bold, expressly not bold, or as usual. -/
  bold : Option Bool := none
  /-- Faint. -/
  dim : Bool := false
  deriving DecidableEq, Repr

/-- The character that begins an escape sequence. -/
def escape : Char := Char.ofNat 0x1b

/-- The escape sequence of a number. -/
def sequenceOf (code : Nat) : String := String.ofList (escape :: '[' :: decimal code ++ ['m'])

/-- The numbers that a style puts before a text. -/
def Style.codes (s : Style) : List Nat :=
  (match s.colour with
    | some c => [c.code]
    | none => []) ++
  (match s.bold with
    | some true => [1]
    | some false => [22]
    | none => []) ++
  (if s.dim then [2] else [])

/-- A text in a style. Whatever style a text has ends after it. -/
def Style.apply (s : Style) (text : String) : String :=
  String.join (s.codes.map sequenceOf) ++ text ++ sequenceOf 0

/-- A character between the start and the end of an escape sequence. -/
def isSequenceParameter (c : Char) : Bool := c == ';' || c == '?' || ('0' ≤ c && c ≤ '9')

/-- A character that ends an escape sequence. -/
def endsSequence (c : Char) : Bool := ('a' ≤ c && c ≤ 'z') || ('A' ≤ c && c ≤ 'Z')

/-- The length of the escape sequence that a text begins with, 0 if it begins with none. -/
def sequenceLength : List Char → Nat
  | a :: '[' :: cs =>
    let parameters := cs.takeWhile isSequenceParameter
    if a == escape && (cs.drop parameters.length).head?.any endsSequence then
      parameters.length + 3
    else 0
  | _ => 0

/-- The characters of a text that belong to no escape sequence, after `skipped` ones that do. -/
def stripFrom (skipped : Nat) : List Char → List Char
  | [] => []
  | c :: cs =>
    match skipped with
    | n + 1 => stripFrom n cs
    | 0 =>
      match sequenceLength (c :: cs) with
      | 0 => c :: stripFrom 0 cs
      | n + 1 => stripFrom n cs

/-- A text without escape sequences. -/
def stripStyles (text : String) : String := String.ofList (stripFrom 0 text.toList)

/-- A text without the character that begins escape sequences is left as it is. -/
theorem stripFrom_eq_self {cs : List Char} (h : escape ∉ cs) : stripFrom 0 cs = cs := by
  induction cs with
  | nil => rfl
  | cons c cs ih =>
    simp only [List.mem_cons, not_or] at h
    have hc : (c == escape) = false := by simpa using Ne.symm h.1
    have h0 : sequenceLength (c :: cs) = 0 := by
      cases cs with
      | nil => rfl
      | cons d cs =>
        by_cases hd : d = '['
        · subst hd
          simp [sequenceLength, hc]
        · simp [sequenceLength]
          simp_all
    simp only [stripFrom, h0, ih h.2]

end FactoryRegistry.Console
