/-!
# Similar names

How alike two names are: twice the number of characters that they have in common, in order, over the
number of all characters. Common characters are counted by taking the longest common run and going
on to the left and to the right of it. `closest` picks the names that are most like a given one, to
suggest them in its place.
-/

namespace FactoryRegistry.CommandLine

/-- The length of the run that two texts begin with together. -/
def commonStart : List Char → List Char → Nat
  | a :: as, b :: bs => if a = b then commonStart as bs + 1 else 0
  | _, _ => 0

/-- The suffixes of a text with the places where they start, from `i` on. -/
def suffixesFrom (i : Nat) : List Char → List (Nat × List Char)
  | [] => []
  | c :: cs => (i, c :: cs) :: suffixesFrom (i + 1) cs

/-- The longest run that two texts have in common, as its places in them and its length. Of equally
long ones it is the first in the first text, then the first in the second. -/
def longestRun (as bs : List Char) : Nat × Nat × Nat :=
  (suffixesFrom 0 as).foldl (fun best (i, xs) =>
    (suffixesFrom 0 bs).foldl (fun best (j, ys) =>
      let length := commonStart xs ys
      if best.2.2 < length then (i, j, length) else best) best) (0, 0, 0)

/-- The number of characters in common, counting at most `fuel` nested runs. -/
def commonCount : (fuel : Nat) → List Char → List Char → Nat
  | 0, _, _ => 0
  | fuel + 1, as, bs =>
    let (i, j, length) := longestRun as bs
    if length = 0 then 0
    else
      length + commonCount fuel (as.take i) (bs.take j) +
        commonCount fuel (as.drop (i + length)) (bs.drop (j + length))

/-- The likeness of two texts as a fraction. -/
def likeness (a b : String) : Nat × Nat :=
  let as := a.toList
  let bs := b.toList
  (2 * commonCount (as.length + 1) as bs, as.length + bs.length)

/-- One fraction is less than another. -/
def fractionLess (p q : Nat × Nat) : Bool := p.1 * q.2 < q.1 * p.2

/-- The least likeness of names that are suggested. -/
def leastLikeness : Nat × Nat := (3, 5)

/-- The most names that are suggested. -/
def suggestionLimit : Nat := 3

/-- The names that are most like a given one, in alphabetical order. -/
def closest (name : String) (names : List String) : List String :=
  let scored := (names.map fun n => (likeness n name, n)).filter fun (p, _) =>
    !fractionLess p leastLikeness
  let best := scored.mergeSort fun (p, m) (q, n) =>
    fractionLess q p || (!fractionLess p q && n ≤ m)
  ((best.take suggestionLimit).map Prod.snd).mergeSort (· ≤ ·)

end FactoryRegistry.CommandLine
