/-!
# Sets of code points

Character classes of the Unicode standard are unions of ranges. A `CodePointSet` lists the
points at which membership changes, in increasing order, so that a class of many ranges is a
plain list of numbers. The classes themselves are tables in the modules that use them.
-/

namespace FactoryRegistry.Text

/-- A set of code points, given by the points at which membership changes. -/
structure CodePointSet where
  /-- Increasing code points. The first one enters the set, the next one leaves it, and so on. -/
  boundaries : List Nat

namespace CodePointSet

/-- A character is in the set when an odd number of boundaries lie at or below it. -/
def contains (s : CodePointSet) (c : Char) : Bool :=
  (s.boundaries.takeWhile (· ≤ c.toNat)).length % 2 == 1

end CodePointSet

end FactoryRegistry.Text
