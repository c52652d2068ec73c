import Recheck.Text

/-!
# Ranges of code points

Classes of characters are given as lists of ranges.
-/

namespace Recheck.Text

/-- A range of code points, ends included. -/
structure CodeRange where
  first : Nat
  last : Nat

def CodeRange.holds (c : Char) (range : CodeRange) : Bool :=
  range.first ≤ c.toNat && c.toNat ≤ range.last

def isIn (ranges : List CodeRange) (c : Char) : Bool := ranges.any (CodeRange.holds c)

end Recheck.Text
