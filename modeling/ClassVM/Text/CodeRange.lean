/-! # Sets of characters given by ranges of code points

Properties of characters are tabulated as lists of ranges. A table is a plain list, so membership
is one scan and every table can be inspected by evaluation. -/

namespace ClassVM.Text

/-- The code points from `first` to `last`, both included. -/
structure CodeRange where
  first : Nat
  last : Nat
  deriving DecidableEq

/-- The character's code point lies in the range. -/
def CodeRange.contains (range : CodeRange) (c : Char) : Bool :=
  range.first ≤ c.toNat && c.toNat ≤ range.last

/-- The character lies in one of the ranges. -/
def inRanges (ranges : List CodeRange) (c : Char) : Bool :=
  ranges.any (·.contains c)

end ClassVM.Text
