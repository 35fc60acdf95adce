/-!
# Sets of code points

A property of characters is given as a list of closed ranges of code points.
-/

namespace Offside.Unicode

/-- The code point of `c` lies in one of the ranges, whose ends belong to them. -/
def covers (ranges : List (Nat × Nat)) (c : Char) : Bool :=
  ranges.any fun range => range.1 ≤ c.toNat && c.toNat ≤ range.2

end Offside.Unicode
