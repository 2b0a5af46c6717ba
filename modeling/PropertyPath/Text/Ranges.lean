/-!
# Sets of characters by ranges

A set of characters given as closed ranges of code points.
-/

namespace PropertyPath.Text

/-- Whether the code point of a character lies in one of the ranges. -/
def inRanges (ranges : List (Nat × Nat)) (c : Char) : Bool :=
  ranges.any fun (low, high) => low ≤ c.toNat && c.toNat ≤ high

end PropertyPath.Text
