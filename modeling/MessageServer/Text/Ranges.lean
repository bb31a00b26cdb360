/-!
# Sets of characters as ranges

A property of characters is listed as ranges of code points, both ends included.
-/

namespace MessageServer.Text

/-- Whether the code point of `c` lies in one of the ranges. -/
def inRanges (ranges : Array (Nat × Nat)) (c : Char) : Bool :=
  ranges.any fun r => r.1 ≤ c.toNat && c.toNat ≤ r.2

end MessageServer.Text
