/-!
# Ranges of code points

Unicode properties are given as ascending lists of ranges of code points.
-/

namespace DhcpLeasing.Text

/-- Whether one of the ranges, each written as its first and its last code point, holds `c`. -/
def inRanges (ranges : List (Nat × Nat)) (c : Char) : Bool :=
  ranges.any fun range => range.1 ≤ c.toNat && c.toNat ≤ range.2

end DhcpLeasing.Text
