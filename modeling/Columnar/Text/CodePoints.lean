/-!
# Sets of code points

A property of characters is a list of ranges, first and last code point
included, in increasing order.
-/

namespace Columnar
namespace Text

abbrev CodePoints := List (Nat × Nat)

namespace CodePoints

def contains (ranges : CodePoints) (c : Char) : Bool :=
  ranges.any fun range => decide (range.1 ≤ c.toNat) &&
    decide (c.toNat ≤ range.2)

end CodePoints
end Text
end Columnar
