/-!
# Sets of characters

A property of characters is a list of ranges of code points, in increasing
order.

Main definitions:

- {lit}`CodeRanges.contains` tells whether a character lies in one of the ranges.
-/

namespace PocketCalculator

/-- Ranges of code points, each with its first and its last. -/
abbrev CodeRanges := List (Nat × Nat)

namespace CodeRanges

/-- Whether a character lies in one of the ranges. -/
def contains (ranges : CodeRanges) (c : Char) : Bool :=
  ranges.any fun range => range.1 ≤ c.toNat && c.toNat ≤ range.2

end CodeRanges

end PocketCalculator
