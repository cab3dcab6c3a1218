/-!
# Sets of characters given by ranges

A property of the character database is a list of ranges of code points, first and last
included, in ascending order.
-/

namespace FaultConsole.Text

/-- Whether a character lies in one of the ranges. -/
def inRanges (ranges : List (Nat × Nat)) (c : Char) : Bool :=
  ranges.any fun r => r.1 ≤ c.toNat && c.toNat ≤ r.2

end FaultConsole.Text
