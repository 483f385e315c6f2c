/-!
# Classes of characters given by ranges

A class of the Unicode database is a list of closed ranges of code points in ascending order.
-/

namespace SolidityLayout.Text

/-- Whether a character lies in one of the given closed ranges of code points. -/
def inRanges (ranges : List (Nat × Nat)) (c : Char) : Bool :=
  ranges.any fun range => range.1 ≤ c.toNat && c.toNat ≤ range.2

end SolidityLayout.Text
