/-!
# Sets of characters

`inRanges` : whether a character is in a set that is given by ranges of code points.
-/

namespace BidAdapter.Text

set_option autoImplicit false

/-- Whether the code point of a character lies in one of the ranges, ends included. -/
def inRanges (ranges : Array (Nat × Nat)) (c : Char) : Bool := ranges.any fun r => r.1 ≤ c.toNat && c.toNat ≤ r.2

end BidAdapter.Text
