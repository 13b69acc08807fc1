import BidAdapter.Double.Scale
import BidAdapter.Double.Shortest

/-!
# Doubles rounded to whole numbers

`wholeNearest` : the whole number nearest to a double.
-/

namespace BidAdapter.Double

set_option autoImplicit false

/-- The whole number nearest to a double that is finite and not negative, of two the larger. Where the exponent is not
negative the double is whole. -/
def wholeNearest (x : Float) : Float :=
  let p := parts x
  if 0 ≤ p.exponent then x
  else
    let unit := 2 ^ (-p.exponent).toNat
    nearest ((2 * p.significand + unit) / (2 * unit)) 0

end BidAdapter.Double
