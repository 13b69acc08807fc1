import BidAdapter.Decimal.Reader
import BidAdapter.Text.Blank

/-!
# Floors

`floorOf` : the decimal of a slot's floor, none when the text is blank or no decimal; `resolveFloor` : the larger of the
slot's floor and the impression's, so that a floor is never lowered.
-/

namespace BidAdapter

set_option autoImplicit false

/-- The decimal of a floor's text. -/
def floorOf (text : String) : Option Decimal := Decimal.ofText? (Text.trimChars text.toList)

/-- The larger of the slot's floor and the existing one; of equal values the slot's. -/
def largerFloor : Option Decimal → Option Decimal → Option Decimal
  | some slot, some existing => some (slot.max existing)
  | some slot, none => some slot
  | none, existing => existing

/-- The floor of an impression, from the text of the slot's floor and the existing floor. -/
def resolveFloor (text : Option String) (existing : Option Decimal) : Option Decimal :=
  largerFloor (text.bind floorOf) existing

end BidAdapter
