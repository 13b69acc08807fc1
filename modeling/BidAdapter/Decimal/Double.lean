import BidAdapter.Decimal.Reader
import BidAdapter.Double.Text
import BidAdapter.Double.Whole
import BidAdapter.Json.Decoder

/-!
# Decimals in documents

`Decimal.toDouble` : the double that is written for a decimal; `Decimal.ofDouble?` : the decimal of the shortest text of
a double; `Decimal.decoder` : a decimal from a number or from the text of a decimal.
-/

namespace BidAdapter.Decimal

set_option autoImplicit false

/-- The double of a decimal without its sign. The whole part and the fraction are rounded each, and their sum once more
to the places of the scale, which removes what the addition brought in. -/
def magnitude (coefficient scale : Nat) : Float :=
  if scale = 0 then Double.nearest coefficient 0
  else
    let unit := 10 ^ scale
    let whole := Double.nearest (coefficient / unit) 0
    let fraction := Double.nearest (coefficient % unit) 0 / Double.nearest unit 0
    if fraction == 0 then whole
    else
      let places := Double.nearest 1 scale
      Double.wholeNearest ((whole + fraction) * places) / places

/-- The double that stands for a decimal. -/
def toDouble (d : Decimal) : Float :=
  let x := magnitude d.coefficient d.scale
  if d.negative then -x else x

/-- The decimal of the shortest digits of a double, if it fits. -/
def ofDouble? (x : Float) : Option Decimal := plain? (Double.plainText x)

/-- What stands for a decimal, as messages name it. -/
def title : String := "a Decimal type representing a fixed-point number"

/-- A decimal from a number, or from the text of one. -/
def decoder : Json.Decoder Decimal
  | _, .number (.int n fits) => .ok (ofInt n fits)
  | _, .number (.real x finite) =>
    match ofDouble? x with
    | some d => .ok d
    | none => .error (.shape (.outOfRange (.number (.real x finite)) title))
  | _, .string s =>
    match ofText? s.toList with
    | some d => .ok d
    | none => .error (.shape (.outOfRange (.string s) title))
  | _, doc => Json.mistyped title doc

end BidAdapter.Decimal
