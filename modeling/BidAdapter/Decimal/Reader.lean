import BidAdapter.Decimal.Basic
import BidAdapter.Text.Integer

/-!
# Reading decimals

`Decimal.plain?` : a decimal without an exponent. Places beyond what a decimal holds are rounded by the first of them,
half away from zero. `Decimal.scientific?` : a plain decimal with an exponent, by moving the point, which rounds the
places that leave the scale once more; `Decimal.ofText?` : the one or the other.
-/

namespace BidAdapter.Decimal

set_option autoImplicit false

/-! ## Plain decimals -/

/-- What has been read of a plain decimal. -/
structure Partial where
  /-- The digits read so far as a number. -/
  coefficient : Nat
  /-- The digits behind the point. -/
  scale : Nat
  /-- Whether a digit was read. -/
  digits : Bool
  /-- Whether the point was read. -/
  point : Bool

/-- Round up a coefficient that is full: one place less where the increment does not fit, and no decimal without one. -/
def roundUp (coefficient scale : Nat) : Option (Nat × Nat) :=
  if coefficient + 1 < 2 ^ 96 then some (coefficient + 1, scale)
  else match scale with
    | 0 => none
    | scale + 1 => some ((coefficient + 1 + 4) / 10, scale)

/-- The end of a decimal whose next place, of value `next`, is not kept. Behind it stand only digits and underscores,
which do not count. -/
def roundOff (coefficient scale next : Nat) (rest : List Char) : Option (Nat × Nat) :=
  if rest.any fun c => !c.isDigit && c != '_' then none
  else if 5 ≤ next then roundUp coefficient scale
  else some (coefficient, scale)

/-- The digits, the point and the grouping underscores of a plain decimal. An underscore needs a digit before it. -/
def readPlaces (p : Partial) : List Char → Option (Nat × Nat)
  | [] => if p.digits then some (p.coefficient, p.scale) else none
  | c :: cs =>
    if c.isDigit then
      let d := c.toNat - '0'.toNat
      if p.point && p.scale == 28 then roundOff p.coefficient p.scale d cs
      else if p.coefficient * 10 + d < 2 ^ 96 then
        readPlaces ⟨p.coefficient * 10 + d, if p.point then p.scale + 1 else p.scale, true, p.point⟩ cs
      else if p.point then roundOff p.coefficient p.scale d cs
      else none
    else if c = '.' && !p.point then readPlaces { p with point := true } cs
    else if c = '_' && p.digits then readPlaces p cs
    else none

/-- The decimal of a sign and places; a zero that is written has no sign. -/
def ofPlaces? (negative : Bool) (p : Nat × Nat) : Option Decimal := ofParts? (negative && p.1 != 0) p.1 p.2

/-- A decimal without an exponent. -/
def plain? (s : List Char) : Option Decimal :=
  match s with
  | '-' :: cs => (readPlaces ⟨0, 0, false, false⟩ cs).bind (ofPlaces? true)
  | '+' :: cs => (readPlaces ⟨0, 0, false, false⟩ cs).bind (ofPlaces? false)
  | cs => (readPlaces ⟨0, 0, false, false⟩ cs).bind (ofPlaces? false)

/-! ## Decimals with an exponent -/

/-- A coefficient without its last places, rounded half away from zero. -/
def dropPlaces (coefficient places : Nat) : Nat := (coefficient + 10 ^ places / 2) / 10 ^ places

/-- The decimal that an exponent moves down. The scale ends at 28: what a decimal of that scale does not hold is rounded
away, and the sign stays, even that of a zero. No exponent beyond 28 is taken. -/
def lower? (base : Decimal) (exponent : Nat) : Option Decimal :=
  if 28 < exponent then none
  else
    let excess := base.scale + exponent - 28
    ofParts? base.negative (dropPlaces base.coefficient excess) (base.scale + exponent - excess)

/-- The decimal that an exponent moves up; beyond its scale the value is whole, and no exponent above 28 is taken. -/
def raise? (base : Decimal) (exponent : Nat) : Option Decimal :=
  if exponent ≤ base.scale then ofParts? base.negative base.coefficient (base.scale - exponent)
  else if 28 < exponent then none
  else ofParts? base.negative (base.coefficient * 10 ^ (exponent - base.scale)) 0

/-- A decimal with an exponent behind the first letter `e`. -/
def scientific? (s : List Char) : Option Decimal := do
  let isE (c : Char) : Bool := c = 'e' || c = 'E'
  let base ← plain? (s.takeWhile fun c => !isE c)
  match s.dropWhile fun c => !isE c with
  | [] => none
  | _ :: '-' :: cs => lower? base (← Text.nat32? cs)
  | _ :: cs => raise? base (← Text.nat32? cs)

/-- A decimal with or without an exponent. -/
def ofText? (s : List Char) : Option Decimal := (plain? s).or (scientific? s)

end BidAdapter.Decimal
