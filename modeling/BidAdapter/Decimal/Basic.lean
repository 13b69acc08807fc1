import BidAdapter.Power

/-!
# Decimals

`Decimal` : a sign, a coefficient below `2 ^ 96`, and a scale of at most 28 places; equal values may differ in scale,
and zero may have a sign. `Decimal.le` : the order of the values; `Decimal.text` : all places of the scale.
-/

namespace BidAdapter

set_option autoImplicit false

/-- The decimal `coefficient / 10 ^ scale`, or its negative. -/
structure Decimal where
  negative : Bool
  coefficient : Nat
  scale : Nat
  coefficient_fits : coefficient < 2 ^ 96
  scale_fits : scale ≤ 28
deriving DecidableEq

namespace Decimal

/-- The decimal of a sign, a coefficient and a scale, when both fit. -/
def ofParts? (negative : Bool) (coefficient scale : Nat) : Option Decimal :=
  if h : coefficient < 2 ^ 96 ∧ scale ≤ 28 then some ⟨negative, coefficient, scale, h.1, h.2⟩ else none

/-- An integer of 64 bits. -/
def ofInt (n : Int) (fits : -2 ^ 63 ≤ n ∧ n < 2 ^ 64) : Decimal where
  negative := decide (n < 0)
  coefficient := n.natAbs
  scale := 0
  coefficient_fits := by omega
  scale_fits := by omega

def signed (d : Decimal) : Int := if d.negative then -(d.coefficient : Int) else d.coefficient

/-- Whether the value of `a` is at most that of `b`, whatever their scales. -/
def le (a b : Decimal) : Bool := decide (a.signed * 10 ^ b.scale ≤ b.signed * 10 ^ a.scale)

/-- The larger of two decimals; of equal values the first, with its scale and sign. -/
def max (a b : Decimal) : Decimal := if le b a then a else b

/-- The text with all places of the scale. -/
def text (d : Decimal) : String :=
  let digits := Nat.toDigits 10 d.coefficient
  let padded := List.replicate (d.scale + 1 - digits.length) '0' ++ digits
  let whole := padded.take (padded.length - d.scale)
  let places := padded.drop (padded.length - d.scale)
  let sign := if d.negative then ['-'] else []
  String.ofList (sign ++ whole ++ if d.scale = 0 then [] else '.' :: places)

end Decimal

end BidAdapter
