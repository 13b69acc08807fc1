import BidAdapter.Power

/-!
# Decimals as doubles

`nearest` : the double nearest to `m * 10 ^ e`; `stepwise` : the double of the nearest significand after one rounded
multiplication or division by a power of ten, which may lie one unit beside the nearest double; `Significand` : the
digits that a 64-bit significand takes in.
-/

namespace BidAdapter.Double

set_option autoImplicit false

/-- The double nearest to `m * 10 ^ e`, the even one of two; beyond the range it is infinite, far below it zero. -/
def nearest (m : Nat) (e : Int) : Float :=
  if m = 0 then 0
  else
    let size := (Nat.toDigits 10 m).length
    if 310 < (size : Int) + e then Float.ofBits 0x7FF0000000000000
    else if (size : Int) + e < -400 then 0
    else Float.ofScientific m (decide (e < 0)) e.natAbs

/-- The powers of ten of the double range, each rounded to nearest. -/
def powersOfTen : Array Float := (Array.range 309).map fun k => nearest 1 (Int.ofNat k)

/-- The power `10 ^ k`, for `k` of the double range. -/
def powerOfTen (k : Nat) : Float := powersOfTen.getD k 0

/-- The double of the significand, times or divided by the power of ten. Beyond `10 ^ 308` a nonzero product has no
double; a division goes by `10 ^ 308` first where one power does not reach, and after two such steps nothing is left. -/
def stepwise (significand : UInt64) (e : Int) : Float :=
  let f := significand.toFloat
  if 0 ≤ e then
    if e ≤ 308 then f * powerOfTen e.toNat
    else if significand = 0 then 0 else Float.ofBits 0x7FF0000000000000
  else if -308 ≤ e then f / powerOfTen (-e).toNat
  else if -616 ≤ e then f / powerOfTen 308 / powerOfTen (-e - 308).toNat
  else 0

/-- The leading digits that keep a significand below `2 ^ 64`, and how many of them there are. -/
structure Significand where
  value : UInt64
  taken : Nat

/-- Take in digits from the left as long as the significand stays below `2 ^ 64`. -/
def Significand.takeIn (s : Significand) : List Nat → Significand
  | [] => s
  | d :: ds =>
    if s.value.toNat * 10 + d < 2 ^ 64 then takeIn ⟨s.value * 10 + UInt64.ofNat d, s.taken + 1⟩ ds else s

/-- The double of the decimal `whole.fraction * 10 ^ e` by a 64-bit significand: each of the two runs of digits gives
its leading digits that fit; a digit of the whole part that does not fit still counts as a place. -/
def ofDecimal (whole fraction : List Nat) (e : Int) : Float :=
  let w := Significand.takeIn ⟨0, 0⟩ whole
  let f := Significand.takeIn ⟨w.value, 0⟩ fraction
  stepwise f.value (e + ((whole.length - w.taken : Nat) : Int) - (f.taken : Int))

end BidAdapter.Double
