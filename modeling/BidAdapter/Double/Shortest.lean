import BidAdapter.Power

/-!
# Shortest decimals of doubles

`Parts` : a finite double as `significand * 2 ^ exponent`; `Interval` : the reals that round to it; `shortest` : the
point of the coarsest power-of-ten grid that lies in the interval, and of two such points the nearer one. A decimal of
fewer digits would be a point of a coarser grid, so no shorter text reads back as the same double.
-/

namespace BidAdapter.Double

set_option autoImplicit false

/-- A finite double without its sign: `significand * 2 ^ exponent`. -/
structure Parts where
  significand : Nat
  exponent : Int
deriving Repr, DecidableEq

/-- The sign bit. -/
def isNegative (x : Float) : Bool := x.toBits.toNat / 2 ^ 63 == 1

/-- The significand and exponent of a finite double; below the normal range the exponent stays at its least value. -/
def parts (x : Float) : Parts :=
  let bits : Nat := x.toBits.toNat
  let fraction := bits % 2 ^ 52
  let biased := bits / 2 ^ 52 % 2 ^ 11
  if biased = 0 then ⟨fraction, -1074⟩ else ⟨fraction + 2 ^ 52, Int.ofNat biased - 1075⟩

/-- The reals that round to a double, all three ends in units of `2 ^ unit`. -/
structure Interval where
  low : Nat
  value : Nat
  high : Nat
  unit : Int
  /-- Whether the ends themselves round to the double. -/
  closed : Bool

/-- Half a unit on each side, and a quarter below a power of two, where the doubles are twice as dense. Ties go to the
even significand, so the ends belong to the interval exactly then. -/
def Parts.interval (p : Parts) : Interval where
  low := if p.significand = 2 ^ 52 ∧ -1074 < p.exponent then 4 * p.significand - 1 else 4 * p.significand - 2
  value := 4 * p.significand
  high := 4 * p.significand + 2
  unit := p.exponent - 2
  closed := p.significand % 2 == 0

/-- A decimal: `coefficient * 10 ^ grid`. -/
structure Digits where
  coefficient : Nat
  grid : Int
deriving Repr, DecidableEq

namespace Interval

/-- The factor on the interval's ends that compares them with multiples of `10 ^ grid`. -/
def numerator (i : Interval) (grid : Int) : Nat := 2 ^ i.unit.toNat * 10 ^ (-grid).toNat

/-- The factor on a coefficient that compares it with the interval's ends. -/
def denominator (i : Interval) (grid : Int) : Nat := 2 ^ (-i.unit).toNat * 10 ^ grid.toNat

/-- Whether `c * 10 ^ grid` lies in the interval. -/
def contains (i : Interval) (grid : Int) (c : Nat) : Bool :=
  let point := c * i.denominator grid
  let low := i.low * i.numerator grid
  let high := i.high * i.numerator grid
  if i.closed then decide (low ≤ point ∧ point ≤ high) else decide (low < point ∧ point < high)

/-- The point of the grid that lies in the interval, the nearer of two, the even one of two at the same distance. -/
def pointOn (i : Interval) (grid : Int) : Option Nat :=
  let value := i.value * i.numerator grid
  let step := i.denominator grid
  let below := value / step
  match i.contains grid below, i.contains grid (below + 1) with
  | true, true =>
    let left := value - below * step
    let right := (below + 1) * step - value
    if left < right ∨ (left = right ∧ below % 2 = 0) then some below else some (below + 1)
  | true, false => some below
  | false, true => some (below + 1)
  | false, false => none

/-- Try ever finer grids, starting at `grid`. -/
def search (i : Interval) : Nat → Int → Digits
  | 0, grid => ⟨i.value * i.numerator grid / i.denominator grid, grid⟩
  | tries + 1, grid =>
    match i.pointOn grid with
    | some c => ⟨c, grid⟩
    | none => search i tries (grid - 1)

end Interval

/-- An exponent of ten above which no point of the grid but zero can lie at the double: `⌊log₁₀ x⌋` lies within one of
the estimate. -/
def Parts.topGrid (p : Parts) : Int := ((p.significand.log2 : Int) + p.exponent) * 30103 / 100000 + 2

/-- The fewest digits that read back as the same double; zero has the digit zero. -/
def shortest (x : Float) : Digits :=
  let p := parts x
  if p.significand = 0 then ⟨0, 0⟩ else p.interval.search 24 p.topGrid

end BidAdapter.Double
