import BidAdapter.Decimal.Basic
import Mathlib.Data.Rat.Floor
import Mathlib.Tactic.Linarith
import Mathlib.Tactic.Positivity

/-!
# The values of decimals

* `value` : the number that a decimal is; `value_le_iff`, `max_eq` : decimals of any scales are compared by it, exactly;
* `Near` : a decimal less than one unit of its last place away from a number; `SignOf.near` : where the signs agree, it is
  enough to compare the sizes;
* `Unfit` : the numbers that are too large for a decimal; `RoundsTo` : a size rounded to a coefficient and a scale.
-/

namespace BidAdapter.Decimal

set_option autoImplicit false

variable {d : Decimal} {q : ℚ} {c s : Nat}

/-- The number that a decimal is. -/
def value (d : Decimal) : ℚ := d.signed / 10 ^ d.scale

theorem value_le_iff {a b : Decimal} : le a b = true ↔ a.value ≤ b.value := by
  unfold le value
  rw [decide_eq_true_iff, div_le_div_iff₀ (by positivity) (by positivity)]
  norm_cast

theorem max_eq (a b : Decimal) : a.max b = if b.value ≤ a.value then a else b := by
  unfold Decimal.max
  simp only [value_le_iff]

/-! ## Signs -/

/-- The sign of a decimal is that of a number, but for a decimal that is zero. -/
structure SignOf (d : Decimal) (q : ℚ) : Prop where
  negative : d.negative = true → q ≤ 0
  positive : d.negative = false → 0 ≤ q ∨ d.coefficient = 0

/-- The sign remains when the point moves. -/
theorem SignOf.scale {b : Decimal} {r : ℚ} (h : b.SignOf q) (hr : 0 ≤ r) (hneg : d.negative = b.negative)
    (hzero : b.coefficient = 0 → d.coefficient = 0) : d.SignOf (q * r) where
  negative hminus := mul_nonpos_of_nonpos_of_nonneg (h.negative (hneg ▸ hminus)) hr
  positive hplus := (h.positive (hneg ▸ hplus)).imp (fun hq => mul_nonneg hq hr) hzero

/-- Less than one unit of the last place away. -/
def Near (d : Decimal) (q : ℚ) : Prop := |d.value - q| * 10 ^ d.scale < 1

theorem SignOf.near (h : d.SignOf q) (hsize : |(d.coefficient : ℚ) - |q| * 10 ^ d.scale| < 1) : d.Near q := by
  have hpos : (0 : ℚ) < 10 ^ d.scale := by positivity
  have hvalue : d.value * 10 ^ d.scale = d.signed := div_mul_cancel₀ _ hpos.ne'
  unfold Near
  rw [← abs_of_pos hpos, ← abs_mul, sub_mul, hvalue]
  convert hsize using 1
  unfold signed
  cases hneg : d.negative with
  | true =>
    rw [if_pos rfl, abs_of_nonpos (h.negative hneg), ← abs_neg]
    congr 1
    push_cast
    ring
  | false =>
    rw [if_neg (by decide)]
    rcases h.positive hneg with hq | hzero
    · rw [abs_of_nonneg hq]
      norm_cast
    · rw [hzero]
      simp [abs_mul]

/-! ## Rounded numbers -/

/-- The number is so large that the whole number nearest to it is no decimal. -/
def Unfit (q : ℚ) : Prop := 2 ^ 96 - 1 / 2 ≤ |q|

/-- A size rounded to places: the nearest coefficient, and of two the larger. Where it is not exact, another place would
not fit. -/
structure RoundsTo (q : ℚ) (c s : Nat) : Prop where
  nearest : round (q * 10 ^ s) = (c : ℤ)
  full : q * 10 ^ s = c ∨ s = 28 ∨ 2 ^ 96 - 1 / 2 ≤ q * 10 ^ (s + 1)

theorem RoundsTo.bounds (h : RoundsTo q c s) : (c : ℚ) - 1 / 2 ≤ q * 10 ^ s ∧ q * 10 ^ s < c + 1 / 2 := by
  have hmem := round_eq_iff.mp h.nearest
  rw [Set.mem_Ico] at hmem
  exact_mod_cast hmem

theorem RoundsTo.abs_sub_le (h : RoundsTo q c s) : |(c : ℚ) - q * 10 ^ s| ≤ 1 / 2 := by
  obtain ⟨hlow, hhigh⟩ := h.bounds
  rw [abs_le]
  constructor <;> linarith

/-- With room for another place it is exact. -/
theorem RoundsTo.exact (h : RoundsTo q c s) (hs : s < 28) (hc : c * 10 < 2 ^ 96) : q * 10 ^ s = c := by
  rcases h.full with hexact | hlast | hlarge
  · exact hexact
  · omega
  · have hroom : c * 10 + 6 ≤ 2 ^ 96 := by omega
    have hroom' : (c : ℚ) * 10 + 6 ≤ 2 ^ 96 := by exact_mod_cast hroom
    have hhigh := h.bounds.2
    rw [pow_succ (10 : ℚ)] at hlarge
    linarith

theorem Unfit.of_abs_le {r : ℚ} (h : Unfit q) (hle : |q| ≤ |r|) : Unfit r := le_trans h hle

theorem not_unfit_of_lt (hc : c < 2 ^ 96) (hlt : |q| * 10 ^ s < c + 1 / 2) : ¬Unfit q := by
  have hle : (c : ℚ) + 1 ≤ 2 ^ 96 := by exact_mod_cast hc
  have hone : (1 : ℚ) ≤ 10 ^ s := one_le_pow₀ (by norm_num)
  have hsize := le_mul_of_one_le_right (abs_nonneg q) hone
  unfold Unfit
  linarith

theorem RoundsTo.not_unfit (h : RoundsTo (|q|) c s) (hc : c < 2 ^ 96) : ¬Unfit q := not_unfit_of_lt hc h.bounds.2

end BidAdapter.Decimal
