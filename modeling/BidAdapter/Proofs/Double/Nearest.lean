import BidAdapter.Decimal.Double
import BidAdapter.Proofs.Double.Arithmetic

/-!
# How large doubles of decimals are

* `below_nearest` : the double nearest to a decimal of that many digits in front of its point; `below_ofInt` : the double
  of an integer;
* `below_wholeNearest` : a double rounded to a whole number;
* `Decimal.below_toDouble` : the double that is written for a decimal;
* `below_of_lt_two` : a factor between one and two.
-/

namespace BidAdapter.Double

set_option autoImplicit false

open Float.Model (Format UnpackedFloat)
open Float.Model.UnpackedFloat

variable {k : Nat} {x : Float}

/-! ## Decimals -/

/-- Four binary digits hold a decimal one. -/
theorem log2_lt_of_digits {m n : Nat} (h : m < 10 ^ n) : m.log2 < 4 * n + 1 := by
  have hpow : 10 ^ n ≤ 2 ^ (4 * n) := by
    rw [Nat.pow_mul]
    exact Nat.pow_le_pow_left (by decide) n
  have hlog : m.log2 ≤ 4 * n := log2_le_of_lt (by rw [Nat.pow_succ]; omega)
  omega

theorem log2_pow_ten_le (n : Nat) : (10 ^ n).log2 ≤ 4 * n := by
  have hlt : 10 ^ n < 2 ^ (4 * n + 1) := by
    rw [Nat.pow_succ, Nat.pow_mul]
    have hle : 10 ^ n ≤ (2 ^ 4) ^ n := Nat.pow_le_pow_left (by decide) n
    have hpos : 0 < (2 ^ 4) ^ n := Nat.pow_pos (by decide)
    omega
  exact log2_le_of_lt hlt

theorem lt_pow_digits (m : Nat) : m < 10 ^ (Nat.toDigits 10 m).length :=
  (Nat.length_toDigits_le_iff (by decide) Nat.length_toDigits_pos).mp (le_refl _)

theorem below_zero : Below k 0 := Below.mono (by decide +kernel : Below 0 0) (Nat.zero_le k)

/-- The powers of ten that are doubles. -/
theorem below_exactPower : ∀ e : Fin Float.exactlyRepresentablePowersOfTen.size,
    Below (4 * e + 1) Float.exactlyRepresentablePowersOfTen[e] ∧ 0 ≤ binade Float.exactlyRepresentablePowersOfTen[e] := by
  decide +kernel

theorem below_toFloat {m : Nat} (hm : m < 2 ^ 64) (hk : m.log2 + 1 < k) (h : k ≤ 972) : Below k m.toUInt64.toFloat := by
  have hnat : m.toUInt64.toNat = m := UInt64.toNat_ofNat_of_lt' hm
  refine Under.below_pack (under_normalize ?_) h
  rw [hnat, Int.natAbs_natCast]
  omega

/-- A small number, which is multiplied or divided by a power of ten that is a double. -/
theorem below_small {m e n : Nat} {negative : Bool} (hm : m < 2 ^ 53) (he : e ≤ 22)
    (h : negative = false → (Nat.toDigits 10 m).length + e ≤ n) (hn : n ≤ 200) :
    Below (4 * n + 56) (Float.ofScientific m negative e) := by
  have hlt : e < Float.exactlyRepresentablePowersOfTen.size := by
    show e < 23
    omega
  obtain ⟨hpower, hone⟩ := below_exactPower ⟨e, hlt⟩
  have hfast : Float.ofScientific m negative e =
      if negative then m.toUInt64.toFloat / Float.exactlyRepresentablePowersOfTen[e]
      else m.toUInt64.toFloat * Float.exactlyRepresentablePowersOfTen[e] := dif_pos ⟨hm, he⟩
  rw [hfast]
  cases negative with
  | true =>
    have hlog : m.log2 ≤ 52 := log2_le_of_lt hm
    have hfloat : Below 54 m.toUInt64.toFloat := below_toFloat (by omega) (by omega) (by omega)
    exact (hfloat.div hpower.finite hone (by omega)).mono (by omega)
  | false =>
    have hsize := h rfl
    have hlog := log2_lt_of_digits (lt_pow_digits m)
    have hfloat : Below (4 * (Nat.toDigits 10 m).length + 2) m.toUInt64.toFloat :=
      below_toFloat (by omega) (by omega) (by omega)
    exact (hfloat.mul hpower (by dsimp only; omega)).mono (by dsimp only; omega)

/-- Any other number, whose decimal is rounded at once. -/
theorem under_ofScientific {m n : Nat} {e : Int} (h : (Nat.toDigits 10 m).length + e ≤ n) (hn : n ≤ 200) :
    Under (4 * n + 56) (UnpackedFloat.ofScientific .binary64 m e) := by
  have hm := lt_pow_digits m
  have hhigh : ¬e > 2 ^ Format.binary64.exponentBits := by
    show ¬e > 2048
    omega
  unfold UnpackedFloat.ofScientific
  by_cases hzero : m = 0
  · rw [dif_pos hzero]
    exact .zero _
  rw [dif_neg hzero, if_neg hhigh]
  by_cases hlow : e < -(2 ^ Format.binary64.exponentBits + (m.log2 : Int))
  · rw [if_pos hlow]
    exact .zero _
  rw [if_neg hlow]
  by_cases hpos : 0 ≤ e
  · rw [if_pos hpos]
    have hlog := log2_lt_of_digits hm
    have hshift := log2_shiftLeft_le m Format.binary64.mantissaBits
    have hpower := log2_pow_ten_le e.toNat
    apply Under.mono (.mul (i := m.log2 + 1) (j := 4 * e.toNat + 1) (.finite _ _ _) (.finite _ _ _))
    · omega
    · omega
    · omega
  · rw [if_neg hpos]
    apply under_div
    -- the power of ten takes away all digits but those in front of the point
    have hle : m < 10 ^ n * 10 ^ (-e).toNat := by
      rw [← Nat.pow_add]
      exact lt_of_lt_of_le hm (Nat.pow_le_pow_right (by decide) (by omega))
    have hlog : m.log2 ≤ (10 ^ n * 10 ^ (-e).toNat).log2 := log2_le_of_lt (lt_trans hle Nat.lt_log2_self)
    have hmul := log2_mul_le (10 ^ n) (10 ^ (-e).toNat)
    have hpower := log2_pow_ten_le n
    omega

/-- A decimal of at most `n` digits in front of its point. -/
theorem below_ofScientific {m n : Nat} {e : Int} (h : (Nat.toDigits 10 m).length + e ≤ n) (hn : n ≤ 200) :
    Below (4 * n + 56) (Float.ofScientific m (decide (e < 0)) e.natAbs) := by
  by_cases hsmall : m < 2 ^ 53 ∧ e.natAbs ≤ 22
  · apply below_small hsmall.1 hsmall.2 _ hn
    intro hsign
    rw [decide_eq_false_iff_not] at hsign
    omega
  · have hslow : Float.ofScientific m (decide (e < 0)) e.natAbs = .ofModel (.ofScientific m e) := by
      have hexponent : (if decide (e < 0) = true then Int.negOfNat e.natAbs else Int.ofNat e.natAbs) = e := by
        split_ifs with hsign
        · rw [decide_eq_true_eq] at hsign
          rw [Int.negOfNat_eq, Int.ofNat_eq_natCast]
          omega
        · rw [decide_eq_true_eq] at hsign
          rw [Int.ofNat_eq_natCast]
          omega
      have hdecimal : Float.ofScientific m (decide (e < 0)) e.natAbs = .ofModel (.ofScientific m
          (if decide (e < 0) = true then Int.negOfNat e.natAbs else Int.ofNat e.natAbs)) := dif_neg hsmall
      rw [hdecimal, hexponent]
    rw [hslow]
    exact (under_ofScientific h hn).below_pack (by omega)

theorem below_nearest {m n : Nat} {e : Int} (h : (Nat.toDigits 10 m).length + e ≤ n) (hn : n ≤ 200) :
    Below (4 * n + 56) (nearest m e) := by
  unfold nearest
  dsimp only
  split_ifs with hzero hhigh hlow
  · exact below_zero
  · omega
  · exact below_zero
  · exact below_ofScientific h hn

/-- An integer of 64 bits. -/
theorem below_ofInt {n : Int} (fits : -2 ^ 63 ≤ n ∧ n < 2 ^ 64) : Below 136 (Float.ofInt n) := by
  have hnat : ∀ m : Nat, m < 10 ^ 20 → Below 136 (Float.ofNat m) := by
    intro m hm
    have hdigits : (Nat.toDigits 10 m).length ≤ 20 := (Nat.length_toDigits_le_iff (by decide) (by decide)).mpr hm
    exact below_ofScientific (n := 20) (e := 0) (by omega) (by decide)
  cases n with
  | ofNat m => exact hnat m (by rw [Int.ofNat_eq_natCast] at fits; omega)
  | negSucc m => exact (hnat (m + 1) (by omega)).neg (by decide)

/-! ## Whole numbers -/

/-- Three binary digits are less than a decimal one. -/
theorem lt_pow_ten (k : Nat) : 2 ^ k < 10 ^ (k / 3 + 1) := by
  calc 2 ^ k ≤ 2 ^ (3 * (k / 3 + 1)) := Nat.pow_le_pow_right (by decide) (by omega)
    _ = 8 ^ (k / 3 + 1) := by rw [Nat.pow_mul]
    _ < 10 ^ (k / 3 + 1) := Nat.pow_lt_pow_left (by decide) (by omega)

theorem below_wholeNearest (h : Below k x) (hk : k ≤ 400) : Below (4 * (k / 3 + 1) + 56) (wholeNearest x) := by
  have hlt := h.binade_lt
  unfold wholeNearest
  dsimp only
  split_ifs with hwhole
  · exact h.mono (by omega)
  · apply below_nearest _ (by omega)
    generalize hunit : 2 ^ (-(parts x).exponent).toNat = unit
    have hsignificand : (parts x).significand < 2 ^ k * unit := by
      rw [← hunit, ← Nat.pow_add]
      unfold binade at hlt
      exact lt_of_lt_of_le Nat.lt_log2_self (Nat.pow_le_pow_right (by decide) (by omega))
    have hrounded : (2 * (parts x).significand + unit) / (2 * unit) ≤ 2 ^ k := by
      apply Nat.le_of_lt_succ
      apply Nat.div_lt_of_lt_mul
      rw [Nat.mul_succ, Nat.mul_assoc, Nat.mul_comm unit]
      omega
    have hdigits := (Nat.length_toDigits_le_iff (by decide : 1 < 10) (Nat.succ_pos (k / 3))).mpr
      (lt_of_le_of_lt hrounded (lt_pow_ten k))
    omega

/-! ## Factors -/

/-- A factor from one up to two. -/
theorem below_of_lt_two (hone : 1 ≤ x) (htwo : x < 2) : Below 1 x := by
  have hle : UnpackedFloat.le (.finite .positive (2 ^ 52) (-52) (by decide)) x.toModel.unpack = true :=
    of_decide_eq_true hone
  have hlt : UnpackedFloat.lt x.toModel.unpack (.finite .positive (2 ^ 52) (-51) (by decide)) = true :=
    of_decide_eq_true htwo
  have hfinite : x.isFinite = true := by
    show x.toModel.unpack.isFinite = true
    generalize x.toModel.unpack = u at hle hlt
    cases u with
    | infinity s => cases s with
      | positive => cases hlt
      | negative => cases hle
    | notANumber => cases hlt
    | zero s => rfl
    | finite s m e hm => rfl
  refine ⟨hfinite, ?_⟩
  have hx := unpacked_of_isFinite hfinite
  have hsignificand := significand_lt x
  generalize x.toModel.unpack = u at hle hlt hx
  cases hx with
  | zero s hzero =>
    rw [binade_of_zero hzero]
    decide
  | @finite s m e hm hparts =>
    unfold binade
    rw [hparts] at hsignificand ⊢
    dsimp only at hsignificand ⊢
    cases s with
    | negative => cases hle
    | positive =>
      have hcompare : ((compare e (-51)).then (compare m (2 ^ 52))) = .lt := by
        unfold UnpackedFloat.lt UnpackedFloat.compare at hlt
        simpa using hlt
      rw [Ordering.then_eq_lt, Int.compare_eq_lt, Int.compare_eq_eq, Nat.compare_eq_lt] at hcompare
      rcases hcompare with he | ⟨rfl, hlow⟩
      · have hlog : m.log2 ≤ 52 := log2_le_of_lt hsignificand
        omega
      · have hlog : m.log2 ≤ 51 := log2_le_of_lt hlow
        omega

end BidAdapter.Double

namespace BidAdapter.Decimal

set_option autoImplicit false

open Double

/-- The powers of ten that a scale may have. -/
theorem power_of_scale : ∀ scale : Nat, scale ≤ 28 →
    (nearest (10 ^ scale) 0).isFinite = true ∧ 0 ≤ binade (nearest (10 ^ scale) 0) ∧
      (nearest 1 scale).isFinite = true ∧ 0 ≤ binade (nearest 1 scale) := by
  decide +kernel

theorem below_whole {n : Nat} (h : n < 2 ^ 96) : Below 172 (nearest n 0) := by
  have hdigits : (Nat.toDigits 10 n).length ≤ 29 := by
    apply (Nat.length_toDigits_le_iff (by decide) (by decide)).mpr
    exact lt_trans h (by decide)
  exact below_nearest (n := 29) (by omega) (by omega)

/-- **The double of a decimal is finite**, and far from the largest one. -/
theorem below_toDouble (d : Decimal) : Below 525 d.toDouble := by
  have hmagnitude : Below 525 (magnitude d.coefficient d.scale) := by
    have hcoefficient := d.coefficient_fits
    obtain ⟨hunit, hunitone, hplaces, hplacesone⟩ := power_of_scale d.scale d.scale_fits
    unfold magnitude
    dsimp only
    split_ifs with hscale hzero
    · exact (below_whole hcoefficient).mono (by decide)
    · have hwhole : d.coefficient / 10 ^ d.scale < 2 ^ 96 := lt_of_le_of_lt (Nat.div_le_self _ _) hcoefficient
      exact (below_whole hwhole).mono (by decide)
    · have hwhole : Below 173 (nearest (d.coefficient / 10 ^ d.scale) 0) :=
        (below_whole (lt_of_le_of_lt (Nat.div_le_self _ _) hcoefficient)).mono (by decide)
      have hrest : Below 172 (nearest (d.coefficient % 10 ^ d.scale) 0) :=
        below_whole (lt_of_le_of_lt (Nat.mod_le _ _) hcoefficient)
      have hfraction := hrest.div hunit hunitone (by decide)
      have hpower : Below 172 (nearest 1 d.scale) := by
        have hfits := d.scale_fits
        have hdigit : (Nat.toDigits 10 1).length = 1 := rfl
        exact below_nearest (n := 29) (by omega) (by omega)
      have hsum := (hwhole.add hfraction (by decide)).mul hpower (by decide)
      exact (below_wholeNearest hsum (by decide)).div hplaces hplacesone (by decide)
  unfold toDouble
  dsimp only
  split_ifs
  · exact hmagnitude.neg (by decide)
  · exact hmagnitude

end BidAdapter.Decimal
