import BidAdapter.Double.Shortest
import Mathlib.Data.Nat.Log

/-!
# How large the results of operations on doubles are

* `binade` : the power of two of the leading digit of a double; `Below` : a finite double below a power of two;
  `below_of_isFinite` : every finite double is below one;
* `Under` : the same of a number before it is packed into a double; `Below.under`, `Under.below_pack` : from the one to
  the other;
* `under_round` : rounding makes a number larger by at most one power of two;
* `Below.neg`, `Below.add`, `Below.mul`, `Below.div` : so do the operations, beside what the exact results need.

The bounds are coarse: a result that is far from the largest double is finite.
-/

namespace BidAdapter.Double

set_option autoImplicit false

open Float.Model (Format UnpackedFloat totalExponent)
open Float.Model.UnpackedFloat

variable {k : Nat} {x y : Float}

/-! ## Binary logarithms -/

/-- Zero has the logarithm zero. -/
theorem log2_le_of_lt {n a : Nat} (h : n < 2 ^ (a + 1)) : n.log2 ≤ a := by
  rcases Nat.eq_zero_or_pos n with rfl | hn
  · exact Nat.zero_le a
  · have hlt := (Nat.log2_lt (by omega)).mpr h
    omega

theorem log2_mul_le (m n : Nat) : (m * n).log2 ≤ m.log2 + n.log2 + 1 := by
  have hmul : m * n < 2 ^ (m.log2 + 1) * 2 ^ (n.log2 + 1) := Nat.mul_lt_mul'' Nat.lt_log2_self Nat.lt_log2_self
  apply log2_le_of_lt
  rw [← Nat.pow_add] at hmul
  rwa [show m.log2 + n.log2 + 1 + 1 = m.log2 + 1 + (n.log2 + 1) by omega]

theorem log2_shiftLeft_le (m s : Nat) : (m <<< s).log2 ≤ m.log2 + s := by
  have hmul : m * 2 ^ s < 2 ^ (m.log2 + 1) * 2 ^ s := Nat.mul_lt_mul_of_pos_right Nat.lt_log2_self (Nat.two_pow_pos s)
  apply log2_le_of_lt
  rw [← Nat.pow_add] at hmul
  rwa [Nat.shiftLeft_eq, show m.log2 + s + 1 = m.log2 + 1 + s by omega]

/-- Shifting right takes away digits, at most all of them. -/
theorem div_two_pow_lt (m s : Nat) : m / 2 ^ s < 2 ^ (m.log2 + 1 - s) := by
  apply Nat.div_lt_of_lt_mul
  rw [← Nat.pow_add]
  have hpow : 2 ^ (m.log2 + 1) ≤ 2 ^ (s + (m.log2 + 1 - s)) := Nat.pow_le_pow_right (by decide) (by omega)
  exact lt_of_lt_of_le Nat.lt_log2_self hpow

theorem log2_div_le {m n : Nat} (hn : n ≠ 0) : (m / n).log2 ≤ m.log2 - n.log2 := by
  have hdiv : m / n ≤ m / 2 ^ n.log2 := Nat.div_le_div_left (Nat.log2_self_le hn) (Nat.two_pow_pos _)
  have hlt := div_two_pow_lt m n.log2
  apply log2_le_of_lt
  have hpow : 2 ^ (m.log2 + 1 - n.log2) ≤ 2 ^ (m.log2 - n.log2 + 1) := Nat.pow_le_pow_right (by decide) (by omega)
  omega

theorem add_log2_le {m n s : Nat} (hm : m ≠ 0) (h : m * 2 ^ s ≤ n) : m.log2 + s ≤ n.log2 := by
  have hpos : 0 < m * 2 ^ s := Nat.mul_pos (by omega) (Nat.two_pow_pos s)
  rw [Nat.le_log2 (by omega), Nat.pow_add]
  exact le_trans (Nat.mul_le_mul_right _ (Nat.log2_self_le hm)) h

/-! ## The bits of a double -/

theorem toNat_packComponents (s : Sign) (e : BitVec 11) (m : BitVec 52) :
    (packComponents .binary64 s e m).toNat = (s.toBitVec.toNat * 2 ^ 11 + e.toNat) * 2 ^ 52 + m.toNat := by
  unfold packComponents
  rw [BitVec.toNat_append, BitVec.toNat_append, ← Nat.shiftLeft_add_eq_or_of_lt e.isLt,
    ← Nat.shiftLeft_add_eq_or_of_lt m.isLt, Nat.shiftLeft_eq, Nat.shiftLeft_eq]

theorem toNat_unpackMantissa (x : Float) :
    (@unpackMantissa .binary64 x.toModel.toBits.toBitVec).toNat = x.toBits.toNat % 2 ^ 52 := by
  simp only [unpackMantissa, BitVec.toNat_cast, BitVec.extractLsb_toNat, Nat.shiftRight_zero]
  rfl

theorem toNat_unpackExponent (x : Float) :
    (@unpackExponent .binary64 x.toModel.toBits.toBitVec).toNat = x.toBits.toNat / 2 ^ 52 % 2 ^ 11 := by
  simp only [unpackExponent, BitVec.toNat_cast, BitVec.extractLsb_toNat, Nat.shiftRight_eq_div_pow]
  rfl

/-- The leading digit of a normal double is not stored. -/
theorem toNat_one_append (m : BitVec 52) : (1#1 ++ m).toNat = m.toNat + 2 ^ 52 := by
  rw [BitVec.toNat_append, ← Nat.shiftLeft_add_eq_or_of_lt m.isLt, Nat.shiftLeft_eq, Nat.add_comm]
  rfl

theorem parts_eq (x : Float) : parts x =
    if x.toBits.toNat / 2 ^ 52 % 2 ^ 11 = 0 then ⟨x.toBits.toNat % 2 ^ 52, -1074⟩
    else ⟨x.toBits.toNat % 2 ^ 52 + 2 ^ 52, Int.ofNat (x.toBits.toNat / 2 ^ 52 % 2 ^ 11) - 1075⟩ := rfl

theorem significand_lt (x : Float) : (parts x).significand < 2 ^ 53 := by
  rw [parts_eq]
  split_ifs <;> dsimp only <;> omega

theorem le_significand (h : x.toBits.toNat / 2 ^ 52 % 2 ^ 11 ≠ 0) : 2 ^ 52 ≤ (parts x).significand := by
  rw [parts_eq, if_neg h]
  exact Nat.le_add_left _ _

theorem exponent_ge (x : Float) : -1074 ≤ (parts x).exponent := by
  rw [parts_eq]
  split_ifs with h
  · exact le_refl _
  · dsimp only [Int.ofNat_eq_natCast]
    omega

theorem isFinite_iff (x : Float) : x.isFinite = true ↔ x.toBits.toNat / 2 ^ 52 % 2 ^ 11 ≠ 2047 := by
  have hmax : @unpackExponent .binary64 x.toModel.toBits.toBitVec = -1#11 ↔
      (@unpackExponent .binary64 x.toModel.toBits.toBitVec).toNat = 2047 := by
    rw [← BitVec.toNat_inj]
    rfl
  rw [← toNat_unpackExponent, ne_eq, ← hmax]
  unfold Float.isFinite Float.Model.isFinite Float.Model.unpack unpack
  dsimp only
  by_cases hinf : @unpackExponent .binary64 x.toModel.toBits.toBitVec = -1#11
  · rw [if_pos hinf]
    refine iff_of_false ?_ (not_not.mpr hinf)
    by_cases hzero : @unpackMantissa .binary64 x.toModel.toBits.toBitVec = 0#52
    · rw [if_pos hzero]
      exact Bool.false_ne_true
    · rw [if_neg hzero]
      exact Bool.false_ne_true
  · rw [if_neg hinf]
    refine iff_of_true ?_ hinf
    by_cases hsub : @unpackExponent .binary64 x.toModel.toBits.toBitVec = 0#11
    · rw [if_pos hsub]
      by_cases hzero : @unpackMantissa .binary64 x.toModel.toBits.toBitVec = 0#52
      · rw [dif_pos hzero]
        rfl
      · rw [dif_neg hzero]
        rfl
    · rw [if_neg hsub]
      rfl

/-- A double as it is computed with: zero, or its parts. -/
inductive Unpacked (x : Float) : UnpackedFloat → Prop where
  | zero (s : Sign) (h : (parts x).significand = 0) : Unpacked x (.zero s)
  | finite (s : Sign) {m : Nat} {e : Int} (hm : 0 < m) (h : parts x = ⟨m, e⟩) : Unpacked x (.finite s m e hm)

theorem unpacked_of_isFinite (h : x.isFinite = true) : Unpacked x x.toModel.unpack := by
  have hparts := parts_eq x
  rw [← toNat_unpackMantissa, ← toNat_unpackExponent] at hparts
  have hbiased := (isFinite_iff x).mp h
  rw [← toNat_unpackExponent] at hbiased
  unfold Float.Model.unpack unpack
  dsimp only
  rw [if_neg (fun hinf => hbiased (congrArg BitVec.toNat hinf))]
  by_cases hsub : @unpackExponent .binary64 x.toModel.toBits.toBitVec = 0#11
  · rw [if_pos hsub]
    by_cases hzero : @unpackMantissa .binary64 x.toModel.toBits.toBitVec = 0#52
    · rw [dif_pos hzero]
      apply Unpacked.zero
      rw [hparts, hsub, hzero]
      rfl
    · rw [dif_neg hzero]
      apply Unpacked.finite
      rw [hparts, hsub]
      rfl
  · rw [if_neg hsub]
    apply Unpacked.finite
    rw [hparts, if_neg, toNat_one_append]
    · rfl
    · intro hzero
      exact hsub (BitVec.eq_of_toNat_eq hzero)

/-! ## Bounds -/

/-- The power of two of the leading digit; that of zero is the least of all. -/
def binade (x : Float) : Int := (parts x).significand.log2 + (parts x).exponent

theorem binade_of_zero (h : (parts x).significand = 0) : binade x = -1074 := by
  have hbiased : x.toBits.toNat / 2 ^ 52 % 2 ^ 11 = 0 := by
    by_contra hne
    have hge := le_significand hne
    omega
  unfold binade
  rw [h, Nat.log2_zero, parts_eq, if_pos hbiased]
  rfl

/-- A finite double that is less than `2 ^ k`, whatever its sign. -/
structure Below (k : Nat) (x : Float) : Prop where
  finite : x.isFinite = true
  binade_lt : binade x < k

instance (k : Nat) (x : Float) : Decidable (Below k x) :=
  decidable_of_iff (x.isFinite = true ∧ binade x < k) ⟨fun h => ⟨h.1, h.2⟩, fun h => ⟨h.1, h.2⟩⟩

theorem Below.mono {j : Nat} (h : Below j x) (hle : j ≤ k) : Below k x := ⟨h.finite, by have := h.binade_lt; omega⟩

/-- No finite double is larger than the format has room for. -/
theorem below_of_isFinite (h : x.isFinite = true) : Below 1024 x := by
  refine ⟨h, ?_⟩
  have hbiased := (isFinite_iff x).mp h
  have hlog : (parts x).significand.log2 ≤ 52 := log2_le_of_lt (significand_lt x)
  have hexponent : (parts x).exponent ≤ 971 := by
    rw [parts_eq]
    split_ifs <;> dsimp only [Int.ofNat_eq_natCast] <;> omega
  unfold binade
  omega

/-- The same of a number that is not packed. -/
inductive Under (k : Nat) : UnpackedFloat → Prop where
  | zero (s : Sign) : Under k (.zero s)
  | finite (s : Sign) {m : Nat} {e : Int} (hm : 0 < m) (h : m.log2 + e < k) : Under k (.finite s m e hm)

theorem Under.mono {j : Nat} {u : UnpackedFloat} (h : Under j u) (hle : j ≤ k) : Under k u := by
  cases h with
  | zero s => exact .zero s
  | finite s hm h => exact .finite s hm (by omega)

theorem Below.under (h : Below k x) : Under k x.toModel.unpack := by
  have hlt := h.binade_lt
  have hx := unpacked_of_isFinite h.finite
  generalize x.toModel.unpack = u at hx ⊢
  cases hx with
  | zero s => exact .zero s
  | finite s hm hparts =>
    unfold binade at hlt
    rw [hparts] at hlt
    exact .finite s hm hlt

theorem below_of_components (s : Sign) (e : BitVec 11) (m : BitVec 52)
    (hx : x.toModel.toBits.toBitVec = packComponents .binary64 s e m) (he : e.toNat ≤ k + 1022) (hk : k ≤ 1023) :
    Below k x := by
  have hbits : x.toBits.toNat = (s.toBitVec.toNat * 2 ^ 11 + e.toNat) * 2 ^ 52 + m.toNat := by
    rw [← toNat_packComponents, ← hx]
    rfl
  have hmlt := m.isLt
  have helt := e.isLt
  have hfraction : x.toBits.toNat % 2 ^ 52 = m.toNat := by omega
  have hbiased : x.toBits.toNat / 2 ^ 52 % 2 ^ 11 = e.toNat := by omega
  constructor
  · rw [isFinite_iff, hbiased]
    omega
  · unfold binade
    rw [parts_eq, hfraction, hbiased]
    split_ifs with hzero
    · have hlog : m.toNat.log2 ≤ 51 := log2_le_of_lt hmlt
      dsimp only
      omega
    · have hlog : (m.toNat + 2 ^ 52).log2 ≤ 52 := log2_le_of_lt (by omega)
      dsimp only [Int.ofNat_eq_natCast]
      omega

/-- Far from the largest double nothing is lost where a number is packed. -/
theorem Under.below_pack {u : UnpackedFloat} (h : Under k u) (hk : k ≤ 972) : Below k (.ofModel (.pack u)) := by
  cases h with
  | zero s => exact below_of_components s 0 0 rfl (Nat.zero_le _) (by omega)
  | @finite s m e hm h =>
    have hpack : UnpackedFloat.pack .binary64 (.finite s m e hm) =
        if m.log2 + 1 = 53 then packComponents .binary64 s (BitVec.ofNat 11 (e + 1023 + 52).toNat) (BitVec.ofNat 52 m)
        else packComponents .binary64 s 0#11 (BitVec.ofNat 52 m) := by
      have hbiased : ¬2 ^ 11 ≤ (e + 1023 + 52).toNat + 1 := by omega
      exact if_neg hbiased
    by_cases hnormal : m.log2 + 1 = 53
    · rw [if_pos hnormal] at hpack
      refine below_of_components s _ _ hpack ?_ (by omega)
      rw [BitVec.toNat_ofNat, Nat.mod_eq_of_lt (by omega)]
      omega
    · rw [if_neg hnormal] at hpack
      exact below_of_components s _ _ hpack (Nat.zero_le _) (by omega)

/-! ## Rounding -/

theorem mantissa_shiftRight (em : ExtendedMantissa) (s : Nat) : (em >>> s).mantissa = em.mantissa / 2 ^ s := by
  induction s with
  | zero => exact (Nat.div_one _).symm
  | succ s ih =>
    show (em >>> s).mantissa / 2 = _
    rw [ih, Nat.div_div_eq_div_mul, Nat.pow_succ]

theorem roundedMantissa_le (em : ExtendedMantissa) : em.roundedMantissa ≤ em.mantissa + 1 := by
  unfold ExtendedMantissa.roundedMantissa
  cases em.accuracy with
  | exact => exact Nat.le_succ _
  | inexact o =>
    cases o with
    | lt => exact Nat.le_succ _
    | eq =>
      dsimp only [Accuracy.roundToNearestEven]
      omega
    | gt => exact Nat.le_refl _

theorem mantissa_ofMantissaAndAccuracy (m : Nat) (a : Accuracy) :
    (ExtendedMantissa.ofMantissaAndAccuracy m a).mantissa = m := by
  cases a with
  | exact => rfl
  | inexact o => cases o <;> rfl

theorem targetExponent_eq (t : Int) : Format.binary64.targetExponent t = max (t - 53) (-1074) := rfl

/-- The digits that a shift takes away, and the mantissa that is left. -/
theorem shiftToTargetExponent_eq (m : Nat) (e : Int) (a : Accuracy) :
    ∃ em s, shiftToTargetExponent .binary64 m e a = (em, e + (s : Nat)) ∧ em.mantissa = m / 2 ^ s ∧
      (s : Int) = max 0 (max (m.log2 + 1 + e - 53) (-1074) - e) := by
  refine ⟨_, _, rfl, ?_, ?_⟩
  · rw [mantissa_shiftRight, mantissa_ofMantissaAndAccuracy]
  · rw [targetExponent_eq, totalExponent, Int.toNat_eq_max]
    omega

/-- Rounding makes a number larger by at most one power of two. -/
theorem under_roundWithAccuracy {s : Sign} {m : Nat} {e : Int} {a : Accuracy} (h : m.log2 + e + 1 < k) :
    Under k (roundWithAccuracy .binary64 s m e a) := by
  obtain ⟨em, s₁, hshift, hem, hs₁⟩ := shiftToTargetExponent_eq m e a
  have hrounded : em.roundedMantissa.log2 ≤ m.log2 + 1 - s₁ := by
    have hle := roundedMantissa_le em
    have hlt := div_two_pow_lt m s₁
    apply log2_le_of_lt
    rw [Nat.pow_succ]
    omega
  obtain ⟨em₂, s₂, hshift₂, hem₂, -⟩ := shiftToTargetExponent_eq em.roundedMantissa (e + s₁) .exact
  unfold roundWithAccuracy
  rw [hshift]
  dsimp only
  rw [hshift₂]
  dsimp only
  by_cases hzero : em₂.mantissa = 0
  · rw [dif_pos hzero]
    exact .zero s
  · rw [dif_neg hzero]
    have hfinal : em₂.mantissa.log2 + s₂ ≤ em.roundedMantissa.log2 := by
      apply add_log2_le hzero
      rw [hem₂]
      exact Nat.div_mul_le_self _ _
    refine .finite s _ ?_
    omega

theorem under_round {s : Sign} {m : Nat} {e : Int} (h : m.log2 + e + 1 < k) :
    Under k (UnpackedFloat.round .binary64 s m e) := by
  unfold UnpackedFloat.round decreaseExponent
  apply under_roundWithAccuracy
  have hlog := log2_shiftLeft_le m (e - Format.binary64.targetExponent (totalExponent m e)).toNat
  omega

theorem under_normalize {n e : Int} {s : Sign} (h : n.natAbs.log2 + e + 1 < k) :
    Under k (UnpackedFloat.normalize .binary64 n e s) := by
  unfold UnpackedFloat.normalize
  split
  · next hlt =>
    have hneg : n < 0 := Int.compare_eq_lt.mp hlt
    apply under_round
    rwa [show (-n).toNat = n.natAbs by omega]
  · exact .zero s
  · next hgt =>
    have hpos : 0 < n := Int.compare_eq_gt.mp hgt
    apply under_round
    rwa [show n.toNat = n.natAbs by omega]

/-! ## Operations -/

section Unpacked
variable {i j : Nat} {u v : UnpackedFloat}

theorem Under.neg (h : Under k u) : Under k u.neg := by
  cases h with
  | zero s => exact .zero _
  | finite s hm h => exact .finite _ hm h

theorem Under.mul (hu : Under i u) (hv : Under j v) : Under (i + j + 1) (u.mul .binary64 v) := by
  cases hu with
  | zero s => cases hv <;> exact .zero _
  | @finite s₁ m₁ e₁ hm₁ h₁ =>
    cases hv with
    | zero s => exact .zero _
    | @finite s₂ m₂ e₂ hm₂ h₂ =>
      have hlog := log2_mul_le m₁ m₂
      apply under_roundWithAccuracy
      omega

/-- The sum of two mantissas at the smaller exponent. -/
theorem log2_add_le (s₁ s₂ : Sign) (m₁ m₂ : Nat) :
    (s₁.apply m₁ + s₂.apply m₂).natAbs.log2 ≤ max m₁.log2 m₂.log2 + 1 := by
  have hle : (s₁.apply m₁ + s₂.apply m₂).natAbs ≤ m₁ + m₂ := by
    cases s₁ <;> cases s₂ <;> dsimp only [Sign.apply] <;> omega
  have h₁ : m₁ < 2 ^ (max m₁.log2 m₂.log2 + 1) :=
    lt_of_lt_of_le Nat.lt_log2_self (Nat.pow_le_pow_right (by decide) (by omega))
  have h₂ : m₂ < 2 ^ (max m₁.log2 m₂.log2 + 1) :=
    lt_of_lt_of_le Nat.lt_log2_self (Nat.pow_le_pow_right (by decide) (by omega))
  apply log2_le_of_lt
  rw [Nat.pow_succ]
  omega

theorem Under.add (hu : Under k u) (hv : Under k v) : Under (k + 2) (u.add .binary64 v) := by
  cases hu with
  | zero s₁ =>
    cases hv with
    | zero s₂ =>
      unfold UnpackedFloat.add
      dsimp only
      split_ifs <;> exact .zero _
    | finite s₂ hm₂ h₂ => exact .finite s₂ hm₂ (by omega)
  | @finite s₁ m₁ e₁ hm₁ h₁ =>
    cases hv with
    | zero s₂ => exact .finite s₁ hm₁ (by omega)
    | @finite s₂ m₂ e₂ hm₂ h₂ =>
      have hlog₁ := log2_shiftLeft_le m₁ (e₁ - min e₁ e₂).toNat
      have hlog₂ := log2_shiftLeft_le m₂ (e₂ - min e₁ e₂).toNat
      have hlog := log2_add_le s₁ s₂ (m₁ <<< (e₁ - min e₁ e₂).toNat) (m₂ <<< (e₂ - min e₁ e₂).toNat)
      apply under_normalize
      omega

/-- The quotient of two numbers, with all the digits that rounding asks for. -/
theorem under_div {s₁ s₂ : Sign} {m₁ m₂ : Nat} {e₁ e₂ : Int} (hm₁ : 0 < m₁) (hm₂ : 0 < m₂)
    (h : m₁.log2 + e₁ - (m₂.log2 + e₂) + 1 < k) :
    Under k (UnpackedFloat.div .binary64 (.finite s₁ m₁ e₁ hm₁) (.finite s₂ m₂ e₂ hm₂)) := by
  unfold UnpackedFloat.div divCore
  dsimp only
  rw [targetExponent_eq, totalExponent, totalExponent]
  apply under_roundWithAccuracy
  generalize htarget : min (e₁ - e₂) (max (m₁.log2 + 1 + e₁ - (m₂.log2 + 1 + e₂) - 53) (-1074)) = t
  have hshift := log2_shiftLeft_le m₁ (e₁ - e₂ - t).toNat
  have hdiv := log2_div_le (m := m₁ <<< (e₁ - e₂ - t).toNat) (n := m₂) (by omega)
  omega

end Unpacked

section Operations
variable {i j : Nat}

theorem Below.neg (h : Below k x) (hk : k ≤ 972) : Below k (-x) := h.under.neg.below_pack hk

theorem Below.mul (hx : Below i x) (hy : Below j y) (h : i + j + 1 ≤ 972) : Below (i + j + 1) (x * y) :=
  (hx.under.mul hy.under).below_pack h

theorem Below.add (hx : Below k x) (hy : Below k y) (h : k + 2 ≤ 972) : Below (k + 2) (x + y) :=
  (hx.under.add hy.under).below_pack h

/-- A divisor that is at least one does not make a number larger. -/
theorem Below.div (hx : Below k x) (hfinite : y.isFinite = true) (hy : 0 ≤ binade y) (h : k + 1 ≤ 972) :
    Below (k + 1) (x / y) := by
  refine Under.below_pack ?_ h
  have hdivisor := unpacked_of_isFinite hfinite
  have hu := hx.under
  generalize x.toModel.unpack = u at hu ⊢
  generalize y.toModel.unpack = v at hdivisor ⊢
  cases hdivisor with
  | zero s hzero =>
    rw [binade_of_zero hzero] at hy
    omega
  | finite s hm hparts =>
    unfold binade at hy
    rw [hparts] at hy
    dsimp only at hy
    cases hu with
    | zero s => exact .zero _
    | finite s hm h =>
      apply under_div
      omega

end Operations

end BidAdapter.Double
