import BidAdapter.Proofs.Double.Nearest

/-!
# The digits of a double

* `search_spec` : the search ends at a point of the interval, or at the finest grid;
* `coefficient_lt` : the decimal is not much larger than the double, so it has few digits in front of its point;
* `grid_bounds`, `leading_le` : the places of the last digit and of the first one;
* `coefficient_ne_zero` : where the last digit is in front of the ones, the decimal is not zero.
-/

namespace BidAdapter.Double

set_option autoImplicit false

variable {k : Nat} {x : Float}

/-! ## The search -/

namespace Interval

variable {i : Interval} {grid : Int} {c : Nat}

theorem numerator_pos (i : Interval) (grid : Int) : 0 < i.numerator grid :=
  Nat.mul_pos (Nat.two_pow_pos _) (Nat.pow_pos (by decide))

theorem denominator_pos (i : Interval) (grid : Int) : 0 < i.denominator grid :=
  Nat.mul_pos (Nat.two_pow_pos _) (Nat.pow_pos (by decide))

theorem le_of_contains (h : i.contains grid c = true) :
    i.low * i.numerator grid ≤ c * i.denominator grid ∧ c * i.denominator grid ≤ i.high * i.numerator grid := by
  unfold contains at h
  dsimp only at h
  split_ifs at h
  · exact of_decide_eq_true h
  · have hlt := of_decide_eq_true h
    exact ⟨hlt.1.le, hlt.2.le⟩

theorem contains_of_pointOn (h : i.pointOn grid = some c) : i.contains grid c = true := by
  unfold pointOn at h
  dsimp only at h
  split at h
  · next hbelow habove =>
    split_ifs at h
    · cases h
      exact hbelow
    · cases h
      exact habove
  · next hbelow _ =>
    cases h
    exact hbelow
  · next _ habove =>
    cases h
    exact habove
  · cases h

/-- The search ends at a point of the interval, or at the finest grid, where it cuts off what is left. -/
theorem search_spec (i : Interval) (tries : Nat) (grid : Int) :
    grid - tries ≤ (i.search tries grid).grid ∧ (i.search tries grid).grid ≤ grid ∧
      (i.contains (i.search tries grid).grid (i.search tries grid).coefficient = true ∨
        i.search tries grid = ⟨i.value * i.numerator (grid - tries) / i.denominator (grid - tries), grid - tries⟩) := by
  induction tries generalizing grid with
  | zero =>
    refine ⟨?_, ?_, Or.inr ?_⟩
    · exact Int.sub_le_self grid (Int.natCast_nonneg 0)
    · exact le_refl grid
    · rw [search, Int.natCast_zero, Int.sub_zero]
  | succ tries ih =>
    unfold search
    split
    · next c hpoint => exact ⟨by dsimp only; omega, le_refl grid, Or.inl (contains_of_pointOn hpoint)⟩
    · obtain ⟨hlow, hhigh, hend⟩ := ih (grid - 1)
      rw [show grid - 1 - (tries : Int) = grid - ((tries + 1 : Nat) : Int) by omega] at hlow hend
      exact ⟨hlow, by omega, hend⟩

end Interval

/-! ## The shortest decimal -/

theorem shortest_of_ne_zero (h : (parts x).significand ≠ 0) :
    shortest x = (parts x).interval.search 24 (parts x).topGrid := if_neg h

theorem grid_bounds (x : Float) : -400 ≤ (shortest x).grid := by
  by_cases hzero : (parts x).significand = 0
  · have hshortest : shortest x = ⟨0, 0⟩ := if_pos hzero
    rw [hshortest]
    decide
  · rw [shortest_of_ne_zero hzero]
    obtain ⟨hlow, -, -⟩ := (parts x).interval.search_spec 24 (parts x).topGrid
    have hexponent := exponent_ge x
    unfold Parts.topGrid at hlow ⊢
    omega

/-- The decimal is at most the upper end of the interval. -/
theorem coefficient_le (x : Float) : (shortest x).coefficient * (parts x).interval.denominator (shortest x).grid ≤
    (4 * (parts x).significand + 2) * (parts x).interval.numerator (shortest x).grid := by
  by_cases hzero : (parts x).significand = 0
  · have hshortest : shortest x = ⟨0, 0⟩ := if_pos hzero
    rw [hshortest, Nat.zero_mul]
    exact Nat.zero_le _
  · rw [shortest_of_ne_zero hzero]
    obtain ⟨-, -, hcontains | hend⟩ := (parts x).interval.search_spec 24 (parts x).topGrid
    · exact (Interval.le_of_contains hcontains).2
    · rw [hend]
      have hvalue : 4 * (parts x).significand ≤ 4 * (parts x).significand + 2 := Nat.le_add_right _ _
      exact le_trans (Nat.div_mul_le_self _ _) (Nat.mul_le_mul_right _ hvalue)

theorem coefficient_lt (h : Below k x) :
    (shortest x).coefficient * 10 ^ (shortest x).grid.toNat < 2 ^ k * 10 ^ (-(shortest x).grid).toNat := by
  have hle := coefficient_le x
  have hlt := h.binade_lt
  generalize shortest x = d at hle ⊢
  unfold Interval.denominator Interval.numerator at hle
  have hunit : (parts x).interval.unit = (parts x).exponent - 2 := rfl
  rw [hunit] at hle
  unfold binade at hlt
  -- the unit of the ends, as a power of two in front of either side
  apply Nat.lt_of_mul_lt_mul_left (a := 2 ^ (-((parts x).exponent - 2)).toNat)
  calc 2 ^ (-((parts x).exponent - 2)).toNat * (d.coefficient * 10 ^ d.grid.toNat)
      = d.coefficient * (2 ^ (-((parts x).exponent - 2)).toNat * 10 ^ d.grid.toNat) := Nat.mul_left_comm _ _ _
    _ ≤ (4 * (parts x).significand + 2) * (2 ^ ((parts x).exponent - 2).toNat * 10 ^ (-d.grid).toNat) := hle
    _ = (4 * (parts x).significand + 2) * 2 ^ ((parts x).exponent - 2).toNat * 10 ^ (-d.grid).toNat :=
      (Nat.mul_assoc _ _ _).symm
    _ < 2 ^ ((-((parts x).exponent - 2)).toNat + k) * 10 ^ (-d.grid).toNat := by
      apply Nat.mul_lt_mul_of_pos_right _ (Nat.pow_pos (by decide))
      have hsignificand : 4 * (parts x).significand + 2 < 2 ^ ((parts x).significand.log2 + 3) := by
        have hself := Nat.lt_log2_self (n := (parts x).significand)
        rw [show (parts x).significand.log2 + 3 = (parts x).significand.log2 + 1 + 2 from rfl, Nat.pow_add]
        omega
      calc (4 * (parts x).significand + 2) * 2 ^ ((parts x).exponent - 2).toNat
          < 2 ^ ((parts x).significand.log2 + 3) * 2 ^ ((parts x).exponent - 2).toNat :=
            Nat.mul_lt_mul_of_pos_right hsignificand (Nat.two_pow_pos _)
        _ = 2 ^ ((parts x).significand.log2 + 3 + ((parts x).exponent - 2).toNat) := (Nat.pow_add _ _ _).symm
        _ ≤ 2 ^ ((-((parts x).exponent - 2)).toNat + k) := Nat.pow_le_pow_right (by decide) (by omega)
    _ = 2 ^ (-((parts x).exponent - 2)).toNat * (2 ^ k * 10 ^ (-d.grid).toNat) := by
      rw [Nat.pow_add, Nat.mul_assoc]

theorem pow_digits_le {m : Nat} (hm : m ≠ 0) : 10 ^ ((Nat.toDigits 10 m).length - 1) ≤ m := by
  by_contra hlt
  rcases Nat.eq_zero_or_pos ((Nat.toDigits 10 m).length - 1) with hone | hpos
  · rw [hone, Nat.pow_zero] at hlt
    omega
  · have hle := (Nat.length_toDigits_le_iff (by decide : 1 < 10) hpos).mpr (not_le.mp hlt)
    omega

theorem topGrid_le (h : Below k x) : (parts x).topGrid ≤ k / 3 + 2 := by
  have hlt := h.binade_lt
  unfold binade at hlt
  unfold Parts.topGrid
  omega

theorem grid_le (h : Below k x) : (shortest x).grid ≤ k / 3 + 2 := by
  by_cases hzero : (parts x).significand = 0
  · have hshortest : shortest x = ⟨0, 0⟩ := if_pos hzero
    rw [hshortest]
    dsimp only
    omega
  · rw [shortest_of_ne_zero hzero]
    obtain ⟨-, hhigh, -⟩ := (parts x).interval.search_spec 24 (parts x).topGrid
    exact le_trans hhigh (topGrid_le h)

/-- The place of the first digit. -/
theorem leading_le (h : Below k x) :
    (shortest x).grid + ((Nat.toDigits 10 (shortest x).coefficient).length : Int) - 1 ≤ k / 3 + 2 := by
  by_cases hzero : (shortest x).coefficient = 0
  · have hgrid := grid_le h
    rw [hzero, Nat.toDigits_zero, List.length_singleton]
    omega
  · have hlt := coefficient_lt h
    have hpow : 10 ^ ((Nat.toDigits 10 (shortest x).coefficient).length - 1 + (shortest x).grid.toNat) <
        10 ^ (k / 3 + 1 + (-(shortest x).grid).toNat) := by
      rw [Nat.pow_add, Nat.pow_add]
      calc 10 ^ ((Nat.toDigits 10 (shortest x).coefficient).length - 1) * 10 ^ (shortest x).grid.toNat
          ≤ (shortest x).coefficient * 10 ^ (shortest x).grid.toNat := Nat.mul_le_mul_right _ (pow_digits_le hzero)
        _ < 2 ^ k * 10 ^ (-(shortest x).grid).toNat := hlt
        _ ≤ 10 ^ (k / 3 + 1) * 10 ^ (-(shortest x).grid).toNat := Nat.mul_le_mul_right _ (lt_pow_ten k).le
    have hexponents := (Nat.pow_lt_pow_iff_right (by decide)).mp hpow
    omega

/-- A power of ten that the estimate leaves is less than the double. -/
theorem pow_ten_le {grid : Nat} {t : Int} (h : (grid : Int) ≤ t * 30103 / 100000 + 2 - 24) (hpos : 0 < grid)
    (ht : t < 1024) : 10 ^ grid ≤ 2 ^ t.toNat := by
  calc 10 ^ grid ≤ 10 ^ (3 * (t.toNat / 10)) := Nat.pow_le_pow_right (by decide) (by omega)
    _ = 1000 ^ (t.toNat / 10) := by rw [Nat.pow_mul]
    _ ≤ 1024 ^ (t.toNat / 10) := Nat.pow_le_pow_left (by decide) _
    _ = 2 ^ (10 * (t.toNat / 10)) := by rw [Nat.pow_mul]
    _ ≤ 2 ^ t.toNat := Nat.pow_le_pow_right (by decide) (Nat.mul_div_le _ _)

/-- Where the last digit stands in front of the ones, the decimal is not zero. -/
theorem coefficient_ne_zero (h : Below k x) (hk : k ≤ 1024) (hgrid : 0 < (shortest x).grid) :
    (shortest x).coefficient ≠ 0 := by
  by_cases hzero : (parts x).significand = 0
  · have hshortest : shortest x = ⟨0, 0⟩ := if_pos hzero
    rw [hshortest] at hgrid
    exact absurd hgrid (by decide)
  · rw [shortest_of_ne_zero hzero] at hgrid ⊢
    obtain ⟨-, -, hcontains | hend⟩ := (parts x).interval.search_spec 24 (parts x).topGrid
    · intro hcoefficient
      have hlow := (Interval.le_of_contains hcontains).1
      rw [hcoefficient, Nat.zero_mul] at hlow
      -- the lower end of the interval of a double that is not zero is not zero
      have hpos : 0 < (parts x).interval.low := by
        unfold Parts.interval
        dsimp only
        split_ifs <;> omega
      exact absurd (Nat.mul_pos hpos (Interval.numerator_pos _ _)) (Nat.not_lt.mpr hlow)
    · rw [hend] at hgrid ⊢
      dsimp only at hgrid ⊢
      have hlt := h.binade_lt
      unfold binade at hlt
      generalize hlast : (parts x).topGrid - ((24 : Nat) : Int) = last at hgrid ⊢
      have hpower : 10 ^ last.toNat ≤ 2 ^ ((parts x).significand.log2 + (parts x).exponent).toNat := by
        unfold Parts.topGrid at hlast
        exact pow_ten_le (by omega) (by omega) (by omega)
      have hbinade : 0 < ((parts x).significand.log2 : Int) + (parts x).exponent := by
        unfold Parts.topGrid at hlast
        omega
      apply Nat.ne_of_gt
      apply Nat.div_pos _ (Interval.denominator_pos _ _)
      unfold Interval.denominator Interval.numerator Parts.interval
      dsimp only
      rw [show (-last).toNat = 0 by omega, Nat.pow_zero, Nat.mul_one]
      calc 2 ^ (-((parts x).exponent - 2)).toNat * 10 ^ last.toNat
          ≤ 2 ^ (-((parts x).exponent - 2)).toNat * 2 ^ ((parts x).significand.log2 + (parts x).exponent).toNat :=
            Nat.mul_le_mul_left _ hpower
        _ = 2 ^ (2 + (parts x).significand.log2 + ((parts x).exponent - 2).toNat) := by
          rw [← Nat.pow_add]
          congr 1
          omega
        _ = 4 * 2 ^ (parts x).significand.log2 * 2 ^ ((parts x).exponent - 2).toNat := by
          rw [Nat.pow_add, Nat.pow_add]
        _ ≤ 4 * (parts x).significand * 2 ^ ((parts x).exponent - 2).toNat := by
          apply Nat.mul_le_mul_right
          exact Nat.mul_le_mul_left 4 (Nat.log2_self_le hzero)

end BidAdapter.Double
