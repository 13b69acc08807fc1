import BidAdapter.Proofs.Decimal.Numerals
import Mathlib.Data.List.TakeWhile

/-!
# Texts with an exponent

* `Numeral` : texts with an exponent or none, with the number in front of it and the exponent;
* `Fits` : the number, the exponent and what they make together are not too large;
* `read_of_numeral` : a numeral is read if and only if it fits, and the decimal is then near the number that it writes;
  `numeral_of_ofText?` : nothing else is read.
-/

namespace BidAdapter.Decimal

set_option autoImplicit false

variable {c e : Char} {cs m xs : List Char} {k : Nat} {n : ℤ} {q : ℚ} {base d : Decimal}

/-! ## Numerals -/

/-- A whole number in digits, behind a plus sign or none. -/
inductive Count : List Char → Nat → Prop where
  | bare {cs : List Char} {k : Nat} (h : Text.natural? cs = some k) : Count cs k
  | plus {cs : List Char} {k : Nat} (h : Text.natural? cs = some k) : Count ('+' :: cs) k

/-- What stands behind the letter. -/
inductive Exponent : List Char → ℤ → Prop where
  | up {cs : List Char} {k : Nat} (h : Count cs k) : Exponent cs k
  | down {cs : List Char} {k : Nat} (h : Count cs k) : Exponent ('-' :: cs) (-k)

def IsLetter (c : Char) : Prop := c = 'e' ∨ c = 'E'

instance : Decidable (IsLetter c) := inferInstanceAs (Decidable (c = 'e' ∨ c = 'E'))

/-- A plain text, or one with an exponent behind it: it writes the number `q * 10 ^ n`. -/
inductive Numeral : List Char → ℚ → ℤ → Prop where
  | plain {cs : List Char} {q : ℚ} (h : Plain cs q) : Numeral cs q 0
  | scientific {m xs : List Char} {e : Char} {q : ℚ} {n : ℤ} (hm : Plain m q) (he : IsLetter e) (hx : Exponent xs n) :
    Numeral (m ++ e :: xs) q n

/-- The number in front of the exponent fits, the exponent does, and so does the number that they write together. -/
structure Fits (q : ℚ) (n : ℤ) : Prop where
  mantissa : ¬Unfit q
  exponent : |n| ≤ 28
  number : ¬Unfit (q * 10 ^ n)

/-- What comes of a numeral. -/
inductive Read (q : ℚ) (n : ℤ) : Option Decimal → Prop where
  | kept {d : Decimal} (hfits : Fits q n) (hnear : d.Near (q * 10 ^ n)) : Read q n (some d)
  | ignored (h : ¬Fits q n) : Read q n none

/-! ## Moving the point -/

theorem dropPlaces_le (c k : Nat) : dropPlaces c k ≤ c := by
  have hpos : 0 < 10 ^ k := Nat.pow_pos (by decide)
  have hself : c ≤ c * 10 ^ k := Nat.le_mul_of_pos_right c hpos
  refine Nat.lt_succ_iff.mp ((Nat.div_lt_iff_lt_mul hpos).mpr ?_)
  rw [Nat.succ_mul]
  omega

/-- The bound leaves half a unit to what has been rounded before. -/
theorem abs_dropPlaces_sub (c k : Nat) : |(dropPlaces c k : ℚ) * 10 ^ k - c| < 10 ^ k - 1 / 2 := by
  have hpos : 0 < 10 ^ k := Nat.pow_pos (by decide)
  have hlow : dropPlaces c k * 10 ^ k ≤ c + 10 ^ k / 2 := Nat.div_mul_le_self _ _
  have hhigh : c + 10 ^ k / 2 < dropPlaces c k * 10 ^ k + 10 ^ k := Nat.lt_div_mul_add hpos
  have hdown : 2 * (dropPlaces c k * 10 ^ k) + 1 < 2 * c + 2 * 10 ^ k := by omega
  have hup : 2 * c + 1 < 2 * (dropPlaces c k * 10 ^ k) + 2 * 10 ^ k := by omega
  have hdown' : (2 * (dropPlaces c k * 10 ^ k) + 1 : ℚ) < 2 * c + 2 * 10 ^ k := by exact_mod_cast hdown
  have hup' : (2 * c + 1 : ℚ) < 2 * (dropPlaces c k * 10 ^ k) + 2 * 10 ^ k := by exact_mod_cast hup
  rw [abs_lt]
  constructor <;> linarith

theorem abs_mul_zpow (q : ℚ) (n : ℤ) : |q * 10 ^ n| = |q| * 10 ^ n := by
  rw [abs_mul, abs_of_pos (zpow_pos (by norm_num : (0 : ℚ) < 10) n)]

theorem read_none (h : 28 < |n|) : Read q n none := .ignored fun hfits => h.not_ge hfits.exponent

theorem read_ofParts? {s : Nat} (hsign : base.SignOf q) (hfits : Fits q n) (hk : k < 2 ^ 96) (hs : s ≤ 28)
    (hzero : base.coefficient = 0 → k = 0) (hsize : |(k : ℚ) - |q * 10 ^ n| * 10 ^ s| < 1) :
    Read q n (ofParts? base.negative k s) := by
  have hsign' : SignOf ⟨base.negative, k, s, hk, hs⟩ (q * 10 ^ n) :=
    hsign.scale (zpow_nonneg (by norm_num) n) rfl hzero
  rw [ofParts?, dif_pos ⟨hk, hs⟩]
  exact .kept hfits (hsign'.near hsize)

/-- The point moves before the digits. The places that leave the scale are rounded a second time. -/
theorem read_lower (hsign : base.SignOf q) (h : RoundsTo (|q|) base.coefficient base.scale) (k : Nat) :
    Read q (-k) (lower? base k) := by
  unfold lower?
  split_ifs with hk
  · exact read_none (by rw [abs_neg, Nat.abs_cast]; exact_mod_cast hk)
  generalize hexcess : base.scale + k - 28 = excess
  have hfits : Fits q (-k) := by
    have hmantissa := h.not_unfit base.coefficient_fits
    refine ⟨hmantissa, ?_, fun hnumber => hmantissa (hnumber.of_abs_le ?_)⟩
    · rw [abs_neg, Nat.abs_cast]
      exact_mod_cast not_lt.mp hk
    · rw [abs_mul_zpow]
      exact mul_le_of_le_one_right (abs_nonneg q) (zpow_le_one_of_nonpos₀ (by norm_num) (by omega))
  refine read_ofParts? hsign hfits ((dropPlaces_le _ _).trans_lt base.coefficient_fits) (by omega)
    (fun hzero => Nat.le_zero.mp ((dropPlaces_le _ _).trans_eq hzero)) ?_
  have hpos : (0 : ℚ) < 10 ^ excess := by positivity
  have hmoved : |q * 10 ^ (-(k : ℤ))| * 10 ^ (base.scale + k - excess) * 10 ^ excess = |q| * 10 ^ base.scale := by
    rw [abs_mul_zpow, mul_assoc, ← pow_add, Nat.sub_add_cancel (by omega), zpow_neg, zpow_natCast, Nat.add_comm,
      pow_add, mul_assoc, inv_mul_cancel_left₀ (by positivity)]
  rw [← mul_lt_iff_lt_one_left hpos, ← abs_of_pos hpos, ← abs_mul, abs_of_pos hpos, sub_mul, hmoved]
  calc |(dropPlaces base.coefficient excess : ℚ) * 10 ^ excess - |q| * 10 ^ base.scale|
      ≤ |(dropPlaces base.coefficient excess : ℚ) * 10 ^ excess - base.coefficient|
          + |base.coefficient - |q| * 10 ^ base.scale| := abs_sub_le _ _ _
    _ < 10 ^ excess - 1 / 2 + 1 / 2 := add_lt_add_of_lt_of_le (abs_dropPlaces_sub _ _) h.abs_sub_le
    _ = 10 ^ excess := sub_add_cancel _ _

theorem abs_mul_pow (q : ℚ) (k s : Nat) : |q * 10 ^ (k : ℤ)| * 10 ^ s = |q| * 10 ^ (s + k) := by
  rw [abs_mul_zpow, zpow_natCast, mul_assoc, ← pow_add, Nat.add_comm]

/-- The point moves over digits that are there. -/
theorem read_within (hsign : base.SignOf q) (h : RoundsTo (|q|) base.coefficient base.scale) (hk : k ≤ base.scale) :
    Read q k (ofParts? base.negative base.coefficient (base.scale - k)) := by
  have hmoved := abs_mul_pow q k (base.scale - k)
  rw [Nat.sub_add_cancel hk] at hmoved
  have hfits : Fits q k := by
    refine ⟨h.not_unfit base.coefficient_fits, ?_, not_unfit_of_lt base.coefficient_fits (hmoved.trans_lt h.bounds.2)⟩
    rw [Nat.abs_cast]
    exact_mod_cast hk.trans base.scale_fits
  refine read_ofParts? hsign hfits base.coefficient_fits ((Nat.sub_le _ _).trans base.scale_fits) id ?_
  rw [hmoved]
  exact h.abs_sub_le.trans_lt one_half_lt_one

theorem unfit_beyond {j : Nat} (h : RoundsTo (|q|) base.coefficient base.scale) (hroom : base.scale < 28)
    (hlarge : 2 ^ 96 ≤ base.coefficient * 10 ^ (j + 1)) : Unfit (q * 10 ^ ((base.scale + (j + 1) : Nat) : ℤ)) := by
  have hmoved := abs_mul_pow q (base.scale + (j + 1)) 0
  rw [Nat.zero_add, pow_zero, mul_one] at hmoved
  unfold Unfit
  rw [hmoved]
  rcases h.full with hexact | hlast | hfull
  · have hlarge' : (2 : ℚ) ^ 96 ≤ base.coefficient * 10 ^ (j + 1) := by exact_mod_cast hlarge
    rw [pow_add, ← mul_assoc, hexact]
    linarith
  · omega
  · exact hfull.trans (mul_le_mul_of_nonneg_left (pow_le_pow_right₀ (by norm_num) (by omega)) (abs_nonneg q))

/-- The point moves beyond the digits. They are exact then, or the number does not fit. -/
theorem read_beyond {j : Nat} (hsign : base.SignOf q) (h : RoundsTo (|q|) base.coefficient base.scale)
    (hk : base.scale + (j + 1) ≤ 28) :
    Read q (base.scale + (j + 1) : Nat) (ofParts? base.negative (base.coefficient * 10 ^ (j + 1)) 0) := by
  have hroom : base.scale < 28 := by omega
  by_cases hparts : base.coefficient * 10 ^ (j + 1) < 2 ^ 96
  · have hten : base.coefficient * 10 ≤ base.coefficient * 10 ^ (j + 1) :=
      Nat.mul_le_mul_left _ (Nat.le_self_pow (Nat.succ_ne_zero j) 10)
    have hwhole : |q * 10 ^ ((base.scale + (j + 1) : Nat) : ℤ)| * 10 ^ 0 = (base.coefficient * 10 ^ (j + 1) : Nat) := by
      rw [abs_mul_pow, Nat.zero_add, pow_add, ← mul_assoc, h.exact hroom (hten.trans_lt hparts), Nat.cast_mul,
        Nat.cast_pow, Nat.cast_ofNat]
    have hfits : Fits q (base.scale + (j + 1) : Nat) := by
      refine ⟨h.not_unfit base.coefficient_fits, ?_, not_unfit_of_lt hparts (hwhole.trans_lt ?_)⟩
      · rw [Nat.abs_cast]
        exact_mod_cast hk
      · linarith
    refine read_ofParts? hsign hfits hparts (Nat.zero_le 28) (fun hzero => by rw [hzero, Nat.zero_mul]) ?_
    rw [hwhole, sub_self, abs_zero]
    exact one_pos
  · rw [ofParts?, dif_neg fun hfits => hparts hfits.1]
    exact .ignored fun hfits => hfits.number (unfit_beyond h hroom (not_lt.mp hparts))

theorem read_raise (hsign : base.SignOf q) (h : RoundsTo (|q|) base.coefficient base.scale) (k : Nat) :
    Read q k (raise? base k) := by
  unfold raise?
  split_ifs with hscale hlarge
  · exact read_within hsign h hscale
  · exact read_none (by rw [Nat.abs_cast]; exact_mod_cast hlarge)
  · obtain ⟨j, rfl⟩ : ∃ j, k = base.scale + (j + 1) := ⟨k - base.scale - 1, by omega⟩
    rw [Nat.add_sub_cancel_left]
    exact read_beyond hsign h (not_lt.mp hlarge)

/-! ## The exponent -/

theorem isDigit_of_natural? (h : Text.natural? (c :: cs) = some k) : c.isDigit = true := by
  unfold Text.natural? at h
  split_ifs at h with hno
  rw [Bool.not_eq_true, Bool.or_eq_false_iff, Bool.not_eq_false', List.all_cons, Bool.and_eq_true] at hno
  exact hno.2.1

theorem Count.cons_inv (h : Count (c :: cs) k) : c.isDigit = true ∨ c = '+' := by
  cases h with
  | bare h => exact Or.inl (isDigit_of_natural? h)
  | plus h => exact Or.inr rfl

theorem nat32?_of_count (h : Count cs k) : Text.nat32? cs = if k < 2 ^ 32 then some k else none := by
  unfold Text.nat32?
  cases h with
  | plus h => simp only [h]
  | bare h =>
    split
    · exact absurd (isDigit_of_natural? h) (by decide)
    · simp only [h]

theorem natural?_of_bounded
    (h : (match Text.natural? cs with
      | some n => if n < 2 ^ 32 then some n else none
      | none => none) = some k) : Text.natural? cs = some k := by
  cases hdigits : Text.natural? cs with
  | none =>
    rw [hdigits] at h
    cases h
  | some n =>
    simp only [hdigits] at h
    split_ifs at h
    exact h

theorem count_of_nat32? (h : Text.nat32? cs = some k) : Count cs k := by
  unfold Text.nat32? at h
  split at h
  · exact .plus (natural?_of_bounded h)
  · exact .bare (natural?_of_bounded h)

/-- What the exponent makes of the decimal in front of it. -/
def shift? (base : Decimal) : List Char → Option Decimal
  | '-' :: cs => (Text.nat32? cs).bind (lower? base)
  | cs => (Text.nat32? cs).bind (raise? base)

theorem read_shift (hsign : base.SignOf q) (h : RoundsTo (|q|) base.coefficient base.scale) (hx : Exponent xs n) :
    Read q n (shift? base xs) := by
  cases hx with
  | @down cs k hk =>
    rw [shift?, nat32?_of_count hk]
    split_ifs with hsmall
    · exact read_lower hsign h k
    · exact read_none (by rw [abs_neg, Nat.abs_cast]; omega)
  | @up _ k hk =>
    unfold shift?
    split
    · exact absurd hk.cons_inv (by decide)
    · rw [nat32?_of_count hk]
      split_ifs with hsmall
      · exact read_raise hsign h k
      · exact read_none (by rw [Nat.abs_cast]; omega)

theorem exponent_of_shift? (h : shift? base xs = some d) : ∃ n, Exponent xs n := by
  unfold shift? at h
  split at h
  all_goals obtain ⟨k, hk, -⟩ := Option.bind_eq_some_iff.mp h
  · exact ⟨-k, .down (count_of_nat32? hk)⟩
  · exact ⟨k, .up (count_of_nat32? hk)⟩

/-! ## The letter -/

theorem Grouped.no_letter {led : Bool} (h : Grouped led cs) : ∀ x ∈ cs, ¬IsLetter x := by
  induction h with
  | nil => exact List.forall_mem_nil _
  | digit hc h ih =>
    refine List.forall_mem_cons.mpr ⟨?_, ih⟩
    rintro (rfl | rfl)
    · exact absurd hc (by decide)
    · exact absurd hc (by decide)
  | mark h ih => exact List.forall_mem_cons.mpr ⟨by decide, ih⟩

theorem Unsigned.no_letter (h : Unsigned cs q) : ∀ x ∈ cs, ¬IsLetter x := by
  cases h with
  | whole hw hne => exact hw.no_letter
  | point hw hf hne =>
    exact List.forall_mem_append.mpr ⟨hw.no_letter, List.forall_mem_cons.mpr ⟨by decide, hf.no_letter⟩⟩

theorem Plain.no_letter (h : Plain cs q) : ∀ x ∈ cs, ¬IsLetter x := by
  cases h with
  | minus h => exact List.forall_mem_cons.mpr ⟨by decide, h.no_letter⟩
  | plus h => exact List.forall_mem_cons.mpr ⟨by decide, h.no_letter⟩
  | bare h => exact h.no_letter

theorem splits_at_letter (cs : List Char) :
    (∀ x ∈ cs, ¬IsLetter x) ∨ ∃ m e xs, cs = m ++ e :: xs ∧ IsLetter e ∧ ∀ x ∈ m, ¬IsLetter x := by
  induction cs with
  | nil => exact Or.inl (List.forall_mem_nil _)
  | cons c cs ih =>
    by_cases hc : IsLetter c
    · exact Or.inr ⟨[], c, cs, rfl, hc, List.forall_mem_nil _⟩
    rcases ih with hcs | ⟨m, e, xs, rfl, he, hm⟩
    · exact Or.inl (List.forall_mem_cons.mpr ⟨hc, hcs⟩)
    · exact Or.inr ⟨c :: m, e, xs, rfl, he, List.forall_mem_cons.mpr ⟨hc, hm⟩⟩

theorem scientific?_of_no_letter (h : ∀ x ∈ cs, ¬IsLetter x) : scientific? cs = none := by
  have hrest : (cs.dropWhile fun c => !(decide (c = 'e') || decide (c = 'E'))) = [] := by
    rw [List.dropWhile_eq_nil_iff]
    intro x hx
    simpa [IsLetter] using h x hx
  unfold scientific?
  simp only [hrest]
  exact Option.bind_fun_none _

theorem scientific?_append (hm : ∀ x ∈ m, ¬IsLetter x) (he : IsLetter e) :
    scientific? (m ++ e :: xs) = (plain? m).bind fun base => shift? base xs := by
  have hm' : ∀ x ∈ m, (!(decide (x = 'e') || decide (x = 'E'))) = true := by
    intro x hx
    simpa [IsLetter] using hm x hx
  have he' : (!(decide (e = 'e') || decide (e = 'E'))) = false := by
    rcases he with rfl | rfl <;> rfl
  have htake : ((m ++ e :: xs).takeWhile fun c => !(decide (c = 'e') || decide (c = 'E'))) = m := by
    rw [List.takeWhile_append_of_pos hm', List.takeWhile_cons, he', if_neg Bool.false_ne_true, List.append_nil]
  have hdrop : ((m ++ e :: xs).dropWhile fun c => !(decide (c = 'e') || decide (c = 'E'))) = e :: xs := by
    rw [List.dropWhile_append_of_pos hm', List.dropWhile_cons, he', if_neg Bool.false_ne_true]
  unfold scientific?
  simp only [htake, hdrop]
  refine congrArg _ (funext fun base => ?_)
  unfold shift?
  split
  · rename_i heq
    cases heq
  · rename_i heq
    cases heq
    rfl
  · rename_i hminus heq
    cases heq
    split
    · exact (hminus _ rfl).elim
    · rfl

theorem Numeral.ne_nil (h : Numeral cs q n) : cs ≠ [] := by
  cases h with
  | plain h => exact h.ne_nil
  | scientific hm he hx => exact List.append_ne_nil_of_right_ne_nil _ (List.cons_ne_nil _ _)

/-! ## Reading numerals -/

theorem read_of_rounded {r : Option Decimal} (h : Rounded q r) : Read q 0 r := by
  have hself : q * 10 ^ (0 : ℤ) = q := by rw [zpow_zero, mul_one]
  cases h with
  | beyond h => exact .ignored fun hfits => hfits.mantissa h
  | @kept d hsign h =>
    have hfits := h.not_unfit d.coefficient_fits
    refine .kept ⟨hfits, by decide, hself.symm ▸ hfits⟩ ?_
    rw [hself]
    exact hsign.near (h.abs_sub_le.trans_lt one_half_lt_one)

/-- A numeral is read if it fits, and ignored otherwise. -/
theorem read_of_numeral (h : Numeral cs q n) : Read q n (ofText? cs) := by
  unfold ofText?
  cases h with
  | plain h =>
    rw [scientific?_of_no_letter h.no_letter, Option.or_none]
    exact read_of_rounded (rounded_of_plain h)
  | @scientific m xs e _ _ hm he hx =>
    have hplain : plain? (m ++ e :: xs) = none := by
      by_contra hne
      obtain ⟨d, hd⟩ := Option.ne_none_iff_exists'.mp hne
      obtain ⟨r, hr⟩ := plain_of_plain? hd
      exact hr.no_letter e (by simp) he
    rw [hplain, Option.none_or, scientific?_append hm.no_letter he]
    have hmantissa := rounded_of_plain hm
    generalize plain? m = base at hmantissa ⊢
    cases hmantissa with
    | beyond h => exact .ignored fun hfits => hfits.mantissa h
    | kept hsign h => exact read_shift hsign h hx

/-- Nothing else is read. -/
theorem numeral_of_ofText? (h : ofText? cs = some d) : ∃ q n, Numeral cs q n := by
  rcases Option.or_eq_some_iff.mp h with hplain | ⟨-, hscientific⟩
  · obtain ⟨q, hq⟩ := plain_of_plain? hplain
    exact ⟨q, 0, .plain hq⟩
  rcases splits_at_letter cs with hno | ⟨m, e, xs, rfl, he, hm⟩
  · rw [scientific?_of_no_letter hno] at hscientific
    cases hscientific
  · rw [scientific?_append hm he] at hscientific
    obtain ⟨base, hbase, hshift⟩ := Option.bind_eq_some_iff.mp hscientific
    obtain ⟨q, hq⟩ := plain_of_plain? hbase
    obtain ⟨n, hn⟩ := exponent_of_shift? hshift
    exact ⟨q, n, .scientific hq he hn⟩

end BidAdapter.Decimal
