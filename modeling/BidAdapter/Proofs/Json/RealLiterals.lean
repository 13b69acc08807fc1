import BidAdapter.Proofs.Double.Digits
import BidAdapter.Proofs.Json.ExchangeLiterals

/-!
# Texts of doubles read back

* `scanTail_fraction`, `scanTail_scientific` : what stands behind the whole part of a real numeral;
* `Numeral.Modest` : a real numeral with few digits in front of its point and few places;
* `exists_spells` : the text of a double that is not too large is a sign, if it has one, and such a numeral;
* `Numeral.exchangeNumber?_modest` : such a numeral is a real in an exchange body, whether it is read in one step or from
  its text;
* `legibleAs_exchange` : integers and doubles that are not too large are scanned as integers and doubles;
* `ReadsBack` : a double whose text is scanned as that double.
-/

namespace BidAdapter.Json

set_option autoImplicit false

open Double (Below Digits)

variable {negative : Bool} {whole : List Nat} {rest fraction : List Char} {k : Nat} {x : Float}

/-! ## Behind the whole part -/

theorem scanExponent_digits (e : Nat) (h : Boundary rest) :
    scanExponent ('-' :: (Nat.toDigits 10 e ++ rest)) = (.ok (-(e : Int)), rest) ∧
      scanExponent ('+' :: (Nat.toDigits 10 e ++ rest)) = (.ok (e : Int), rest) := by
  have hdigits := (wholeDigits_toDigits e).digits
  have htake := takeWhile_digits hdigits h.endsDigits
  have hdrop := dropWhile_digits hdigits h.endsDigits
  have hne : (Nat.toDigits 10 e).isEmpty = false := by
    rw [List.isEmpty_eq_false_iff]
    exact Nat.toDigits_ne_nil
  unfold scanExponent
  simp only [htake, hdrop, hne, ofDigits_toDigits, Bool.false_eq_true, if_false, if_true, and_self]

/-- A fraction in front of a boundary. -/
theorem scanTail_fraction (hdigits : ∀ c ∈ fraction, c.isDigit = true) (hne : fraction ≠ []) (h : Boundary rest) :
    scanTail negative whole ('.' :: (fraction ++ rest)) =
      (.ok ⟨negative, whole, fraction.map digitValue, 0, false⟩, rest) := by
  have htake := takeWhile_digits hdigits h.endsDigits
  have hdrop := dropWhile_digits hdigits h.endsDigits
  have hempty : fraction.isEmpty = false := List.isEmpty_eq_false_iff.mpr hne
  unfold scanTail
  simp only [htake, hdrop, hempty]
  cases h <;> rfl

/-- An exponent in front of a boundary, behind a fraction or none. -/
theorem scanTail_scientific (hdigits : ∀ c ∈ fraction, c.isDigit = true) (e : Int) (h : Boundary rest) :
    scanTail negative whole ((if fraction = [] then [] else '.' :: fraction) ++
        'e' :: (if e < 0 then '-' else '+') :: (Nat.toDigits 10 e.natAbs ++ rest)) =
      (.ok ⟨negative, whole, fraction.map digitValue, e, false⟩, rest) := by
  have hexponent : scanExponent ((if e < 0 then '-' else '+') :: (Nat.toDigits 10 e.natAbs ++ rest)) =
      (.ok e, rest) := by
    obtain ⟨hminus, hplus⟩ := scanExponent_digits e.natAbs h
    split_ifs with hneg
    · rw [hminus, show -(e.natAbs : Int) = e by omega]
    · rw [hplus, show (e.natAbs : Int) = e by omega]
  generalize (if e < 0 then '-' else '+') :: (Nat.toDigits 10 e.natAbs ++ rest) = s at hexponent ⊢
  have hends : EndsDigits ('e' :: s) := by
    rintro c ⟨⟩
    rfl
  by_cases hne : fraction = []
  · subst hne
    have htail : scanTail negative whole ('e' :: s) =
      ((scanExponent s).1.map fun e => ⟨negative, whole, [], e, false⟩, (scanExponent s).2) := rfl
    rw [if_pos rfl, List.nil_append, htail, hexponent]
    rfl
  · have htake := takeWhile_digits hdigits hends
    have hdrop := dropWhile_digits hdigits hends
    have hempty : fraction.isEmpty = false := List.isEmpty_eq_false_iff.mpr hne
    unfold scanTail
    simp only [if_neg hne, List.cons_append, htake, hdrop, hempty, hexponent]
    rfl

/-! ## Numerals that are not too large -/

/-- A real numeral of at most `places` digits in front of its point, whose exponent and last place are not far from
it. -/
structure Numeral.Modest (n : Numeral) (places : Nat) : Prop where
  real : n.isInteger = false
  exponent : n.exponent.natAbs ≤ 1000
  scale : -1000 ≤ n.scale
  front : ((Nat.toDigits 10 n.significand).length : Int) + n.scale ≤ places

theorem digitValue_lt {c : Char} (h : c.isDigit = true) : digitValue c < 10 := by
  obtain ⟨-, hle⟩ := Char.isDigit_iff_toNat.mp h
  have hnine : '9'.toNat = '0'.toNat + 9 := rfl
  unfold digitValue
  omega

theorem ofDigits_lt {ds : List Nat} (h : ∀ d ∈ ds, d < 10) : ofDigits ds < 10 ^ ds.length := by
  have hfold : ∀ m, ds.foldl (fun n d => n * 10 + d) m < (m + 1) * 10 ^ ds.length := by
    induction ds with
    | nil =>
      intro m
      rw [List.foldl_nil, List.length_nil, Nat.pow_zero]
      omega
    | cons d ds ih =>
      intro m
      have hd := h d List.mem_cons_self
      have hrest := ih (fun d hd => h d (List.mem_cons_of_mem _ hd)) (m * 10 + d)
      rw [List.foldl_cons, List.length_cons, Nat.pow_succ, Nat.mul_comm (10 ^ ds.length), ← Nat.mul_assoc]
      exact lt_of_lt_of_le hrest (Nat.mul_le_mul_right _ (by omega))
  have hlt := hfold 0
  rwa [Nat.zero_add, Nat.one_mul] at hlt

/-- The significand has no more digits than are written. -/
theorem modest_of_digits {w f : List Char} {e : Int} {places : Nat} (hw : WholeDigits w)
    (hf : ∀ c ∈ f, c.isDigit = true) (he : e.natAbs ≤ 1000) (hscale : -1000 ≤ e - (f.length : Int))
    (hfront : (w.length : Int) + e ≤ places) :
    Numeral.Modest ⟨negative, w.map digitValue, f.map digitValue, e, false⟩ places := by
  have hlt : ofDigits (w.map digitValue ++ f.map digitValue) < 10 ^ (w.length + f.length) := by
    have hdigits : ∀ d ∈ w.map digitValue ++ f.map digitValue, d < 10 := by
      rw [← List.map_append]
      intro d hd
      obtain ⟨c, hc, rfl⟩ := List.mem_map.mp hd
      rcases List.mem_append.mp hc with hc | hc
      · exact digitValue_lt (hw.digits c hc)
      · exact digitValue_lt (hf c hc)
    have hlength := ofDigits_lt hdigits
    rwa [List.length_append, List.length_map, List.length_map] at hlength
  have hpos : 0 < w.length := by
    obtain ⟨c, cs, rfl, -⟩ := hw.head
    exact Nat.succ_pos _
  have hsize := (Nat.length_toDigits_le_iff (by decide) (by omega)).mpr hlt
  refine ⟨rfl, he, ?_, ?_⟩
  · unfold Numeral.scale
    rwa [List.length_map]
  · unfold Numeral.significand Numeral.scale
    rw [List.length_map]
    dsimp only
    omega

/-- A text that starts with a digit and is scanned as a modest numeral, behind a sign or none. -/
structure SpellsModest (places : Nat) (s : List Char) : Prop where
  head : ∃ c cs, s = c :: cs ∧ c.isDigit = true
  scan : ∀ (negative : Bool) (rest : List Char), Boundary rest → ∃ n : Numeral, n.Modest places ∧
    scanNumeral ((if negative then ['-'] else []) ++ (s ++ rest)) = (.ok n, rest)

section Spelled
variable {w f : List Char} {places : Nat}

theorem WholeDigits.head_append (hw : WholeDigits w) (s : List Char) :
    ∃ c cs, w ++ s = c :: cs ∧ c.isDigit = true := by
  have hdigits := hw.digits
  obtain ⟨c, cs, rfl, -⟩ := hw.head
  exact ⟨c, cs ++ s, rfl, hdigits c List.mem_cons_self⟩

theorem spells_fraction (hw : WholeDigits w) (hf : ∀ c ∈ f, c.isDigit = true) (hne : f ≠ []) (hlow : f.length ≤ 1000)
    (hfront : w.length ≤ places) : SpellsModest places (w ++ '.' :: f) := by
  refine ⟨hw.head_append _, fun negative rest hrest => ?_⟩
  refine ⟨⟨negative, _, _, _, _⟩, modest_of_digits (e := 0) hw hf (by decide) (by omega) (by omega), ?_⟩
  rw [List.append_assoc, List.cons_append, scanNumeral_whole negative hw (by rintro c ⟨⟩; rfl)]
  exact scanTail_fraction hf hne hrest

theorem spells_scientific {e : Int} (hw : WholeDigits w) (hf : ∀ c ∈ f, c.isDigit = true) (he : e.natAbs ≤ 1000)
    (hlow : -1000 ≤ e - (f.length : Int)) (hfront : (w.length : Int) + e ≤ places) :
    SpellsModest places (w ++ ((if f = [] then [] else '.' :: f) ++
      'e' :: (if e < 0 then '-' else '+') :: Nat.toDigits 10 e.natAbs)) := by
  refine ⟨hw.head_append _, fun negative rest hrest => ?_⟩
  refine ⟨⟨negative, _, _, _, _⟩, modest_of_digits hw hf he hlow hfront, ?_⟩
  have hends : EndsDigits ((if f = [] then [] else '.' :: f) ++
      'e' :: (if e < 0 then '-' else '+') :: Nat.toDigits 10 e.natAbs ++ rest) := by
    split_ifs <;> rintro c ⟨⟩ <;> rfl
  rw [List.append_assoc, scanNumeral_whole negative hw hends, List.append_assoc]
  exact scanTail_scientific hf e hrest

end Spelled

/-! ## The text of a double -/

theorem digits_take {ds : List Char} (hds : WholeDigits ds) {n : Nat} (hn : 0 < n) : WholeDigits (ds.take n) := by
  refine ⟨fun c hc => hds.digits c (List.mem_of_mem_take hc), ?_⟩
  obtain ⟨c, cs, rfl, hzero⟩ := hds.head
  obtain ⟨n, rfl⟩ : ∃ k, n = k + 1 := ⟨n - 1, by omega⟩
  refine ⟨c, cs.take n, rfl, ?_⟩
  intro hc
  rw [hzero hc, List.take_nil]

theorem isDigit_of_mem_replicate {n : Nat} {c : Char} (h : c ∈ List.replicate n '0') : c.isDigit = true := by
  rw [List.eq_of_mem_replicate h]
  rfl

/-- Zeros may follow digits that do not start with one. -/
theorem digits_zeros {m n : Nat} (hm : 0 < n → m ≠ 0) :
    WholeDigits (Nat.toDigits 10 m ++ List.replicate n '0') := by
  have hdigits := wholeDigits_toDigits m
  rcases Nat.eq_zero_or_pos n with rfl | hn
  · rwa [List.replicate_zero, List.append_nil]
  · obtain ⟨c, cs, heq, -⟩ := hdigits.head
    refine ⟨?_, c, cs ++ List.replicate n '0', by rw [heq, List.cons_append], ?_⟩
    · intro c hc
      rcases List.mem_append.mp hc with hc | hc
      · exact hdigits.digits c hc
      · exact isDigit_of_mem_replicate hc
    · rintro rfl
      have hhead := head?_toDigits (Nat.pos_of_ne_zero (hm hn))
      rw [heq] at hhead
      exact absurd rfl hhead

section Digits
variable {d : Digits} {places : Nat}

theorem spells_positional (hlow : -400 ≤ d.grid) (hzero : 0 < d.grid → d.coefficient ≠ 0) (hpos : 0 < places)
    (hfront : d.grid + ((Nat.toDigits 10 d.coefficient).length : Int) ≤ places) :
    SpellsModest places (Double.positional d ['.', '0']) := by
  have hdigits := wholeDigits_toDigits d.coefficient
  have hlength := Nat.length_toDigits_pos (b := 10) (n := d.coefficient)
  have hdigit : ∀ c ∈ ['0'], c.isDigit = true := fun _ => isDigit_of_mem_replicate (n := 1)
  unfold Double.positional Double.natDigits
  dsimp only
  split_ifs with hwhole hinside
  · apply spells_fraction (digits_zeros fun h => hzero (by omega)) hdigit (List.cons_ne_nil _ _) (by decide)
    rw [List.length_append, List.length_replicate]
    omega
  · apply spells_fraction (digits_take hdigits (by omega)) fun c hc => hdigits.digits c (List.mem_of_mem_drop hc)
    · rw [← List.length_pos_iff, List.length_drop]
      omega
    · rw [List.length_drop]
      omega
    · rw [List.length_take]
      omega
  · have hzeros : ∀ c ∈ List.replicate ((-d.grid).toNat - (Nat.toDigits 10 d.coefficient).length) '0' ++
        Nat.toDigits 10 d.coefficient, c.isDigit = true := by
      intro c hc
      rcases List.mem_append.mp hc with hc | hc
      · exact isDigit_of_mem_replicate hc
      · exact hdigits.digits c hc
    rw [List.append_assoc]
    apply spells_fraction (w := ['0']) ⟨hdigit, '0', [], rfl, fun _ => rfl⟩ hzeros
    · rw [← List.length_pos_iff, List.length_append]
      omega
    · rw [List.length_append, List.length_replicate]
      omega
    · exact hpos

theorem spells_of_scientific (hlow : -400 ≤ d.grid) (hplaces : places ≤ 400)
    (hfront : d.grid + ((Nat.toDigits 10 d.coefficient).length : Int) ≤ places) :
    SpellsModest places (Double.scientific d) := by
  have hdigits := wholeDigits_toDigits d.coefficient
  have hlength := Nat.length_toDigits_pos (b := 10) (n := d.coefficient)
  have hfraction : (if (Nat.toDigits 10 d.coefficient).length ≤ 1 then []
      else '.' :: (Nat.toDigits 10 d.coefficient).drop 1) =
      if (Nat.toDigits 10 d.coefficient).drop 1 = [] then [] else '.' :: (Nat.toDigits 10 d.coefficient).drop 1 := by
    simp only [List.drop_eq_nil_iff]
  unfold Double.scientific Double.natDigits
  dsimp only
  rw [hfraction, List.append_assoc]
  apply spells_scientific (digits_take hdigits Nat.one_pos) fun c hc => hdigits.digits c (List.mem_of_mem_drop hc)
  · omega
  · rw [List.length_drop]
    omega
  · rw [List.length_take]
    omega

end Digits

/-- **The text of a double that is not too large** is a sign, if it has one, and a modest numeral. -/
theorem exists_spells (h : Below k x) (hk : k ≤ 1024) :
    ∃ s, SpellsModest (k / 3 + 3) s ∧ Double.jsonText x = (if Double.isNegative x then ['-'] else []) ++ s := by
  have hlow := Double.grid_bounds x
  have hleading := Double.leading_le h
  refine ⟨_, ?_, rfl⟩
  unfold Double.natDigits
  split_ifs
  · exact spells_positional hlow (Double.coefficient_ne_zero h hk) (by omega) (by omega)
  · exact spells_of_scientific hlow (by omega) (by omega)

/-! ## Exchange bodies -/

namespace Numeral

variable {n : Numeral} {places : Nat}

theorem signed?_below (n : Numeral) (h : Below k x) (hk : k ≤ 972) : ∃ y hy, n.signed? x = some (.real y hy) := by
  unfold signed? Number.ofFloat?
  split_ifs with hneg hfinite hfinite
  · exact ⟨_, hfinite, rfl⟩
  · exact absurd (h.neg hk).finite hfinite
  · exact ⟨_, hfinite, rfl⟩
  · exact absurd h.finite hfinite

theorem nearest?_modest (h : n.Modest places) (hplaces : places ≤ 200) : ∃ y hy, n.nearest? = some (.real y hy) :=
  n.signed?_below (Double.below_nearest h.front hplaces) (by omega)

theorem oneStep?_eq {m : Nat} {e : Int} {y : Float} (h : oneStep? m e = some y) : y = Double.nearest m e := by
  unfold oneStep? at h
  dsimp only at h
  split_ifs at h <;> cases h <;> rfl

/-- The digits that do not fit into 64 bits only make a number smaller. -/
theorem real?_modest (h : n.Modest places) (hplaces : places ≤ 200) : ∃ y hy, n.real? = some (.real y hy) := by
  have hfront := h.front
  have hscale : n.scale.bmod (2 ^ 32) = n.scale := by
    have hlow := h.scale
    have hpos := Nat.length_toDigits_pos (b := 10) (n := n.significand)
    apply Int.bmod_eq_of_le <;> omega
  unfold real?
  rw [hscale]
  split
  · next y hstep =>
    rw [oneStep?_eq hstep]
    apply n.signed?_below (k := 4 * places + 56) _ (by omega)
    apply Double.below_nearest _ hplaces
    have hle : n.significand % 2 ^ 64 ≤ n.significand := Nat.mod_le _ _
    have hdigits := (Nat.length_toDigits_le_iff (by decide : 1 < 10) Nat.length_toDigits_pos).mpr
      (lt_of_le_of_lt hle (Double.lt_pow_digits n.significand))
    omega
  · exact nearest?_modest h hplaces

/-- **A modest numeral is a real**, in one step or from its text. -/
theorem exchangeNumber?_modest (h : n.Modest places) (hplaces : places ≤ 200) (long : Bool) :
    ∃ y hy, n.exchangeNumber? long = some (.real y hy) := by
  have hexponent := h.exponent
  have hfew : ¬2 ^ 32 < n.exponent.natAbs / 10 := by omega
  unfold exchangeNumber?
  rw [h.real, if_neg Bool.false_ne_true, if_neg hfew]
  split_ifs
  · exact nearest?_modest h hplaces
  · exact real?_modest h hplaces

end Numeral

/-- What the numbers of an exchange body are read as: integers as themselves, and reals as reals. -/
inductive Number.ReadAs : Number → Number → Prop where
  | int (n : Int) (fits : -2 ^ 63 ≤ n ∧ n < 2 ^ 64) : ReadAs (.int n fits) (.int n fits)
  | real (x y : Float) (hx : x.isFinite = true) (hy : y.isFinite = true) : ReadAs (.real x hx) (.real y hy)

/-- The numbers that are integers. -/
def Number.Integral (n : Number) : Prop := n.toInt?.isSome = true

/-- The text of a finite double starts like a number. -/
theorem real_head (finite : x.isFinite = true) :
    ∃ c cs, (Number.real x finite).chars = c :: cs ∧ (c = '-' ∨ c.isDigit = true) := by
  obtain ⟨s, hspells, htext⟩ := exists_spells (Double.below_of_isFinite finite) (by decide)
  have hchars : (Number.real x finite).chars = (if Double.isNegative x then ['-'] else []) ++ s := htext
  rw [hchars]
  split_ifs
  · exact ⟨'-', s, rfl, Or.inl rfl⟩
  · obtain ⟨c, cs, hs, hc⟩ := hspells.head
    exact ⟨c, cs, hs, Or.inr hc⟩

/-- Exchange bodies have the doubles that are not too large. -/
theorem legible_real_exchange (h : Below k x) (hk : k ≤ 590) (size : Nat) :
    (Dialect.exchange size).LegibleAs Number.ReadAs (.real x h.finite) := by
  obtain ⟨s, hspells, htext⟩ := exists_spells h (by omega)
  have hchars : (Number.real x h.finite).chars = (if Double.isNegative x then ['-'] else []) ++ s := htext
  refine ⟨real_head h.finite, ?_⟩
  intro rest hrest
  obtain ⟨n, hmodest, hscan⟩ := hspells.scan (Double.isNegative x) rest hrest
  rw [← List.append_assoc, ← hchars] at hscan
  obtain ⟨long, hnumber⟩ := exchangeNumber_of_scan hscan hrest size
  obtain ⟨y, hy, hreal⟩ := Numeral.exchangeNumber?_modest hmodest (by omega) long
  rw [hreal] at hnumber
  exact ⟨.real y hy, .real x y h.finite hy, hnumber⟩

/-- The text of a double is read back as the same double, wherever it ends in a body of `size` bytes. -/
def ReadsBack (size : Nat) (x : Float) : Prop :=
  ∀ finite rest, Boundary rest →
    (Dialect.exchange size).number (Double.jsonText x ++ rest) = (.number (.real x finite), rest)

theorem ReadsBack.legible {size : Nat} (h : ReadsBack size x) (finite : x.isFinite = true) :
    (Dialect.exchange size).Legible (.real x finite) :=
  ⟨real_head finite, h finite⟩

/-- The numbers that exchange bodies have: integers, and doubles that are not too large. -/
inductive Number.Readable : Number → Prop where
  | int (n : Int) (fits : -2 ^ 63 ≤ n ∧ n < 2 ^ 64) : Readable (.int n fits)
  | real {x : Float} (h : Below 590 x) : Readable (.real x h.finite)

theorem Number.Integral.readable {n : Number} (h : n.Integral) : n.Readable := by
  cases n with
  | int n fits => exact .int n fits
  | real x finite => cases h

/-- **Exchange bodies have these numbers**: integers are read as themselves, and reals as reals. -/
theorem legibleAs_exchange {n : Number} (h : n.Readable) (size : Nat) :
    (Dialect.exchange size).LegibleAs Number.ReadAs n := by
  cases h with
  | int n fits =>
    have hlegible := legible_int_exchange fits size
    exact ⟨hlegible.head, fun rest hrest => ⟨_, .int n fits, hlegible.scan rest hrest⟩⟩
  | real hx => exact legible_real_exchange hx (by decide) size

end BidAdapter.Json
