import BidAdapter.Decimal.Reader
import BidAdapter.Proofs.Decimal.Value

/-!
# Texts of numbers

What a text writes is said without any limit to its digits, and then compared with what is read of it.

* `Unsigned`, `Plain` : texts, and the numbers that they write;
* `rounding_of_unsigned` : what is read of digits and a point is their number, rounded, and nothing is read only if the
  number does not fit; `unsigned_of_readPlaces` : nothing else is read;
* `rounded_of_plain`, `plain_of_plain?` : the same behind a sign.
-/

namespace BidAdapter.Decimal

set_option autoImplicit false

variable {c : Char} {cs w f rest : List Char} {n s d : Nat} {q : ℚ} {led : Bool} {p : Partial} {r : Nat × Nat}

/-! ## Numerals -/

/-- The number that digits write behind those of `n`. Marks between them do not count. -/
def digitsFrom (n : Nat) (cs : List Char) : Nat :=
  cs.foldl (fun n c => if c.isDigit then n * 10 + (c.toNat - '0'.toNat) else n) n

/-- How many digits there are. -/
def places (cs : List Char) : Nat := cs.countP Char.isDigit

/-- Digits and the marks that group them. A mark needs a digit before it; `led` says whether there is one already. -/
inductive Grouped : Bool → List Char → Prop where
  | nil {led : Bool} : Grouped led []
  | digit {led : Bool} {c : Char} {cs : List Char} (hc : c.isDigit = true) (h : Grouped true cs) : Grouped led (c :: cs)
  | mark {cs : List Char} (h : Grouped true cs) : Grouped true ('_' :: cs)

/-- Digits, with a point among them or none, and the number that they write. -/
inductive Unsigned : List Char → ℚ → Prop where
  | whole {w : List Char} (hw : Grouped false w) (hne : w ≠ []) : Unsigned w (digitsFrom 0 w)
  | point {w f : List Char} (hw : Grouped false w) (hf : Grouped (!w.isEmpty) f) (hne : w ≠ [] ∨ f ≠ []) :
    Unsigned (w ++ '.' :: f) (digitsFrom (digitsFrom 0 w) f / 10 ^ places f)

/-- Digits behind a sign or none. -/
inductive Plain : List Char → ℚ → Prop where
  | minus {cs : List Char} {q : ℚ} (h : Unsigned cs q) : Plain ('-' :: cs) (-q)
  | plus {cs : List Char} {q : ℚ} (h : Unsigned cs q) : Plain ('+' :: cs) q
  | bare {cs : List Char} {q : ℚ} (h : Unsigned cs q) : Plain cs q

/-! ## Digits -/

theorem digitsFrom_digit (hc : c.isDigit = true) (n : Nat) (cs : List Char) :
    digitsFrom n (c :: cs) = digitsFrom (n * 10 + (c.toNat - '0'.toNat)) cs := by
  rw [digitsFrom, List.foldl_cons, if_pos hc]
  rfl

theorem digitsFrom_mark (n : Nat) (cs : List Char) : digitsFrom n ('_' :: cs) = digitsFrom n cs := rfl

theorem places_digit (hc : c.isDigit = true) (cs : List Char) : places (c :: cs) = places cs + 1 :=
  List.countP_cons_of_pos hc

theorem places_mark (cs : List Char) : places ('_' :: cs) = places cs := rfl

theorem digit_le (hc : c.isDigit = true) : c.toNat - '0'.toNat ≤ 9 := by
  obtain ⟨-, hle⟩ := Char.isDigit_iff_toNat.mp hc
  have hnine : '9'.toNat = '0'.toNat + 9 := rfl
  omega

/-- What follows does not change the digits in front of it. -/
theorem digitsFrom_bounds (h : Grouped led cs) (n : Nat) :
    n * 10 ^ places cs ≤ digitsFrom n cs ∧ digitsFrom n cs < (n + 1) * 10 ^ places cs := by
  induction h generalizing n with
  | nil => simp [digitsFrom, places]
  | @digit _ c cs hc h ih =>
    obtain ⟨hlow, hhigh⟩ := ih (n * 10 + (c.toNat - '0'.toNat))
    have hd := digit_le hc
    rw [digitsFrom_digit hc, places_digit hc, Nat.pow_succ, Nat.mul_comm (10 ^ places cs), ← Nat.mul_assoc,
      ← Nat.mul_assoc]
    constructor
    · exact (Nat.mul_le_mul_right _ (by omega)).trans hlow
    · exact hhigh.trans_le (Nat.mul_le_mul_right _ (by omega))
  | mark h ih =>
    rw [digitsFrom_mark, places_mark]
    exact ih n

theorem le_digitsFrom (h : Grouped led cs) (n : Nat) : n ≤ digitsFrom n cs :=
  (Nat.le_mul_of_pos_right n (Nat.pow_pos (by decide))).trans (digitsFrom_bounds h n).1

/-- The same as a bound of the number with its point behind the first digits. -/
theorem div_bounds (h : Grouped led cs) (n : Nat) :
    (n : ℚ) ≤ digitsFrom n cs / 10 ^ places cs ∧ (digitsFrom n cs : ℚ) / 10 ^ places cs < n + 1 := by
  obtain ⟨hlow, hhigh⟩ := digitsFrom_bounds h n
  have hpos : (0 : ℚ) < 10 ^ places cs := by positivity
  constructor
  · rw [le_div_iff₀ hpos]
    exact_mod_cast hlow
  · rw [div_lt_iff₀ hpos]
    exact_mod_cast hhigh

theorem Unsigned.nonneg (h : Unsigned cs q) : 0 ≤ q := by
  cases h with
  | whole hw hne => positivity
  | point hw hf hne => positivity

theorem Unsigned.ne_nil (h : Unsigned cs q) : cs ≠ [] := by
  cases h with
  | whole hw hne => exact hne
  | point hw hf hne => exact List.append_ne_nil_of_right_ne_nil _ (List.cons_ne_nil _ _)

theorem Plain.ne_nil (h : Plain cs q) : cs ≠ [] := by
  cases h with
  | minus h => exact List.cons_ne_nil _ _
  | plus h => exact List.cons_ne_nil _ _
  | bare h => exact h.ne_nil

/-! ## One character -/

theorem readPlaces_digit_whole (hc : c.isDigit = true) (hp : p.point = false) :
    readPlaces p (c :: cs) =
      if p.coefficient * 10 + (c.toNat - '0'.toNat) < 2 ^ 96 then
        readPlaces ⟨p.coefficient * 10 + (c.toNat - '0'.toNat), p.scale, true, false⟩ cs
      else none := by
  rw [readPlaces, if_pos hc]
  simp [hp]

theorem readPlaces_digit_behind (hc : c.isDigit = true) (hp : p.point = true) :
    readPlaces p (c :: cs) =
      if p.scale = 28 ∨ 2 ^ 96 ≤ p.coefficient * 10 + (c.toNat - '0'.toNat) then
        roundOff p.coefficient p.scale (c.toNat - '0'.toNat) cs
      else readPlaces ⟨p.coefficient * 10 + (c.toNat - '0'.toNat), p.scale + 1, true, true⟩ cs := by
  rw [readPlaces, if_pos hc]
  simp only [hp, Bool.true_and, beq_iff_eq, if_true]
  by_cases hlast : p.scale = 28
  · rw [if_pos hlast, if_pos (Or.inl hlast)]
  by_cases hfits : p.coefficient * 10 + (c.toNat - '0'.toNat) < 2 ^ 96
  · rw [if_neg hlast, if_pos hfits, if_neg (by omega)]
  · rw [if_neg hlast, if_neg hfits, if_pos (by omega)]

theorem readPlaces_point (hp : p.point = false) : readPlaces p ('.' :: cs) = readPlaces { p with point := true } cs := by
  rw [readPlaces, if_neg (by decide), if_pos (by simp [hp])]

theorem readPlaces_mark (hp : p.digits = true) : readPlaces p ('_' :: cs) = readPlaces p cs := by
  rw [readPlaces, if_neg (by decide), if_neg (by simp), if_pos (by simp [hp])]

/-- What may stand in front of characters that are read. -/
inductive MayLead (p : Partial) : Char → Prop where
  | digit {c : Char} (hc : c.isDigit = true) : MayLead p c
  | point (hp : p.point = false) : MayLead p '.'
  | mark (hp : p.digits = true) : MayLead p '_'

theorem mayLead_of_readPlaces (h : readPlaces p (c :: cs) = some r) : MayLead p c := by
  by_cases hc : c.isDigit = true
  · exact .digit hc
  rw [readPlaces, if_neg hc] at h
  split_ifs at h with hdot hmark
  · simp only [Bool.and_eq_true, decide_eq_true_eq, Bool.not_eq_true'] at hdot
    obtain ⟨rfl, hp⟩ := hdot
    exact .point hp
  · simp only [Bool.and_eq_true, decide_eq_true_eq] at hmark
    obtain ⟨rfl, hp⟩ := hmark
    exact .mark hp

/-! ## Only numerals are read -/

theorem grouped_of_forall (h : ∀ x ∈ cs, x.isDigit = true ∨ x = '_') : Grouped true cs := by
  induction cs with
  | nil => exact .nil
  | cons c cs ih =>
    have hcs := ih fun x hx => h x (List.mem_cons_of_mem _ hx)
    rcases h c List.mem_cons_self with hc | rfl
    · exact .digit hc hcs
    · exact .mark hcs

theorem grouped_of_roundOff (h : roundOff n s d cs = some r) : Grouped true cs := by
  apply grouped_of_forall
  intro x hx
  by_contra hother
  have hany : (cs.any fun c => !c.isDigit && c != '_') = true := List.any_eq_true.mpr ⟨x, hx, by simpa using hother⟩
  rw [roundOff, if_pos hany] at h
  cases h

/-- Behind the point stand digits and marks. -/
theorem grouped_of_readPlaces (hp : p.point = true) (h : readPlaces p cs = some r) :
    Grouped p.digits cs ∧ (p.digits = true ∨ cs ≠ []) := by
  induction cs generalizing p with
  | nil =>
    rw [readPlaces] at h
    split_ifs at h with hdigits
    exact ⟨.nil, Or.inl hdigits⟩
  | cons c cs ih =>
    refine ⟨?_, Or.inr (List.cons_ne_nil _ _)⟩
    cases mayLead_of_readPlaces h with
    | digit hc =>
      rw [readPlaces_digit_behind hc hp] at h
      split_ifs at h
      · exact .digit hc (grouped_of_roundOff h)
      · exact .digit hc (ih rfl h).1
    | point hp' =>
      rw [hp] at hp'
      cases hp'
    | mark hdigits =>
      rw [readPlaces_mark hdigits] at h
      have hcs := (ih hp h).1
      rw [hdigits] at hcs ⊢
      exact .mark hcs

/-- Before the point stand digits and marks, and behind it more of them. -/
theorem splits_of_readPlaces (hp : p.point = false) (h : readPlaces p cs = some r) :
    (Grouped p.digits cs ∧ (p.digits = true ∨ cs ≠ [])) ∨ ∃ w f, cs = w ++ '.' :: f ∧ Grouped p.digits w ∧
      Grouped (p.digits || !w.isEmpty) f ∧ (p.digits = true ∨ w ≠ [] ∨ f ≠ []) := by
  induction cs generalizing p with
  | nil =>
    rw [readPlaces] at h
    split_ifs at h with hdigits
    exact Or.inl ⟨.nil, Or.inl hdigits⟩
  | cons c cs ih =>
    cases mayLead_of_readPlaces h with
    | digit hc =>
      rw [readPlaces_digit_whole hc hp] at h
      split_ifs at h
      rcases ih rfl h with ⟨hcs, -⟩ | ⟨w, f, rfl, hw, hf, -⟩
      · exact Or.inl ⟨.digit hc hcs, Or.inr (List.cons_ne_nil _ _)⟩
      · exact Or.inr ⟨c :: w, f, rfl, .digit hc hw, by simpa using hf, Or.inr (Or.inl (List.cons_ne_nil _ _))⟩
    | point _ =>
      rw [readPlaces_point hp] at h
      obtain ⟨hcs, hne⟩ := grouped_of_readPlaces rfl h
      refine Or.inr ⟨[], cs, rfl, .nil, ?_, hne.imp_right Or.inr⟩
      simpa using hcs
    | mark hdigits =>
      rw [readPlaces_mark hdigits] at h
      have hrest := ih hp h
      rw [hdigits] at hrest ⊢
      rcases hrest with ⟨hcs, -⟩ | ⟨w, f, rfl, hw, hf, -⟩
      · exact Or.inl ⟨.mark hcs, Or.inl rfl⟩
      · exact Or.inr ⟨'_' :: w, f, rfl, .mark hw, by simpa using hf, Or.inl rfl⟩

theorem unsigned_of_readPlaces (h : readPlaces ⟨0, 0, false, false⟩ cs = some r) : ∃ q, Unsigned cs q := by
  rcases splits_of_readPlaces rfl h with ⟨hcs, hne⟩ | ⟨w, f, rfl, hw, hf, hne⟩
  · exact ⟨_, .whole hcs (hne.resolve_left (by decide))⟩
  · exact ⟨_, .point hw (by simpa using hf) (hne.resolve_left (by decide))⟩

/-! ## What is read of a numeral -/

/-- What comes of a number without a sign: it is rounded, or it does not fit. -/
inductive Rounding (q : ℚ) : Option (Nat × Nat) → Prop where
  | kept {c s : Nat} (hc : c < 2 ^ 96) (hs : s ≤ 28) (h : RoundsTo q c s) : Rounding q (some (c, s))
  | beyond (h : 2 ^ 96 - 1 / 2 ≤ q) : Rounding q none

theorem nearest_of_bounds (hlow : (n : ℚ) - 1 / 2 ≤ q * 10 ^ s) (hhigh : q * 10 ^ s < n + 1 / 2) :
    round (q * 10 ^ s) = (n : ℤ) := by
  rw [round_eq_iff, Set.mem_Ico]
  exact_mod_cast And.intro hlow hhigh

theorem rounding_exact (hn : n < 2 ^ 96) (hs : s ≤ 28) : Rounding (n / 10 ^ s) (some (n, s)) := by
  have hexact : (n : ℚ) / 10 ^ s * 10 ^ s = n := div_mul_cancel₀ _ (by positivity)
  exact .kept hn hs ⟨by rw [hexact, round_natCast], Or.inl hexact⟩

theorem Grouped.any_eq_false (h : Grouped led cs) : (cs.any fun c => !c.isDigit && c != '_') = false := by
  induction h with
  | nil => rfl
  | digit hc h ih =>
    rw [List.any_cons, ih, hc]
    rfl
  | mark h ih =>
    rw [List.any_cons, ih]
    rfl

theorem roundOff_eq (hcs : Grouped led cs) (n s d : Nat) :
    roundOff n s d cs = if 5 ≤ d then roundUp n s else some (n, s) := by
  rw [roundOff, if_neg (by rw [hcs.any_eq_false]; decide)]

theorem rounding_roundUp (hn : n < 2 ^ 96) (hs : s ≤ 28) (hroom : s = 28 ∨ 2 ^ 96 - 1 / 2 ≤ q * 10 ^ (s + 1))
    (hlow : (n : ℚ) + 1 / 2 ≤ q * 10 ^ s) (hhigh : q * 10 ^ s < n + 1) : Rounding q (roundUp n s) := by
  unfold roundUp
  split_ifs with hfits
  · refine .kept hfits hs ⟨nearest_of_bounds ?_ ?_, Or.inr hroom⟩
    all_goals
      push_cast
      linarith
  -- The coefficient is the largest one, and the increment carries into a place less.
  have hlast : n = 2 ^ 96 - 1 := by omega
  subst hlast
  norm_num at hlow hhigh
  cases s with
  | zero =>
    refine .beyond ?_
    norm_num at hlow ⊢
    linarith
  | succ s =>
    have hplace : 2 ^ 96 - 1 / 2 ≤ q * 10 ^ (s + 1) := by
      norm_num
      linarith
    rw [pow_succ] at hlow hhigh
    refine .kept (by decide) (by omega) ⟨nearest_of_bounds ?_ ?_, Or.inr (Or.inr hplace)⟩
    all_goals
      norm_num
      linarith

/-- The number of which the coefficient `n` has been read, and its next place is `d`. -/
theorem rounding_roundOff (hcs : Grouped led cs) (hn : n < 2 ^ 96) (hs : s ≤ 28) (hd : d ≤ 9)
    (hfull : s = 28 ∨ 2 ^ 96 ≤ n * 10 + d) (hlow : ((n * 10 + d : Nat) : ℚ) ≤ q * 10 ^ (s + 1))
    (hhigh : q * 10 ^ (s + 1) < (n * 10 + d : Nat) + 1) : Rounding q (roundOff n s d cs) := by
  have hroom : s = 28 ∨ 2 ^ 96 - 1 / 2 ≤ q * 10 ^ (s + 1) := by
    refine hfull.imp_right fun hlarge => ?_
    have hlarge' : (2 : ℚ) ^ 96 ≤ (n * 10 + d : Nat) := by exact_mod_cast hlarge
    linarith
  rw [pow_succ] at hlow hhigh
  push_cast at hlow hhigh
  rw [roundOff_eq hcs]
  split_ifs with hup
  · have hlow' : (5 : ℚ) ≤ d := by exact_mod_cast hup
    have hhigh' : (d : ℚ) ≤ 9 := by exact_mod_cast hd
    exact rounding_roundUp hn hs hroom (by linarith) (by linarith)
  · have hdown : (d : ℚ) + 1 ≤ 5 := by exact_mod_cast not_le.mp hup
    exact .kept hn hs ⟨nearest_of_bounds (by linarith) (by linarith), Or.inr hroom⟩

/-- What is read behind the point. -/
theorem rounding_behind_point (hcs : Grouped led cs) (hne : led = true ∨ cs ≠ []) (hn : n < 2 ^ 96) (hs : s ≤ 28) :
    Rounding (digitsFrom n cs / 10 ^ (s + places cs)) (readPlaces ⟨n, s, led, true⟩ cs) := by
  induction hcs generalizing n s with
  | nil =>
    rw [readPlaces, if_pos (hne.resolve_right (not_not_intro rfl))]
    exact rounding_exact hn hs
  | @digit _ c cs hc hcs ih =>
    rw [readPlaces_digit_behind hc rfl, digitsFrom_digit hc, places_digit hc]
    split_ifs with hfull
    · obtain ⟨hlow, hhigh⟩ := div_bounds hcs (n * 10 + (c.toNat - '0'.toNat))
      have hbehind : (digitsFrom (n * 10 + (c.toNat - '0'.toNat)) cs : ℚ) / 10 ^ (s + (places cs + 1)) * 10 ^ (s + 1)
          = digitsFrom (n * 10 + (c.toNat - '0'.toNat)) cs / 10 ^ places cs := by
        rw [Nat.add_left_comm, pow_add, ← div_div, div_mul_cancel₀ _ (by positivity)]
      rw [← hbehind] at hlow hhigh
      exact rounding_roundOff hcs hn hs (digit_le hc) hfull hlow hhigh
    · rw [Nat.add_comm (places cs), ← Nat.add_assoc]
      exact ih (Or.inl rfl) (by simp only at hfull; omega) (by simp only at hfull; omega)
  | mark hcs ih =>
    rw [readPlaces_mark rfl, digitsFrom_mark, places_mark]
    exact ih (Or.inl rfl) hn hs

/-- What is read before the point. -/
theorem readPlaces_whole (hw : Grouped led w) (hn : n < 2 ^ 96) (rest : List Char) :
    readPlaces ⟨n, 0, led, false⟩ (w ++ rest) =
      if digitsFrom n w < 2 ^ 96 then readPlaces ⟨digitsFrom n w, 0, led || !w.isEmpty, false⟩ rest else none := by
  induction hw generalizing n with
  | nil =>
    rw [List.nil_append, List.isEmpty_nil, Bool.not_true, Bool.or_false]
    exact (if_pos hn).symm
  | @digit _ c w hc hw ih =>
    rw [List.cons_append, readPlaces_digit_whole hc rfl, digitsFrom_digit hc, List.isEmpty_cons, Bool.not_false,
      Bool.or_true]
    by_cases hnext : n * 10 + (c.toNat - '0'.toNat) < 2 ^ 96
    · rw [if_pos hnext, ih hnext, Bool.true_or]
    · rw [if_neg hnext, if_neg fun hfits => hnext ((le_digitsFrom hw _).trans_lt hfits)]
  | mark hw ih =>
    rw [List.cons_append, readPlaces_mark rfl, digitsFrom_mark, ih hn, Bool.true_or, Bool.true_or]

theorem beyond_of_le (h : (2 : ℚ) ^ 96 ≤ q) : Rounding q none := .beyond (by linarith)

/-- A number is read and rounded, and only one that does not fit is not read. -/
theorem rounding_of_unsigned (h : Unsigned cs q) : Rounding q (readPlaces ⟨0, 0, false, false⟩ cs) := by
  cases h with
  | whole hw hne =>
    have hread := readPlaces_whole hw (n := 0) (by decide) []
    rw [List.append_nil] at hread
    rw [hread]
    split_ifs with hfits
    · rw [readPlaces, if_pos (by simpa using hne)]
      simpa using rounding_exact hfits (Nat.zero_le 28)
    · exact beyond_of_le (by exact_mod_cast not_lt.mp hfits)
  | @point w f hw hf hne =>
    rw [readPlaces_whole hw (by decide)]
    split_ifs with hfits
    · rw [readPlaces_point rfl]
      have hdigits : (!w.isEmpty) = true ∨ f ≠ [] := hne.imp_left fun h => by simpa using h
      have hrounding := rounding_behind_point hf hdigits hfits (Nat.zero_le 28)
      rwa [Nat.zero_add] at hrounding
    · have hlarge : (2 : ℚ) ^ 96 ≤ digitsFrom 0 w := by exact_mod_cast not_lt.mp hfits
      exact beyond_of_le (hlarge.trans (div_bounds hf _).1)

/-! ## Behind a sign -/

/-- What comes of a number: a decimal, or none where the number does not fit. -/
inductive Rounded (q : ℚ) : Option Decimal → Prop where
  | kept {d : Decimal} (hsign : d.SignOf q) (h : RoundsTo (|q|) d.coefficient d.scale) : Rounded q (some d)
  | beyond (h : Unfit q) : Rounded q none

theorem rounded_of_rounding {negative : Bool} {places : Option (Nat × Nat)} (hneg : negative = true → q ≤ 0)
    (hpos : negative = false → 0 ≤ q) (h : Rounding (|q|) places) : Rounded q (places.bind (ofPlaces? negative)) := by
  cases h with
  | beyond h => exact .beyond h
  | @kept c s hc hs h =>
    have hplaces : ofPlaces? negative (c, s) = some ⟨negative && c != 0, c, s, hc, hs⟩ := dif_pos ⟨hc, hs⟩
    rw [Option.bind_some, hplaces]
    refine .kept ⟨?_, ?_⟩ h
    · intro hminus
      exact hneg (Bool.and_eq_true_iff.mp hminus).1
    · intro hplus
      rcases Bool.and_eq_false_iff.mp hplus with hfalse | hzero
      · exact Or.inl (hpos hfalse)
      · exact Or.inr (by simpa using hzero)

theorem Unsigned.cons_inv (h : Unsigned (c :: cs) q) : c.isDigit = true ∨ c = '.' := by
  generalize ht : c :: cs = t at h
  cases h with
  | whole hw hne =>
    subst ht
    cases hw with
    | digit hc h => exact Or.inl hc
  | point hw hf hne =>
    cases hw with
    | nil => exact Or.inr (List.cons_eq_cons.mp ht).1
    | digit hc h =>
      rw [(List.cons_eq_cons.mp ht).1]
      exact Or.inl hc

theorem plain?_of_unsigned (h : Unsigned cs q) :
    plain? cs = (readPlaces ⟨0, 0, false, false⟩ cs).bind (ofPlaces? false) := by
  unfold plain?
  split
  · exact absurd h.cons_inv (by decide)
  · exact absurd h.cons_inv (by decide)
  · rfl

theorem rounded_of_unsigned (h : Unsigned cs q) :
    Rounded q ((readPlaces ⟨0, 0, false, false⟩ cs).bind (ofPlaces? false)) := by
  refine rounded_of_rounding (fun hminus => absurd hminus (by decide)) (fun _ => h.nonneg) ?_
  rw [abs_of_nonneg h.nonneg]
  exact rounding_of_unsigned h

/-- A plain text is read as its number, rounded, and only one that does not fit is not read. -/
theorem rounded_of_plain (h : Plain cs q) : Rounded q (plain? cs) := by
  cases h with
  | @minus cs q h =>
    refine rounded_of_rounding (fun _ => neg_nonpos.mpr h.nonneg) (fun hplus => absurd hplus (by decide)) ?_
    rw [abs_neg, abs_of_nonneg h.nonneg]
    exact rounding_of_unsigned h
  | plus h => exact rounded_of_unsigned h
  | bare h =>
    rw [plain?_of_unsigned h]
    exact rounded_of_unsigned h

/-- Nothing else is read. -/
theorem plain_of_plain? {d : Decimal} (h : plain? cs = some d) : ∃ q, Plain cs q := by
  unfold plain? at h
  split at h
  all_goals
    obtain ⟨places, hread, -⟩ := Option.bind_eq_some_iff.mp h
    obtain ⟨q, hq⟩ := unsigned_of_readPlaces hread
  · exact ⟨-q, .minus hq⟩
  · exact ⟨q, .plus hq⟩
  · exact ⟨q, .bare hq⟩

end BidAdapter.Decimal
