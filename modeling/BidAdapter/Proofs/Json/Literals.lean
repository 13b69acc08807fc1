import BidAdapter.Json.Printer
import BidAdapter.Json.Scan
import Mathlib.Data.List.Basic

/-!
# Literals read back

* `scanBody_escapes`, `textOf_pieces` : a quoted string is scanned as the string, in every dialect;
* `Boundary` : what may stand behind a value in a text that is written; `Dialect.Legible` : a number that a dialect
  scans as itself in front of a boundary;
* `legible_int` : requests and settings have every integer of the 64-bit ranges.
-/

namespace BidAdapter.Json

set_option autoImplicit false

/-! ## Strings -/

/-- The piece that a character is scanned as. -/
def pieceOf (c : Char) : Piece :=
  if c.toNat < 0x20 ∧ c ∉ ['\x08', '\x0c', '\n', '\r', '\t'] then .unit c.toNat else .char c

/-- The escape of a control character has its code in hexadecimal. -/
theorem unitOf?_hexDigit : ∀ n < 0x20, unitOf? '0' '0' (hexDigit (n / 16)) (hexDigit (n % 16)) = some n := by
  decide

/-- A character that stands for itself. -/
theorem scanBody_cons {c : Char} {rest : List Char} (hquote : c ≠ '"') (hslash : c ≠ '\\') (hc : ¬c.toNat < 0x20) :
    scanBody (c :: rest) = (scanBody rest).cons (.char c) := by
  rw [scanBody.eq_def]
  split
  · contradiction
  · next h => exact absurd (List.cons.inj h).1 hquote
  · next h => exact absurd (List.cons.inj h).1 hslash
  · next h => exact absurd (List.cons.inj h).1 hslash
  · next h => exact absurd (List.cons.inj h).1 hslash
  · -- no quotation mark, no backslash: only the last case is left
    next h =>
    obtain ⟨rfl, rfl⟩ := List.cons.inj h
    rw [if_neg hc]

/-- An escaped character is scanned as its piece. -/
theorem scanBody_escape (c : Char) (rest : List Char) :
    scanBody (escape c ++ rest) = (scanBody rest).cons (pieceOf c) := by
  unfold escape
  split_ifs with hquote hslash hb hf hn hr ht hcontrol
  · subst hquote
    rfl
  · subst hslash
    rfl
  · subst hb
    rfl
  · subst hf
    rfl
  · subst hn
    rfl
  · subst hr
    rfl
  · subst ht
    rfl
  · have hpiece : pieceOf c = .unit c.toNat := if_pos ⟨hcontrol, by simp [hb, hf, hn, hr, ht]⟩
    simp only [List.cons_append, List.nil_append]
    rw [scanBody, unitOf?_hexDigit c.toNat hcontrol, hpiece]
  · have hpiece : pieceOf c = .char c := if_neg fun h => hcontrol h.1
    rw [hpiece]
    exact scanBody_cons hquote hslash hcontrol

theorem scanBody_escapes (cs rest : List Char) :
    scanBody (cs.flatMap escape ++ '"' :: rest) = ⟨cs.map pieceOf, none, rest⟩ := by
  induction cs with
  | nil => rfl
  | cons c cs ih =>
    rw [List.flatMap_cons, List.append_assoc, scanBody_escape, ih]
    rfl

/-- No piece of a written string is a surrogate. -/
theorem Dialect.spell_pieceOf (d : Dialect) (cs : List Char) : d.spell (cs.map pieceOf) = .text cs := by
  induction cs with
  | nil => rfl
  | cons c cs ih =>
    rw [List.map_cons]
    by_cases h : c.toNat < 0x20 ∧ c ∉ ['\x08', '\x0c', '\n', '\r', '\t']
    · have htrailing : isTrailing c.toNat = false := by
        simp only [isTrailing, Bool.and_eq_false_iff, decide_eq_false_iff_not]
        omega
      have hleading : isLeading c.toNat = false := by
        simp only [isLeading, Bool.and_eq_false_iff, decide_eq_false_iff_not]
        omega
      rw [pieceOf, if_pos h, Dialect.spell.eq_def]
      simp only [htrailing, hleading, Bool.false_eq_true, if_false, ih, Char.ofNat_toNat]
      rfl
    · rw [pieceOf, if_neg h, Dialect.spell, ih]
      rfl

/-- **A quoted string is scanned as the string.** -/
theorem Dialect.textOf_pieces (d : Dialect) (s : String) (rest : List Char) :
    d.textOf ⟨s.toList.map pieceOf, none, rest⟩ = .ok s := by
  rw [Dialect.textOf, d.spell_pieceOf]
  simp only [String.ofList_toList]

/-! ## Numbers -/

/-- What may stand behind a value in a text that is written. -/
inductive Boundary : List Char → Prop where
  | nil : Boundary []
  | comma (rest : List Char) : Boundary (',' :: rest)
  | bracket (rest : List Char) : Boundary (']' :: rest)
  | brace (rest : List Char) : Boundary ('\x7d' :: rest)

/-- A number that is scanned as itself in front of a boundary, and starts like a number. -/
structure Dialect.Legible (d : Dialect) (n : Number) : Prop where
  head : ∃ c cs, n.chars = c :: cs ∧ (c = '-' ∨ c.isDigit = true)
  scan : ∀ rest, Boundary rest → d.number (n.chars ++ rest) = (.number n, rest)

theorem head?_digitChar : ∀ m < 10, 0 < m → [Nat.digitChar m].head? ≠ some '0' := by
  decide

/-- Only zero starts with the digit zero. -/
theorem head?_toDigits {m : Nat} (hm : 0 < m) : (Nat.toDigits 10 m).head? ≠ some '0' := by
  induction m using Nat.strongRecOn with
  | ind m ih =>
    by_cases hlt : m < 10
    · rw [Nat.toDigits_of_lt_base hlt]
      exact head?_digitChar m hlt hm
    · rw [Nat.toDigits_of_base_le (by decide) (by omega), List.head?_append]
      have hrec := ih (m / 10) (by omega) (by omega)
      cases hdigits : (Nat.toDigits 10 (m / 10)).head? with
      | none => exact absurd (List.head?_eq_none_iff.mp hdigits) Nat.toDigits_ne_nil
      | some c =>
        rw [hdigits] at hrec
        exact hrec

theorem ofDigits_toDigits (m : Nat) : ofDigits ((Nat.toDigits 10 m).map digitValue) = m := by
  rw [ofDigits, List.foldl_map]
  have hfold := Nat.ofDigitChars_ten_toDigits (n := m)
  rw [Nat.ofDigitChars_eq_foldl] at hfold
  simpa only [digitValue, Nat.mul_comm] using hfold

/-- A text in front of which a run of digits ends. -/
def EndsDigits (rest : List Char) : Prop := ∀ c ∈ rest.head?, c.isDigit = false

theorem Boundary.endsDigits {rest : List Char} (h : Boundary rest) : EndsDigits rest := by
  intro c hc
  cases h <;> cases hc <;> rfl

section Runs
variable {w rest : List Char} (hw : ∀ c ∈ w, c.isDigit = true) (hrest : EndsDigits rest)
include hw hrest

theorem takeWhile_digits : (w ++ rest).takeWhile Char.isDigit = w := by
  rw [List.takeWhile_append_of_pos hw]
  cases rest with
  | nil => rw [List.takeWhile_nil, List.append_nil]
  | cons c cs => rw [List.takeWhile_cons_of_neg (by rw [hrest c rfl]; decide), List.append_nil]

theorem dropWhile_digits : (w ++ rest).dropWhile Char.isDigit = rest := by
  rw [List.dropWhile_append_of_pos hw]
  cases rest with
  | nil => rfl
  | cons c cs => exact List.dropWhile_cons_of_neg (by rw [hrest c rfl]; decide)

end Runs

/-- The whole part of a numeral: a single zero, or digits that do not start with one. -/
structure WholeDigits (w : List Char) : Prop where
  digits : ∀ c ∈ w, c.isDigit = true
  head : ∃ c cs, w = c :: cs ∧ (c = '0' → cs = [])

/-- The whole part of a numeral behind its sign, if it has one. -/
theorem scanNumeral_whole {w rest : List Char} (negative : Bool) (hw : WholeDigits w) (hrest : EndsDigits rest) :
    scanNumeral ((if negative then ['-'] else []) ++ (w ++ rest)) =
      scanTail negative (w.map digitValue) rest := by
  have htake := takeWhile_digits hw.digits hrest
  have hdrop := dropWhile_digits hw.digits hrest
  have hdigits := hw.digits
  obtain ⟨c, cs, rfl, hzero⟩ := hw.head
  have hminus : c ≠ '-' := by
    rintro rfl
    exact absurd (hdigits '-' List.mem_cons_self) (by decide)
  rw [List.cons_append] at htake hdrop
  unfold scanNumeral
  cases negative <;>
    simp only [Bool.false_eq_true, if_false, if_true, List.nil_append, List.cons_append, List.cons.injEq, hminus,
      false_and, imp_self, implies_true, htake, hdrop]
  all_goals
    -- a zero stands alone, so the case of a number that goes on behind one is not met
    split
    · next heq => cases heq
    · next heq =>
      obtain ⟨rfl, rfl⟩ := List.cons.inj heq
      cases hzero rfl
    · rfl

theorem scanTail_boundary {negative : Bool} {whole : List Nat} {rest : List Char} (h : Boundary rest) :
    scanTail negative whole rest = (.ok ⟨negative, whole, [], 0, true⟩, rest) := by
  cases h <;> rfl

/-- The digits of a number: a single zero, or others that do not start with one. -/
theorem toDigits_shape (m : Nat) :
    ∃ c cs, Nat.toDigits 10 m = c :: cs ∧ c.isDigit = true ∧ (c = '0' → cs = []) := by
  cases hdigits : Nat.toDigits 10 m with
  | nil => exact absurd hdigits Nat.toDigits_ne_nil
  | cons c cs =>
    refine ⟨c, cs, rfl, ?_, ?_⟩
    · have hmem : c ∈ Nat.toDigits 10 m := by
        rw [hdigits]
        exact List.mem_cons_self
      exact Nat.isDigit_of_mem_toDigits (by decide) (by decide) hmem
    · intro hc
      rcases Nat.eq_zero_or_pos m with rfl | hm
      · rw [Nat.toDigits_zero] at hdigits
        exact (List.cons.inj hdigits).2.symm
      · have hhead := head?_toDigits hm
        rw [hdigits, hc] at hhead
        exact absurd rfl hhead

theorem wholeDigits_toDigits (m : Nat) : WholeDigits (Nat.toDigits 10 m) := by
  obtain ⟨c, cs, hdigits, -, hzero⟩ := toDigits_shape m
  refine ⟨?_, c, cs, hdigits, hzero⟩
  intro c hc
  exact Nat.isDigit_of_mem_toDigits (by decide) (by decide) hc

/-- The digits of a number behind its sign, if it has one. -/
theorem scanNumeral_digits {m : Nat} {rest : List Char} (h : Boundary rest) :
    scanNumeral (Nat.toDigits 10 m ++ rest) =
        (.ok ⟨false, (Nat.toDigits 10 m).map digitValue, [], 0, true⟩, rest) ∧
      scanNumeral ('-' :: (Nat.toDigits 10 m ++ rest)) =
        (.ok ⟨true, (Nat.toDigits 10 m).map digitValue, [], 0, true⟩, rest) := by
  have hscan : ∀ negative, scanNumeral ((if negative then ['-'] else []) ++ (Nat.toDigits 10 m ++ rest)) =
      (.ok ⟨negative, (Nat.toDigits 10 m).map digitValue, [], 0, true⟩, rest) := by
    intro negative
    rw [scanNumeral_whole negative (wholeDigits_toDigits m) h.endsDigits]
    exact scanTail_boundary h
  exact ⟨hscan false, hscan true⟩

/-- An integer is its sign and its absolute value. -/
theorem sign_natAbs (n : Int) : (if decide (n < 0) = true then -(n.natAbs : Int) else (n.natAbs : Int)) = n := by
  split_ifs with h
  · rw [decide_eq_true_eq] at h
    omega
  · rw [decide_eq_true_eq] at h
    omega

/-- The number of the digits of an integer; only the literal of a negative zero would be none. -/
theorem number?_digits {n : Int} (fits : -2 ^ 63 ≤ n ∧ n < 2 ^ 64) :
    Numeral.number? ⟨decide (n < 0), (Nat.toDigits 10 n.natAbs).map digitValue, [], 0, true⟩ = some (.int n fits) := by
  have hzero : ¬(decide (n < 0) = true ∧ n.natAbs = 0) := by
    rw [decide_eq_true_eq]
    omega
  unfold Numeral.number?
  simp only [if_true, ofDigits_toDigits, if_neg hzero, sign_natAbs, Number.ofInt?, dif_pos fits, Option.some_or]

theorem document_number {s rest : List Char} {n : NumeralScan} (h : scanNumeral s = (n, rest)) :
    Dialect.document.number s = (n.leaf, rest) := by
  simp only [Dialect.document, h]

theorem leaf_of_number? {n : Numeral} {x : Number} (h : n.number? = some x) :
    NumeralScan.leaf (.ok n) = .number x := by
  simp only [NumeralScan.leaf, h]

/-- **Requests and settings have every integer of the 64-bit ranges.** -/
theorem legible_int {n : Int} (fits : -2 ^ 63 ≤ n ∧ n < 2 ^ 64) : Dialect.document.Legible (.int n fits) := by
  have hnumber := number?_digits fits
  by_cases hneg : n < 0
  · have hchars : (Number.int n fits).chars = '-' :: Nat.toDigits 10 n.natAbs := if_pos hneg
    rw [decide_eq_true hneg] at hnumber
    refine ⟨⟨'-', _, hchars, Or.inl rfl⟩, ?_⟩
    intro rest h
    rw [hchars, List.cons_append, document_number (scanNumeral_digits h).2, leaf_of_number? hnumber]
  · have hchars : (Number.int n fits).chars = Nat.toDigits 10 n.natAbs := if_neg hneg
    obtain ⟨c, cs, hdigits, hc, -⟩ := toDigits_shape n.natAbs
    rw [decide_eq_false hneg] at hnumber
    refine ⟨⟨c, cs, hchars.trans hdigits, Or.inr hc⟩, ?_⟩
    intro rest h
    rw [hchars, document_number (scanNumeral_digits h).1, leaf_of_number? hnumber]

end BidAdapter.Json
