import BidAdapter.Json.Dialect.Exchange
import BidAdapter.Proofs.Json.Scanning

/-!
# Literals in exchange bodies

* `fluent_exchange` : a keyword may end in front of a boundary;
* `exchangeNumber_of_scan` : the leaf of a numeral in front of a boundary is its number, if it has one;
* `legible_int_exchange` : every integer of the 64-bit ranges is scanned as itself; `stopped_of_large` : at any other the
  scan stops.
-/

namespace BidAdapter.Json

set_option autoImplicit false

variable {rest s : List Char}

theorem afterToken_of_boundary (h : Boundary rest) : afterToken false rest = rest := by
  cases h <;> rfl

theorem afterScalar_of_boundary (h : Boundary rest) : afterScalar rest = some rest := by
  cases h <;> rfl

theorem fluent_exchange (size : Nat) : (Dialect.exchange size).Fluent := fun _ => afterScalar_of_boundary

/-- A numeral in front of a boundary ends there, whether it is long or not. -/
theorem exchangeNumber_of_scan {n : Numeral} (hscan : scanNumeral s = (.ok n, rest)) (h : Boundary rest) (size : Nat) :
    ∃ long, exchangeNumber size s = (match n.exchangeNumber? long with
      | some x => .number x
      | none => .stopped .malformed, rest) := by
  unfold exchangeNumber
  simp only [hscan, afterToken_of_boundary h, afterScalar_of_boundary h, ite_self]
  refine ⟨n.isLong (size - byteSize (if n.negative then s.drop 1 else s)) (if n.negative then s.drop 1 else s), ?_⟩
  cases n.exchangeNumber? (n.isLong (size - byteSize (if n.negative then s.drop 1 else s))
    (if n.negative then s.drop 1 else s)) with
  | none => rfl
  | some x => rfl

/-- The numeral of the text of an integer. -/
theorem scanNumeral_intChars (n : Int) (h : Boundary rest) :
    scanNumeral (intChars n ++ rest) =
      (.ok ⟨decide (n < 0), (Nat.toDigits 10 n.natAbs).map digitValue, [], 0, true⟩, rest) := by
  unfold intChars
  split_ifs with hneg
  · rw [List.cons_append, decide_eq_true hneg]
    exact (scanNumeral_digits h).2
  · rw [decide_eq_false hneg]
    exact (scanNumeral_digits h).1

theorem exchangeNumber?_digits (n : Int) (long : Bool) :
    Numeral.exchangeNumber? ⟨decide (n < 0), (Nat.toDigits 10 n.natAbs).map digitValue, [], 0, true⟩ long =
      Number.ofInt? n := by
  unfold Numeral.exchangeNumber?
  simp only [if_true, ofDigits_toDigits, sign_natAbs]

theorem intChars_head (n : Int) : ∃ c cs, intChars n = c :: cs ∧ (c = '-' ∨ c.isDigit = true) := by
  unfold intChars
  split_ifs with hneg
  · exact ⟨'-', _, rfl, Or.inl rfl⟩
  · obtain ⟨c, cs, hdigits, hc, -⟩ := toDigits_shape n.natAbs
    exact ⟨c, cs, hdigits, Or.inr hc⟩

/-- **Exchange bodies have every integer of the 64-bit ranges.** -/
theorem legible_int_exchange {n : Int} (fits : -2 ^ 63 ≤ n ∧ n < 2 ^ 64) (size : Nat) :
    (Dialect.exchange size).Legible (.int n fits) := by
  refine ⟨intChars_head n, ?_⟩
  intro rest h
  obtain ⟨long, hnumber⟩ := exchangeNumber_of_scan (scanNumeral_intChars n h) h size
  rw [exchangeNumber?_digits, Number.ofInt?, dif_pos fits] at hnumber
  exact hnumber

theorem legible_of_toInt? {n : Number} (h : n.toInt?.isSome = true) (size : Nat) :
    (Dialect.exchange size).Legible n := by
  cases n with
  | int k fits => exact legible_int_exchange fits size
  | real => cases h

/-- **At any other integer the scan stops.** -/
theorem stopped_of_large {n : Int} (h : ¬(-2 ^ 63 ≤ n ∧ n < 2 ^ 64)) (size : Nat) (hrest : Boundary rest) :
    (Dialect.exchange size).number (intChars n ++ rest) = (.stopped .malformed, rest) := by
  obtain ⟨long, hnumber⟩ := exchangeNumber_of_scan (scanNumeral_intChars n hrest) hrest size
  rw [exchangeNumber?_digits, Number.ofInt?, dif_neg h] at hnumber
  exact hnumber

end BidAdapter.Json
