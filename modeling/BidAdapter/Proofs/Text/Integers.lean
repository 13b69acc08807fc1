import BidAdapter.Json.Printer
import BidAdapter.Proofs.Json.Literals
import BidAdapter.Text.Blank
import BidAdapter.Text.Integer

/-!
# Texts of integers

* `toNat_of_mem_intChars` : the text of an integer lies between the minus sign and the digit nine;
* `int32?_intChars` : it is the literal of that integer;
* `Literal` : the texts that write an integer; `int32?_eq_some_iff` : those of 32 bits are read and no others.
-/

namespace BidAdapter.Text

set_option autoImplicit false

open Json (intChars)

theorem toNat_of_mem_intChars {n : Int} {c : Char} (h : c ∈ intChars n) : 45 ≤ c.toNat ∧ c.toNat ≤ 57 := by
  have hdigits : c ∈ Nat.toDigits 10 n.natAbs → 45 ≤ c.toNat ∧ c.toNat ≤ 57 := by
    intro hc
    have hdigit : 48 ≤ c.toNat ∧ c.toNat ≤ 57 :=
      Char.isDigit_iff_toNat.mp (Nat.isDigit_of_mem_toDigits (by decide) (by decide) hc)
    omega
  unfold intChars at h
  split_ifs at h
  · rcases List.mem_cons.mp h with rfl | h
    · decide
    · exact hdigits h
  · exact hdigits h

theorem natural?_toDigits (m : Nat) : natural? (Nat.toDigits 10 m) = some m := by
  have hall : (Nat.toDigits 10 m).all Char.isDigit = true := by
    rw [List.all_eq_true]
    exact fun c hc => Nat.isDigit_of_mem_toDigits (by decide) (by decide) hc
  have hvalue := Json.ofDigits_toDigits m
  rw [Json.ofDigits, List.foldl_map] at hvalue
  unfold natural?
  simp only [List.isEmpty_iff, Nat.toDigits_ne_nil, hall, Bool.or_false, Bool.not_true]
  exact congrArg some hvalue

theorem integer?_intChars (n : Int) : integer? (intChars n) = some n := by
  unfold intChars
  split_ifs with hneg
  · have hvalue : -(n.natAbs : Int) = n := by omega
    rw [integer?, natural?_toDigits]
    exact congrArg some hvalue
  · obtain ⟨c, cs, hdigits, hc, -⟩ := Json.toDigits_shape n.natAbs
    have hvalue := natural?_toDigits n.natAbs
    rw [hdigits] at hvalue ⊢
    unfold integer?
    split
    · next heq =>
      cases heq
      exact absurd hc (by decide)
    · next heq =>
      cases heq
      exact absurd hc (by decide)
    · have hnat : (n.natAbs : Int) = n := by omega
      rw [hvalue]
      exact congrArg some hnat

/-- **The text of an integer of 32 bits is its literal.** -/
theorem int32?_intChars (n : Int32) : int32? (intChars n.toInt) = some n := by
  have hrange : -2 ^ 31 ≤ n.toInt ∧ n.toInt < 2 ^ 31 := ⟨n.le_toInt, n.toInt_lt⟩
  unfold int32?
  rw [integer?_intChars]
  simp only [if_pos hrange, Int32.ofInt_toInt]

/-! ## Literals -/

/-- Digits, at least one, and the number that they write. -/
structure Digits (cs : List Char) (n : Nat) : Prop where
  ne_nil : cs ≠ []
  digits : ∀ c ∈ cs, c.isDigit = true
  value : Json.ofDigits (cs.map Json.digitValue) = n

/-- Digits behind a sign or none, and the integer that they write. -/
inductive Literal : List Char → Int → Prop where
  | bare {cs : List Char} {n : Nat} (h : Digits cs n) : Literal cs n
  | plus {cs : List Char} {n : Nat} (h : Digits cs n) : Literal ('+' :: cs) n
  | minus {cs : List Char} {n : Nat} (h : Digits cs n) : Literal ('-' :: cs) (-n)

section Reading
variable {c : Char} {cs : List Char} {m : Nat}

theorem natural?_eq_some_iff : natural? cs = some m ↔ Digits cs m := by
  have hvalue : cs.foldl (fun n c => n * 10 + (c.toNat - '0'.toNat)) 0 = Json.ofDigits (cs.map Json.digitValue) := by
    rw [Json.ofDigits, List.foldl_map]
    rfl
  unfold natural?
  rw [hvalue]
  split_ifs with hno
  · refine iff_of_false (by simp) ?_
    intro h
    rw [Bool.or_eq_true, List.isEmpty_iff, Bool.not_eq_true', List.all_eq_false] at hno
    rcases hno with hnil | ⟨c, hc, hdigit⟩
    · exact h.ne_nil hnil
    · exact hdigit (h.digits c hc)
  · rw [Bool.or_eq_true, not_or, List.isEmpty_iff, Bool.not_eq_true', Bool.not_eq_false, List.all_eq_true] at hno
    rw [Option.some_inj]
    exact ⟨fun h => ⟨hno.1, hno.2, h⟩, fun h => h.value⟩

theorem Digits.isDigit_head (h : Digits (c :: cs) m) : c.isDigit = true := h.digits c List.mem_cons_self

theorem integer?_eq_some_iff {n : Int} : integer? cs = some n ↔ Literal cs n := by
  constructor
  · intro h
    unfold integer? at h
    split at h
    all_goals
      obtain ⟨_, hcast, rfl⟩ := Option.map_eq_some_iff.mp h
      obtain ⟨m, hm, ⟨⟩⟩ := Option.bind_eq_some_iff.mp hcast
      have hdigits := natural?_eq_some_iff.mp hm
    · exact .minus hdigits
    · exact .plus hdigits
    · exact .bare hdigits
  · intro h
    cases h with
    | minus h =>
      rw [integer?, natural?_eq_some_iff.mpr h]
      rfl
    | plus h =>
      rw [integer?, natural?_eq_some_iff.mpr h]
      rfl
    | bare h =>
      unfold integer?
      -- a sign is no digit
      split
      · exact absurd h.isDigit_head (by decide)
      · exact absurd h.isDigit_head (by decide)
      · rw [natural?_eq_some_iff.mpr h]
        rfl

/-- **A text is read as an integer of 32 bits if and only if it is a literal of it.** -/
theorem int32?_eq_some_iff {n : Int32} : int32? cs = some n ↔ Literal cs n.toInt := by
  rw [← integer?_eq_some_iff]
  unfold int32?
  cases hread : integer? cs with
  | none => simp
  | some k =>
    simp only [Option.some_inj]
    split_ifs with hrange
    · rw [Option.some_inj]
      constructor
      · rintro rfl
        exact (Int32.toInt_ofInt_of_le hrange.1 hrange.2).symm
      · rintro rfl
        exact Int32.ofInt_toInt n
    · refine iff_of_false (by simp) ?_
      rintro rfl
      exact hrange ⟨n.le_toInt, n.toInt_lt⟩

end Reading

end BidAdapter.Text
