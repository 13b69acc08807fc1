import BidAdapter.Power

/-!
# Integer literals

`integer?` : an optional sign and at least one ASCII digit, nothing else; `int32?` and `nat32?` : such a literal within
the 32-bit ranges.
-/

namespace BidAdapter.Text

set_option autoImplicit false

/-- The number that ASCII digits write; `none` when there is no digit or another character. -/
def natural? (cs : List Char) : Option Nat :=
  if cs.isEmpty || !cs.all Char.isDigit then none
  else some (cs.foldl (fun n c => n * 10 + (c.toNat - '0'.toNat)) 0)

/-- An optional sign and digits. -/
def integer? : List Char → Option Int
  | '-' :: cs => (natural? cs).map fun n => -(n : Int)
  | '+' :: cs => (natural? cs).map fun n => (n : Int)
  | cs => (natural? cs).map fun n => (n : Int)

/-- A literal of a signed 32-bit integer, with any number of leading zeros. -/
def int32? (cs : List Char) : Option Int32 :=
  match integer? cs with
  | some n => if -2 ^ 31 ≤ n ∧ n < 2 ^ 31 then some (Int32.ofInt n) else none
  | none => none

/-- A literal of an unsigned 32-bit integer: digits after an optional plus sign. -/
def nat32? (cs : List Char) : Option Nat :=
  let digits := match cs with
    | '+' :: cs => cs
    | cs => cs
  match natural? digits with
  | some n => if n < 2 ^ 32 then some n else none
  | none => none

end BidAdapter.Text
