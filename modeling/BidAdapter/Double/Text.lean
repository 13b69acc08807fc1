import BidAdapter.Double.Shortest

/-!
# Texts of doubles

`jsonText` : the text of a double in a JSON document; `plainText` : the same digits without an exponent, and without a
fraction where the value is whole.
-/

namespace BidAdapter.Double

set_option autoImplicit false

/-- The digits of a natural number. -/
def natDigits (n : Nat) : List Char := Nat.toDigits 10 n

/-- A sign in front of a negative double, also of the negative zero. -/
def signText (x : Float) : List Char := if isNegative x then ['-'] else []

/-- Positional notation: zeros fill up to the point on either side. -/
def positional (d : Digits) (whole : List Char) : List Char :=
  let digits := natDigits d.coefficient
  if 0 ≤ d.grid then digits ++ List.replicate d.grid.toNat '0' ++ whole
  else
    let places := (-d.grid).toNat
    if places < digits.length then
      digits.take (digits.length - places) ++ '.' :: digits.drop (digits.length - places)
    else ['0', '.'] ++ List.replicate (places - digits.length) '0' ++ digits

/-- One digit, the others after a point, and a signed exponent. -/
def scientific (d : Digits) : List Char :=
  let digits := natDigits d.coefficient
  let exponent := d.grid + (digits.length : Int) - 1
  let fraction := if digits.length ≤ 1 then [] else '.' :: digits.drop 1
  let sign := if exponent < 0 then '-' else '+'
  digits.take 1 ++ fraction ++ 'e' :: sign :: natDigits exponent.natAbs

/-- Whole values keep a fraction of one zero; from `1e-5` up to below `1e16` the notation is positional, beyond it has a
signed exponent. -/
def jsonText (x : Float) : List Char :=
  let d := shortest x
  let exponent := d.grid + ((natDigits d.coefficient).length : Int) - 1
  signText x ++ if -5 ≤ exponent ∧ exponent < 16 then positional d ['.', '0'] else scientific d

/-- Always positional, and whole values have no point. -/
def plainText (x : Float) : List Char := signText x ++ positional (shortest x) []

end BidAdapter.Double
