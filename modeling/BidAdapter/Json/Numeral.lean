import BidAdapter.Json.Document

/-!
# Number literals

`Numeral` : the digits of a number literal; `scanNumeral` : the literal at the start of a text and what stands behind
it.
-/

namespace BidAdapter.Json

set_option autoImplicit false

/-- A number literal, its digits as numbers. -/
structure Numeral where
  negative : Bool
  whole : List Nat
  fraction : List Nat
  exponent : Int
  /-- Neither a fraction nor an exponent is written. -/
  isInteger : Bool

/-- The number that decimal digits write. -/
def ofDigits (ds : List Nat) : Nat := ds.foldl (fun n d => n * 10 + d) 0

def digitValue (c : Char) : Nat := c.toNat - '0'.toNat

/-- The number without its sign is `significand * 10 ^ scale`. -/
def Numeral.significand (n : Numeral) : Nat := ofDigits (n.whole ++ n.fraction)

/-- The power of ten of the last digit. -/
def Numeral.scale (n : Numeral) : Int := n.exponent - (n.fraction.length : Int)

/-- A scanned number literal, or its flaws where it is kept and where it is passed over. -/
abbrev NumeralScan := Except (Flaw × Option Flaw) Numeral

/-- At the end of the text a kept number is cut short; where it is passed over, the missing digit breaks the grammar. -/
def missingDigit : List Char → Flaw × Option Flaw
  | [] => (.truncated, some .malformed)
  | _ :: _ => (.malformed, some .malformed)

/-- The exponent of a number literal, behind its letter. -/
def scanExponent (s : List Char) : Except (Flaw × Option Flaw) Int × List Char :=
  let (negative, digits) := match s with
    | '-' :: r => (true, r)
    | '+' :: r => (false, r)
    | r => (false, r)
  let ds := digits.takeWhile Char.isDigit
  let rest := digits.dropWhile Char.isDigit
  if ds.isEmpty then (.error (missingDigit rest), rest)
  else
    let e := ofDigits (ds.map digitValue)
    (.ok (if negative then -(e : Int) else e), rest)

/-- What follows the whole part of a number literal. -/
def scanTail (negative : Bool) (whole : List Nat) (s : List Char) : NumeralScan × List Char :=
  let withExponent (fraction : List Nat) (plain : Bool) : List Char → NumeralScan × List Char
    | c :: rest =>
      if c = 'e' ∨ c = 'E' then
        let (e, rest) := scanExponent rest
        (e.map fun e => ⟨negative, whole, fraction, e, false⟩, rest)
      else (.ok ⟨negative, whole, fraction, 0, plain⟩, c :: rest)
    | [] => (.ok ⟨negative, whole, fraction, 0, plain⟩, [])
  match s with
  | '.' :: rest =>
    let ds := rest.takeWhile Char.isDigit
    let rest := rest.dropWhile Char.isDigit
    if ds.isEmpty then (.error (missingDigit rest), rest) else withExponent (ds.map digitValue) false rest
  | s => withExponent [] true s

/-- A number literal: no digit follows a leading zero. -/
def scanNumeral (s : List Char) : NumeralScan × List Char :=
  let (negative, s) := match s with
    | '-' :: r => (true, r)
    | r => (false, r)
  let ds := s.takeWhile Char.isDigit
  let rest := s.dropWhile Char.isDigit
  match ds with
  | [] => (.error (missingDigit rest), rest)
  | '0' :: _ :: _ => (.error (.malformed, some .malformed), rest)
  | ds => scanTail negative (ds.map digitValue) rest

end BidAdapter.Json
