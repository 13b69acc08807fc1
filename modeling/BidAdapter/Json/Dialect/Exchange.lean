import BidAdapter.Json.Dialect
import BidAdapter.Double.Shortest

/-!
# The dialect of exchange bodies

`Dialect.exchange` : integers are those of 64 bits, reals are nearest doubles, and the end of a scalar is looked at less
closely than the grammar asks. A scalar takes in all of its token, up to the next blank, structural character or
quotation mark. It has to end where its grammar ends, or at a NUL; what a token holds behind a NUL, or behind a number
of many digits, does not count.

A numeral with a point or an exponent is read in one step from 64 bits of its digits and 32 bits of its power of ten.
It is read anew from its text where that step cannot decide, and where it has many digits: `Numeral.isLong`.
-/

namespace BidAdapter.Json

set_option autoImplicit false

/-! ## Tokens -/

/-- Whether a character structures a document. -/
def isStructural (c : Char) : Bool := [',', ':', '[', ']', '\x7b', '\x7d'].contains c

/-- Whether a scalar may end in front of a text. -/
def endsScalar : List Char → Bool
  | [] => true
  | c :: _ => c.toNat == 0 || isBlank c || isStructural c

/-- The text behind the token that a text starts in. A quotation mark behind a backslash belongs to the token. -/
def afterToken (escaped : Bool) : List Char → List Char
  | [] => []
  | c :: cs =>
    if isBlank c || isStructural c || (c == '"' && !escaped) then c :: cs
    else afterToken (c == '\\' && !escaped) cs

/-- The text behind a scalar that ends here, if it may. -/
def afterScalar (s : List Char) : Option (List Char) := if endsScalar s then some (afterToken false s) else none

/-! ## Reals -/

def Numeral.signed? (n : Numeral) (x : Float) : Option Number := Number.ofFloat? (if n.negative then -x else x)

/-- The double nearest to a numeral, if it is finite. -/
def Numeral.nearest? (n : Numeral) : Option Number := n.signed? (Double.nearest n.significand n.scale)

/-- Whether `x` is a normal double. -/
def isNormal (x : Float) : Bool :=
  let biased := x.toBits.toNat / 2 ^ 52 % 2 ^ 11
  1 ≤ biased && biased ≤ 2046

/-- The distance of `m * 10 ^ e` from the double `x`, and half the distance between the doubles there, in one unit. -/
def offset (m : Nat) (e : Int) (x : Float) : Int × Int :=
  let p := Double.parts x
  let unit := 2 ^ p.exponent.toNat * 10 ^ (-e).toNat
  (2 * ((m * 10 ^ e.toNat * 2 ^ (-p.exponent).toNat : Nat) - (p.significand * unit : Nat) : Int), (unit : Nat))

/-- Whether one step leaves open which double is nearest to `m * 10 ^ e`: in the middle of two doubles, unless it is the
upper one that is even and the power of ten is whole. -/
def isUndecided (m : Nat) (e : Int) (x : Float) : Bool :=
  let (distance, half) := offset m e x
  distance == half || (distance == -half && e < 0)

/-- The double nearest to `m * 10 ^ e`, where one step decides it: for small numbers, zero, and normal doubles. -/
def oneStep? (m : Nat) (e : Int) : Option Float :=
  let x := Double.nearest m e
  if m = 0 ∨ (-22 ≤ e ∧ e ≤ 22 ∧ m < 2 ^ 53) then some x
  else if -325 ≤ e ∧ e ≤ 308 then
    if isNormal x && !isUndecided m e x then some x else none
  else none

/-- The number of a real numeral in one step, or else from its text. -/
def Numeral.real? (n : Numeral) : Option Number :=
  match oneStep? (n.significand % 2 ^ 64) (n.scale.bmod (2 ^ 32)) with
  | some x => n.signed? x
  | none => n.nearest?

/-! ## Numbers -/

/-- The characters of a numeral between its sign and its exponent, behind the first of them. -/
def Numeral.moreDigits (n : Numeral) : Nat :=
  n.whole.length + n.fraction.length - (if n.fraction.isEmpty then 1 else 0)

/-- Whether a numeral is read from its text, which starts with `digits` at the byte `start` of a body. Nineteen digits
make an integer long. A real with as many is long unless its first digit, as a byte, makes up for the place of its first
digit that is not zero; the count is one of 64 bits. -/
def Numeral.isLong (n : Numeral) (start : Nat) (digits : List Char) : Bool :=
  if n.isInteger then 19 ≤ n.whole.length
  else
    let zeros := (digits.takeWhile fun c => c == '0' || c == '.').length
    let first := (digits.headD '0').toNat
    19 ≤ n.moreDigits &&
      19 ≤ ((n.moreDigits : Int) - ((start + zeros : Nat) : Int) + (first : Int)) % 2 ^ 64

/-- The number of a numeral in an exchange body. An exponent of too many digits is none. -/
def Numeral.exchangeNumber? (n : Numeral) (long : Bool) : Option Number :=
  if n.isInteger then
    let magnitude := ofDigits n.whole
    Number.ofInt? (if n.negative then -(magnitude : Int) else magnitude)
  else if 2 ^ 32 < n.exponent.natAbs / 10 then none
  else if long then n.nearest?
  else n.real?

/-- The leaf of the number literal at the start of a text, and the text behind its token, in a body of `size` bytes. -/
def exchangeNumber (size : Nat) (s : List Char) : Document × List Char :=
  match scanNumeral s with
  | (.error _, rest) => (.stopped .malformed, rest)
  | (.ok n, rest) =>
    let digits := if n.negative then s.drop 1 else s
    let long := n.isLong (size - byteSize digits) digits
    let behind := if long then some (afterToken false rest) else afterScalar rest
    match n.exchangeNumber? long, behind with
    | some x, some rest => (.number x, rest)
    | _, _ => (.stopped .malformed, rest)

/-! ## Surrogates -/

/-- The character of a leading surrogate and a unit that is no leading one; the bits of the two are joined, even where
the unit lies beyond the trailing surrogates. -/
def looseSurrogatePair? (u v : Nat) : Option Char :=
  if isLeading u && 0xDC00 ≤ v then some (Char.ofNat (0x10000 + (((u - 0xD800) <<< 10) ||| (v - 0xDC00)))) else none

/-- Exchange bodies, of `size` bytes. -/
def Dialect.exchange (size : Nat) : Dialect where
  number := exchangeNumber size
  afterKeyword := afterScalar
  pair? := looseSurrogatePair?
  loneSurrogate := some '\x00'

end BidAdapter.Json
