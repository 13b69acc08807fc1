import BidAdapter.Json.Numeral
import BidAdapter.Double.Scale

/-!
# Dialects

`Dialect` : how the literals of a text get their values; `Dialect.document` : the dialect of requests and settings.
-/

namespace BidAdapter.Json

set_option autoImplicit false

/-- How literals get their values. -/
structure Dialect where
  /-- The leaf of the number literal at the start of a text, and the text behind it. -/
  number : List Char → Document × List Char
  /-- The text behind a keyword, if the keyword may end there. -/
  afterKeyword : List Char → Option (List Char)
  /-- The character of a leading surrogate and the escaped unit behind it, if there is one. -/
  pair? : Nat → Nat → Option Char
  /-- What a leading surrogate stands for that no escaped unit follows, if anything. -/
  loneSurrogate : Option Char

/-- A leaf at which the scan stops. -/
def Document.stopped (f : Flaw) : Document := .flawed f (some f)

/-- The four blanks of the grammar. -/
def isBlank (c : Char) : Bool := c = ' ' || c = '\n' || c = '\t' || c = '\r'

/-- Leave out blanks. -/
def skipBlanks (s : List Char) : List Char := s.dropWhile isBlank

/-- The bytes of characters in UTF-8. -/
def byteSize (s : List Char) : Nat := s.foldl (fun n c => n + c.utf8Size) 0

/-! ## UTF-16 units -/

/-- Whether a UTF-16 unit leads a surrogate pair. -/
def isLeading (u : Nat) : Bool := 0xD800 ≤ u && u < 0xDC00

/-- Whether a UTF-16 unit ends a surrogate pair. -/
def isTrailing (u : Nat) : Bool := 0xDC00 ≤ u && u < 0xE000

def surrogatePair? (u v : Nat) : Option Char :=
  if isLeading u && isTrailing v then some (Char.ofNat (0x10000 + (u - 0xD800) * 0x400 + (v - 0xDC00))) else none

/-! ## Requests and settings -/

/-- The double of a numeral in one step from a 64-bit significand, if it is finite. -/
def Numeral.stepwise? (n : Numeral) : Option Number :=
  let x := Double.ofDecimal n.whole n.fraction n.exponent
  Number.ofFloat? (if n.negative then -x else x)

/-- The number of a numeral. An integer that no 64-bit integer stands for is a double, and so is the literal `-0`. -/
def Numeral.number? (n : Numeral) : Option Number :=
  if n.isInteger then
    let magnitude := ofDigits n.whole
    if n.negative ∧ magnitude = 0 then n.stepwise?
    else (Number.ofInt? (if n.negative then -(magnitude : Int) else magnitude)).or n.stepwise?
  else n.stepwise?

/-- The leaf of a scanned number literal. A number beyond the doubles has no value. -/
def NumeralScan.leaf : NumeralScan → Document
  | .ok n =>
    match n.number? with
    | some n => .number n
    | none => .flawed .malformed none
  | .error (kept, skipped) => .flawed kept skipped

/-- Requests and settings: every integer has a number, and surrogates come in pairs. -/
def Dialect.document : Dialect where
  number s :=
    let (n, rest) := scanNumeral s
    (n.leaf, rest)
  afterKeyword s := some s
  pair? := surrogatePair?
  loneSurrogate := none

end BidAdapter.Json
