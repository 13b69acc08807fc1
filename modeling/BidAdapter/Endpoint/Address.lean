import BidAdapter.Power
import BidAdapter.Endpoint.Percent
import BidAdapter.Text.Split

/-!
# Internet addresses

`ipv4?` : an address of one to four numbers, decimal, octal or hexadecimal, the last of which fills all bytes that are
left; `ipv6?` : eight pieces of sixteen bits, a run of zero pieces written as two colons and the last two pieces
possibly as an IPv4 address. `ipv4Chars` and `ipv6Chars` : their texts; of the longest runs of zeros the first is left
out.
-/

namespace BidAdapter.Endpoint

set_option autoImplicit false

open Text (hexValue?)

/-- The number that digits of a base write. -/
def ofBase (base : Nat) (digits : List Char) : Option Nat := do
  let values ← digits.mapM hexValue?
  guard (values.all (· < base))
  return values.foldl (fun n d => n * base + d) 0

/-! ## Four bytes -/

/-- A number of an address: hexadecimal behind `0x`, octal behind `0`, else decimal. -/
def addressNumber? : List Char → Option Nat
  | [] => none
  | '0' :: x :: cs =>
    if x = 'x' || x = 'X' then (if cs.isEmpty then some 0 else ofBase 16 cs) else ofBase 8 (x :: cs)
  | cs => ofBase 10 cs

/-- The parts of a domain between its dots, without an empty one at the end. -/
def domainParts (cs : List Char) : List (List Char) :=
  match (Text.splitOn '.' cs).reverse with
  | [] :: ps => ps.reverse
  | ps => ps.reverse

/-- Whether a domain ends in a number, so that it has to be an address. -/
def endsInNumber (cs : List Char) : Bool :=
  match (domainParts cs).getLast? with
  | some last => (!last.isEmpty && last.all Char.isDigit) || (addressNumber? last).isSome
  | none => false

/-- The address of its numbers, most significant first: all but the last are single bytes. -/
def joinNumbers? (numbers : List Nat) : Option Nat :=
  match numbers.reverse with
  | [] => none
  | last :: front =>
    if front.length ≤ 3 ∧ front.all (· < 256) ∧ last < 256 ^ (4 - front.length) then
      some (front.reverse.foldl (fun n b => n * 256 + b) 0 * 256 ^ (4 - front.length) + last)
    else none

/-- An address in dotted form. -/
def ipv4? (cs : List Char) : Option Nat := do
  let numbers ← (domainParts cs).mapM addressNumber?
  joinNumbers? numbers

/-- The text of an address of four bytes. -/
def ipv4Chars (n : Nat) : List Char :=
  ['.'].intercalate ([n / 256 ^ 3 % 256, n / 256 ^ 2 % 256, n / 256 % 256, n % 256].map (Nat.toDigits 10))

/-! ## Eight pieces -/

/-- A piece: one to four hexadecimal digits. -/
def piece? (cs : List Char) : Option Nat :=
  if cs.isEmpty || 4 < cs.length then none else ofBase 16 cs

/-- A byte in decimal, without leading zeros. -/
def decimalByte? (cs : List Char) : Option Nat := do
  guard (cs.length = 1 || (cs.head? != some '0' && !cs.isEmpty))
  let n ← ofBase 10 cs
  guard (n < 256)
  return n

/-- Four bytes as two pieces. -/
def dottedPieces? (cs : List Char) : Option (List Nat) := do
  match ← (Text.splitOn '.' cs).mapM decimalByte? with
  | [a, b, c, d] => return [a * 256 + b, c * 256 + d]
  | _ => none

/-- The pieces between colons; the last group may be four bytes in dotted form. -/
def pieces? (dotted : Bool) (cs : List Char) : Option (List Nat) :=
  if cs.isEmpty then some []
  else
    let groups := Text.splitOn ':' cs
    let front := groups.dropLast.mapM piece?
    let last := match groups.getLast? with
      | some g => if dotted && g.contains '.' then dottedPieces? g else (piece? g).map ([·])
      | none => none
    match front, last with
    | some ps, some qs => some (ps ++ qs)
    | _, _ => none

/-- The texts around the first two colons in a row. -/
def splitColons : List Char → Option (List Char × List Char)
  | ':' :: ':' :: cs => some ([], cs)
  | c :: cs => (splitColons cs).map fun (a, b) => (c :: a, b)
  | [] => none

/-- The eight pieces of an address. -/
def ipv6? (cs : List Char) : Option (List Nat) :=
  match splitColons cs with
  | none => (pieces? true cs).filter (·.length = 8)
  | some (before, after) =>
    match pieces? false before, pieces? true after with
    | some ps, some qs =>
      if ps.length + qs.length ≤ 7 then some (ps ++ List.replicate (8 - ps.length - qs.length) 0 ++ qs) else none
    | _, _ => none

/-- The longest run of zeros, the first of several, as its start and its length. -/
def zeroRun (pieces : List Nat) : Nat × Nat :=
  (List.range pieces.length).foldl
    (fun best i =>
      let length := ((pieces.drop i).takeWhile (· = 0)).length
      if best.2 < length then (i, length) else best)
    (0, 0)

/-- Pieces in hexadecimal with colons between them. -/
def pieceChars (pieces : List Nat) : List Char := [':'].intercalate (pieces.map (Nat.toDigits 16))

/-- The text of an address of eight pieces; a single zero is written. -/
def ipv6Chars (pieces : List Nat) : List Char :=
  let (start, length) := zeroRun pieces
  if length < 2 then pieceChars pieces
  else pieceChars (pieces.take start) ++ [':', ':'] ++ pieceChars (pieces.drop (start + length))

end BidAdapter.Endpoint
