import BidAdapter.Power

/-!
# Punycode

`punycode` : a label as ASCII letters, digits and hyphens. The ASCII characters come first, then the others by rising
code point, each as the distance from the one before in a base of 36 whose thresholds adapt to the distances seen.
`ofPunycode?` : the label that such characters write.
-/

namespace BidAdapter.Endpoint

set_option autoImplicit false

/-- A digit below 36: a letter, or behind the letters a decimal digit. -/
def punyDigit (n : Nat) : Char := if n < 26 then Char.ofNat ('a'.toNat + n) else Char.ofNat ('0'.toNat + (n - 26))

def punyValue? (c : Char) : Option Nat :=
  if c.isLower then some (c.toNat - 'a'.toNat)
  else if c.isDigit then some (c.toNat - '0'.toNat + 26)
  else none

/-- The threshold of the digit at position `k`, between 1 and 26. -/
def threshold (k bias : Nat) : Nat := max 1 (min 26 (k - bias))

/-- No digit ends a distance at once, so each of them takes something off. -/
theorem one_le_threshold (k bias : Nat) : 1 ≤ threshold k bias := Nat.le_max_left _ _

/-- A distance as digits of rising positions; a digit below its threshold is the last. -/
def distanceChars (bias k distance : Nat) : List Char :=
  let t := threshold k bias
  if distance < t then [punyDigit distance]
  else punyDigit (t + (distance - t) % (36 - t)) :: distanceChars bias (k + 36) ((distance - t) / (36 - t))
termination_by distance
decreasing_by
  have := one_le_threshold k bias
  have := Nat.div_le_self (distance - threshold k bias) (36 - threshold k bias)
  omega

/-- Divide a distance by 35 until it is small, with 36 for each division. -/
def shrink (distance bias : Nat) : Nat × Nat :=
  if 455 < distance then shrink (distance / 35) (bias + 36) else (distance, bias)
termination_by distance

/-- The bias behind a distance, with the number of characters done. The first distance counts least. -/
def adapt (distance done : Nat) (first : Bool) : Nat :=
  let d := if first then distance / 700 else distance / 2
  let (d, bias) := shrink (d + d / done) 0
  bias + 36 * d / (d + 38)

/-! ## Encoding -/

/-- How far the encoding of a label has come. -/
structure Progress where
  digits : List Char
  distance : Nat
  bias : Nat
  /-- The number of characters that are encoded. -/
  done : Nat

/-- Pass a character while those of code point `n` are encoded, where `basic` are ASCII. -/
def Progress.pass (basic n : Nat) (p : Progress) (c : Char) : Progress :=
  if c.toNat < n then { p with distance := p.distance + 1 }
  else if c.toNat = n then
    { digits := p.digits ++ distanceChars p.bias 36 p.distance
      distance := 0
      bias := adapt p.distance (p.done + 1) (p.done = basic)
      done := p.done + 1 }
  else p

/-- Encode the code points of a rising list; `next` is the least that may come. -/
def encodePoints (label : List Char) (basic : Nat) : List Nat → Nat → Progress → Progress
  | [], _, p => p
  | n :: ns, next, p =>
    let p := { p with distance := p.distance + (n - next) * (p.done + 1) }
    let p := label.foldl (Progress.pass basic n) p
    encodePoints label basic ns (n + 1) { p with distance := p.distance + 1 }

/-- Put a number in its place in a rising list, once. -/
def insertPoint (n : Nat) : List Nat → List Nat
  | [] => [n]
  | m :: ms => if n < m then n :: m :: ms else if n = m then m :: ms else m :: insertPoint n ms

/-- A label in ASCII, without the mark that says so. -/
def punycode (label : List Char) : List Char :=
  let ascii := label.filter fun c => c.toNat < 0x80
  let points := (label.filter fun c => 0x80 ≤ c.toNat).foldr (fun c ns => insertPoint c.toNat ns) []
  let start := if ascii.isEmpty then [] else ascii ++ ['-']
  start ++ (encodePoints label ascii.length points 0x80 ⟨[], 0, 72, ascii.length⟩).digits

/-! ## Decoding -/

/-- Distances and the weights of their digits are words of 32 bits. -/
def distanceBound : Nat := 2 ^ 32

/-- Add to a distance what digits from position `k` on write, the first of them with a weight, and give back what is
behind them. -/
def readDistance? (bias k weight distance : Nat) : List Char → Option (Nat × List Char)
  | [] => none
  | c :: cs => do
    let digit ← punyValue? c
    let sum := distance + digit * weight
    guard (weight < distanceBound && sum < distanceBound)
    let t := threshold k bias
    if digit < t then return (sum, cs)
    else readDistance? bias (k + 36) (weight * (36 - t)) sum cs

/-- A distance takes at least one digit. -/
theorem length_of_readDistance? {bias k weight distance : Nat} {cs : List Char} {r : Nat × List Char}
    (h : readDistance? bias k weight distance cs = some r) : r.2.length < cs.length := by
  induction cs generalizing k weight distance with
  | nil => cases h
  | cons c cs ih =>
    obtain ⟨digit, _, h⟩ := Option.bind_eq_some_iff.mp h
    obtain ⟨_, _, h⟩ := Option.bind_eq_some_iff.mp h
    dsimp only at h
    split at h
    · cases h; simp
    · have := ih h
      simp only [List.length_cons]
      omega

/-- Put characters into a label, each at the place to which its distance leads: all places of the label are passed once
for every code point from `least` on. -/
def insertChars (least distance bias : Nat) (label : List Char) : List Char → Option (List Char)
  | [] => some label
  | c :: cs =>
    match _ : readDistance? bias 36 1 distance (c :: cs) with
    | none => none
    | some (sum, rest) =>
      let places := label.length + 1
      let n := least + sum / places
      if n.isValidChar then
        insertChars n (sum % places + 1) (adapt (sum - distance) places (distance = 0))
          (label.insertIdx (sum % places) (Char.ofNat n)) rest
      else none
termination_by cs => cs.length
decreasing_by exact length_of_readDistance? (by assumption)

/-- The label that a text writes. The last hyphen ends the ASCII characters, of which there is one at least. -/
def ofPunycode? (cs : List Char) : Option (List Char) :=
  match cs.reverse.dropWhile (· != '-') with
  | [] => insertChars 0x80 0 72 [] cs
  | [_] => none
  | _ :: ascii => insertChars 0x80 0 72 ascii.reverse (cs.reverse.takeWhile (· != '-')).reverse

end BidAdapter.Endpoint
