import BidAdapter.Endpoint.Domain.Folding
import BidAdapter.Endpoint.Punycode
import BidAdapter.Text.Composition

/-!
# Labels

`Label` : a part of a name between dots, as it is shown and as it is written in ASCII; `Label.ofChars?` reads it from
either form. Both forms of a label obey the same rules, so that no spelling leads around them.
-/

namespace BidAdapter.Endpoint.Domain

set_option autoImplicit false

/-! ## Characters -/

/-- What no name of a special scheme may hold. -/
def forbiddenInName (c : Char) : Bool :=
  c.toNat ≤ 0x20 || c.toNat == 0x7F ||
    ['%', '#', '/', ':', '<', '>', '?', '@', '[', '\\', ']', '^', '|'].contains c

/-- Whether all characters are ASCII. -/
def isAscii (cs : List Char) : Bool := cs.all fun c => c.toNat < 0x80

/-- Whether a text is its own spelling in a name. -/
def isFolded (cs : List Char) : Bool := cs.all (fun c => fold? c == some [c]) && Text.compose cs == cs

/-! ## Labels -/

/-- A part of a name between dots. -/
structure Label where
  shown : List Char
  /-- The form in ASCII. -/
  written : List Char
deriving DecidableEq, Repr

/-- The most characters of a label that is put into ASCII. -/
def maxShown : Nat := 1000

/-- The most characters behind the mark of an encoded label. -/
def maxEncoded : Nat := 2000

/-- Whether the characters of a label fit together: it begins with no mark, and its joiners have something to join. -/
def fitsLabel (cs : List Char) : Bool :=
  !cs.head?.any Text.isMark && joinersFit cs && (isAscii cs || cs.length ≤ maxShown)

/-- The label that characters behind the mark of an encoded label write. It has to be in the form in which it would have
been encoded, and has to need that. -/
def decodeLabel? (encoded : List Char) : Option (List Char) := do
  guard (isAscii encoded && encoded.getLast?.any (· != '-') && encoded.length ≤ maxEncoded)
  let cs ← ofPunycode? encoded
  guard (isFolded cs && !cs.any forbiddenInName)
  return cs

/-- The label that folded characters write, in either form. -/
def Label.ofChars? : List Char → Option Label
  | 'x' :: 'n' :: '-' :: '-' :: encoded => do
    let shown ← decodeLabel? encoded
    guard (fitsLabel shown)
    return ⟨shown, 'x' :: 'n' :: '-' :: '-' :: encoded⟩
  | cs => do
    guard (fitsLabel cs)
    return ⟨cs, if isAscii cs then cs else 'x' :: 'n' :: '-' :: '-' :: punycode cs⟩

end BidAdapter.Endpoint.Domain
