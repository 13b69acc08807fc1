import BidAdapter.Text.Hex

/-!
# Percent encoding

`percentEncode` : a text in which the characters of a set stand as the hexadecimal digits of their UTF-8 bytes, as do
all characters outside ASCII; `percentDecode` : the text whose bytes a percent encoding spells, if they are UTF-8. The
sets are those of the parts of a URL, each of them a widening of the controls.
-/

namespace BidAdapter.Endpoint

set_option autoImplicit false

open Text (hexValue?)

/-! ## Sets -/

def isControl (c : Char) : Bool := c.toNat < 0x20 || c.toNat == 0x7F

/-- What is encoded in a fragment. -/
def inFragment (c : Char) : Bool := isControl c || [' ', '"', '<', '>', '`'].contains c

/-- What is encoded in the query of a scheme without a host rule. -/
def inQuery (c : Char) : Bool := isControl c || [' ', '"', '#', '<', '>'].contains c

/-- What is encoded in the query of a special scheme. -/
def inSpecialQuery (c : Char) : Bool := inQuery c || c == '\''

/-- What is encoded in a path of segments. -/
def inPath (c : Char) : Bool := inFragment c || ['#', '?', '\x7b', '\x7d'].contains c

/-- What is encoded in a user name or a password. -/
def inUserinfo (c : Char) : Bool := inPath c || ['/', ':', ';', '=', '@', '[', '\\', ']', '^', '|'].contains c

/-! ## Encoding -/

/-- An upper-case hexadecimal digit. -/
def percentDigit (n : Nat) : Char := (Nat.digitChar n).toUpper

/-- A byte as a percent sign and two digits. -/
def percentByte (b : UInt8) : List Char := ['%', percentDigit (b.toNat / 16), percentDigit (b.toNat % 16)]

/-- A text with the characters of a set encoded, and those outside ASCII. -/
def percentEncode (set : Char → Bool) (cs : List Char) : List Char :=
  cs.flatMap fun c => if set c || 0x80 ≤ c.toNat then (String.utf8EncodeChar c).flatMap percentByte else [c]

/-! ## Decoding -/

/-- The bytes of a text; a percent sign in front of two digits and they are one byte. -/
def percentBytes : List Char → List UInt8
  | [] => []
  | '%' :: a :: b :: cs =>
    match hexValue? a, hexValue? b with
    | some x, some y => UInt8.ofNat (16 * x + y) :: percentBytes cs
    | _, _ => 0x25 :: percentBytes (a :: b :: cs)
  | c :: cs => String.utf8EncodeChar c ++ percentBytes cs

/-- The text of a percent encoding, if its bytes are UTF-8. -/
def percentDecode (cs : List Char) : Option (List Char) :=
  (String.fromUTF8? ⟨(percentBytes cs).toArray⟩).map String.toList

end BidAdapter.Endpoint
