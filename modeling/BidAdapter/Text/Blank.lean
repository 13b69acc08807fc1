/-!
# Blank text

`isBlank` : the characters with the Unicode property `White_Space`; `trim` : a text without the blanks at both ends;
`blank` : whether nothing but blanks is there.
-/

namespace BidAdapter.Text

set_option autoImplicit false

/-- The property `White_Space`, 25 code points. -/
def isBlank (c : Char) : Bool :=
  let n := c.toNat
  (0x09 ≤ n && n ≤ 0x0D) || n == 0x20 || n == 0x85 || n == 0xA0 || n == 0x1680 || (0x2000 ≤ n && n ≤ 0x200A) ||
    n == 0x2028 || n == 0x2029 || n == 0x202F || n == 0x205F || n == 0x3000

/-- A list of characters without the blanks at both ends. -/
def trimChars (cs : List Char) : List Char := ((cs.dropWhile isBlank).reverse.dropWhile isBlank).reverse

/-- A text without the blanks at both ends. -/
def trim (s : String) : String := String.ofList (trimChars s.toList)

/-- Whether a text holds nothing but blanks. -/
def blank (s : String) : Bool := s.toList.all isBlank

end BidAdapter.Text
