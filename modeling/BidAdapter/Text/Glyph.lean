import BidAdapter.Text.Hidden
import BidAdapter.Text.Mark

/-!
# Characters with a glyph

`hasGlyph` : whether a character shows something of its own wherever it stands.
-/

namespace BidAdapter.Text

set_option autoImplicit false

/-- Whether a character shows something, and does not need another in front of it for that. A control of ASCII does not,
and is no concern of the tables. -/
def hasGlyph (c : Char) : Bool :=
  0x20 ≤ c.toNat && c.toNat != 0x7F && !isHidden c && !isFiller c && !extendsGrapheme c

end BidAdapter.Text
