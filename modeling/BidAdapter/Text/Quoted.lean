import BidAdapter.Text.Glyph

/-!
# Quoted text in messages

`quoted` : a text between quotation marks, so that a message shows every character of it: the quotation mark, the
backslash, the usual controls and NUL by a letter, what has no glyph of its own by its code point.
-/

namespace BidAdapter.Text

set_option autoImplicit false

/-- The code point of a character in hexadecimal, between braces. -/
def codePointEscape (c : Char) : List Char :=
  ['\\', 'u', '\x7b'] ++ Nat.toDigits 16 c.toNat ++ ['\x7d']

/-- A character inside a quoted text. -/
def quotedChar (c : Char) : List Char :=
  if c = '"' then ['\\', '"']
  else if c = '\\' then ['\\', '\\']
  else if c = '\n' then ['\\', 'n']
  else if c = '\r' then ['\\', 'r']
  else if c = '\t' then ['\\', 't']
  else if c.toNat = 0 then ['\\', '0']
  else if hasGlyph c then [c]
  else codePointEscape c

/-- A text between quotation marks. -/
def quoted (s : String) : String := String.ofList ('"' :: s.toList.flatMap quotedChar ++ ['"'])

end BidAdapter.Text
