import BidAdapter.Json.Value
import BidAdapter.Double.Text

/-!
# Texts of JSON values

`compact` : the text without blanks; `pretty` : the text over lines, two spaces a level. Strings escape the quotation
mark, the backslash and the control characters below U+0020, five of them by a letter; all else stands for itself.
-/

namespace BidAdapter.Json

set_option autoImplicit false

/-! ## Scalars -/

/-- The characters of an integer, with a minus sign in front of a negative one. -/
def intChars (n : Int) : List Char :=
  if n < 0 then '-' :: Nat.toDigits 10 n.natAbs else Nat.toDigits 10 n.natAbs

def Number.chars : Number → List Char
  | .int n _ => intChars n
  | .real x _ => Double.jsonText x

def Number.text (n : Number) : String := String.ofList n.chars

/-- The hexadecimal digit of a number below sixteen. -/
def hexDigit (n : Nat) : Char := Nat.digitChar n

/-- A character inside a quoted string. -/
def escape (c : Char) : List Char :=
  if c = '"' then ['\\', '"']
  else if c = '\\' then ['\\', '\\']
  else if c = '\x08' then ['\\', 'b']
  else if c = '\x0c' then ['\\', 'f']
  else if c = '\n' then ['\\', 'n']
  else if c = '\r' then ['\\', 'r']
  else if c = '\t' then ['\\', 't']
  else if c.toNat < 0x20 then ['\\', 'u', '0', '0', hexDigit (c.toNat / 16), hexDigit (c.toNat % 16)]
  else [c]

def quote (s : String) : List Char := '"' :: s.toList.flatMap escape ++ ['"']

/-! ## Compact text -/

mutual

def Value.chars : Value → List Char
  | .null => ['n', 'u', 'l', 'l']
  | .bool true => ['t', 'r', 'u', 'e']
  | .bool false => ['f', 'a', 'l', 's', 'e']
  | .number n => n.chars
  | .string s => quote s
  | .array items => '[' :: Value.itemChars items ++ [']']
  | .object members => '\x7b' :: Value.memberChars members ++ ['\x7d']

/-- The characters of the items of an array, a comma between two. -/
def Value.itemChars : List Value → List Char
  | [] => []
  | [v] => v.chars
  | v :: w :: vs => v.chars ++ ',' :: Value.itemChars (w :: vs)

/-- The characters of the members of an object, a comma between two. -/
def Value.memberChars : List (String × Value) → List Char
  | [] => []
  | [(k, v)] => quote k ++ ':' :: v.chars
  | (k, v) :: m :: ms => quote k ++ ':' :: v.chars ++ ',' :: Value.memberChars (m :: ms)

end

/-- The text of a value without blanks. -/
def Value.compact (v : Value) : String := String.ofList v.chars

/-! ## Pretty text -/

/-- A line break and the blanks of a level. -/
def indent (level : Nat) : List Char := '\n' :: List.replicate (2 * level) ' '

mutual

/-- The characters of a value over lines; an empty container stays on one line. -/
def Value.prettyChars (level : Nat) : Value → List Char
  | .null => ['n', 'u', 'l', 'l']
  | .bool true => ['t', 'r', 'u', 'e']
  | .bool false => ['f', 'a', 'l', 's', 'e']
  | .number n => n.chars
  | .string s => quote s
  | .array [] => ['[', ']']
  | .array (v :: vs) => '[' :: Value.prettyItems (level + 1) (v :: vs) ++ indent level ++ [']']
  | .object [] => ['\x7b', '\x7d']
  | .object (m :: ms) => '\x7b' :: Value.prettyMembers (level + 1) (m :: ms) ++ indent level ++ ['\x7d']

/-- The items of an array, each on a line of its own. -/
def Value.prettyItems (level : Nat) : List Value → List Char
  | [] => []
  | [v] => indent level ++ v.prettyChars level
  | v :: w :: vs => indent level ++ v.prettyChars level ++ ',' :: Value.prettyItems level (w :: vs)

/-- The members of an object, each on a line of its own. -/
def Value.prettyMembers (level : Nat) : List (String × Value) → List Char
  | [] => []
  | [(k, v)] => indent level ++ quote k ++ ':' :: ' ' :: v.prettyChars level
  | (k, v) :: m :: ms =>
    indent level ++ quote k ++ ':' :: ' ' :: v.prettyChars level ++ ',' :: Value.prettyMembers level (m :: ms)

end

/-- The text of a value over lines, two spaces a level. -/
def Value.pretty (v : Value) : String := String.ofList (v.prettyChars 0)

end BidAdapter.Json
