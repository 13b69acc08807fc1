/-!
# Media types

`isJson` : whether the header of a request names JSON, as `application/json` or with the suffix `+json`, whatever its
parameters. A header that is no media type names nothing.
-/

namespace BidAdapter.MediaType

set_option autoImplicit false

/-- A character of a name. -/
def isToken (c : Char) : Bool :=
  c.isAlphanum || ['!', '#', '$', '%', '&', '\'', '*', '+', '-', '.', '^', '_', '`', '|', '~'].contains c

/-- A character between quotation marks. -/
def isQuotable (c : Char) : Bool := 0x20 ≤ c.toNat && c.toNat < 0x7F

/-- Where a reader of parameters stands. -/
inductive Place where
  /-- In front of a parameter. -/
  | gap
  /-- In a name, with at least one character. -/
  | name
  /-- Behind the equals sign. -/
  | equals
  /-- In a value, with at least one character. -/
  | value
  /-- Between quotation marks; whether a character was read. -/
  | quotedText (begun : Bool)
  /-- Behind the closing mark. -/
  | afterQuote
deriving DecidableEq

/-- The place behind a character, if it may stand there. -/
def Place.next (c : Char) : Place → Option Place
  | .gap => if c = ' ' then some .gap else if isToken c then some .name else none
  | .name => if c = '=' then some .equals else if isToken c then some .name else none
  | .equals => if c = '"' then some (.quotedText false) else if isToken c then some .value else none
  | .value => if c = ';' then some .gap else if isToken c then some .value else none
  | .quotedText begun =>
    if c = '"' && begun then some .afterQuote else if isQuotable c then some (.quotedText true) else none
  | .afterQuote => if c = ';' then some .gap else if c = ' ' then some .afterQuote else none

/-- Whether parameters are well formed. A value may be empty at the end. -/
def validParameters : Place → List Char → Bool
  | .gap, [] | .equals, [] | .value, [] | .afterQuote, [] => true
  | _, [] => false
  | p, c :: cs =>
    match p.next c with
    | some p => validParameters p cs
    | none => false

/-- The subtype without its suffix, and the suffix, which stands behind the last plus sign. A plus sign at the start is
no suffix. -/
def splitSuffix (subtype : List Char) : List Char × Option (List Char) :=
  let suffix := (subtype.reverse.takeWhile (· ≠ '+')).reverse
  let front := subtype.take (subtype.length - suffix.length - 1)
  if suffix.length = subtype.length || front.isEmpty then (subtype, none) else (front, some suffix)

/-- Whether a header names JSON. -/
def isJson (header : String) : Bool :=
  let cs := header.toList.map Char.toLower
  match cs.takeWhile (· ≠ '/'), cs.dropWhile (· ≠ '/') with
  | type, _ :: rest =>
    let subtype := rest.takeWhile (· ≠ ';')
    let parameters := (rest.dropWhile (· ≠ ';')).drop 1
    let (front, suffix) := splitSuffix subtype
    type == "application".toList && !subtype.isEmpty && subtype.all isToken &&
      (front == "json".toList || suffix == some "json".toList) && validParameters .gap parameters
  | _, [] => false

end BidAdapter.MediaType
