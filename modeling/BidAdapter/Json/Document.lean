import BidAdapter.Json.Value

/-!
# Documents

`Document` : what the text of a JSON document holds, as far as it can be read: a tree that ends at the first `Flaw` of
the grammar. A reader of documents decides which parts it keeps and which it passes over; a value that has no meaning (a
number beyond the doubles, half of a surrogate pair) is a flaw only where it is kept, so the tree marks such a leaf and
goes on behind it. `Document.ofValue` : the tree of a value, which has no flaws.
-/

namespace BidAdapter.Json

set_option autoImplicit false

/-- What is wrong with a text. -/
inductive Flaw where
  /-- The text ends too early. -/
  | truncated
  /-- The text breaks the grammar, or names a value that there is not. -/
  | malformed
deriving DecidableEq, Repr

/-- The name of a member, or the flaw of one that has no text. -/
abbrev Name := Except Flaw String

/-- The tree of a document. A container carries the flaw at which the scan stopped, within it or before its end. -/
inductive Document where
  | null
  | bool (b : Bool)
  | number (n : Number)
  | string (s : String)
  | array (items : List Document) (stop : Option Flaw)
  | object (members : List (Name × Document)) (stop : Option Flaw)
  /-- A leaf without a value: its flaw where it is kept, and its flaw where it is passed over, if it has one there. -/
  | flawed (kept : Flaw) (skipped : Option Flaw)

instance : Inhabited Document := ⟨.null⟩

/-- The flaw at which the scan of a part stopped; the scan goes on behind a part without one. -/
def Document.stop : Document → Option Flaw
  | .array _ stop => stop
  | .object _ stop => stop
  | .flawed _ skipped => skipped
  | _ => none

mutual

/-- Whether every part of the document has a value. -/
def Document.sound : Document → Bool
  | .array items stop => stop.isNone && Document.soundItems items
  | .object members stop => stop.isNone && Document.soundMembers members
  | .flawed _ _ => false
  | _ => true

def Document.soundItems : List Document → Bool
  | [] => true
  | d :: ds => d.sound && Document.soundItems ds

def Document.soundMembers : List (Name × Document) → Bool
  | [] => true
  | (k, d) :: ms => k.toBool && d.sound && Document.soundMembers ms

end

mutual

def Document.ofValue : Value → Document
  | .null => .null
  | .bool b => .bool b
  | .number n => .number n
  | .string s => .string s
  | .array items => .array (Document.ofItems items) none
  | .object members => .object (Document.ofMembers members) none

def Document.ofItems : List Value → List Document
  | [] => []
  | v :: vs => Document.ofValue v :: Document.ofItems vs

def Document.ofMembers : List (String × Value) → List (Name × Document)
  | [] => []
  | (k, v) :: ms => (.ok k, Document.ofValue v) :: Document.ofMembers ms

end

end BidAdapter.Json
