import BidAdapter.Json.Decoder
import BidAdapter.Json.Scan

/-!
# Records

`Field` : a member that a record knows by name; `Decoder.openRecord` : a record that keeps the members it does not know,
in their order, and is written as an object only; `Decoder.closedRecord` : a record that passes over what it does not
know, and may also be written as the array of its fields in order. A field given twice is an error as soon as its name
is read. `Decoder.read` : a whole text.
-/

namespace BidAdapter.Json

set_option autoImplicit false

/-- A known member of a record: reading it changes the record. -/
structure Field (α : Type) where
  name : String
  /-- Another name of the same member. -/
  otherName : Option String
  /-- Whether the record needs it. -/
  required : Bool
  read : Decoder (α → α)

/-- A field that may be missing. -/
def Field.of {α β : Type} (name : String) (d : Decoder β) (set : α → β → α) : Field α where
  name := name
  otherName := none
  required := false
  read o doc := (d o doc).map fun b a => set a b

def Field.needed {α β : Type} (name : String) (d : Decoder β) (set : α → β → α) : Field α :=
  { Field.of name d set with required := true }

def Field.find? {α : Type} (fields : List (Field α)) (name : String) : Option (Field α) :=
  fields.find? fun f => f.name == name || f.otherName == some name

/-- The first needed field that was not seen. -/
def Field.missing? {α : Type} (fields : List (Field α)) (seen : List String) : Option String :=
  (fields.find? fun f => f.required && !seen.contains f.name).map Field.name

/-- What becomes of a member that the record does not know. -/
abbrev Unknown (α : Type) := Origin → String → Document → Except ReadError (α → α)

namespace Decoder

/-- The members of a record in the order of the text. -/
def recordMembers {α : Type} (fields : List (Field α)) (unknown : Unknown α) (o : Origin) (seen : List String)
    (a : α) : List (Name × Document) → Except ReadError (List String × α)
  | [] => .ok (seen, a)
  | (name, doc) :: ms => do
    let name ← nameText name
    match Field.find? fields name with
    | some f =>
      if seen.contains f.name then throw (.shape (.repeated f.name))
      let change ← f.read o doc
      recordMembers fields unknown o (f.name :: seen) (change a) ms
    | none =>
      let change ← unknown o name doc
      recordMembers fields unknown o seen (change a) ms

/-- A record from an object, starting with the record of absent fields. -/
def recordObject {α : Type} (fields : List (Field α)) (unknown : Unknown α) (absent : α) (o : Origin)
    (members : List (Name × Document)) (stop : Option Flaw) : Except ReadError α := do
  let inner ← o.enter
  let (seen, a) ← recordMembers fields unknown inner [] absent members
  finish stop
  match Field.missing? fields seen with
  | some name => throw (.shape (.missing name))
  | none => return a

/-- Keep a member that the record does not know. -/
def keep {α : Type} (put : α → String → Value → α) : Unknown α := fun o name doc => do
  let v ← any o doc
  return fun a => put a name v

/-- Pass over a member that the record does not know. -/
def passOver {α : Type} : Unknown α := fun _ _ doc => do
  finish doc.stop
  return id

/-- A record that keeps unknown members. -/
def openRecord {α : Type} (title : String) (fields : List (Field α)) (put : α → String → Value → α)
    (absent : α) : Decoder α
  | o, .object members stop => recordObject fields (keep put) absent o members stop
  | _, doc => mistyped ("struct " ++ title) doc

/-- The array form of a record in messages. -/
def arrayForm (title : String) (size : Nat) : String :=
  "struct " ++ title ++ " with " ++ toString size ++ (if size = 1 then " element" else " elements")

/-- The fields of a record by position. A field past the end of the array is absent. -/
def recordItems {α : Type} (title : String) (size : Nat) (o : Origin) (stop : Option Flaw) (a : α) (position : Nat) :
    List (Field α) → List Document → Except ReadError (α × List Document)
  | [], rest => .ok (a, rest)
  | f :: fs, doc :: rest => do
    let change ← f.read o doc
    recordItems title size o stop (change a) (position + 1) fs rest
  | f :: fs, [] => do
    finish stop
    if f.required then throw (.shape (.length position (arrayForm title size)))
    recordItems title size o stop a (position + 1) fs []

/-- The refusal of items behind the last field. -/
def surplus {α : Type} (o : Origin) (size : Nat) : Except ReadError α :=
  match o with
  | .text _ => .error (.flaw .malformed)
  | .value => .error (.shape (.length size "fewer elements in array"))

/-- A record that passes over unknown members; as an array it has its fields in order. -/
def closedRecord {α : Type} (title : String) (fields : List (Field α)) (absent : α) : Decoder α
  | o, .object members stop => recordObject fields passOver absent o members stop
  | o, .array items stop => do
    let inner ← o.enter
    let (a, rest) ← recordItems title fields.length inner stop absent 0 fields items
    if rest.isEmpty then
      finish stop
      return a
    else surplus o items.length
  | _, doc => mistyped ("struct " ++ title) doc

/-- Read a whole text: the document, and nothing but blanks behind it. -/
def read {α : Type} (d : Decoder α) (text : String) : Except ReadError α := do
  let (doc, more) := Document.scan .document text
  let a ← d .ofText doc
  if more then throw (.flaw .malformed)
  return a

end Decoder

end BidAdapter.Json
