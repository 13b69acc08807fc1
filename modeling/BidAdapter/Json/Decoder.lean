import BidAdapter.Json.Document
import BidAdapter.Json.Printer
import BidAdapter.Text.Quoted

/-!
# Reading typed data from documents

`ShapeError` : a value of the wrong shape, with its `message`; `ReadError` : a wrong shape, or a flaw of the text that
comes first; `Decoder` : reads a typed value from a document in the order of the text, so that the first problem is the
one reported. Decoders for scalars, lists, tables and untyped values; records follow in `Json.Record`.
-/

namespace BidAdapter.Json

set_option autoImplicit false

/-! ## Errors -/

/-- What stands in a document, as messages name it. -/
inductive Found where
  | null
  | bool (b : Bool)
  | number (n : Number)
  | string (s : String)
  | sequence
  | map
deriving DecidableEq

def Found.text : Found → String
  | .null => "null"
  | .bool true => "boolean `true`"
  | .bool false => "boolean `false`"
  | .number (.int n h) => "integer `" ++ (Number.int n h).text ++ "`"
  | .number (.real x h) => "floating point `" ++ (Number.real x h).text ++ "`"
  | .string s => "string " ++ Text.quoted s
  | .sequence => "sequence"
  | .map => "map"

/-- Why a well-formed document is not of the shape that was asked for. -/
inductive ShapeError where
  /-- Another kind of value. -/
  | mistyped (found : Found) (expected : String)
  /-- The right kind of value, outside its range. -/
  | outOfRange (found : Found) (expected : String)
  | missing (field : String)
  | repeated (field : String)
  /-- An array of the wrong length. -/
  | length (size : Nat) (expected : String)
  /-- A value where only an object is taken. -/
  | notObject (v : Value)
  /-- A value where only a string or a number is taken. -/
  | notText (v : Value)
  /-- A text where only the digits of an integer are taken. -/
  | notInteger (text : String)

def ShapeError.message : ShapeError → String
  | .mistyped found expected => "invalid type: " ++ found.text ++ ", expected " ++ expected
  | .outOfRange found expected => "invalid value: " ++ found.text ++ ", expected " ++ expected
  | .missing field => "missing field `" ++ field ++ "`"
  | .repeated field => "duplicate field `" ++ field ++ "`"
  | .length size expected => "invalid length " ++ toString size ++ ", expected " ++ expected
  | .notObject v => "invalid type: " ++ v.compact ++ ", expected an object"
  | .notText v => "invalid type: " ++ v.compact ++ ", expected a string"
  | .notInteger text => "For input string: \"" ++ text ++ "\""

/-- Why a document could not be read. -/
inductive ReadError where
  | shape (e : ShapeError)
  | flaw (f : Flaw)

/-! ## Decoders -/

/-- Where a document comes from. -/
inductive Origin where
  /-- A text, with the number of containers that may still be opened inside one another. -/
  | text (room : Nat)
  /-- A value in memory. -/
  | value

/-- The containers of a text that may be opened inside one another. -/
def Origin.ofText : Origin := .text 127

/-- Open a container. -/
def Origin.enter : Origin → Except ReadError Origin
  | .text 0 => .error (.flaw .malformed)
  | .text (room + 1) => .ok (.text room)
  | .value => .ok .value

/-- Reads a typed value from a document. -/
abbrev Decoder (α : Type) := Origin → Document → Except ReadError α

/-- What a document is, where something else was expected; a leaf without a value is reported as such first. -/
def Document.found : Document → Except ReadError Found
  | .null => .ok .null
  | .bool b => .ok (.bool b)
  | .number n => .ok (.number n)
  | .string s => .ok (.string s)
  | .array _ _ => .ok .sequence
  | .object _ _ => .ok .map
  | .flawed kept _ => .error (.flaw kept)

/-- The refusal of a document of another kind. -/
def mistyped {α : Type} (expected : String) (doc : Document) : Except ReadError α := do
  let found ← doc.found
  throw (.shape (.mistyped found expected))

/-- The end of a container: nothing stopped the scan in it. -/
def finish (stop : Option Flaw) : Except ReadError Unit :=
  match stop with
  | some f => .error (.flaw f)
  | none => .ok ()

def nameText (name : Name) : Except ReadError String := name.mapError .flaw

namespace Decoder

def string : Decoder String
  | _, .string s => .ok s
  | _, doc => mistyped "a string" doc

def bool : Decoder Bool
  | _, .bool b => .ok b
  | _, doc => mistyped "a boolean" doc

/-- An integer of 32 bits. -/
def int32 : Decoder Int32
  | _, .number (.int n fits) =>
    if -2 ^ 31 ≤ n ∧ n < 2 ^ 31 then .ok (Int32.ofInt n)
    else .error (.shape (.outOfRange (.number (.int n fits)) "i32"))
  | _, doc => mistyped "i32" doc

/-- A double; an integer is rounded to the nearest. -/
def double : Decoder Float
  | _, .number (.int n _) => .ok (Float.ofInt n)
  | _, .number (.real x _) => .ok x
  | _, doc => mistyped "f64" doc

/-- A value that may be null. -/
def optional {α : Type} (d : Decoder α) : Decoder (Option α)
  | _, .null => .ok none
  | o, doc => (d o doc).map some

/-- The items of an array. -/
def list {α : Type} (d : Decoder α) : Decoder (List α)
  | o, .array items stop => do
    let inner ← o.enter
    let values ← items.mapM (d inner)
    finish stop
    return values
  | _, doc => mistyped "a sequence" doc

mutual

def any (o : Origin) : Document → Except ReadError Value
  | .null => .ok .null
  | .bool b => .ok (.bool b)
  | .number n => .ok (.number n)
  | .string s => .ok (.string s)
  | .array items stop => do
    let inner ← o.enter
    let values ← anyItems inner items
    finish stop
    return .array values
  | .object members stop => do
    let inner ← o.enter
    let values ← anyMembers inner [] members
    finish stop
    return .object values
  | .flawed kept _ => .error (.flaw kept)

/-- The items of an array of any values. -/
def anyItems (o : Origin) : List Document → Except ReadError (List Value)
  | [] => .ok []
  | d :: ds => do
    let v ← any o d
    let vs ← anyItems o ds
    return v :: vs

/-- The members of an object of any values, put behind those read so far. -/
def anyMembers (o : Origin) (done : Members) : List (Name × Document) → Except ReadError Members
  | [] => .ok done
  | (name, d) :: ms => do
    let name ← nameText name
    let v ← any o d
    anyMembers o (done.insert name v) ms

end

def members : Decoder Members
  | o, .object ms stop => do
    let inner ← o.enter
    let values ← anyMembers inner [] ms
    finish stop
    return values
  | _, doc => mistyped "a map" doc

end Decoder

/-! ## Tables -/

/-- Entries by name, in the order of the names. -/
abbrev Table (α : Type) := List (String × α)

namespace Table

/-- Put an entry in its place; one of the same name is replaced. -/
def insert {α : Type} : Table α → String → α → Table α
  | [], name, a => [(name, a)]
  | (k, b) :: t, name, a =>
    if name < k then (name, a) :: (k, b) :: t
    else if k = name then (k, a) :: t
    else (k, b) :: insert t name a

/-- The entry of a name. -/
def get? {α : Type} (t : Table α) (name : String) : Option α := t.lookup name

end Table

namespace Decoder

/-- The entries of a table, put among those read so far. -/
def tableEntries {α : Type} (d : Decoder α) (o : Origin) (done : Table α) :
    List (Name × Document) → Except ReadError (Table α)
  | [] => .ok done
  | (name, doc) :: ms => do
    let name ← nameText name
    let a ← d o doc
    tableEntries d o (done.insert name a) ms

/-- An object as a table of values of one type. -/
def table {α : Type} (d : Decoder α) : Decoder (Table α)
  | o, .object ms stop => do
    let inner ← o.enter
    let t ← tableEntries d inner [] ms
    finish stop
    return t
  | _, doc => mistyped "a map" doc

end Decoder

/-- Read a value in memory. -/
def Decoder.ofValue {α : Type} (d : Decoder α) (v : Value) : Except ReadError α := d .value (.ofValue v)

end BidAdapter.Json
