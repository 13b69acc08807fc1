import BidAdapter.Power

/-!
# JSON values

`Number` : an integer of the 64-bit ranges or a finite double; `Value` : a JSON value whose objects keep the order of
their members; `Members` : the members of an object, with `get?`, `insert`, `erase` and `ofPairs`. Inserting under a
name that is present keeps the place of the member and replaces its value, so an object never holds a name twice.
-/

namespace BidAdapter.Json

set_option autoImplicit false

/-- A JSON number. -/
inductive Number where
  /-- An integer that a signed or an unsigned 64-bit word holds. -/
  | int (n : Int) (fits : -2 ^ 63 ≤ n ∧ n < 2 ^ 64)
  /-- A finite double. -/
  | real (x : Float) (finite : x.isFinite = true)
deriving DecidableEq

/-- A JSON value. The members of an object stand in the order of the text. -/
inductive Value where
  | null
  | bool (b : Bool)
  | number (n : Number)
  | string (s : String)
  | array (items : List Value)
  | object (members : List (String × Value))

instance : Inhabited Value := ⟨.null⟩

/-- The members of an object in order. -/
abbrev Members := List (String × Value)

/-! ## Numbers -/

/-- The integer `n` as a number, when a 64-bit word holds it. -/
def Number.ofInt? (n : Int) : Option Number :=
  if fits : -2 ^ 63 ≤ n ∧ n < 2 ^ 64 then some (.int n fits) else none

/-- The double `x` as a number, when it is finite. -/
def Number.ofFloat? (x : Float) : Option Number :=
  if finite : x.isFinite = true then some (.real x finite) else none

/-- The integer a number is, if it is one. -/
def Number.toInt? : Number → Option Int
  | .int n _ => some n
  | .real _ _ => none

/-- A 32-bit integer fits. -/
def Number.ofInt32 (n : Int32) : Number :=
  .int n.toInt ⟨by have := n.le_toInt; omega, by have := n.toInt_lt; omega⟩

/-- A 32-bit integer as a value. -/
def Value.ofInt32 (n : Int32) : Value := .number (.ofInt32 n)

/-- A double as a value; what is not finite has no number and is written as null. -/
def Value.ofFloat (x : Float) : Value :=
  match Number.ofFloat? x with
  | some n => .number n
  | none => .null

def Value.ofStrings (ss : List String) : Value := .array (ss.map .string)

/-! ## Members -/

namespace Members

/-- The value under a name. -/
def get? (ms : Members) (name : String) : Option Value := ms.lookup name

/-- Put a value under a name: in the place of the member of that name, else at the end. -/
def insert : Members → String → Value → Members
  | [], name, v => [(name, v)]
  | (k, w) :: ms, name, v => if k = name then (k, v) :: ms else (k, w) :: insert ms name v

/-- Leave out the member of a name; the others keep their order. -/
def erase (ms : Members) (name : String) : Members := ms.filter (fun m => m.1 ≠ name)

/-- Insert pairs one after the other: a repeated name keeps its first place and its last value. -/
def ofPairs (ps : List (String × Value)) : Members := ps.foldl (fun ms p => insert ms p.1 p.2) []

/-- The member of an optional value: none when it is absent. -/
def optional (name : String) : Option Value → Members
  | some v => [(name, v)]
  | none => []

end Members

/-- The member of that name, when the value is an object that has it. -/
def Value.member? : Value → String → Option Value
  | .object ms, name => Members.get? ms name
  | _, _ => none

def Value.string? : Value → Option String
  | .string s => some s
  | _ => none

def Value.members? : Value → Option Members
  | .object ms => some ms
  | _ => none

/-- Arrays and objects. -/
def Value.isContainer : Value → Bool
  | .array _ | .object _ => true
  | _ => false

end BidAdapter.Json
