import BidAdapter.Json.Record
import BidAdapter.Text.Integer

/-!
# Wrappers

`Wrapper` : a profile and a version of the exchange's wrapper, zero where unset. `Wrapper.merge` : field by field, the
first that is set; `Wrapper.fieldOf` : either field from any value, since senders write numbers as numbers or as text;
`Wrapper.decoder` : a wrapper among the parameters of an impression.
-/

namespace BidAdapter

set_option autoImplicit false

open Json (Decoder Field ReadError ShapeError Value)

/-- A profile and a version. -/
structure Wrapper where
  profile : Int32
  version : Int32
deriving DecidableEq, Repr

namespace Wrapper

/-- Neither field is set. -/
def unset : Wrapper := ⟨0, 0⟩

/-- Each field is taken from the second wrapper where the first leaves it unset. -/
def merge (a b : Wrapper) : Wrapper where
  profile := if a.profile = 0 then b.profile else a.profile
  version := if a.version = 0 then b.version else a.version

/-- A field: the 32-bit integer of a number or of a literal, and zero for a number that is none and for any other value.
Text that is no literal is an error. -/
def fieldOf : Value → Except ShapeError Int32
  | .string s =>
    match Text.int32? s.toList with
    | some n => .ok n
    | none => .error (.notInteger s)
  | .number (.int n _) => .ok (if -2 ^ 31 ≤ n ∧ n < 2 ^ 31 then Int32.ofInt n else 0)
  | _ => .ok 0

/-- A field, from any value. -/
def fieldDecoder : Decoder Int32 := fun o doc => do
  let v ← Decoder.any o doc
  match fieldOf v with
  | .ok n => return n
  | .error e => throw (.shape e)

def decoder : Decoder Wrapper :=
  Decoder.closedRecord "PubmaticWrapper"
    [.of "profile" fieldDecoder fun w profile => { w with profile },
      .of "version" fieldDecoder fun w version => { w with version }]
    unset

def toJson (w : Wrapper) : Value :=
  .object [("profile", .ofInt32 w.profile), ("version", .ofInt32 w.version)]

end Wrapper

end BidAdapter
