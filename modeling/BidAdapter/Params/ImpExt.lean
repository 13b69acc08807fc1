import BidAdapter.Params.Wrapper

/-!
# Parameters of an impression

`ImpExt` : the ext of an impression as the adapter reads it: the bidder's `SlotParams`, first-party `data`, the flag for
auctions on the device, and the placement id. `ImpExt.ofMembers` reads it; where an object is asked for, nothing else is
taken, and a floor may be written as a number.
-/

namespace BidAdapter

set_option autoImplicit false

open Json (Decoder Field Members ReadError Value)
open Json.Decoder (optional string int32 list members any closedRecord)

/-! ## Decoders -/

/-- A record that has to be written as an object, or is null. -/
def objectOnly {α : Type} (d : Decoder α) : Decoder (Option α) := fun o doc => do
  let v ← any o doc
  match v with
  | .null => return none
  | .object ms => (d.ofValue (.object ms)).map some
  | v => throw (.shape (.notObject v))

def textOrNumber : Decoder (Option String) := fun o doc => do
  let v ← any o doc
  match v with
  | .null => return none
  | .string s => return some s
  | .number n => return some n.text
  | v => throw (.shape (.notText v))

/-! ## Slot parameters -/

/-- A keyword with its values. -/
structure Keyword where
  key : String
  value : List String
deriving DecidableEq, Repr

def Keyword.decoder : Decoder Keyword :=
  closedRecord "ExtImpPubmaticKeyVal"
    [.needed "key" string fun k key => { k with key },
      .of "value" (list string) fun k value => { k with value }]
    ⟨"", []⟩

def Keyword.toJson (k : Keyword) : Value := .object [("key", .string k.key), ("value", .ofStrings k.value)]

/-- What the publisher sets for one slot. -/
structure SlotParams where
  publisherId : Option String
  adSlot : Option String
  /-- Targeting pairs, already joined. -/
  dctr : Option String
  zoneId : Option String
  wrapper : Option Wrapper
  keywords : Option (List Keyword)
  /-- The least price, as text. -/
  floor : Option String
deriving DecidableEq, Repr

/-- Parameters of which none is set. -/
def SlotParams.absent : SlotParams := ⟨none, none, none, none, none, none, none⟩

def SlotParams.decoder : Decoder SlotParams :=
  closedRecord "ExtImpPubmatic"
    [.of "publisherId" (optional string) fun p publisherId => { p with publisherId },
      .of "adSlot" (optional string) fun p adSlot => { p with adSlot },
      .of "dctr" (optional string) fun p dctr => { p with dctr },
      .of "pmzoneid" (optional string) fun p zoneId => { p with zoneId },
      .of "wrapper" (objectOnly Wrapper.decoder) fun p wrapper => { p with wrapper },
      .of "keywords" (optional (list Keyword.decoder)) fun p keywords => { p with keywords },
      .of "kadfloor" textOrNumber fun p floor => { p with floor }]
    .absent

def SlotParams.toJson (p : SlotParams) : Value :=
  .object <| Members.optional "publisherId" (p.publisherId.map .string) ++
    Members.optional "adSlot" (p.adSlot.map .string) ++ Members.optional "dctr" (p.dctr.map .string) ++
    Members.optional "pmzoneid" (p.zoneId.map .string) ++ Members.optional "wrapper" (p.wrapper.map Wrapper.toJson) ++
    Members.optional "keywords" (p.keywords.map fun ks => .array (ks.map Keyword.toJson)) ++
    Members.optional "kadfloor" (p.floor.map .string)

/-! ## The ext -/

/-- The ext of an impression. -/
structure ImpExt where
  bidder : Option SlotParams
  data : Option Members
  ae : Option Int32
  gpid : Option String

/-- An ext of which nothing is set. -/
def ImpExt.absent : ImpExt := ⟨none, none, none, none⟩

def ImpExt.decoder : Decoder ImpExt :=
  closedRecord "PubmaticBidderImpExt"
    [.of "bidder" (objectOnly SlotParams.decoder) fun e bidder => { e with bidder },
      .of "data" (optional members) fun e data => { e with data },
      .of "ae" (optional int32) fun e ae => { e with ae },
      .of "gpid" (optional string) fun e gpid => { e with gpid }]
    .absent

/-- Read the ext of an impression; an absent one has nothing set. -/
def ImpExt.ofMembers : Option Members → Except ReadError ImpExt
  | none => .ok .absent
  | some ms => decoder.ofValue (.object ms)

def ImpExt.toJson (e : ImpExt) : Value :=
  .object <| Members.optional "bidder" (e.bidder.map SlotParams.toJson) ++
    Members.optional "data" (e.data.map .object) ++ Members.optional "ae" (e.ae.map .ofInt32) ++
    Members.optional "gpid" (e.gpid.map .string)

/-- The slot parameters, none of them set where the ext has no bidder. -/
def ImpExt.slot (e : ImpExt) : SlotParams := e.bidder.getD .absent

end BidAdapter
