import BidAdapter.Params.ImpExt
import BidAdapter.Text.Blank

/-!
# Keyword maps

`ImpExt.keywordMap` : the ext that an impression carries to the exchange. Later sources overwrite earlier ones: the
bidder's keywords, the zone, the targeting text (`targeting`), the ad unit (`adUnit?`), the flag for auctions on the
device and the placement id.
-/

namespace BidAdapter

set_option autoImplicit false

open Json (Decoder Field Members Value)
open Json.Decoder (optional string closedRecord)

/-! ## Texts -/

/-- The text of a value: strings as they are, numbers and booleans written out, `null` as a word, and nothing for
containers. -/
def Json.Value.asText : Value → String
  | .string s => s
  | .number n => n.text
  | .bool true => "true"
  | .bool false => "false"
  | .null => "null"
  | .array _ | .object _ => ""

/-- Members of the data that are not for targeting. -/
def reservedData : List String := ["pbadslot", "adserver"]

/-- What a member of the data adds to the targeting text; objects add nothing. -/
def targetingPart (name : String) : Value → Option String
  | .object _ => none
  | .array items =>
    some (Text.trim name ++ "=" ++ String.intercalate "," (items.map fun v => Text.trim v.asText))
  | v => some (Text.trim name ++ "=" ++ Text.trim v.asText)

/-- The parts that the data adds to the targeting text, in order. -/
def targetingParts (data : Members) : List String :=
  (data.filter fun m => !reservedData.contains m.1).filterMap fun m => targetingPart m.1 m.2

/-- The targeting text: the given pairs and those of the data, with bars between them. -/
def targeting (dctr : Option String) : Option Members → Option String
  | none => dctr
  | some data => some (String.intercalate "|" (dctr.toList ++ targetingParts data))

/-! ## Ad units -/

/-- The ad server that a slot belongs to. -/
structure AdServer where
  name : Option String
  adslot : Option String

def AdServer.decoder : Decoder AdServer :=
  closedRecord "PubmaticExtDataAdServer"
    [.of "name" (optional string) fun a name => { a with name },
      .of "adslot" (optional string) fun a adslot => { a with adslot }]
    ⟨none, none⟩

/-- The slot of the ad server, where it is the one that the exchange knows. -/
def AdServer.knownSlot? (a : AdServer) : Option String :=
  match a.name, a.adslot with
  | some "gam", some slot => if slot = "" then none else some slot
  | _, _ => none

/-- The slot that a member of the data names as the ad server's, if it can be read. -/
def adServerSlot? (data : Members) : Option String := do
  let v ← data.get? "adserver"
  let server ← (AdServer.decoder.ofValue v).toOption
  server.knownSlot?

/-- The ad unit: the slot of the ad server, else the text of the slot that the data names. -/
def adUnit? (data : Option Members) : Option String := do
  let data ← data
  (adServerSlot? data).or ((data.get? "pbadslot").map Value.asText)

/-! ## The map -/

/-- Put a text under a name, unless it is absent or empty. -/
def Json.Members.putText (ms : Members) (name : String) : Option String → Members
  | some s => if s = "" then ms else ms.insert name (.string s)
  | none => ms

/-- The keywords that have values, their values with commas between them. -/
def Keyword.toMembers (ks : List Keyword) : Members :=
  (ks.filter fun k => !k.value.isEmpty).foldl
    (fun ms k => ms.insert k.key (.string (String.intercalate "," k.value))) []

/-- The bidder's keywords and the zone. The zone has an older name among the keywords, which is never sent. -/
def SlotParams.keywordMembers (p : SlotParams) : Members :=
  let ms := Keyword.toMembers (p.keywords.getD [])
  let older := ms.get? "pmZoneID"
  let ms := ms.erase "pmZoneID"
  match p.zoneId, older with
  | some zone, older =>
    if zone = "" then
      match older with
      | some v => ms.insert "pmZoneId" v
      | none => ms
    else ms.insert "pmZoneId" (.string zone)
  | none, some v => ms.insert "pmZoneId" v
  | none, none => ms

/-- The ext that the impression carries to the exchange. -/
def ImpExt.keywordMap (e : ImpExt) : Members :=
  let ms := e.slot.keywordMembers
  let ms := ms.putText "key_val" (targeting e.slot.dctr e.data)
  let ms := ms.putText "dfp_ad_unit_code" (adUnit? e.data)
  let ms := match e.ae with
    | some ae => ms.insert "ae" (.ofInt32 ae)
    | none => ms
  match e.gpid with
  | some gpid => ms.insert "gpid" (.string gpid)
  | none => ms

end BidAdapter
