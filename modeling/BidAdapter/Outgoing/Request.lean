import BidAdapter.Endpoint.Url
import BidAdapter.Outgoing.RequestExt
import BidAdapter.Slot.Imp

/-!
# Outgoing requests

`Bidder.dispatch` : what becomes of a bid request, the `Dispatch`. All impressions have to pass: the first that does not
is the only thing that is reported, and a request without impressions asks for nothing. `OutgoingRequest` : what is
sent, with its method, headers, text and the names of its impressions.
-/

namespace BidAdapter

set_option autoImplicit false

open Json (Value)
open OpenRtb (App BidRequest Imp Prebid Publisher Site)

/-! ## The outgoing request -/

/-- A request to the exchange. -/
structure OutgoingRequest where
  endpoint : Endpoint.Url
  payload : BidRequest

namespace OutgoingRequest

/-- The method of every request. -/
def method : String := "POST"

/-- The headers of every request, by name. -/
def headers : List (String × String) :=
  [("accept", "application/json"), ("content-type", "application/json;charset=utf-8")]

/-- The text that is sent. -/
def body (r : OutgoingRequest) : String := r.payload.toJson.compact

/-- Put a name in its place in a rising list, once. -/
def insertName (name : String) : List String → List String
  | [] => [name]
  | n :: ns => if name < n then name :: n :: ns else if name = n then n :: ns else n :: insertName name ns

/-- The distinct names of the impressions, in their order. -/
def impIds (r : OutgoingRequest) : List String := (r.payload.imp.map Imp.id).foldr insertName []

/-- The request as it is shown. -/
def toJson (r : OutgoingRequest) : Value :=
  .object [("method", .string method), ("uri", .string r.endpoint.text),
    ("headers", .object (headers.map fun h => (h.1, .string h.2))),
    ("imp_ids", .ofStrings r.impIds), ("body", r.payload.toJson)]

end OutgoingRequest

/-! ## Dispatch -/

/-- What becomes of a bid request. -/
inductive Dispatch where
  /-- It is refused. -/
  | rejected (p : Problem)
  /-- It asks for nothing. -/
  | idle
  /-- It is sent on. -/
  | sends (r : OutgoingRequest)

namespace Dispatch

def requests : Dispatch → List OutgoingRequest
  | .sends r => [r]
  | _ => []

def problems : Dispatch → List Problem
  | .rejected p => [p]
  | _ => []

/-- The dispatch as it is shown. -/
def toJson (d : Dispatch) : Value :=
  .object [("requests", .array (d.requests.map OutgoingRequest.toJson)),
    ("errors", .array (d.problems.map Problem.toJson))]

end Dispatch

/-- A bidder: the exchange that it calls, and the name under which requests have its parameters. -/
structure Bidder where
  endpoint : Endpoint.Url
  name : String

/-- Where there is a publisher id, the publisher that has it; all else of the publisher is kept. -/
def publisherWith (id : Option String) (p : Option Publisher) : Option Publisher :=
  match id with
  | some id => some { p.getD .absent with id := some id }
  | none => p

/-- The request with the impressions and the settings of the outgoing one. -/
def outgoingPayload (r : BidRequest) (imps : List Imp) (s : Settings) : BidRequest :=
  { r with
    imp := imps
    site := r.site.map fun (x : Site) => { x with publisher := publisherWith s.publisherId x.publisher }
    app := r.app.map fun (x : App) => { x with publisher := publisherWith s.publisherId x.publisher }
    ext := s.ext r.ext }

def readImpExt (i : Imp) : Except Problem ImpExt := (ImpExt.ofMembers i.ext).mapError .impExt

/-- An impression with its parameters, as it goes to the exchange: its ext is read, its media are looked at, and then it
is made ready. -/
def adaptImp (app : Option DisplayManager) (i : Imp) : Except Problem (ImpExt × Imp) := do
  let ext ← readImpExt i
  checkMedia i
  let outgoing ← outgoingImp i ext app
  return (ext, outgoing)

namespace Bidder

/-- The payload for the exchange, none where nothing is asked for. -/
def payload (b : Bidder) (r : BidRequest) : Except Problem (Option BidRequest) := do
  let prebid := r.ext.bind fun e => e.prebid
  let params ← (RequestParams.ofPrebid prebid b.name).mapError .params
  if r.imp.isEmpty then return none
  let imps ← r.imp.mapM (adaptImp (DisplayManager.ofApp r.app))
  return some (outgoingPayload r (imps.map fun p => p.2) (Settings.resolve params (imps.map fun p => p.1)))

def dispatch (b : Bidder) (r : BidRequest) : Dispatch :=
  match b.payload r with
  | .ok (some payload) => .sends ⟨b.endpoint, payload⟩
  | .ok none => .idle
  | .error p => .rejected p

end Bidder

end BidAdapter
