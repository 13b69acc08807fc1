import BidAdapter.Service.Auction
import BidAdapter.Service.MediaType

/-!
# Service

`Bidder.respond` : the answer of the service to a call. Three routes take posts: one shows what a bid request is sent
as, one what the body of an exchange offers, one runs an auction. A call is refused, without a body, when its route, its
method, its media type, its text or its shape is wrong, in this order.
-/

namespace BidAdapter

set_option autoImplicit false

open Json (Decoder Value)
open OpenRtb (BidRequest)

/-- What the service does. -/
inductive Route where
  | request
  | response
  | auction
deriving DecidableEq, Repr

/-- The path of a request target: the target itself, or where it names a scheme and a host, what stands behind them. A
query or a fragment is no part of it. -/
def targetPath (target : List Char) : List Char :=
  let isSchemeChar (c : Char) : Bool := c.isAlphanum || c == '+' || c == '-' || c == '.'
  let path := match target.takeWhile isSchemeChar, target.dropWhile isSchemeChar with
    | _ :: _, ':' :: '/' :: '/' :: rest => rest.dropWhile fun c => c != '/' && c != '?' && c != '#'
    | _, _ => target
  path.takeWhile fun c => c != '?' && c != '#'

def Route.ofTarget (target : String) : Option Route :=
  let path := targetPath target.toList
  if path = "/pubmatic/request".toList then some .request
  else if path = "/pubmatic/response".toList then some .response
  else if path = "/pubmatic/auction".toList then some .auction
  else none

/-- A call of the service. -/
structure Call where
  target : String
  method : String
  contentType : Option String
  body : String

/-- A reply of the service; a refused call has no document. -/
structure Reply where
  status : Nat
  document : Option Value

def Reply.refused (status : Nat) : Reply := ⟨status, none⟩

/-- What a route makes of the bid request of a call, unless the call is refused. -/
def Call.withRequest {α : Type} (c : Call) (refuse : Nat → α) (serve : BidRequest → α) : α :=
  if !c.contentType.any MediaType.isJson then refuse 415
  else match Decoder.read BidRequest.decoder c.body with
    | .ok r => serve r
    | .error (.flaw _) => refuse 400
    | .error (.shape _) => refuse 422

/-- The status of a dispatch: bad only when something is wrong and nothing is sent. -/
def Dispatch.status : Dispatch → Nat
  | .rejected _ => 400
  | _ => 200

/-- What the service sends to the exchange and replies to a call. -/
def Bidder.respond (b : Bidder) (exchange : OutgoingRequest → Outcome) (c : Call) :
    List OutgoingRequest × Reply :=
  match Route.ofTarget c.target with
  | none => ([], .refused 404)
  | some route =>
    if c.method ≠ "POST" then ([], .refused 405)
    else match route with
      | .response => ([], ⟨200, some (Answer.ofBody c.body).toJson⟩)
      | .request => c.withRequest (fun status => ([], .refused status)) fun r =>
        let d := b.dispatch r
        ([], ⟨d.status, some d.toJson⟩)
      | .auction => c.withRequest (fun status => ([], .refused status)) fun r =>
        let a := b.auction exchange r
        (a.sent, ⟨a.status, some a.answer.toJson⟩)

end BidAdapter
