import BidAdapter.Service.LogRecord

/-!
# Sessions

`Session` : a bidder with the last request that it made; `Session.request` and `Session.reply` : its steps. A reply
counts for the last request, and a request that makes none leaves the last one in place.
-/

namespace BidAdapter

set_option autoImplicit false

open OpenRtb (BidRequest)

/-- A bidder with the last request that it made. -/
structure Session where
  bidder : Bidder
  last : Option OutgoingRequest

namespace Session

/-- The session before its first step. -/
def start (b : Bidder) : Session := ⟨b, none⟩

def request (s : Session) (r : BidRequest) : Dispatch × Session :=
  let d := s.bidder.dispatch r
  (d, { s with last := d.requests.head?.or s.last })

/-- The answer of a reply to the last request, if there is one, with its record. -/
def reply (s : Session) (status : Nat) (body : String) : Option (Answer × LogRecord) :=
  s.last.map fun r =>
    let a := Answer.ofReply status body
    (a, LogRecord.ofAnswer r.payload.id a)

end Session

end BidAdapter
