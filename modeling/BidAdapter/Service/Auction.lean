import BidAdapter.Answer.Body
import BidAdapter.Outgoing.Request

/-!
# Auctions

`Bidder.auction` : a bid request sent to the exchange, and answered. What the exchange does with a request is an
`Outcome`; it is asked only for what the bidder sends.
-/

namespace BidAdapter

set_option autoImplicit false

open OpenRtb (BidRequest)

/-- What comes of a call of the exchange. -/
inductive Outcome where
  | reply (status : Nat) (body : String)
  /-- The call failed on the way. -/
  | failed (detail : String)
  /-- No answer came in time. -/
  | silent (milliseconds : Nat)

def Answer.ofOutcome : Outcome → Answer
  | .reply status body => ofReply status body
  | .failed detail => failed (.exchangeFailed detail)
  | .silent milliseconds => failed (.exchangeSilent milliseconds)

/-- An auction: what was sent, the status for the caller, and the answer. -/
structure Auction where
  sent : List OutgoingRequest
  status : Nat
  answer : Answer

/-- Run an auction with an exchange. -/
def Bidder.auction (b : Bidder) (exchange : OutgoingRequest → Outcome) (r : BidRequest) : Auction :=
  match b.dispatch r with
  | .sends out => ⟨[out], 200, .ofOutcome (exchange out)⟩
  | .idle => ⟨[], 204, .nothing⟩
  | .rejected p => ⟨[], 400, .failed p⟩

end BidAdapter
