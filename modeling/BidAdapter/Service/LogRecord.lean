import BidAdapter.Answer.Body
import BidAdapter.Outgoing.Request

/-!
# Log records

`LogRecord` : what is logged of one step, the dispatch of a request or an answer. A request fails with its problem; an
answer fails when it offers nothing and the text of a problem is that of a body that cannot be decoded.
-/

namespace BidAdapter

set_option autoImplicit false

open Json (Value)
open OpenRtb (BidRequest)

/-- Which step is logged. -/
inductive LogType where
  | request
  | response
deriving DecidableEq, Repr

def LogType.name : LogType → String
  | .request => "pubmatic_request"
  | .response => "pubmatic_response"

/-- What is logged of one step. -/
structure LogRecord where
  type : LogType
  requestId : String
  success : Bool
  /-- The impressions that came in. -/
  impCount : Nat
  outgoingRequests : Nat
  bidCount : Nat
  /-- Whether there are configurations for auctions on the device. -/
  hasConfigs : Bool
  problems : List Problem

/-- Whether a problem reads like a body that cannot be decoded. -/
def Problem.readsUndecodable (p : Problem) : Bool := p.message.startsWith "Failed to decode"

namespace LogRecord

/-- The record of a request's dispatch. -/
def ofDispatch (r : BidRequest) (d : Dispatch) : LogRecord where
  type := .request
  requestId := r.id
  success := d.problems.isEmpty
  impCount := r.imp.length
  outgoingRequests := d.requests.length
  bidCount := 0
  hasConfigs := false
  problems := d.problems

/-- The record of an answer to the request of that id. -/
def ofAnswer (requestId : String) (a : Answer) : LogRecord where
  type := .response
  requestId := requestId
  success := !(a.offers.isEmpty && a.problems.any Problem.readsUndecodable)
  impCount := 0
  outgoingRequests := 0
  bidCount := a.offers.length
  hasConfigs := !a.configs.isEmpty
  problems := a.problems

/-- The word for success or failure. -/
def status (l : LogRecord) : String := if l.success then "success" else "failure"

def problemJson (p : Problem) : Value := .object [("kind", .string p.kind.name), ("message", .string p.message)]

end LogRecord

end BidAdapter
