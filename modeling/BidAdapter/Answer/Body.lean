import BidAdapter.Answer.Offer
import BidAdapter.Json.Dialect.Exchange

/-!
# Bodies of the exchange

`decodeBody` : the bid response in the body of an exchange; `Answer.ofBody` : its offers, the configurations for
auctions on the device, and the problems of all bids in order; `Answer.ofReply` : the same for a reply with a status.
-/

namespace BidAdapter

set_option autoImplicit false

open Json (Decoder Document Members ReadError Value)
open OpenRtb (BidResponse)

/-- The configuration of an auction on the device. -/
structure AuctionConfig where
  impid : String
  config : Value

/-- What an exchange comes to. -/
structure Answer where
  offers : List Offer
  configs : List AuctionConfig
  problems : List Problem

namespace Answer

def nothing : Answer := ⟨[], [], []⟩

/-- Nothing but a problem. -/
def failed (p : Problem) : Answer := ⟨[], [], [p]⟩

/-- The configurations as they are shown, in one group. -/
def configsJson (cs : List AuctionConfig) : Value :=
  .array [.object [("igs", .array (cs.map fun c => .object [("impid", .string c.impid), ("config", c.config)]))]]

/-- The answer as it is shown; without configurations it has no member for them. -/
def toJson (a : Answer) : Value :=
  .object <| ("bids", .array (a.offers.map Offer.toJson)) ::
    (if a.configs.isEmpty then [] else [("igi", configsJson a.configs)]) ++
    [("errors", .array (a.problems.map Problem.toJson))]

end Answer

/-- The bid response of a body. The body has to be a sound document, and `null` stands for no response. -/
def decodeBody (body : String) : Except ReadError (Option BidResponse) :=
  let (doc, more) := Document.scan (.exchange body.utf8ByteSize) body
  if more || !doc.sound then .error (.flaw .malformed) else Decoder.optional BidResponse.decoder .value doc

/-- The configurations for auctions on the device, by impression. -/
def OpenRtb.BidResponse.auctionConfigs (r : BidResponse) : List AuctionConfig :=
  ((r.ext.bind fun e => e.fledgeAuctionConfigs).getD []).map fun m => ⟨m.1, m.2⟩

namespace Answer

/-- The answer of a bid response: its bids one after the other. -/
def ofResponse (r : BidResponse) : Answer :=
  let results := r.bids.map (Offer.ofBid r.cur)
  ⟨results.filterMap fun x => x.1, r.auctionConfigs, results.flatMap fun x => x.2⟩

def ofBody (body : String) : Answer :=
  match decodeBody body with
  | .ok (some r) => ofResponse r
  | .ok none => nothing
  | .error e => failed (.undecodable e)

/-- The answer of a reply: status 204 offers nothing, and the body counts only for a status of success. -/
def ofReply (status : Nat) (body : String) : Answer :=
  if status = 204 then nothing
  else if 200 ≤ status ∧ status < 300 then ofBody body
  else failed (.unexpectedStatus status)

end Answer

end BidAdapter
