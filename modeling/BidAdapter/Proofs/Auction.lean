import BidAdapter.Proofs.Accounting
import BidAdapter.Proofs.Dispatch
import BidAdapter.Proofs.Json.Scanning
import BidAdapter.Service.Http

/-!
# What an auction comes to

* `ComesTo` : the answer that each outcome of the exchange has to come to; `comesTo_ofOutcome` : it does;
* `AuctionCase` : an auction without a request never sees the exchange, one with a request sees what it makes of that
  request; `auction_cases` : there are no others;
* `errors_eq_of_badRequest` : the two routes that take a bid request refuse the same ones, for the same reasons;
* `auction_outcome` : all of it; `auction_outcome_without_media` : a request that both routes refuse.
-/

namespace BidAdapter

set_option autoImplicit false

open OpenRtb (BidRequest)

/-! ## Outcomes -/

/-- What an answer has to be, by what comes of the call of the exchange. -/
inductive ComesTo : Outcome → Answer → Prop where
  | noContent (body : String) : ComesTo (.reply 204 body) .nothing
  | refused (status : Nat) (body : String) (hstatus : status < 200 ∨ 300 ≤ status) (p : Problem)
    (hkind : p.kind = .generic) (hmessage : p.message = "Unexpected status code: " ++ toString status) :
    ComesTo (.reply status body) ⟨[], [], [p]⟩
  | translated (status : Nat) (body : String) (hcontent : status ≠ 204) (hsuccess : 200 ≤ status ∧ status < 300) :
    ComesTo (.reply status body) (.ofBody body)
  | failed (detail : String) (p : Problem) (hkind : p.kind = .generic) : ComesTo (.failed detail) ⟨[], [], [p]⟩
  | silent (milliseconds : Nat) (p : Problem) (hkind : p.kind = .generic) :
    ComesTo (.silent milliseconds) ⟨[], [], [p]⟩

theorem comesTo_ofReply (status : Nat) (body : String) :
    ComesTo (.reply status body) (Answer.ofReply status body) := by
  unfold Answer.ofReply
  split_ifs with hcontent hsuccess
  · subst hcontent
    exact .noContent body
  · exact .translated status body hcontent hsuccess
  · have hstatus : status < 200 ∨ 300 ≤ status := by omega
    exact .refused status body hstatus (.unexpectedStatus status) rfl rfl

theorem comesTo_ofOutcome (o : Outcome) : ComesTo o (Answer.ofOutcome o) := by
  cases o with
  | reply status body => exact comesTo_ofReply status body
  | failed detail => exact .failed detail (.exchangeFailed detail) rfl
  | silent milliseconds => exact .silent milliseconds (.exchangeSilent milliseconds) rfl

/-! ## Auctions -/

section Auctions
variable {b : Bidder} {r : BidRequest}

/-- The two kinds of auctions. Where nothing is sent the answer is the same for every exchange; where a request is sent,
exchanges that treat that request alike have the same auction. -/
inductive AuctionCase (b : Bidder) (exchange : OutgoingRequest → Outcome) (r : BidRequest) (a : Auction) : Prop where
  | unsent (hrequests : (b.dispatch r).requests = []) (hsent : a.sent = [])
    (hstatus : a.status = if (b.dispatch r).problems = [] then 204 else 400)
    (hanswer : a.answer = ⟨[], [], (b.dispatch r).problems⟩)
    (hblind : ∀ exchange', b.auction exchange' r = a)
  | sent (out : OutgoingRequest) (hrequests : (b.dispatch r).requests = [out]) (hsent : a.sent = [out])
    (hstatus : a.status = 200) (hanswer : ComesTo (exchange out) a.answer)
    (hblind : ∀ exchange', exchange' out = exchange out → b.auction exchange' r = a)

theorem auction_of_sends {out : OutgoingRequest} (h : b.dispatch r = .sends out)
    (exchange : OutgoingRequest → Outcome) : b.auction exchange r = ⟨[out], 200, .ofOutcome (exchange out)⟩ := by
  rw [Bidder.auction, h]

theorem auction_of_requests_eq_nil (h : (b.dispatch r).requests = []) (exchange : OutgoingRequest → Outcome) :
    b.auction exchange r =
      ⟨[], if (b.dispatch r).problems = [] then 204 else 400, ⟨[], [], (b.dispatch r).problems⟩⟩ := by
  rw [Bidder.auction]
  cases hd : b.dispatch r with
  | rejected p => rfl
  | idle => rfl
  | sends out =>
    rw [hd] at h
    cases h

theorem auction_cases (b : Bidder) (exchange : OutgoingRequest → Outcome) (r : BidRequest) :
    AuctionCase b exchange r (b.auction exchange r) := by
  cases hrequests : (b.dispatch r).requests with
  | nil =>
    have heq := auction_of_requests_eq_nil hrequests
    refine .unsent hrequests ?_ ?_ ?_ ?_
    · rw [heq]
    · rw [heq]
    · rw [heq]
    · intro exchange'
      rw [heq, heq]
  | cons out outs =>
    have hsends : b.dispatch r = .sends out := by
      apply Dispatch.eq_sends_of_mem
      rw [hrequests]
      exact List.mem_cons_self
    have heq := auction_of_sends hsends
    refine .sent out ?_ ?_ ?_ ?_ ?_
    · rw [hsends, Dispatch.requests]
    · rw [heq]
    · rw [heq]
    · rw [heq]
      exact comesTo_ofOutcome (exchange out)
    · intro exchange' hsame
      rw [heq, heq, hsame]

end Auctions

/-! ## Bad requests -/

section Routes
variable {b : Bidder} {c c' : Call}

/-- The errors that a reply shows; a refused call shows none. -/
def Reply.errors (r : Reply) : Option Json.Value := r.document.bind fun v => v.member? "errors"

theorem respond_request (htarget : Route.ofTarget c.target = some .request)
    (exchange : OutgoingRequest → Outcome) :
    (b.respond exchange c).2 = if c.method ≠ "POST" then .refused 405
      else c.withRequest .refused fun r => ⟨(b.dispatch r).status, some (b.dispatch r).toJson⟩ := by
  unfold Bidder.respond
  rw [htarget]
  dsimp only
  split_ifs
  · rfl
  · unfold Call.withRequest
    split_ifs
    · rfl
    · split <;> rfl

theorem respond_auction (htarget : Route.ofTarget c.target = some .auction)
    (exchange : OutgoingRequest → Outcome) :
    (b.respond exchange c).2 = if c.method ≠ "POST" then .refused 405
      else c.withRequest .refused fun r =>
        ⟨(b.auction exchange r).status, some (b.auction exchange r).answer.toJson⟩ := by
  unfold Bidder.respond
  rw [htarget]
  dsimp only
  split_ifs
  · rfl
  · unfold Call.withRequest
    split_ifs
    · rfl
    · split <;> rfl

/-- A dispatch is bad exactly where the auction is, and then the auction reports its problems and nothing else. -/
theorem badRequest_iff (b : Bidder) (exchange : OutgoingRequest → Outcome) (r : BidRequest) :
    ((b.dispatch r).status = 400 ↔ (b.auction exchange r).status = 400) ∧
      ((b.dispatch r).status = 400 → (b.auction exchange r).answer = ⟨[], [], (b.dispatch r).problems⟩) := by
  rw [Bidder.auction]
  cases b.dispatch r with
  | rejected p => exact ⟨Iff.rfl, fun _ => rfl⟩
  | idle => exact ⟨by simp [Dispatch.status], fun h => by cases h⟩
  | sends out => exact ⟨by simp [Dispatch.status], fun h => by cases h⟩

theorem errors_answer (a : Answer) :
    a.toJson.member? "errors" = some (.array (a.problems.map Problem.toJson)) := by
  unfold Answer.toJson
  split_ifs <;> rfl

/-- **A call for a request and a call for an auction are refused alike.** -/
theorem errors_eq_of_badRequest (hrequest : Route.ofTarget c.target = some .request)
    (hauction : Route.ofTarget c'.target = some .auction) (hmethod : c'.method = c.method)
    (htype : c'.contentType = c.contentType) (hbody : c'.body = c.body) (exchange exchange' : OutgoingRequest → Outcome) :
    ((b.respond exchange c).2.status = 400 ↔ (b.respond exchange' c').2.status = 400) ∧
      ((b.respond exchange c).2.status = 400 →
        (b.respond exchange c).2.errors = (b.respond exchange' c').2.errors) := by
  rw [respond_request hrequest, respond_auction hauction, hmethod]
  unfold Call.withRequest
  rw [htype, hbody]
  split_ifs with hpost hjson
  · exact ⟨Iff.rfl, fun _ => rfl⟩
  · exact ⟨Iff.rfl, fun _ => rfl⟩
  · split
    · next r _ =>
      obtain ⟨hiff, hsame⟩ := badRequest_iff b exchange' r
      refine ⟨hiff, ?_⟩
      intro hbad
      simp only [Reply.errors, Option.bind_some]
      rw [errors_answer, hsame hbad]
      rfl
    · exact ⟨Iff.rfl, fun _ => rfl⟩
    · exact ⟨Iff.rfl, fun _ => rfl⟩

end Routes

/-- **What an auction comes to.** Where a bid request makes no outgoing request the exchange is never asked: the answer
holds the problems of the dispatch and nothing else, and the status is 204 without problems and 400 with them. Else the
exchange is asked once, with that request, and whatever comes of it the status is 200. The two routes that take a bid
request answer 400 to the same calls, with the same errors. -/
theorem auction_outcome (b : Bidder) (exchange : OutgoingRequest → Outcome) :
    (∀ r, AuctionCase b exchange r (b.auction exchange r)) ∧
    (∀ r, ((b.dispatch r).status = 400 ↔ (b.auction exchange r).status = 400) ∧
      ((b.dispatch r).status = 400 → (b.auction exchange r).answer.problems = (b.dispatch r).problems)) ∧
    (∀ c c' : Call, Route.ofTarget c.target = some .request → Route.ofTarget c'.target = some .auction →
      c'.method = c.method → c'.contentType = c.contentType → c'.body = c.body →
      ((b.respond exchange c).2.status = 400 ↔ (b.respond exchange c').2.status = 400) ∧
      ((b.respond exchange c).2.status = 400 →
        (b.respond exchange c).2.errors = (b.respond exchange c').2.errors)) := by
  refine ⟨auction_cases b exchange, ?_, ?_⟩
  · intro r
    obtain ⟨hiff, hsame⟩ := badRequest_iff b exchange r
    refine ⟨hiff, ?_⟩
    intro hbad
    rw [hsame hbad]
  · intro c c' hrequest hauction hmethod htype hbody
    exact errors_eq_of_badRequest hrequest hauction hmethod htype hbody exchange exchange

/-- A request whose impression has no medium. -/
def requestWithoutMedia : BidRequest :=
  { BidRequest.absent with id := "r", imp := [{ OpenRtb.Imp.absent with id := "1" }] }

/-- A call with that request. -/
def callWithoutMedia (target : String) : Call :=
  ⟨target, "POST", some "application/json", requestWithoutMedia.toJson.compact⟩

/-- A bidder, and an exchange that never answers. -/
def plainBidder : Bidder := ⟨⟨"http".toList, [], true, none, none, ['/'], none, none⟩, "pubmatic"⟩

def silentExchange : OutgoingRequest → Outcome := fun _ => .silent 1000

/-- Both routes refuse that request, with the problem of its impression. -/
theorem auction_outcome_without_media :
    (plainBidder.respond silentExchange (callWithoutMedia "/pubmatic/request")).2.status = 400 ∧
      (plainBidder.respond silentExchange (callWithoutMedia "/pubmatic/auction")).2.status = 400 ∧
      (plainBidder.respond silentExchange (callWithoutMedia "/pubmatic/auction")).2.errors =
        some (.array [.object [("type", .string "bad_input"), ("message", .string
          "Invalid MediaType. PubMatic only supports Banner, Video and Native. Ignoring ImpID=1")]]) := by
  have hany : Json.Decoder.any .ofText (.ofValue requestWithoutMedia.toJson) = .ok requestWithoutMedia.toJson := rfl
  have hnumbers : ∀ n ∈ (Json.Document.ofValue requestWithoutMedia.toJson).numbers, False := by
    intro n hn
    cases hn
  have hread : BidRequest.decoder.read requestWithoutMedia.toJson.compact = .ok requestWithoutMedia :=
    Json.read_compact (fun _ hn => hn.elim) (Json.plain_of_any hany hnumbers) rfl
  have hreply : (plainBidder.respond silentExchange (callWithoutMedia "/pubmatic/request")).2 =
      ⟨400, some (Dispatch.rejected (.unsupportedMedia "1")).toJson⟩ := by
    rw [respond_request rfl]
    unfold Call.withRequest callWithoutMedia
    simp only [hread]
    rfl
  obtain ⟨-, -, hroutes⟩ := auction_outcome plainBidder silentExchange
  obtain ⟨hiff, hsame⟩ := hroutes (callWithoutMedia "/pubmatic/request") (callWithoutMedia "/pubmatic/auction")
    rfl rfl rfl rfl rfl
  have hbad : (plainBidder.respond silentExchange (callWithoutMedia "/pubmatic/request")).2.status = 400 := by
    rw [hreply]
  refine ⟨hbad, hiff.mp hbad, ?_⟩
  rw [← hsame hbad, hreply]
  rfl

end BidAdapter
