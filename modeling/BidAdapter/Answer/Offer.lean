import BidAdapter.Answer.BidExt
import BidAdapter.Answer.Medium
import BidAdapter.OpenRtb.Response
import BidAdapter.Problem

/-!
# Offers

`Offer` : a bid in the form in which the caller takes it, with its medium, currency, deal priority and seat;
`Offer.ofBid` : the offer of a bid and the problems found on the way. A bid whose medium is unknown makes no offer;
every other problem leaves the offer as it would be without the part that cannot be read.
-/

namespace BidAdapter

set_option autoImplicit false

open Json (Decoder Members Value)
open OpenRtb (Bid)

/-- A bid with its medium and what belongs to it. -/
structure Offer where
  bid : Bid
  medium : Medium
  currency : Option String
  dealPriority : Option Int32
  seat : Option String

namespace Offer

/-- The offer as it is shown. -/
def toJson (o : Offer) : Value :=
  .object <| ("bid", o.bid.toJson) :: ("type", .string o.medium.name) ::
    Members.optional "bid_currency" (o.currency.map .string) ++
    Members.optional "deal_priority" (o.dealPriority.map .ofInt32) ++ Members.optional "seat" (o.seat.map .string)

/-- The ext of a bid, and the problem if it cannot be read. -/
def readExt : Option Members → Option BidExt × List Problem
  | none => (none, [])
  | some ms =>
    match BidExt.decoder.ofValue (.object ms) with
    | .ok e => (some e, [])
    | .error e => (none, [.bidExt e])

/-- The markup of a native bid without the member around it; a text that is no document stays, with a problem. -/
def nativeMarkup (adm : String) : String × List Problem :=
  match Decoder.read Decoder.any adm with
  | .ok v => (((v.member? "native").map Value.compact).getD adm, [])
  | .error _ => (adm, [.nativeMarkup adm])

/-- The markup of a bid, which is unwrapped for native bids only. -/
def markup (m : Medium) : Option String → Option String × List Problem
  | none => (none, [])
  | some adm =>
    if m = .native then
      let (adm, problems) := nativeMarkup adm
      (some adm, problems)
    else (some adm, [])

/-- What the caller reads about the creative: the medium that shows, and the length of its video. -/
def prebidInfo (m : Medium) (e : Option BidExt) : Value :=
  let shown := if e.any BidExt.isBannerVideo then Medium.video else m
  .object <| ("meta", .object [("mediaType", .string shown.name)]) ::
    Members.optional "video" ((e.bind BidExt.duration).map fun n => .object [("duration", .ofInt32 n)])

/-- The offer of a bid, if it makes one, and the problems of the bid in the order in which they are found. -/
def ofBid (currency : Option String) (b : Bid) : Option Offer × List Problem :=
  let (ext, extProblems) := readExt b.ext
  match Medium.ofCode b.mtype with
  | none => (none, extProblems ++ [.unknownMedium b.mtype b.impid])
  | some medium =>
    let (adm, admProblems) := markup medium b.adm
    let bid := { b with
      cat := b.cat.bind fun cs => cs.head?.map ([·])
      adm
      ext := some (Members.insert (b.ext.getD []) "prebid" (prebidInfo medium ext)) }
    let offer : Offer := ⟨bid, medium, currency, ext.bind fun e => e.dealPriority, ext.bind fun e => e.seat⟩
    (some offer, extProblems ++ admProblems)

end Offer

end BidAdapter
