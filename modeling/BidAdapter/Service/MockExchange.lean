import BidAdapter.OpenRtb.Request
import BidAdapter.OpenRtb.Response

/-!
# Mock exchange

`MockExchange.answer` : an exchange for trials, which bids on every impression: video before native before banner, at
the floor times a factor that is given for each impression. An impression that asks for an auction on the device gets a
configuration.
-/

namespace BidAdapter.MockExchange

set_option autoImplicit false

open Json (Members Value)
open OpenRtb (Bid BidRequest BidResponse Imp ResponseExt SeatBid)

/-- Where a shown bid is reported. -/
def trackerOf (bid : String) : String := "http://tracker.local/impression?bid=" ++ bid

def videoMarkup (bid : String) : String :=
  "<VAST version=\"3.0\"><Ad id=\"" ++ bid ++ "\"><InLine><AdSystem>Mock PubMatic</AdSystem><Impression><![CDATA[" ++
    trackerOf bid ++ "]]></Impression></InLine></Ad></VAST>"

def bannerMarkup (bid : String) : String :=
  "<html><body>Mock PubMatic Banner<img src=\"" ++ trackerOf bid ++ "\" style=\"display:none;\" /></body></html>"

def nativeMarkup (bid : String) : String :=
  (Value.object [("native", .object [
    ("assets", .array [.object [("title", .object [("text", .string "Mock Native Ad")])]]),
    ("imptrackers", .array [.string (trackerOf bid)])])]).compact

/-- The code, the markup and the ext of the bid on an impression. -/
def creative (i : Imp) (bid : String) : Int32 × String × Members :=
  if i.video.isSome then (2, videoMarkup bid, [("video", .object [("duration", .ofInt32 30)])])
  else if i.native.isSome then (4, nativeMarkup bid, [])
  else (1, bannerMarkup bid, [("prebiddealpriority", .ofInt32 1)])

/-- The bid on an impression, at its floor times the factor, or a tenth times the factor. -/
def bidOn (i : Imp) (factor : Float) : Bid :=
  let id := "bid-" ++ i.id
  let (mtype, adm, ext) := creative i id
  { id
    impid := i.id
    price := ((i.bidfloor.map Decimal.toDouble).getD 0.1) * factor
    adm := some adm
    crid := some ("creative-" ++ i.id)
    cat := some ["IAB1", "IAB2"]
    mtype := some mtype
    ext := some ext
    others := [] }

/-- Whether an impression asks for an auction on the device: the flag is the integer one. -/
def wantsDeviceAuction (i : Imp) : Bool :=
  match (i.ext.getD []).lookup "ae" with
  | some (.number n) => n.toInt? == some 1
  | _ => false

/-- The configuration of an auction on the device. -/
def deviceAuction : Value :=
  .object [("seller", .string "https://ads.pubmatic.com"),
    ("interestGroupBuyers", .array [.string "https://dsp.example"])]

/-- The configurations of the impressions that ask for one, each id once. -/
def deviceAuctions (imps : List Imp) : Members :=
  Members.ofPairs ((imps.filter wantsDeviceAuction).map fun i => (i.id, deviceAuction))

/-- The answer to a request, with the price factor of each impression by its place. -/
def answer (factor : Nat → Float) (r : BidRequest) : BidResponse :=
  let configs := deviceAuctions r.imp
  let bids := r.imp.mapIdx fun n i => bidOn i (factor n)
  { id := r.id
    seatbid := some [{ bid := some bids, seat := some "pubmatic", others := [] }]
    cur := some "USD"
    ext := if configs.isEmpty then none else some { fledgeAuctionConfigs := some configs, others := [] }
    others := [] }

end BidAdapter.MockExchange
