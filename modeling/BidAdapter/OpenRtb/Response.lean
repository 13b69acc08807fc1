import BidAdapter.Json.Record

/-!
# Bid responses

`BidResponse` : the answer of an exchange, with the `Bid`s of each `SeatBid` and the configurations for auctions on the
device in its `ResponseExt`.
-/

namespace BidAdapter.OpenRtb

set_option autoImplicit false

open Json (Decoder Field Members Value)
open Json.Decoder (optional string int32 double list members openRecord)

/-- A bid. Its price is zero when it has none, and its ext stays as it is written. -/
structure Bid where
  id : String
  impid : String
  price : Float
  adm : Option String
  crid : Option String
  cat : Option (List String)
  /-- The code of the medium: 1 to 4 for banner, video, audio and native. -/
  mtype : Option Int32
  ext : Option Members
  others : Members

def Bid.absent : Bid := ⟨"", "", 0, none, none, none, none, none, []⟩

def Bid.decoder : Decoder Bid :=
  openRecord "Bid"
    [.of "id" string fun b id => { b with id },
      .of "impid" string fun b impid => { b with impid },
      .of "price" double fun b price => { b with price },
      .of "adm" (optional string) fun b adm => { b with adm },
      .of "crid" (optional string) fun b crid => { b with crid },
      .of "cat" (optional (list string)) fun b cat => { b with cat },
      .of "mtype" (optional int32) fun b mtype => { b with mtype },
      .of "ext" (optional members) fun b ext => { b with ext }]
    (fun b name v => { b with others := b.others.insert name v }) .absent

def Bid.toJson (b : Bid) : Value :=
  .object <| ("id", .string b.id) :: ("impid", .string b.impid) :: ("price", .ofFloat b.price) ::
    Members.optional "adm" (b.adm.map .string) ++ Members.optional "crid" (b.crid.map .string) ++
    Members.optional "cat" (b.cat.map .ofStrings) ++ Members.optional "mtype" (b.mtype.map .ofInt32) ++
    Members.optional "ext" (b.ext.map .object) ++ b.others

/-- The bids of a seat. -/
structure SeatBid where
  bid : Option (List Bid)
  seat : Option String
  others : Members

def SeatBid.absent : SeatBid := ⟨none, none, []⟩

def SeatBid.decoder : Decoder SeatBid :=
  openRecord "SeatBid"
    [.of "bid" (optional (list Bid.decoder)) fun s bid => { s with bid },
      .of "seat" (optional string) fun s seat => { s with seat }]
    (fun s name v => { s with others := s.others.insert name v }) .absent

def SeatBid.toJson (s : SeatBid) : Value :=
  .object <| Members.optional "bid" (s.bid.map fun bs => .array (bs.map Bid.toJson)) ++
    Members.optional "seat" (s.seat.map .string) ++ s.others

/-- The ext of a response: configurations for auctions on the device, by impression. -/
structure ResponseExt where
  fledgeAuctionConfigs : Option Members
  others : Members

def ResponseExt.absent : ResponseExt := ⟨none, []⟩

def ResponseExt.decoder : Decoder ResponseExt :=
  openRecord "ExtBidResponse"
    [.of "fledge_auction_configs" (optional members) fun e configs => { e with fledgeAuctionConfigs := configs }]
    (fun e name v => { e with others := e.others.insert name v }) .absent

def ResponseExt.toJson (e : ResponseExt) : Value :=
  .object <| Members.optional "fledge_auction_configs" (e.fledgeAuctionConfigs.map .object) ++ e.others

/-- The answer of an exchange. -/
structure BidResponse where
  id : String
  seatbid : Option (List SeatBid)
  cur : Option String
  ext : Option ResponseExt
  others : Members

def BidResponse.absent : BidResponse := ⟨"", none, none, none, []⟩

def BidResponse.decoder : Decoder BidResponse :=
  openRecord "BidResponse"
    [.of "id" string fun r id => { r with id },
      .of "seatbid" (optional (list SeatBid.decoder)) fun r seatbid => { r with seatbid },
      .of "cur" (optional string) fun r cur => { r with cur },
      .of "ext" (optional ResponseExt.decoder) fun r ext => { r with ext }]
    (fun r name v => { r with others := r.others.insert name v }) .absent

def BidResponse.toJson (r : BidResponse) : Value :=
  .object <| ("id", .string r.id) ::
    Members.optional "seatbid" (r.seatbid.map fun ss => .array (ss.map SeatBid.toJson)) ++
    Members.optional "cur" (r.cur.map .string) ++ Members.optional "ext" (r.ext.map ResponseExt.toJson) ++ r.others

/-- All bids of the response in order; a seat without a list has none. -/
def BidResponse.bids (r : BidResponse) : List Bid := (r.seatbid.getD []).flatMap fun s => s.bid.getD []

end BidAdapter.OpenRtb
