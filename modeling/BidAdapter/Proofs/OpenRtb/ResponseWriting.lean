import BidAdapter.OpenRtb.Response
import BidAdapter.Proofs.Json.Members

/-!
# What a bid response is written as

For every record of a bid response, `typed` : its members under the names that it knows, each there when it has a value,
and `toJson_eq` : the record is written as these members and the others behind them.
-/

namespace BidAdapter.OpenRtb

set_option autoImplicit false

open Json (Members Value)

def Bid.typed (b : Bid) : List (String × Option Value) :=
  [("id", some (.string b.id)), ("impid", some (.string b.impid)), ("price", some (.ofFloat b.price)),
    ("adm", b.adm.map .string), ("crid", b.crid.map .string), ("cat", b.cat.map .ofStrings),
    ("mtype", b.mtype.map .ofInt32), ("ext", b.ext.map .object)]

theorem Bid.toJson_eq (b : Bid) : b.toJson = .object (Members.typed b.typed ++ b.others) := by
  simp [toJson, Members.typed, typed, Members.optional]

def SeatBid.typed (s : SeatBid) : List (String × Option Value) :=
  [("bid", s.bid.map fun bs => .array (bs.map Bid.toJson)), ("seat", s.seat.map .string)]

theorem SeatBid.toJson_eq (s : SeatBid) : s.toJson = .object (Members.typed s.typed ++ s.others) := by
  simp [toJson, Members.typed, typed]

def ResponseExt.typed (e : ResponseExt) : List (String × Option Value) :=
  [("fledge_auction_configs", e.fledgeAuctionConfigs.map .object)]

theorem ResponseExt.toJson_eq (e : ResponseExt) : e.toJson = .object (Members.typed e.typed ++ e.others) := by
  simp [toJson, Members.typed, typed]

def BidResponse.typed (r : BidResponse) : List (String × Option Value) :=
  [("id", some (.string r.id)), ("seatbid", r.seatbid.map fun ss => .array (ss.map SeatBid.toJson)),
    ("cur", r.cur.map .string), ("ext", r.ext.map ResponseExt.toJson)]

theorem BidResponse.toJson_eq (r : BidResponse) : r.toJson = .object (Members.typed r.typed ++ r.others) := by
  simp [toJson, Members.typed, typed, Members.optional]

end BidAdapter.OpenRtb
