import BidAdapter.OpenRtb.Response
import BidAdapter.Proofs.Json.RecordReading

/-!
# What a bid response is read from

For every record of a bid response, `ReadFrom` : its parts are read from the members of one object, each from its own
name, and `readFrom_of_decoder` : a record that is read has parts like that.

* `BidResponse.exists_of_mem_bids` : every bid of a response is read from a document of its own;
* `Bid.plain_ext` : no ext of a bid has a name twice, at any depth.
-/

namespace BidAdapter.OpenRtb

set_option autoImplicit false

open Json
open Json.Decoder (string int32 double list members)

variable {o : Origin} {doc : Document} {b : Bid} {s : SeatBid} {e : ResponseExt} {r : BidResponse}

/-! ## Bids -/

/-- The names of the members that a bid knows. -/
def Bid.known : List String := ["id", "impid", "price", "adm", "crid", "cat", "mtype", "ext"]

structure Bid.ReadFrom (o : Origin) (ms : List (Name × Document)) (b : Bid) : Prop where
  id : PartRead o ms ["id"] string "" b.id
  impid : PartRead o ms ["impid"] string "" b.impid
  price : PartRead o ms ["price"] double 0 b.price
  adm : OptionRead o ms ["adm"] string b.adm
  crid : OptionRead o ms ["crid"] string b.crid
  cat : OptionRead o ms ["cat"] (list string) b.cat
  mtype : OptionRead o ms ["mtype"] int32 b.mtype
  ext : OptionRead o ms ["ext"] members b.ext
  others : OthersRead o ms Bid.known b.others

theorem Bid.readFrom_of_decoder (h : Bid.decoder o doc = .ok b) :
    ∃ inner ms, o.enter = .ok inner ∧ doc = .object ms none ∧ b.ReadFrom inner ms := by
  obtain ⟨inner, ms, seen, hinner, hdoc, hrun, -⟩ := openRecord_eq_ok_iff.mp h
  refine ⟨inner, ms, hinner, hdoc, ?_, ?_, ?_, ?_, ?_, ?_, ?_, ?_, ?_⟩
  · exact partRead_of_run hrun Bid.id (.of_keep (by decide) (by simp) (by simp) fun _ _ _ => rfl)
      fun _ => not_mistyped
  · exact partRead_of_run hrun Bid.impid (.of_keep (by decide) (by simp) (by simp) fun _ _ _ => rfl)
      fun _ => not_mistyped
  · exact partRead_of_run hrun Bid.price (.of_keep (by decide) (by simp) (by simp) fun _ _ _ => rfl)
      fun _ => not_mistyped
  · exact optionRead_of_run hrun Bid.adm (.of_keep (by decide) (by simp) (by simp) fun _ _ _ => rfl) rfl
  · exact optionRead_of_run hrun Bid.crid (.of_keep (by decide) (by simp) (by simp) fun _ _ _ => rfl) rfl
  · exact optionRead_of_run hrun Bid.cat (.of_keep (by decide) (by simp) (by simp) fun _ _ _ => rfl) rfl
  · exact optionRead_of_run hrun Bid.mtype (.of_keep (by decide) (by simp) (by simp) fun _ _ _ => rfl) rfl
  · exact optionRead_of_run hrun Bid.ext (.of_keep (by decide) (by simp) (by simp) fun _ _ _ => rfl) rfl
  · exact othersRead_of_run hrun Bid.others ⟨by simp [Field.of, map_eq_ok_iff], fun _ _ _ => rfl⟩ rfl

/-! ## Seats -/

structure SeatBid.ReadFrom (o : Origin) (ms : List (Name × Document)) (s : SeatBid) : Prop where
  bid : OptionRead o ms ["bid"] (list Bid.decoder) s.bid
  seat : OptionRead o ms ["seat"] string s.seat
  others : OthersRead o ms ["bid", "seat"] s.others

theorem SeatBid.readFrom_of_decoder (h : SeatBid.decoder o doc = .ok s) :
    ∃ inner ms, o.enter = .ok inner ∧ doc = .object ms none ∧ s.ReadFrom inner ms := by
  obtain ⟨inner, ms, seen, hinner, hdoc, hrun, -⟩ := openRecord_eq_ok_iff.mp h
  refine ⟨inner, ms, hinner, hdoc, ?_, ?_, ?_⟩
  · exact optionRead_of_run hrun SeatBid.bid (.of_keep (by decide) (by simp) (by simp) fun _ _ _ => rfl) rfl
  · exact optionRead_of_run hrun SeatBid.seat (.of_keep (by decide) (by simp) (by simp) fun _ _ _ => rfl) rfl
  · exact othersRead_of_run hrun SeatBid.others ⟨by simp [Field.of, map_eq_ok_iff], fun _ _ _ => rfl⟩ rfl

/-! ## The response -/

structure ResponseExt.ReadFrom (o : Origin) (ms : List (Name × Document)) (e : ResponseExt) : Prop where
  configs : OptionRead o ms ["fledge_auction_configs"] members e.fledgeAuctionConfigs
  others : OthersRead o ms ["fledge_auction_configs"] e.others

theorem ResponseExt.readFrom_of_decoder (h : ResponseExt.decoder o doc = .ok e) :
    ∃ inner ms, o.enter = .ok inner ∧ doc = .object ms none ∧ e.ReadFrom inner ms := by
  obtain ⟨inner, ms, seen, hinner, hdoc, hrun, -⟩ := openRecord_eq_ok_iff.mp h
  refine ⟨inner, ms, hinner, hdoc, ?_, ?_⟩
  · exact optionRead_of_run hrun ResponseExt.fledgeAuctionConfigs
      (.of_keep (by decide) (by simp) (by simp) fun _ _ _ => rfl) rfl
  · exact othersRead_of_run hrun ResponseExt.others ⟨by simp [Field.of, map_eq_ok_iff], fun _ _ _ => rfl⟩ rfl

structure BidResponse.ReadFrom (o : Origin) (ms : List (Name × Document)) (r : BidResponse) : Prop where
  id : PartRead o ms ["id"] string "" r.id
  seatbid : OptionRead o ms ["seatbid"] (list SeatBid.decoder) r.seatbid
  cur : OptionRead o ms ["cur"] string r.cur
  ext : OptionRead o ms ["ext"] ResponseExt.decoder r.ext
  others : OthersRead o ms ["id", "seatbid", "cur", "ext"] r.others

theorem BidResponse.readFrom_of_decoder (h : BidResponse.decoder o doc = .ok r) :
    ∃ inner ms, o.enter = .ok inner ∧ doc = .object ms none ∧ r.ReadFrom inner ms := by
  obtain ⟨inner, ms, seen, hinner, hdoc, hrun, -⟩ := openRecord_eq_ok_iff.mp h
  refine ⟨inner, ms, hinner, hdoc, ?_, ?_, ?_, ?_, ?_⟩
  · exact partRead_of_run hrun BidResponse.id (.of_keep (by decide) (by simp) (by simp) fun _ _ _ => rfl)
      fun _ => not_mistyped
  · exact optionRead_of_run hrun BidResponse.seatbid (.of_keep (by decide) (by simp) (by simp) fun _ _ _ => rfl) rfl
  · exact optionRead_of_run hrun BidResponse.cur (.of_keep (by decide) (by simp) (by simp) fun _ _ _ => rfl) rfl
  · exact optionRead_of_run hrun BidResponse.ext (.of_keep (by decide) (by simp) (by simp) fun _ _ _ => rfl) rfl
  · exact othersRead_of_run hrun BidResponse.others ⟨by simp [Field.of, map_eq_ok_iff], fun _ _ _ => rfl⟩ rfl

/-! ## The bids of a response -/

/-- Every bid of a response is read from a document of its own. -/
theorem BidResponse.exists_of_mem_bids (h : BidResponse.decoder o doc = .ok r) (hb : b ∈ r.bids) :
    ∃ inner bid, Bid.decoder inner bid = .ok b := by
  obtain ⟨s, hs, hbs⟩ := List.mem_flatMap.mp hb
  obtain ⟨_, _, -, -, hresponse⟩ := BidResponse.readFrom_of_decoder h
  obtain ⟨_, _, hseat⟩ := hresponse.seatbid.exists_of_mem hs
  obtain ⟨_, _, -, -, hseat⟩ := SeatBid.readFrom_of_decoder hseat
  exact hseat.bid.exists_of_mem hbs

/-- The ext of a bid has no name twice, at any depth. -/
theorem Bid.plain_ext {ext : Members} (h : Bid.decoder o doc = .ok b) (hext : b.ext = some ext) :
    (Value.object ext).Plain (fun _ => True) .value := by
  obtain ⟨inner, ms, -, -, hbid⟩ := Bid.readFrom_of_decoder h
  have hread := hbid.ext
  rw [hext] at hread
  cases hread with
  | present _ hread => exact plain_of_any (any_value_of_any (members_eq_ok_iff.mp hread)) fun _ _ => trivial

end BidAdapter.OpenRtb
