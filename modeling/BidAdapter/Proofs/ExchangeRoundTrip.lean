import BidAdapter.Proofs.Json.Passing
import BidAdapter.Proofs.MediumCode
import BidAdapter.Proofs.OpenRtb.ResponseRoundTrip

/-!
# A response that is written again

A bid response that was read from the body of an exchange loses nothing when it is written, and is read again as the same
response.

* `BidPassed`, …, `ResponsePassed` : every record beside what it was read from, member by member, the unknown ones in
  their order;
* `passed_of_bid`, …, `passed_of_response` : a record that is read and written is like that;
* `decodeBody_toJson` : a response that can be written is read back;
* `response_round_trips` : both, for every response that is read.
-/

namespace BidAdapter

set_option autoImplicit false

open Json
open Json.Decoder (double)
open OpenRtb

/-! ## Records -/

/-- A price that is always written, zero where the document has none. -/
def PricePassed (ms : List (Name × Document)) (out : Members) : Prop :=
  ∃ x, out.get? "price" = some (.ofFloat x) ∧ (given ["price"] ms).elim (x = 0) fun doc => double .value doc = .ok x

structure BidPassed (ms : List (Name × Document)) (out : Members) : Prop where
  id : TextPassed "id" ms out
  impid : TextPassed "impid" ms out
  price : PricePassed ms out
  adm : Under Holds "adm" ms out
  crid : Under Holds "crid" ms out
  cat : Under Holds "cat" ms out
  mtype : Under Holds "mtype" ms out
  ext : Under Holds "ext" ms out
  others : Carried Bid.known ms out

structure SeatPassed (ms : List (Name × Document)) (out : Members) : Prop where
  bid : Under (Arrays (Objects BidPassed)) "bid" ms out
  seat : Under Holds "seat" ms out
  others : Carried ["bid", "seat"] ms out

structure ResponseExtPassed (ms : List (Name × Document)) (out : Members) : Prop where
  configs : Under Holds "fledge_auction_configs" ms out
  others : Carried ["fledge_auction_configs"] ms out

structure ResponsePassed (ms : List (Name × Document)) (out : Members) : Prop where
  id : TextPassed "id" ms out
  seatbid : Under (Arrays (Objects SeatPassed)) "seatbid" ms out
  cur : Under Holds "cur" ms out
  ext : Under (Objects ResponseExtPassed) "ext" ms out
  others : Carried ["id", "seatbid", "cur", "ext"] ms out

/-! ## What is read is written -/

section Records
variable {o : Origin} {doc : Document}

/-- A double is read alike wherever it stands. -/
theorem double_value {x : Float} (h : double o doc = .ok x) : double .value doc = .ok x := by
  cases doc with
  | number n => cases n <;> exact h
  | _ => exact h

theorem passed_of_bid {b : Bid} (h : Bid.decoder o doc = .ok b) : Objects BidPassed doc b.toJson := by
  obtain ⟨inner, ms, -, rfl, hread⟩ := Bid.readFrom_of_decoder h
  rw [Bid.toJson_eq]
  have hw : Written inner ms b.typed b.others := ⟨hread.others, by simp [Bid.typed]⟩
  refine .mk ⟨?_, ?_, ?_, ?_, ?_, ?_, ?_, ?_, hw.carried⟩
  · exact hw.text (by simp [Bid.typed]) hread.id
  · exact hw.text (by simp [Bid.typed]) hread.impid
  · refine ⟨b.price, hw.get? (by simp [Bid.typed]), ?_⟩
    rcases hread.price with ⟨hgiven, hprice⟩ | ⟨doc, hgiven, hprice⟩
    · rw [hgiven]
      exact hprice
    · rw [hgiven]
      exact double_value hprice
  · exact hw.under (by simp [Bid.typed]) hread.adm fun _ _ => holds_of_string
  · exact hw.under (by simp [Bid.typed]) hread.crid fun _ _ => holds_of_string
  · exact hw.under (by simp [Bid.typed]) hread.cat fun _ _ => holds_of_strings
  · exact hw.under (by simp [Bid.typed]) hread.mtype fun _ _ => holds_of_int32
  · exact hw.under (by simp [Bid.typed]) hread.ext fun _ _ => holds_of_members

theorem passed_of_seat {s : SeatBid} (h : SeatBid.decoder o doc = .ok s) : Objects SeatPassed doc s.toJson := by
  obtain ⟨inner, ms, -, rfl, hread⟩ := SeatBid.readFrom_of_decoder h
  rw [SeatBid.toJson_eq]
  have hw : Written inner ms s.typed s.others := ⟨hread.others, by simp [SeatBid.typed]⟩
  refine .mk ⟨?_, ?_, hw.carried⟩
  · exact hw.under (by simp [SeatBid.typed]) hread.bid fun _ _ => arrays_of_list fun _ _ _ => passed_of_bid
  · exact hw.under (by simp [SeatBid.typed]) hread.seat fun _ _ => holds_of_string

theorem passed_of_responseExt {e : ResponseExt} (h : ResponseExt.decoder o doc = .ok e) :
    Objects ResponseExtPassed doc e.toJson := by
  obtain ⟨inner, ms, -, rfl, hread⟩ := ResponseExt.readFrom_of_decoder h
  rw [ResponseExt.toJson_eq]
  have hw : Written inner ms e.typed e.others := ⟨hread.others, by simp [ResponseExt.typed]⟩
  refine .mk ⟨?_, hw.carried⟩
  exact hw.under (by simp [ResponseExt.typed]) hread.configs fun _ _ => holds_of_members

theorem passed_of_response {r : BidResponse} (h : BidResponse.decoder o doc = .ok r) :
    Objects ResponsePassed doc r.toJson := by
  obtain ⟨inner, ms, -, rfl, hread⟩ := BidResponse.readFrom_of_decoder h
  rw [BidResponse.toJson_eq]
  have hw : Written inner ms r.typed r.others := ⟨hread.others, by simp [BidResponse.typed]⟩
  refine .mk ⟨?_, ?_, ?_, ?_, hw.carried⟩
  · exact hw.text (by simp [BidResponse.typed]) hread.id
  · exact hw.under (by simp [BidResponse.typed]) hread.seatbid fun _ _ => arrays_of_list fun _ _ _ => passed_of_seat
  · exact hw.under (by simp [BidResponse.typed]) hread.cur fun _ _ => holds_of_string
  · exact hw.under (by simp [BidResponse.typed]) hread.ext fun _ _ => passed_of_responseExt

end Records

/-! ## What is written is read -/

/-- A response is read back where the text of each of its numbers is. -/
theorem decodeBody_toJson {r : BidResponse}
    (h : r.Writable (Dialect.exchange r.toJson.compact.utf8ByteSize).Legible) :
    decodeBody r.toJson.compact = .ok (some r) := by
  have hround := BidResponse.roundTrips (fun _ hn => legible_of_toInt? hn _) h
  have hscan := scan_compact (fluent_exchange r.toJson.compact.utf8ByteSize) (fun _ hn => hn) hround.plain
  exact decodeBody_of_scan hscan hround.reads

/-- **A response survives being written and read.** A response that is read from a body, with no reals but its prices,
is read again from its text as the same response, where the text of every price is read back as that price. That text
holds all that the body holds: in the response, its ext, each seat and each bid the unknown members, in their order and
with their values, and the members that are known under their names; what is absent stays absent and an empty list stays
an empty list. -/
theorem response_round_trips {body : String} {r : BidResponse} (hread : decodeBody body = .ok (some r))
    (hnumbers : ∀ n ∈ r.numbers, n.Integral)
    (hprices : ∀ b ∈ r.bids, ReadsBack r.toJson.compact.utf8ByteSize b.price) :
    decodeBody r.toJson.compact = .ok (some r) ∧
      Objects ResponsePassed (Document.scan (.exchange body.utf8ByteSize) body).1 r.toJson := by
  have hdecoder := decoder_scan hread
  have hlegible : ∀ b ∈ r.bids, ∀ finite,
      (Dialect.exchange r.toJson.compact.utf8ByteSize).Legible (.real b.price finite) :=
    fun b hb finite => (hprices b hb).legible finite
  exact ⟨decodeBody_toJson (BidResponse.writable_of_decoder hdecoder hnumbers hlegible), passed_of_response hdecoder⟩

/-- A body with a whole price, an unknown member in every record, and a seat without bids. -/
def bodyWithOthers : Value :=
  .object [("id", .string "r"), ("nbr", .ofInt32 0), ("cur", .string "EUR"), ("seatbid", .array [
    .object [("group", .ofInt32 1), ("bid", .array [.object [("dealid", .string "d"), ("impid", .string "1"),
      ("price", .ofInt32 2), ("w", .ofInt32 300), ("ext", .object [("dspid", .ofInt32 6)])]])],
    .object [("bid", .array []), ("seat", .string "s")]]),
    ("ext", .object [("note", .null), ("fledge_auction_configs", .object [("1", .object [("seller", .string "x")])])])]

/-- What that body is read as. -/
def responseWithOthers : BidResponse where
  id := "r"
  seatbid := some [
    ⟨some [{ Bid.absent with
      impid := "1", price := Float.ofInt 2, ext := some [("dspid", .ofInt32 6)],
      others := [("dealid", .string "d"), ("w", .ofInt32 300)] }], none, [("group", .ofInt32 1)]⟩,
    ⟨some [], some "s", []⟩]
  cur := some "EUR"
  ext := some ⟨some [("1", .object [("seller", .string "x")])], [("note", .null)]⟩
  others := [("nbr", .ofInt32 0)]

theorem readsBack_two (size : Nat) : ReadsBack size (Float.ofInt 2) := by
  intro finite rest hrest
  have htext : Double.jsonText (Float.ofInt 2) = ['2', '.', '0'] := by decide +kernel
  have hscan : scanNumeral ('2' :: '.' :: '0' :: rest) = (.ok ⟨false, [2], [0], 0, false⟩, rest) := by
    cases hrest <;> rfl
  have hnumber : ∀ long, Numeral.exchangeNumber? ⟨false, [2], [0], 0, false⟩ long =
      some (.real (Float.ofInt 2) (by decide +kernel)) := by decide +kernel
  obtain ⟨long, hleaf⟩ := exchangeNumber_of_scan hscan hrest size
  rw [hnumber] at hleaf
  rw [htext]
  exact hleaf

/-- Its text has the price with a fraction, and every member that the body has. -/
theorem response_round_trips_with_others :
    decodeBody bodyWithOthers.compact = .ok (some responseWithOthers) ∧
      decodeBody responseWithOthers.toJson.compact = .ok (some responseWithOthers) ∧
      Objects ResponsePassed (.ofValue bodyWithOthers) responseWithOthers.toJson := by
  have hints : ∀ n ∈ (Document.ofValue bodyWithOthers).numbers, n.toInt?.isSome = true := by decide
  have htext : IsTextOf bodyWithOthers.compact (.ofValue bodyWithOthers) := isTextOf_compact rfl hints
  have hread : decodeBody bodyWithOthers.compact = .ok (some responseWithOthers) :=
    (decodeBody_eq_ok_iff htext).mpr ⟨rfl, rfl⟩
  have hnumbers : ∀ n ∈ responseWithOthers.numbers, n.toInt?.isSome = true := by decide
  have hprices : ∀ b ∈ responseWithOthers.bids,
      ReadsBack responseWithOthers.toJson.compact.utf8ByteSize b.price := by
    intro b hb
    cases List.mem_singleton.mp hb
    exact readsBack_two _
  obtain ⟨hagain, hpassed⟩ := response_round_trips hread hnumbers hprices
  obtain ⟨more, hscan, -⟩ := htext
  rw [hscan] at hpassed
  exact ⟨hread, hagain, hpassed⟩

end BidAdapter
