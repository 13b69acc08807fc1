import BidAdapter.Proofs.Json.RealLiterals
import BidAdapter.Proofs.Json.RoundTrip
import BidAdapter.Proofs.OpenRtb.ResponseReading
import BidAdapter.Proofs.OpenRtb.ResponseWriting

/-!
# Bid responses written and read back

* `Writable` : a record of a bid response that has no reals but its prices; `roundTrips` : it is read back as it was
  written;
* `numbers` : the numbers of a record beside its prices; `writable_of_decoder` : a record that is read is writable where
  these are integers;
* `Repriced` : records that differ in their prices only; `repriced_of_like` : what is like a record that is written is a
  record with other prices.
-/

namespace BidAdapter.OpenRtb

set_option autoImplicit false

open Json
open Json.Decoder (list)

variable {kind : Number → Prop} {o : Origin} {doc : Document} {w : Value}

/-! ## Parts -/

/-- What has no reals is like itself only. -/
theorem fixed_of_integral {v : Value} (h : v.Plain Number.Integral o) : v.Fixed Number.ReadAs := by
  apply fixed_of_plain h
  rintro n m hn (_ | _)
  · rfl
  · cases hn

section Parts
variable {name : String} {ts : List (String × Option Value)}

/-- A part that is always there, without reals. -/
theorem fixed_always {v : Value} (h : v.Plain Number.Integral .value) (hts : (Members.typed ts).Fixed Number.ReadAs) :
    (Members.typed ((name, some v) :: ts)).Fixed Number.ReadAs := by
  refine Members.fixed_cons ?_ hts
  rintro u ⟨⟩
  exact fixed_of_integral h

/-- A part that may be there, without reals. -/
theorem fixed_option {α : Type} {enc : α → Value} {x : Option α}
    (h : ∀ a, x = some a → (enc a).Plain Number.Integral .value) (hts : (Members.typed ts).Fixed Number.ReadAs) :
    (Members.typed ((name, x.map enc) :: ts)).Fixed Number.ReadAs := by
  refine Members.fixed_cons ?_ hts
  intro v hv
  obtain ⟨a, ha, rfl⟩ := Option.map_eq_some_iff.mp hv
  exact fixed_of_integral (h a ha)

theorem fixed_string {s : Option String} (hts : (Members.typed ts).Fixed Number.ReadAs) :
    (Members.typed ((name, s.map .string) :: ts)).Fixed Number.ReadAs :=
  fixed_option (fun s _ => .string s) hts

end Parts

/-- A list of parts of which each is like others of their kind only. -/
theorem exists_list {α : Type} {enc : α → Value} {S : α → α → Prop} {xs : Option (List α)} {x : Option Value}
    (hS : ∀ as, xs = some as → ∀ a ∈ as, ∀ w, Value.Like Number.ReadAs (enc a) w → ∃ b, S a b ∧ w = enc b)
    (h : Option.Rel (Value.Like Number.ReadAs) (xs.map fun as => .array (as.map enc)) x) :
    ∃ ys, Option.Rel (List.Forall₂ S) xs ys ∧ x = ys.map fun as => .array (as.map enc) := by
  cases xs with
  | none =>
    cases h
    exact ⟨none, .none, rfl⟩
  | some as =>
    cases h with
    | some hlike =>
      obtain ⟨ws, hws, rfl⟩ := like_array_iff.mp hlike
      rw [List.forall₂_map_left_iff] at hws
      have hparts := ((List.forall₂_and_left _ _).mpr ⟨hS as rfl, hws⟩).imp fun a w haw => haw.1 w haw.2
      obtain ⟨bs, hbs, rfl⟩ := exists_of_forall₂_map hparts
      exact ⟨some bs, .some hbs, rfl⟩

/-- What is like a price is another price. -/
theorem exists_price {x : Float} (finite : x.isFinite = true) (h : Value.Like Number.ReadAs (.ofFloat x) w) :
    ∃ price, price.isFinite = true ∧ w = .ofFloat price := by
  rw [ofFloat_of_isFinite finite] at h
  rcases h with _ | _ | ⟨_ | ⟨_, y, _, hy⟩⟩
  exact ⟨y, hy, (ofFloat_of_isFinite hy).symm⟩

/-! ## Bids -/

/-- A bid with a price of a kind, and without any other reals. -/
structure Bid.Writable (kind : Number → Prop) (b : Bid) : Prop where
  price : ∃ finite, kind (.real b.price finite)
  ext : ∀ ms, b.ext = some ms → (Value.object ms).Plain Number.Integral .value
  others : Keepable Number.Integral .value Bid.known b.others

/-- The bids differ in their prices only. -/
def Bid.Repriced (b b' : Bid) : Prop := ∃ price, price.isFinite = true ∧ b' = { b with price }

theorem Bid.Writable.repriced {b b' : Bid} (h : b.Writable kind) (hprice : b.Repriced b') :
    b'.Writable fun _ => True := by
  obtain ⟨price, finite, rfl⟩ := hprice
  exact ⟨⟨finite, trivial⟩, h.ext, h.others⟩

theorem Bid.roundTrips {b : Bid} (hint : ∀ n, Number.Integral n → kind n) (h : b.Writable kind) :
    RoundTrips kind Bid.decoder Bid.toJson .value b := by
  obtain ⟨finite, hprice⟩ := h.price
  refine openRecord_roundTrips (fun others => { b with others }) (fun _ _ _ => rfl) rfl b.toJson_eq rfl (by decide)
    (by simp [Field.of]) ?_ (h.others.imp hint)
  refine .always (roundTrips_string b.id) ?_
  refine .always (roundTrips_string b.impid) ?_
  refine .always (roundTrips_double finite hprice) ?_
  refine .string rfl ?_
  refine .string rfl ?_
  refine .option rfl (fun _ => not_mistyped) rfl (fun ss _ => roundTrips_strings rfl) ?_
  refine .int32 (fun n fits => hint _ rfl) rfl ?_
  refine .members rfl (fun ms hms => (h.ext ms hms).imp hint) ?_
  exact .nil _

theorem Bid.repriced_of_like {b : Bid} (h : b.Writable kind) (hlike : Value.Like Number.ReadAs b.toJson w) :
    ∃ b', b.Repriced b' ∧ w = b'.toJson := by
  obtain ⟨finite, -⟩ := h.price
  have hbefore : (Members.typed [("id", some (.string b.id)), ("impid", some (.string b.impid))]).Fixed
      Number.ReadAs := by
    refine fixed_always (.string b.id) ?_
    refine fixed_always (.string b.impid) ?_
    exact Members.fixed_nil
  have hbehind : (Members.typed [("adm", b.adm.map .string), ("crid", b.crid.map .string),
      ("cat", b.cat.map .ofStrings), ("mtype", b.mtype.map .ofInt32), ("ext", b.ext.map .object)]).Fixed
      Number.ReadAs := by
    refine fixed_string ?_
    refine fixed_string ?_
    refine fixed_option (fun ss _ => (roundTrips_strings rfl).plain) ?_
    refine fixed_option (fun n _ => .number rfl) ?_
    refine fixed_option h.ext ?_
    exact Members.fixed_nil
  rw [Bid.toJson_eq] at hlike
  obtain ⟨x', hx, rfl⟩ := like_typed hbefore hbehind (fun m hm => fixed_of_integral (h.others.plain m hm)) hlike
  cases hx with
  | some hprice =>
    obtain ⟨price, hfinite, rfl⟩ := exists_price finite hprice
    exact ⟨{ b with price }, ⟨price, hfinite, rfl⟩, (Bid.toJson_eq { b with price }).symm⟩

/-! ## Seats -/

/-- A seat whose bids can be written, and without any other reals. -/
structure SeatBid.Writable (kind : Number → Prop) (s : SeatBid) : Prop where
  bid : ∀ bs, s.bid = some bs → ∀ b ∈ bs, b.Writable kind
  others : Keepable Number.Integral .value ["bid", "seat"] s.others

/-- The seats differ in the prices of their bids only. -/
def SeatBid.Repriced (s s' : SeatBid) : Prop :=
  ∃ bid, Option.Rel (List.Forall₂ Bid.Repriced) s.bid bid ∧ s' = { s with bid }

theorem SeatBid.Writable.repriced {s s' : SeatBid} (h : s.Writable kind) (hprice : s.Repriced s') :
    s'.Writable fun _ => True := by
  obtain ⟨bid, hbid, rfl⟩ := hprice
  refine ⟨?_, h.others⟩
  rintro bs' rfl b' hb'
  generalize hs : s.bid = x at hbid
  cases hbid with
  | some hbs =>
    obtain ⟨b, hb, hrepriced⟩ := exists_of_mem_right hbs hb'
    exact (h.bid _ hs b hb).repriced hrepriced

theorem SeatBid.roundTrips {s : SeatBid} (hint : ∀ n, Number.Integral n → kind n) (h : s.Writable kind) :
    RoundTrips kind SeatBid.decoder SeatBid.toJson .value s := by
  refine openRecord_roundTrips (fun others => { s with others }) (fun _ _ _ => rfl) rfl s.toJson_eq rfl (by decide)
    (by simp [Field.of]) ?_ (h.others.imp hint)
  have hbids : ∀ bs, s.bid = some bs →
      RoundTrips kind (list Bid.decoder) (fun bs => .array (bs.map Bid.toJson)) .value bs := by
    intro bs hbs
    exact roundTrips_list rfl fun b hb => Bid.roundTrips hint (h.bid bs hbs b hb)
  refine .option rfl (fun _ => not_mistyped) rfl hbids ?_
  refine .string rfl ?_
  exact .nil _

theorem SeatBid.repriced_of_like {s : SeatBid} (h : s.Writable kind) (hlike : Value.Like Number.ReadAs s.toJson w) :
    ∃ s', s.Repriced s' ∧ w = s'.toJson := by
  have hbehind : (Members.typed [("seat", s.seat.map .string)]).Fixed Number.ReadAs := fixed_string Members.fixed_nil
  rw [SeatBid.toJson_eq] at hlike
  obtain ⟨x, hx, rfl⟩ := like_typed Members.fixed_nil hbehind (fun m hm => fixed_of_integral (h.others.plain m hm)) hlike
  obtain ⟨bid, hbid, rfl⟩ := exists_list (fun bs hbs b hb w => Bid.repriced_of_like (h.bid bs hbs b hb)) hx
  exact ⟨{ s with bid }, ⟨bid, hbid, rfl⟩, (SeatBid.toJson_eq { s with bid }).symm⟩

/-! ## The response -/

theorem ResponseExt.roundTrips {e : ResponseExt}
    (hconfigs : ∀ ms, e.fledgeAuctionConfigs = some ms → (Value.object ms).Plain kind .value)
    (hothers : Keepable kind .value ["fledge_auction_configs"] e.others) :
    RoundTrips kind ResponseExt.decoder ResponseExt.toJson .value e := by
  refine openRecord_roundTrips (fun others => { e with others }) (fun _ _ _ => rfl) rfl e.toJson_eq rfl (by decide)
    (by simp [Field.of]) ?_ hothers
  refine .members rfl hconfigs ?_
  exact .nil _

/-- A response whose bids can be written, and without any other reals. -/
structure BidResponse.Writable (kind : Number → Prop) (r : BidResponse) : Prop where
  seatbid : ∀ ss, r.seatbid = some ss → ∀ s ∈ ss, s.Writable kind
  ext : ∀ e, r.ext = some e → RoundTrips Number.Integral ResponseExt.decoder ResponseExt.toJson .value e
  others : Keepable Number.Integral .value ["id", "seatbid", "cur", "ext"] r.others

/-- The responses differ in the prices of their bids only. -/
def BidResponse.Repriced (r r' : BidResponse) : Prop :=
  ∃ seatbid, Option.Rel (List.Forall₂ SeatBid.Repriced) r.seatbid seatbid ∧ r' = { r with seatbid }

theorem BidResponse.Writable.repriced {r r' : BidResponse} (h : r.Writable kind) (hprice : r.Repriced r') :
    r'.Writable fun _ => True := by
  obtain ⟨seatbid, hseatbid, rfl⟩ := hprice
  refine ⟨?_, h.ext, h.others⟩
  rintro ss' rfl s' hs'
  generalize hr : r.seatbid = x at hseatbid
  cases hseatbid with
  | some hss =>
    obtain ⟨s, hs, hrepriced⟩ := exists_of_mem_right hss hs'
    exact (h.seatbid _ hr s hs).repriced hrepriced

theorem BidResponse.roundTrips {r : BidResponse} (hint : ∀ n, Number.Integral n → kind n) (h : r.Writable kind) :
    RoundTrips kind BidResponse.decoder BidResponse.toJson .value r := by
  refine openRecord_roundTrips (fun others => { r with others }) (fun _ _ _ => rfl) rfl r.toJson_eq rfl (by decide)
    (by simp [Field.of]) ?_ (h.others.imp hint)
  have hseats : ∀ ss, r.seatbid = some ss →
      RoundTrips kind (list SeatBid.decoder) (fun ss => .array (ss.map SeatBid.toJson)) .value ss := by
    intro ss hss
    exact roundTrips_list rfl fun s hs => SeatBid.roundTrips hint (h.seatbid ss hss s hs)
  refine .always (roundTrips_string r.id) ?_
  refine .option rfl (fun _ => not_mistyped) rfl hseats ?_
  refine .string rfl ?_
  refine .option rfl (fun _ => not_mistyped) rfl (fun e he => (h.ext e he).imp hint) ?_
  exact .nil _

theorem BidResponse.repriced_of_like {r : BidResponse} (h : r.Writable kind)
    (hlike : Value.Like Number.ReadAs r.toJson w) : ∃ r', r.Repriced r' ∧ w = r'.toJson := by
  have hbefore : (Members.typed [("id", some (.string r.id))]).Fixed Number.ReadAs :=
    fixed_always (.string r.id) Members.fixed_nil
  have hbehind : (Members.typed [("cur", r.cur.map .string), ("ext", r.ext.map ResponseExt.toJson)]).Fixed
      Number.ReadAs := by
    refine fixed_string ?_
    refine fixed_option (fun e he => (h.ext e he).plain) ?_
    exact Members.fixed_nil
  rw [BidResponse.toJson_eq] at hlike
  obtain ⟨x, hx, rfl⟩ := like_typed hbefore hbehind (fun m hm => fixed_of_integral (h.others.plain m hm)) hlike
  obtain ⟨seatbid, hseatbid, rfl⟩ :=
    exists_list (fun ss hss s hs w => SeatBid.repriced_of_like (h.seatbid ss hss s hs)) hx
  exact ⟨{ r with seatbid }, ⟨seatbid, hseatbid, rfl⟩, (BidResponse.toJson_eq { r with seatbid }).symm⟩

/-! ## Responses that are read -/

/-- The numbers of a bid but for its price and for the code of its medium, which is an integer. -/
def Bid.numbers (b : Bid) : List Number := Members.numbers (b.ext.getD []) ++ Members.numbers b.others

def SeatBid.numbers (s : SeatBid) : List Number := (s.bid.getD []).flatMap Bid.numbers ++ Members.numbers s.others

def ResponseExt.numbers (e : ResponseExt) : List Number :=
  Members.numbers (e.fledgeAuctionConfigs.getD []) ++ Members.numbers e.others

/-- The numbers of a response but for the prices and the codes of its bids. -/
def BidResponse.numbers (r : BidResponse) : List Number :=
  (r.seatbid.getD []).flatMap SeatBid.numbers ++ r.ext.elim [] ResponseExt.numbers ++ Members.numbers r.others

/-- Of whatever kind the numbers are that are read. -/
theorem ofKind_true (ms : List (Name × Document)) : OfKind (fun _ => True) ms := fun _ _ _ _ => trivial

/-- A double that is read is finite. -/
theorem isFinite_of_double {x : Float} (h : Decoder.double o doc = .ok x) : x.isFinite = true := by
  unfold Decoder.double at h
  split at h
  · next n fits =>
    rw [← Except.ok.inj h]
    exact (Double.below_ofInt fits).finite
  · next y finite =>
    rw [← Except.ok.inj h]
    exact finite
  · exact absurd h not_mistyped

theorem Bid.isFinite_price {b : Bid} (h : Bid.decoder o doc = .ok b) : b.price.isFinite = true := by
  obtain ⟨inner, ms, -, -, hread⟩ := Bid.readFrom_of_decoder h
  rcases hread.price with ⟨-, hprice⟩ | ⟨doc, -, hprice⟩
  · rw [hprice]
    exact (Double.below_zero (k := 0)).finite
  · exact isFinite_of_double hprice

theorem Bid.writable_of_decoder {b : Bid} (h : Bid.decoder o doc = .ok b) (hnumbers : ∀ n ∈ b.numbers, n.Integral)
    (hprice : ∀ finite, kind (.real b.price finite)) : b.Writable kind := by
  have finite := Bid.isFinite_price h
  obtain ⟨inner, ms, -, -, hread⟩ := Bid.readFrom_of_decoder h
  refine ⟨⟨finite, hprice finite⟩, ?_, ?_⟩
  · intro e he
    have hplain := hread.ext.forall (ofKind_true ms) (fun _ _ => plain_of_members) e he
    apply hplain.value_of_numbers
    intro n hn
    apply hnumbers
    rw [Bid.numbers, he]
    exact List.mem_append_left _ hn
  · apply (hread.others.keepable (ofKind_true ms)).value_of_numbers
    intro n hn
    exact hnumbers n (List.mem_append_right _ hn)

theorem SeatBid.writable_of_decoder {s : SeatBid} (h : SeatBid.decoder o doc = .ok s)
    (hnumbers : ∀ n ∈ s.numbers, n.Integral) (hprices : ∀ b ∈ s.bid.getD [], ∀ finite, kind (.real b.price finite)) :
    s.Writable kind := by
  obtain ⟨inner, ms, -, -, hread⟩ := SeatBid.readFrom_of_decoder h
  constructor
  · intro bs hbs b hb
    have hmem : b ∈ s.bid.getD [] := by rwa [hbs]
    obtain ⟨_, _, hbid⟩ := hread.bid.exists_of_mem hmem
    apply Bid.writable_of_decoder hbid _ (hprices b hmem)
    intro n hn
    exact hnumbers n (List.mem_append_left _ (List.mem_flatMap.mpr ⟨b, hmem, hn⟩))
  · apply (hread.others.keepable (ofKind_true ms)).value_of_numbers
    intro n hn
    exact hnumbers n (List.mem_append_right _ hn)

theorem ResponseExt.roundTrips_of_decoder {e : ResponseExt} (h : ResponseExt.decoder o doc = .ok e)
    (hnumbers : ∀ n ∈ e.numbers, n.Integral) :
    RoundTrips Number.Integral ResponseExt.decoder ResponseExt.toJson .value e := by
  obtain ⟨inner, ms, -, -, hread⟩ := ResponseExt.readFrom_of_decoder h
  apply ResponseExt.roundTrips
  · intro configs hconfigs
    have hplain := hread.configs.forall (ofKind_true ms) (fun _ _ => plain_of_members) configs hconfigs
    apply hplain.value_of_numbers
    intro n hn
    apply hnumbers
    rw [ResponseExt.numbers, hconfigs]
    exact List.mem_append_left _ hn
  · apply (hread.others.keepable (ofKind_true ms)).value_of_numbers
    intro n hn
    exact hnumbers n (List.mem_append_right _ hn)

/-- **A response that is read can be written** where its numbers are integers, whatever its prices are. -/
theorem BidResponse.writable_of_decoder {r : BidResponse} (h : BidResponse.decoder o doc = .ok r)
    (hnumbers : ∀ n ∈ r.numbers, n.Integral) (hprices : ∀ b ∈ r.bids, ∀ finite, kind (.real b.price finite)) :
    r.Writable kind := by
  obtain ⟨inner, ms, -, -, hread⟩ := BidResponse.readFrom_of_decoder h
  refine ⟨?_, ?_, ?_⟩
  · intro ss hss s hs
    have hmem : s ∈ r.seatbid.getD [] := by rwa [hss]
    obtain ⟨_, _, hseat⟩ := hread.seatbid.exists_of_mem hmem
    apply SeatBid.writable_of_decoder hseat
    · intro n hn
      exact hnumbers n (List.mem_append_left _ (List.mem_append_left _ (List.mem_flatMap.mpr ⟨s, hmem, hn⟩)))
    · intro b hb
      exact hprices b (List.mem_flatMap.mpr ⟨s, hmem, hb⟩)
  · intro e he
    refine hread.ext.forall (ofKind_true ms) (P := fun e => r.ext = some e →
      RoundTrips Number.Integral ResponseExt.decoder ResponseExt.toJson .value e) ?_ e he he
    intro doc e hext _ he
    apply ResponseExt.roundTrips_of_decoder hext
    intro n hn
    apply hnumbers
    rw [BidResponse.numbers, he]
    exact List.mem_append_left _ (List.mem_append_right _ hn)
  · apply (hread.others.keepable (ofKind_true ms)).value_of_numbers
    intro n hn
    exact hnumbers n (List.mem_append_right _ hn)

end BidAdapter.OpenRtb
