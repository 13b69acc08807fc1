import BidAdapter.Proofs.Dispatch
import BidAdapter.Proofs.MediumCode
import BidAdapter.Proofs.OpenRtb.ResponseRoundTrip
import BidAdapter.Proofs.Slot.Keywords
import BidAdapter.Service.MockExchange

/-!
# The mock exchange is understood

* `decodeBody_repriced` : the body of a response that can be written is read as the response with other prices;
* `writable_answer` : the answers of the mock exchange are like that, whatever floors the impressions have;
* `ofBid_bidOn` : each of its bids makes an offer without a problem, on the impression that it is for;
* `wantsDeviceAuction_iff` : an impression asks for an auction on the device when its parameters do;
* `answer_of_sent` : what the adapter makes of the answer to a request that it sends.
-/

namespace BidAdapter.MockExchange

set_option autoImplicit false

open Json (Decoder Document Members Number Value)
open OpenRtb (Bid BidRequest BidResponse Imp SeatBid)

/-! ## The body -/

section Body
variable {r r' : BidResponse}

/-- **A response is read from its body as it was written, with other prices.** -/
theorem decodeBody_repriced (h : r.Writable Number.Readable) :
    ∃ r', r.Repriced r' ∧ decodeBody r.toJson.compact = .ok (some r') := by
  have hplain := (BidResponse.roundTrips (fun _ hn => hn.readable) h).plain
  obtain ⟨w, hw, hscan⟩ := Json.scan_like (Json.fluent_exchange r.toJson.compact.utf8ByteSize)
    (fun _ hn => Json.legibleAs_exchange hn _) hplain
  obtain ⟨r', hr', rfl⟩ := BidResponse.repriced_of_like h hw
  have hreads := (BidResponse.roundTrips (fun _ _ => trivial) (h.repriced hr')).reads
  exact ⟨r', hr', decodeBody_of_scan hscan hreads⟩

theorem forall₂_bids (h : r.Repriced r') : List.Forall₂ Bid.Repriced r.bids r'.bids := by
  obtain ⟨seatbid, hseats, rfl⟩ := h
  have hseat : ∀ ⦃s s'⦄, SeatBid.Repriced s s' → List.Forall₂ Bid.Repriced (s.bid.getD []) (s'.bid.getD []) := by
    rintro s _ ⟨bid, hbid, rfl⟩
    generalize s.bid = x at hbid
    cases hbid with
    | none => exact .nil
    | some hbs => exact hbs
  unfold BidResponse.bids
  generalize r.seatbid = x at hseats
  cases hseats with
  | none => exact .nil
  | some hss => exact List.rel_flatMap hss hseat

end Body

/-! ## Bids -/

section Bids
variable {i : Imp} {factor : Float}

/-- The native ad of a bid, without the member around it. -/
def nativeAd (bid : String) : Value :=
  .object [("assets", .array [.object [("title", .object [("text", .string "Mock Native Ad")])]]),
    ("imptrackers", .array [.string (trackerOf bid)])]

/-- The medium that is bid on. -/
def mediumOf (i : Imp) : Medium := if i.video.isSome then .video else if i.native.isSome then .native else .banner

/-- What the adapter makes of the bid on an impression. -/
structure OfferOn (i : Imp) (o : Offer) : Prop where
  impid : o.bid.impid = i.id
  currency : o.currency = some "USD"
  cat : o.bid.cat = some ["IAB1"]
  medium : o.medium = mediumOf i
  dealPriority : o.dealPriority = if mediumOf i = .banner then some 1 else none
  prebid : (o.bid.ext.getD []).get? "prebid" = some (.object
    (("meta", .object [("mediaType", .string (mediumOf i).name)]) ::
      if mediumOf i = .video then [("video", .object [("duration", .ofInt32 30)])] else []))
  /-- The native ad is taken out of the object in which it is sent. -/
  native : mediumOf i = .native →
    (creative i ("bid-" ++ i.id)).2.1 = (Value.object [("native", nativeAd ("bid-" ++ i.id))]).compact ∧
      o.bid.adm = some (nativeAd ("bid-" ++ i.id)).compact
  /-- All other markup stays as it is sent. -/
  markup : mediumOf i ≠ .native → o.bid.adm = some (creative i ("bid-" ++ i.id)).2.1

theorem read_nativeMarkup (bid : String) :
    Decoder.read Decoder.any (nativeMarkup bid) = .ok (.object [("native", nativeAd bid)]) := by
  have hany : Decoder.any .ofText (.ofValue (.object [("native", nativeAd bid)])) =
      .ok (.object [("native", nativeAd bid)]) := rfl
  have hnumbers : ∀ n ∈ (Document.ofValue (.object [("native", nativeAd bid)])).numbers, False := by
    intro n hn
    cases hn
  exact Json.read_compact (fun _ hn => hn.elim) (Json.plain_of_any hany hnumbers) hany

theorem markup_native (bid : String) :
    Offer.markup .native (some (nativeMarkup bid)) = (some (nativeAd bid).compact, []) := by
  unfold Offer.markup Offer.nativeMarkup
  simp only [read_nativeMarkup]
  rfl

/-- What is read of the creative of a medium. -/
structure CreativeRead (bid : String) (m : Medium) (c : Int32 × String × Members) (e : BidExt) (adm : String) :
    Prop where
  ext : Offer.readExt (some c.2.2) = (some e, [])
  medium : Medium.ofCode (some c.1) = some m
  read : Offer.markup m (some c.2.1) = (some adm, [])
  dealPriority : e.dealPriority = if m = .banner then some 1 else none
  duration : e.duration = if m = .video then some 30 else none
  bannerVideo : e.isBannerVideo = false
  native : m = .native → c.2.1 = (Value.object [("native", nativeAd bid)]).compact ∧ adm = (nativeAd bid).compact
  markup : m ≠ .native → adm = c.2.1

/-- The creative of each medium is read. -/
theorem exists_creativeRead (i : Imp) (bid : String) :
    ∃ e adm, CreativeRead bid (mediumOf i) (creative i bid) e adm := by
  unfold mediumOf creative
  split_ifs
  · exact ⟨⟨some ⟨some 30⟩, none, none, none⟩, videoMarkup bid, rfl, rfl, rfl, rfl, rfl, rfl, nofun, fun _ => rfl⟩
  · exact ⟨.absent, (nativeAd bid).compact, rfl, rfl, markup_native bid, rfl, rfl, rfl, fun _ => ⟨rfl, rfl⟩,
      fun h => absurd rfl h⟩
  · exact ⟨⟨none, some 1, none, none⟩, bannerMarkup bid, rfl, rfl, rfl, rfl, rfl, rfl, nofun, fun _ => rfl⟩

/-- A bid whose parts can all be read makes an offer without a problem. -/
theorem ofBid_of_parts {currency : Option String} {b : Bid} {e : Option BidExt} {m : Medium} {adm : Option String}
    (hext : Offer.readExt b.ext = (e, [])) (hmedium : Medium.ofCode b.mtype = some m)
    (hadm : Offer.markup m b.adm = (adm, [])) :
    Offer.ofBid currency b = (some ⟨{ b with
        cat := b.cat.bind fun cs => cs.head?.map ([·])
        adm
        ext := some (Members.insert (b.ext.getD []) "prebid" (Offer.prebidInfo m e)) },
      m, currency, e.bind fun e => e.dealPriority, e.bind fun e => e.seat⟩, []) := by
  unfold Offer.ofBid
  simp only [hext, hmedium, hadm]
  rfl

theorem CreativeRead.prebidInfo {bid adm : String} {m : Medium} {c : Int32 × String × Members} {e : BidExt}
    (h : CreativeRead bid m c e adm) :
    Offer.prebidInfo m (some e) = .object (("meta", .object [("mediaType", .string m.name)]) ::
      if m = .video then [("video", .object [("duration", .ofInt32 30)])] else []) := by
  unfold Offer.prebidInfo
  simp only [Option.any_some, h.bannerVideo, Option.bind_some, h.duration, Bool.false_eq_true, if_false]
  split_ifs
  · rfl
  · rfl

/-- **Each bid makes an offer on its impression**, and no problem. -/
theorem ofBid_bidOn (i : Imp) (factor price : Float) :
    ∃ o, Offer.ofBid (some "USD") { bidOn i factor with price } = (some o, []) ∧ OfferOn i o := by
  obtain ⟨e, adm, h⟩ := exists_creativeRead i ("bid-" ++ i.id)
  refine ⟨_, ofBid_of_parts h.ext h.medium h.read, rfl, rfl, rfl, rfl, h.dealPriority, ?_, ?_, ?_⟩
  · rw [← h.prebidInfo]
    exact Members.get?_insert_self
  · intro hnative
    obtain ⟨hwrapped, hadm⟩ := h.native hnative
    exact ⟨hwrapped, congrArg some hadm⟩
  · intro hother
    exact congrArg some (h.markup hother)

/-- The price of a bid is far from the largest double. -/
theorem below_price (i : Imp) (hone : 1 ≤ factor) (htwo : factor < 2) : Double.Below 590 (bidOn i factor).price := by
  have hfloor : Double.Below 525 ((i.bidfloor.map Decimal.toDouble).getD 0.1) := by
    cases i.bidfloor with
    | none => decide +kernel
    | some d => exact d.below_toDouble
  exact (hfloor.mul (Double.below_of_lt_two hone htwo) (by decide)).mono (by decide)

/-- A value that is read as itself and holds no reals. -/
theorem plain_integral {v : Value} (hread : Decoder.any .value (.ofValue v) = .ok v)
    (hnumbers : ((Document.ofValue v).numbers.all fun n => n.toInt?.isSome) = true) :
    v.Plain Number.Integral .value :=
  Json.plain_of_any hread (List.all_eq_true.mp hnumbers)

theorem plain_creative (i : Imp) (bid : String) : (Value.object (creative i bid).2.2).Plain Number.Integral .value := by
  unfold creative
  split_ifs
  · exact plain_integral rfl rfl
  · exact plain_integral rfl rfl
  · exact plain_integral rfl rfl

theorem writable_bidOn (i : Imp) (hone : 1 ≤ factor) (htwo : factor < 2) :
    (bidOn i factor).Writable Number.Readable := by
  have hprice := below_price i hone htwo
  refine ⟨⟨hprice.finite, .real hprice⟩, ?_, .nil⟩
  rintro ms ⟨⟩
  exact plain_creative i _

end Bids

/-! ## Auctions on the device -/

section Auctions
variable {i out : Imp} {app : Option DisplayManager}

/-- The parameters of an impression ask for an auction on the device. -/
def asksForAuction (i : Imp) : Bool := (readImpExt i).toOption.any fun e => e.ae == some 1

theorem wantsDeviceAuction_iff :
    wantsDeviceAuction i = true ↔ ∃ n, (i.ext.getD []).get? "ae" = some (.number n) ∧ n.toInt? = some 1 := by
  unfold wantsDeviceAuction Members.get?
  split
  · next n hn =>
    rw [hn, beq_iff_eq]
    constructor
    · exact fun h => ⟨n, rfl, h⟩
    · rintro ⟨m, ⟨⟩, h⟩
      exact h
  · next hnone =>
    apply iff_of_false Bool.false_ne_true
    rintro ⟨n, hn, -⟩
    exact hnone n hn

/-- **An impression asks for an auction on the device when its parameters do**, whatever keywords it has. -/
theorem asksForAuction_eq (h : Passes app i out) : asksForAuction i = wantsDeviceAuction out := by
  obtain ⟨e, hext, -, hout⟩ := h
  have hkeywords : out.ext.getD [] = e.keywordMap := by
    rw [outgoingImp_ext hout]
    split_ifs with hempty
    · exact (List.isEmpty_iff.mp hempty).symm
    · rfl
  have hasks : asksForAuction i = true ↔ e.ae = some 1 := by
    unfold asksForAuction
    rw [hext]
    exact beq_iff_eq
  rw [Bool.eq_iff_iff, hasks, wantsDeviceAuction_iff, hkeywords]
  simp only [get?_ae_iff]
  cases e.ae with
  | none => simp
  | some ae => simp [Number.ofInt32, Number.toInt?, ← Int32.toInt_inj]

/-- The configurations are for the impressions that ask for one, each name where it stands first. -/
theorem names_deviceAuctions (imps : List Imp) :
    (deviceAuctions imps).names = ((imps.filter wantsDeviceAuction).map Imp.id).eraseDups := by
  unfold deviceAuctions
  rw [Members.names_ofPairs, List.map_map]
  rfl

theorem eq_of_mem_deviceAuctions {imps : List Imp} {m : String × Value} (h : m ∈ deviceAuctions imps) :
    m.2 = deviceAuction := by
  obtain ⟨i, -, rfl⟩ := List.mem_map.mp (Members.mem_of_mem_ofPairs h)
  rfl

theorem plain_deviceAuctions (imps : List Imp) :
    (Value.object (deviceAuctions imps)).Plain Number.Integral .value := by
  refine .object rfl (Members.nodup_ofPairs _) ?_
  intro m hm
  rw [eq_of_mem_deviceAuctions hm]
  exact plain_integral rfl rfl

end Auctions

/-! ## The answer -/

section Answers
variable {factor : Nat → Float}

theorem writable_answer (hfactor : ∀ n, 1 ≤ factor n ∧ factor n < 2) (r : BidRequest) :
    (answer factor r).Writable Number.Readable := by
  refine ⟨?_, ?_, .nil⟩
  · rintro _ ⟨⟩ s hs
    rw [List.mem_singleton.mp hs]
    refine ⟨?_, .nil⟩
    rintro _ ⟨⟩ b hb
    obtain ⟨i, -, n, rfl⟩ := exists_of_mem_right (forall₂_mapIdx _ r.imp) hb
    exact writable_bidOn i (hfactor n).1 (hfactor n).2
  · intro e he
    unfold answer at he
    dsimp only at he
    split_ifs at he
    cases he
    refine OpenRtb.ResponseExt.roundTrips ?_ .nil
    rintro _ ⟨⟩
    exact plain_deviceAuctions r.imp

theorem bids_answer (r : BidRequest) : (answer factor r).bids = r.imp.mapIdx fun n i => bidOn i (factor n) := by
  simp [BidResponse.bids, answer]

/-- Bids that each make an offer make these offers, and no problem. -/
theorem offers_of_forall₂ {α : Type} {currency : Option String} {S : α → Offer → Prop} {xs : List α} {bs : List Bid}
    (h : List.Forall₂ (fun x b => ∃ o, Offer.ofBid currency b = (some o, []) ∧ S x o) xs bs) :
    List.Forall₂ S xs (offersOf currency bs) ∧ problemsOf currency bs = [] := by
  unfold offersOf problemsOf
  induction h with
  | nil => exact ⟨.nil, rfl⟩
  | cons hhead _ ih =>
    obtain ⟨o, ho, hS⟩ := hhead
    rw [List.filterMap_cons, List.flatMap_cons, ho]
    exact ⟨.cons hS ih.1, ih.2⟩

/-- The bids of the answer, with whatever prices, make an offer on each impression in its place. -/
theorem forall₂_ofBid {r : BidRequest} {bs : List Bid} (h : List.Forall₂ Bid.Repriced (answer factor r).bids bs) :
    List.Forall₂ (fun i b => ∃ o, Offer.ofBid (some "USD") b = (some o, []) ∧ OfferOn i o) r.imp bs := by
  rw [bids_answer] at h
  refine forall₂_trans ?_ (forall₂_mapIdx _ r.imp) h
  rintro i _ _ ⟨n, rfl⟩ ⟨price, -, rfl⟩
  exact ofBid_bidOn i (factor n) price

/-- The configurations are for the impressions that ask for one. -/
theorem configs_answer (factor : Nat → Float) (r : BidRequest) :
    (answer factor r).auctionConfigs.map AuctionConfig.impid =
        ((r.imp.filter wantsDeviceAuction).map Imp.id).eraseDups ∧
      ∀ c ∈ (answer factor r).auctionConfigs, c.config = deviceAuction := by
  have hconfigs : (answer factor r).auctionConfigs = (deviceAuctions r.imp).map fun m => ⟨m.1, m.2⟩ := by
    unfold BidResponse.auctionConfigs answer
    dsimp only
    split_ifs with hempty
    · rw [List.isEmpty_iff.mp hempty]
      rfl
    · rfl
  rw [hconfigs]
  constructor
  · rw [← names_deviceAuctions, List.map_map]
    rfl
  · intro c hc
    obtain ⟨m, hm, rfl⟩ := List.mem_map.mp hc
    exact eq_of_mem_deviceAuctions hm

/-- The group of configurations is shown when there is one. -/
theorem igi_eq (a : Answer) :
    a.toJson.member? "igi" = if a.configs = [] then none else some (Answer.configsJson a.configs) := by
  unfold Answer.toJson
  cases a.configs with
  | nil => rfl
  | cons c cs => rfl

/-- **The answer to what is sent is understood.** Whatever factors an exchange puts on the prices, its answer to a
request that the adapter sends has no problem and one offer for each impression, in order. Configurations are there for
the impressions that ask for an auction on the device, each id where it stands first; they are shown unless there are
none. -/
theorem answer_of_sent {b : Bidder} {r : BidRequest} {out : OutgoingRequest}
    (hfactor : ∀ n, 1 ≤ factor n ∧ factor n < 2) (hsends : b.dispatch r = .sends out) :
    ∃ a, Answer.ofBody (answer factor out.payload).toJson.compact = a ∧ a.problems = [] ∧
      List.Forall₂ OfferOn out.payload.imp a.offers ∧
      a.configs.map AuctionConfig.impid = ((r.imp.filter asksForAuction).map Imp.id).eraseDups ∧
      (∀ c ∈ a.configs, c.config = deviceAuction) ∧
      a.toJson.member? "igi" =
        if r.imp.filter asksForAuction = [] then none else some (Answer.configsJson a.configs) := by
  have hpasses := passes_of_sends hsends
  obtain ⟨r', hr', hdecode⟩ := decodeBody_repriced (writable_answer hfactor out.payload)
  have hanswer : Answer.ofBody (answer factor out.payload).toJson.compact = Answer.ofResponse r' := by
    rw [Answer.ofBody, hdecode]
  obtain ⟨hoffers, hproblems⟩ := offers_of_forall₂ (forall₂_ofBid (forall₂_bids hr'))
  obtain ⟨hids, hconfigs⟩ := configs_answer factor out.payload
  obtain ⟨seatbid, -, rfl⟩ := hr'
  -- what is sent has the ids and the wishes of the request
  rw [← map_filter_eq hpasses (fun _ _ => asksForAuction_eq) fun _ _ h => (passes_id h).symm] at hids
  have hempty : (answer factor out.payload).auctionConfigs = [] ↔ r.imp.filter asksForAuction = [] := by
    rw [← List.map_eq_nil_iff, hids]
    cases r.imp.filter asksForAuction with
    | nil => exact iff_of_true rfl rfl
    | cons i is => simp [List.eraseDups_cons]
  rw [ofResponse_eq] at hanswer
  refine ⟨_, hanswer, hproblems, hoffers, hids, hconfigs, ?_⟩
  rw [igi_eq]
  exact if_congr hempty rfl rfl

/-- Two impressions of one id that ask for an auction, and one that does not. -/
def requestWithAuction : BidRequest :=
  { BidRequest.absent with
    imp := [{ Imp.absent with id := "1", video := some .absent, ext := some [("ae", .ofInt32 1)] },
      { Imp.absent with id := "2", native := some .absent },
      { Imp.absent with id := "1", video := some .absent, ext := some [("ae", .ofInt32 1)] }] }

/-- All three have an offer, and the two of one id have one configuration. -/
theorem answer_of_sent_with_auction :
    ∃ out a, Bidder.dispatch ⟨⟨"http".toList, [], true, none, none, ['/'], none, none⟩, "pubmatic"⟩ requestWithAuction =
        .sends out ∧
      Answer.ofBody (answer (fun _ => 1.5) out.payload).toJson.compact = a ∧ a.problems = [] ∧
      a.offers.map Offer.medium = [.video, .native, .video] ∧ a.configs.map AuctionConfig.impid = ["1"] := by
  obtain ⟨out, hsends, himp⟩ : ∃ out,
      Bidder.dispatch ⟨⟨"http".toList, [], true, none, none, ['/'], none, none⟩, "pubmatic"⟩ requestWithAuction =
        .sends out ∧ out.payload.imp.map mediumOf = [.video, .native, .video] := ⟨_, rfl, rfl⟩
  have hfactor : (1 : Float) ≤ 1.5 ∧ (1.5 : Float) < 2 := by decide +kernel
  obtain ⟨a, hanswer, hproblems, hoffers, hids, -⟩ := answer_of_sent (fun _ => hfactor) hsends
  have hmedia : List.Forall₂ Eq (out.payload.imp.map mediumOf) (a.offers.map Offer.medium) := by
    rw [List.forall₂_map_left_iff, List.forall₂_map_right_iff]
    exact hoffers.imp fun _ _ h => h.medium.symm
  rw [List.forall₂_eq_eq_eq, himp] at hmedia
  exact ⟨out, a, hsends, hanswer, hproblems, hmedia.symm, hids⟩

end Answers

end BidAdapter.MockExchange
