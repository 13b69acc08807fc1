import BidAdapter.Proofs.Accounting
import BidAdapter.Proofs.Json.ExchangeLiterals
import BidAdapter.Proofs.Json.Replacing

/-!
# The code of one medium

* `CodeRead` : the codes of media that can be read: none, null, and integers of 32 bits;
* `Bid.code_replaced`, `SeatBid.code_replaced`, `BidResponse.code_replaced` : a response in which one code is replaced by
  such a code is read with that code, and else as before; no response is read that has another code;
* `IsTextOf` : the text of a document; `decodeBody_eq_ok_iff`, `decodeBody_of_scan`, `decoder_scan` : what a body is read
  as, by its document;
* `one_code_replaced` : what becomes of the answer.
-/

namespace BidAdapter

set_option autoImplicit false

open Json
open Json.Document (AtMember AtItem Both)
open Json.Decoder (int32 list)
open OpenRtb

/-! ## Codes -/

/-- What the code of a medium is read as. -/
inductive CodeRead : Option Document → Option Int32 → Prop where
  | absent : CodeRead none none
  | null : CodeRead (some .null) none
  | int (n : Int) (fits : -2 ^ 63 ≤ n ∧ n < 2 ^ 64) (h : -2 ^ 31 ≤ n ∧ n < 2 ^ 31) :
    CodeRead (some (.number (.int n fits))) (some (Int32.ofInt n))

section Codes
variable {code : Option Document} {m : Option Int32}

theorem codeRead_iff : CodeRead code m ↔ PartFrom (Decoder.optional int32) none code m := by
  constructor
  · intro h
    cases h with
    | absent => exact Or.inl ⟨rfl, rfl⟩
    | null => exact Or.inr ⟨_, rfl, rfl⟩
    | int n fits h =>
      have hread : int32 .value (.number (.int n fits)) = .ok (Int32.ofInt n) := by rw [int32, if_pos h]
      exact Or.inr ⟨_, rfl, map_eq_ok_iff.mpr ⟨_, hread, rfl⟩⟩
  · rintro (⟨rfl, rfl⟩ | ⟨d, rfl, hd⟩)
    · exact .absent
    · unfold Decoder.optional at hd
      split at hd
      · cases hd
        exact .null
      · obtain ⟨n, hn, rfl⟩ := map_eq_ok_iff.mp hd
        unfold int32 at hn
        split at hn
        · split_ifs at hn with hrange
          cases hn
          exact .int _ _ hrange
        · exact absurd hn not_mistyped

/-- Nothing that can be read as a code stops the scan. -/
theorem CodeRead.sound (h : CodeRead code m) : code.all Document.sound = true := by
  cases h <;> rfl

theorem stop_of_all_sound (h : code.all Document.sound = true) : code.bind Document.stop = none := by
  cases code with
  | none => rfl
  | some d => exact Document.stop_of_sound h

end Codes

/-! ## The response -/

section Response
variable {doc doc' : Document} {seat place : Nat} {code : Option Document} {m : Option Int32}

/-- The bid at a place of the list of a seat. -/
def BidReplaced (place : Nat) (code : Option Document) : Document → Document → Prop :=
  AtMember "bid" (Both (AtItem place (AtMember "mtype" fun _ new => new = code)))

/-- The document of a response in which the code of the bid at a place of a seat is replaced. -/
def CodeReplaced (seat place : Nat) (code : Option Document) : Document → Document → Prop :=
  AtMember "seatbid" (Both (AtItem seat (BidReplaced place code)))

theorem Both.sound_iff {R : Document → Document → Prop} {old new : Option Document} (h : Both R old new)
    (hold : old.all Document.sound = true) :
    ∃ d d', R d d' ∧ d.sound = true ∧ (new.all Document.sound = true ↔ d'.sound = true) := by
  obtain ⟨d, d', rfl, rfl, hR⟩ := h
  exact ⟨d, d', hR, hold, Iff.rfl⟩

theorem BidReplaced.sound_iff (h : BidReplaced place code doc doc') (hdoc : doc.sound = true) :
    doc'.sound = true ↔ code.all Document.sound = true := by
  obtain ⟨old, new, hboth, hold, hiff⟩ := AtMember.sound_iff h hdoc
  obtain ⟨d, d', hitem, hd, hlist⟩ := Both.sound_iff hboth hold
  obtain ⟨bid, bid', hmember, hbid, hitems⟩ := hitem.sound_iff hd
  obtain ⟨_, _, rfl, -, hcode⟩ := hmember.sound_iff hbid
  rw [hiff, hlist, hitems, hcode]

theorem CodeReplaced.sound_iff (h : CodeReplaced seat place code doc doc') (hdoc : doc.sound = true) :
    doc'.sound = true ↔ code.all Document.sound = true := by
  obtain ⟨old, new, hboth, hold, hiff⟩ := AtMember.sound_iff h hdoc
  obtain ⟨d, d', hitem, hd, hlist⟩ := Both.sound_iff hboth hold
  obtain ⟨s, s', hseat, hs, hitems⟩ := hitem.sound_iff hd
  rw [hiff, hlist, hitems, hseat.sound_iff hs]

/-- A bid whose code is replaced is read when the code is, and is as before but for the code. -/
theorem Bid.code_replaced {b : Bid} (hat : AtMember "mtype" (fun _ new => new = code) doc doc')
    (h : Bid.decoder .value doc = .ok b) :
    doc'.stop = code.bind Document.stop ∧
      (∀ b', Bid.decoder .value doc' = .ok b' → ∃ m, CodeRead code m) ∧
      ∀ m, CodeRead code m → Bid.decoder .value doc' = .ok { b with mtype := m } := by
  obtain ⟨-, _, rfl, -, hstop, hback, hforth⟩ := openRecord_replaced hat h
    (fun b mtype => { b with mtype }) Bid.mtype (fun b => { b with mtype := none })
    (.of_keep rfl (by simp [Field.of]) (by simp [Field.of, map_eq_ok_iff]) (by simp [Field.of, map_eq_ok_iff])
      fun _ _ _ => rfl)
    (.of_keep (by decide) (by simp) (by simp) fun _ _ _ => rfl) (by simp [Field.of])
  refine ⟨hstop, ?_, ?_⟩
  · intro b' hb'
    obtain ⟨m, hm⟩ := hback b' hb'
    exact ⟨m, codeRead_iff.mpr hm⟩
  · intro m hm
    obtain ⟨b', hb', hsame, rfl⟩ := hforth m (stop_of_all_sound hm.sound) (codeRead_iff.mp hm)
    have heq : b' = { b with mtype := b'.mtype } := by
      cases b
      cases b'
      cases hsame
      rfl
    exact hb'.trans (congrArg _ heq)

/-- A seat of which one bid is replaced. -/
theorem SeatBid.code_replaced {s : SeatBid} (hat : BidReplaced place code doc doc')
    (h : SeatBid.decoder .value doc = .ok s) :
    ∃ bs₁ b bs₂, s.bid = some (bs₁ ++ b :: bs₂) ∧ bs₁.length = place ∧ doc'.stop = code.bind Document.stop ∧
      (∀ s', SeatBid.decoder .value doc' = .ok s' → ∃ m, CodeRead code m) ∧
      ∀ m, CodeRead code m →
        SeatBid.decoder .value doc' = .ok { s with bid := some (bs₁ ++ { b with mtype := m } :: bs₂) } := by
  obtain ⟨old, new, bs₁, b, bs₂, hmember, hb, hbid, hlength, hstop, hback, hforth⟩ :=
    openRecord_item_replaced hat h (fun s bid => { s with bid }) SeatBid.bid (fun s => { s with bid := none })
      (.of_keep rfl (by simp [Field.of]) (by simp [Field.of, map_eq_ok_iff]) (by simp [Field.of, map_eq_ok_iff])
        fun _ _ _ => rfl)
      (.of_keep (by decide) (by simp) (by simp) fun _ _ _ => rfl) (by simp [Field.of])
  obtain ⟨hbidstop, hbidback, hbidforth⟩ := Bid.code_replaced hmember hb
  refine ⟨bs₁, b, bs₂, hbid, hlength, hstop.trans hbidstop, ?_, ?_⟩
  · intro s' hs'
    obtain ⟨b', hb'⟩ := hback s' hs'
    exact hbidback b' hb'
  · intro m hm
    have hnew : new.stop = none := hbidstop.trans (stop_of_all_sound hm.sound)
    obtain ⟨s', hs', hsame, hbid'⟩ := hforth _ hnew (hbidforth m hm)
    refine hs'.trans ?_
    rw [← hbid']
    cases s
    cases s'
    cases hsame
    rfl

/-- A response of which one bid is replaced. -/
theorem BidResponse.code_replaced {r : BidResponse} (hat : CodeReplaced seat place code doc doc')
    (h : BidResponse.decoder .value doc = .ok r) :
    ∃ ss₁ s ss₂ bs₁ b bs₂, r.seatbid = some (ss₁ ++ s :: ss₂) ∧ ss₁.length = seat ∧
      s.bid = some (bs₁ ++ b :: bs₂) ∧ bs₁.length = place ∧
      (∀ r', BidResponse.decoder .value doc' = .ok r' → ∃ m, CodeRead code m) ∧
      ∀ m, CodeRead code m → BidResponse.decoder .value doc' =
        .ok { r with seatbid := some (ss₁ ++ { s with bid := some (bs₁ ++ { b with mtype := m } :: bs₂) } :: ss₂) } := by
  obtain ⟨old, new, ss₁, s, ss₂, hseat, hs, hseats, hlength, hstop, hback, hforth⟩ :=
    openRecord_item_replaced hat h (fun r seatbid => { r with seatbid }) BidResponse.seatbid
      (fun r => { r with seatbid := none })
      (.of_keep rfl (by simp [Field.of]) (by simp [Field.of, map_eq_ok_iff]) (by simp [Field.of, map_eq_ok_iff])
        fun _ _ _ => rfl)
      (.of_keep (by decide) (by simp) (by simp) fun _ _ _ => rfl) (by simp [Field.of])
  obtain ⟨bs₁, b, bs₂, hbid, hplace, hseatstop, hseatback, hseatforth⟩ := SeatBid.code_replaced hseat hs
  refine ⟨ss₁, s, ss₂, bs₁, b, bs₂, hseats, hlength, hbid, hplace, ?_, ?_⟩
  · intro r' hr'
    obtain ⟨s', hs'⟩ := hback r' hr'
    exact hseatback s' hs'
  · intro m hm
    have hnew : new.stop = none := hseatstop.trans (stop_of_all_sound hm.sound)
    obtain ⟨r', hr', hsame, hseats'⟩ := hforth _ hnew (hseatforth m hm)
    refine hr'.trans ?_
    rw [← hseats']
    cases r
    cases r'
    cases hsame
    rfl

end Response

/-! ## The answer -/

section Body
variable {body : String} {doc : Document} {r : BidResponse}

/-- The body is the text of a document. Behind a flaw at which the scan stopped there may be anything. -/
def IsTextOf (body : String) (doc : Document) : Prop :=
  ∃ more, Document.scan (.exchange body.utf8ByteSize) body = (doc, more) ∧ (doc.stop = none → more = false)

theorem decodeBody_eq_ok_iff {x : Option BidResponse} (hbody : IsTextOf body doc) :
    decodeBody body = .ok x ↔ doc.sound = true ∧ Decoder.optional BidResponse.decoder .value doc = .ok x := by
  obtain ⟨more, hscan, hmore⟩ := hbody
  unfold decodeBody
  simp only [hscan]
  cases hsound : doc.sound with
  | false => simp
  | true =>
    rw [hmore (Document.stop_of_sound hsound)]
    simp

/-- A response is what an object is read as. -/
theorem optional_object {ms : List (Name × Document)} {stop : Option Flaw} {x : Option BidResponse} :
    Decoder.optional BidResponse.decoder .value (.object ms stop) = .ok x ↔
      ∃ r, BidResponse.decoder .value (.object ms stop) = .ok r ∧ some r = x := by
  rw [Decoder.optional]
  · exact map_eq_ok_iff
  · intro heq
    cases heq

/-- The text of a response is read as what its tree is read as. -/
theorem decodeBody_of_scan {r' : BidResponse}
    (hscan : Document.scan (.exchange body.utf8ByteSize) body = (.ofValue r'.toJson, false))
    (hread : BidResponse.decoder .value (.ofValue r'.toJson) = .ok r) : decodeBody body = .ok (some r) := by
  apply (decodeBody_eq_ok_iff ⟨false, hscan, fun _ => rfl⟩).mpr
  exact ⟨Document.sound_ofValue _, optional_object.mpr ⟨r, hread, rfl⟩⟩

/-- A response is read from the document of its body. -/
theorem decoder_scan (h : decodeBody body = .ok (some r)) :
    BidResponse.decoder .value (Document.scan (.exchange body.utf8ByteSize) body).1 = .ok r := by
  unfold decodeBody at h
  dsimp only at h
  split_ifs at h
  unfold Decoder.optional at h
  split at h
  · cases h
  · obtain ⟨r', hr', heq⟩ := map_eq_ok_iff.mp h
    cases heq
    exact hr'

/-- The bid at a place of a seat, with the bids that stand before it and behind it. -/
def OpenRtb.BidResponse.HasBid (r : BidResponse) (seat place : Nat) (before : List Bid) (b : Bid)
    (behind : List Bid) : Prop :=
  ∃ ss₁ s ss₂ bs₁ bs₂, r.seatbid = some (ss₁ ++ s :: ss₂) ∧ ss₁.length = seat ∧ s.bid = some (bs₁ ++ b :: bs₂) ∧
    bs₁.length = place ∧ before = ss₁.flatMap (fun s => s.bid.getD []) ++ bs₁ ∧
    behind = bs₂ ++ ss₂.flatMap fun s => s.bid.getD []

/-- The offers of bids. -/
def offersOf (currency : Option String) (bs : List Bid) : List Offer :=
  bs.filterMap fun b => (Offer.ofBid currency b).1

/-- The problems of bids. -/
def problemsOf (currency : Option String) (bs : List Bid) : List Problem :=
  bs.flatMap fun b => (Offer.ofBid currency b).2

theorem bids_split {r : BidResponse} {ss₁ ss₂ : List SeatBid} {s : SeatBid} {bs₁ bs₂ : List Bid} {b : Bid}
    (hseats : r.seatbid = some (ss₁ ++ s :: ss₂)) (hbid : s.bid = some (bs₁ ++ b :: bs₂)) :
    r.bids = (ss₁.flatMap (fun s => s.bid.getD []) ++ bs₁) ++ b :: (bs₂ ++ ss₂.flatMap fun s => s.bid.getD []) := by
  rw [BidResponse.bids, hseats, Option.getD_some, List.flatMap_append, List.flatMap_cons, hbid, Option.getD_some]
  simp only [List.append_assoc, List.cons_append]

theorem offersOf_split (currency : Option String) (before behind : List Bid) (b : Bid) :
    offersOf currency (before ++ b :: behind) =
      offersOf currency before ++ (Offer.ofBid currency b).1.toList ++ offersOf currency behind := by
  unfold offersOf
  rw [List.filterMap_append, List.filterMap_cons, List.append_assoc]
  cases (Offer.ofBid currency b).1 with
  | none => rfl
  | some o => rfl

theorem problemsOf_split (currency : Option String) (before behind : List Bid) (b : Bid) :
    problemsOf currency (before ++ b :: behind) =
      problemsOf currency before ++ (Offer.ofBid currency b).2 ++ problemsOf currency behind := by
  unfold problemsOf
  rw [List.flatMap_append, List.flatMap_cons, List.append_assoc]

theorem ofResponse_eq (r : BidResponse) :
    Answer.ofResponse r = ⟨offersOf r.cur r.bids, r.auctionConfigs, problemsOf r.cur r.bids⟩ := by
  unfold Answer.ofResponse
  simp only [List.filterMap_map, List.flatMap_map]
  rfl

theorem ofResponse_split {r : BidResponse} {before behind : List Bid} {b : Bid} (h : r.bids = before ++ b :: behind) :
    Answer.ofResponse r =
      ⟨offersOf r.cur before ++ (Offer.ofBid r.cur b).1.toList ++ offersOf r.cur behind, r.auctionConfigs,
        problemsOf r.cur before ++ (Offer.ofBid r.cur b).2 ++ problemsOf r.cur behind⟩ := by
  rw [ofResponse_eq, h, offersOf_split, problemsOf_split]

/-- A bid with a code that stands for no medium makes no offer. -/
theorem ofBid_of_code {currency : Option String} {b : Bid} {m : Option Int32}
    (hm : m ∉ [some 1, some 2, some 3, some 4]) : ∃ p : Problem, p.NamesCode m b.impid ∧
      Offer.ofBid currency { b with mtype := m } = (none, (Offer.readExt b.ext).2 ++ [p]) := by
  have hnone : Medium.ofCode m = none := by
    have hmedium := hasMedium_eq { b with mtype := m }
    rw [Bid.hasMedium, decide_eq_false hm] at hmedium
    exact Option.isSome_eq_false_iff.mp hmedium.symm |> Option.isNone_iff_eq_none.mp
  refine ⟨.unknownMedium m b.impid, namesCode_unknownMedium m b.impid, ?_⟩
  unfold Offer.ofBid
  simp only [hnone]

end Body

/-- **One code, one bid, where the code is one.** In a body that is decoded, let the code of one bid be replaced. By a
code that can be read and stands for no medium the bid loses its offer, and its problems are the one of its ext, if it
has it, and one of the exchange that names the code and the impression; all other offers and problems and the
configurations stay. By anything else the whole body is refused, also by an integer of more than 64 bits, at which the
scan stops. -/
theorem one_code_replaced {body body' : String} {doc doc' : Document} {r : BidResponse} {seat place : Nat}
    {code : Option Document} (hbody : IsTextOf body doc) (hbody' : IsTextOf body' doc')
    (hread : decodeBody body = .ok (some r)) (hat : CodeReplaced seat place code doc doc') :
    (∃ before b behind, r.HasBid seat place before b behind ∧
      Answer.ofBody body =
        ⟨offersOf r.cur before ++ (Offer.ofBid r.cur b).1.toList ++ offersOf r.cur behind, r.auctionConfigs,
          problemsOf r.cur before ++ (Offer.ofBid r.cur b).2 ++ problemsOf r.cur behind⟩ ∧
      (∀ m, CodeRead code m → m ∉ [some 1, some 2, some 3, some 4] →
        ∃ p : Problem, p.NamesCode m b.impid ∧ ExtProblems b (Offer.readExt b.ext).2 ∧
          Answer.ofBody body' =
            ⟨offersOf r.cur before ++ offersOf r.cur behind, (Answer.ofBody body).configs,
              problemsOf r.cur before ++ ((Offer.readExt b.ext).2 ++ [p]) ++ problemsOf r.cur behind⟩) ∧
      ((¬∃ m, CodeRead code m) → (Answer.ofBody body').Refused)) ∧
    ∀ n : Int, ¬(-2 ^ 63 ≤ n ∧ n < 2 ^ 64) → ∀ size rest, Boundary rest →
      (Dialect.exchange size).number (intChars n ++ rest) = (.stopped .malformed, rest) := by
  obtain ⟨hsound, hdecoded⟩ := (decodeBody_eq_ok_iff hbody).mp hread
  have hsound' := hat.sound_iff hsound
  obtain ⟨ms, stop, ms', stop', rfl, rfl⟩ : ∃ ms stop ms' stop', doc = .object ms stop ∧ doc' = .object ms' stop' := by
    obtain ⟨before, old, new, rest, -, -, rfl, rfl⟩ := hat
    exact ⟨_, _, _, _, rfl, rfl⟩
  obtain ⟨_, hdecoder, heq⟩ := optional_object.mp hdecoded
  cases heq
  obtain ⟨ss₁, s, ss₂, bs₁, b, bs₂, hseats, hseat, hbid, hplace, hback, hforth⟩ :=
    BidResponse.code_replaced hat hdecoder
  have hanswer : Answer.ofBody body = Answer.ofResponse r := by rw [Answer.ofBody, hread]
  have hsplit := ofResponse_split (bids_split hseats hbid)
  have hhas : r.HasBid seat place _ b _ := ⟨ss₁, s, ss₂, bs₁, bs₂, hseats, hseat, hbid, hplace, rfl, rfl⟩
  refine ⟨⟨_, b, _, hhas, hanswer.trans hsplit, ?_, ?_⟩, fun n hn size rest => stopped_of_large hn size⟩
  · intro m hm hmedium
    have hdecode' : decodeBody body' = .ok (some { r with
        seatbid := some (ss₁ ++ { s with bid := some (bs₁ ++ { b with mtype := m } :: bs₂) } :: ss₂) }) := by
      apply (decodeBody_eq_ok_iff hbody').mpr
      exact ⟨hsound'.mpr hm.sound, optional_object.mpr ⟨_, hforth m hm, rfl⟩⟩
    obtain ⟨p, hp, hbid⟩ := ofBid_of_code hmedium
    refine ⟨p, hp, extProblems_readExt b, ?_⟩
    rw [Answer.ofBody, hdecode']
    simp only
    rw [ofResponse_split (bids_split rfl rfl), hanswer, hbid]
    simp only [Option.toList_none, List.append_nil]
    rfl
  · intro hnone
    have hrefused : ∀ x, decodeBody body' ≠ .ok x := by
      intro x hx
      obtain ⟨-, hdecoded'⟩ := (decodeBody_eq_ok_iff hbody').mp hx
      obtain ⟨r', hr', -⟩ := optional_object.mp hdecoded'
      exact hnone (hback r' hr')
    cases hdecode' : decodeBody body' with
    | ok x => exact absurd hdecode' (hrefused x)
    | error e => exact Answer.refused_of_error hdecode'

/-- A value without reals is the document of its text. -/
theorem isTextOf_compact {v : Value} (hread : Decoder.any .value (.ofValue v) = .ok v)
    (hints : ∀ n ∈ (Document.ofValue v).numbers, n.toInt?.isSome = true) : IsTextOf v.compact (.ofValue v) := by
  have hscan := scan_compact (fluent_exchange v.compact.utf8ByteSize) (fun _ hn => legible_of_toInt? hn _)
    (plain_of_any hread hints)
  exact ⟨false, hscan, fun _ => rfl⟩

/-- A response with two bids of one seat, the second with this code. -/
def responseWithCode (code : Value) : Value :=
  .object [("seatbid", .array [.object [("bid", .array [
    .object [("impid", .string "1"), ("mtype", .ofInt32 1)], .object [("impid", .string "2"), ("mtype", code)]])]])]

/-- What the response is read as when its second code is the first. -/
def twoBanners : BidResponse :=
  { BidResponse.absent with seatbid := some [{ SeatBid.absent with
      bid := some [{ Bid.absent with impid := "1", mtype := some 1 }, { Bid.absent with impid := "2", mtype := some 1 }] }] }

theorem isTextOf_responseWithCode (n : Int) (fits : -2 ^ 63 ≤ n ∧ n < 2 ^ 64) :
    IsTextOf (responseWithCode (.number (.int n fits))).compact
      (.ofValue (responseWithCode (.number (.int n fits)))) := by
  apply isTextOf_compact
  · rfl
  · have hnumbers : (Document.ofValue (responseWithCode (.number (.int n fits)))).numbers =
        [Number.ofInt32 1, .int n fits] := rfl
    rw [hnumbers]
    simp [Number.toInt?, Number.ofInt32]

theorem codeReplaced_responseWithCode (n k : Number) :
    CodeReplaced 0 1 (some (.number k)) (.ofValue (responseWithCode (.number n)))
      (.ofValue (responseWithCode (.number k))) := by
  have hbid : AtMember "mtype" (fun _ new => new = some (.number k))
      (.ofValue (.object [("impid", .string "2"), ("mtype", .number n)]))
      (.ofValue (.object [("impid", .string "2"), ("mtype", .number k)])) :=
    ⟨[(.ok "impid", .string "2")], some (.number n), some (.number k), [], rfl, rfl, rfl, rfl⟩
  have hseat : BidReplaced 1 (some (.number k)) _ _ :=
    ⟨[], some _, some _, [], rfl, ⟨_, _, rfl, rfl,
      [.ofValue (.object [("impid", .string "1"), ("mtype", .ofInt32 1)])], _, _, [], rfl, hbid, rfl, rfl⟩, rfl, rfl⟩
  exact ⟨[], some _, some _, [], rfl, ⟨_, _, rfl, rfl, [], _, _, [], rfl, hseat, rfl, rfl⟩, rfl, rfl⟩

/-- The code of the second of two bids becomes one that stands for no medium: that bid is all that is lost. -/
theorem one_code_replaced_by_five :
    ∃ p o, Answer.ofBody (responseWithCode (.number (.int 5 (by decide)))).compact = ⟨[o], [], [p]⟩ ∧
      o.bid.impid = "1" ∧ p.kind = .badServerResponse ∧
      p.message = "failed to parse bid mtype (5) for impression id 2" := by
  have hread : decodeBody (responseWithCode (.number (.int 1 (by decide)))).compact = .ok (some twoBanners) :=
    (decodeBody_eq_ok_iff (isTextOf_responseWithCode 1 (by decide))).mpr ⟨rfl, rfl⟩
  obtain ⟨⟨before, b, behind, hbid, hanswer, hcode, -⟩, -⟩ :=
    one_code_replaced (isTextOf_responseWithCode 1 (by decide)) (isTextOf_responseWithCode 5 (by decide)) hread
      (codeReplaced_responseWithCode _ _)
  obtain ⟨p, hp, -, hfive⟩ := hcode (some 5) (.int 5 (by decide) (by decide)) (by decide)
  obtain ⟨ss₁, s, ss₂, bs₁, bs₂, hseats, hseat, hbids, hplace, rfl, rfl⟩ := hbid
  cases List.length_eq_zero_iff.mp hseat
  cases hseats
  obtain ⟨first, rfl⟩ := List.length_eq_one_iff.mp hplace
  cases hbids
  rw [hanswer] at hfive
  exact ⟨p, _, hfive, rfl, hp.kind, hp.message⟩

/-- A code beyond the integers of 32 bits costs all bids, also the one that has a code of its own. -/
theorem code_beyond_costs_all :
    (Answer.ofBody (responseWithCode (.number (.int 1 (by decide)))).compact).offers.length = 2 ∧
      (Answer.ofBody (responseWithCode (.number (.int 3000000000 (by decide)))).compact).offers.length = 0 := by
  have hread : decodeBody (responseWithCode (.number (.int 1 (by decide)))).compact = .ok (some twoBanners) :=
    (decodeBody_eq_ok_iff (isTextOf_responseWithCode 1 (by decide))).mpr ⟨rfl, rfl⟩
  have hrefused : ∀ x, decodeBody (responseWithCode (.number (.int 3000000000 (by decide)))).compact ≠ .ok x := by
    intro x hx
    obtain ⟨-, h⟩ := (decodeBody_eq_ok_iff (isTextOf_responseWithCode 3000000000 (by decide))).mp hx
    cases h
  constructor
  · rw [Answer.ofBody, hread]
    rfl
  · unfold Answer.ofBody
    split
    · next h => exact absurd h (hrefused _)
    · next h => exact absurd h (hrefused _)
    · rfl

end BidAdapter
