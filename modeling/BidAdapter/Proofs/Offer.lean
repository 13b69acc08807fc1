import BidAdapter.Proofs.Accounting
import BidAdapter.Proofs.BodyRoundTrip
import BidAdapter.Proofs.MediumCode
import BidAdapter.Proofs.OpenRtb.ResponseReading

/-!
# The offer of a bid

* `FirstCategory`, `MarkupOf`, `ExtOf` : the three members of a bid that an offer may change;
* `MediumName`, `ShownAs`, `CreativeInfo` : the names of the media, the one that shows, and what the ext of an offer tells
  of its creative;
* `read_compact_of_member` : the text of a member of a document is read back as the member, where its numbers are
  integers;
* `offer_of_decoded` : the offer that is made of a bid.
-/

namespace BidAdapter

set_option autoImplicit false

open Json
open OpenRtb (Bid BidResponse)

variable {b : Bid} {m : Medium} {currency : Option String}

/-! ## The categories -/

/-- The first category alone, if there is one. -/
inductive FirstCategory : Option (List String) → Option (List String) → Prop
  | first (c : String) (cs : List String) : FirstCategory (some (c :: cs)) (some [c])
  | empty : FirstCategory (some []) none
  | absent : FirstCategory none none

theorem firstCategory_head (cat : Option (List String)) :
    FirstCategory cat (cat.bind fun cs => cs.head?.map ([·])) := by
  cases cat with
  | none => exact .absent
  | some cs =>
    cases cs with
    | nil => exact .empty
    | cons c cs => exact .first c cs

/-! ## The markup -/

/-- The bid is native, and its markup is the text of an object that holds the ad. -/
def Unwraps (mtype : Option Int32) (adm : String) (inner : Value) : Prop :=
  mtype = some 4 ∧ ∃ v, Decoder.read Decoder.any adm = .ok v ∧ v.member? "native" = some inner

/-- The markup of an offer: the text of the member of a native markup, or the markup as it was. -/
inductive MarkupOf (mtype : Option Int32) : Option String → Option String → Prop
  | unwrapped {adm : String} {inner : Value} (h : Unwraps mtype adm inner) :
      MarkupOf mtype (some adm) (some inner.compact)
  | same {adm : Option String} (h : ∀ text inner, adm = some text → ¬Unwraps mtype text inner) :
      MarkupOf mtype adm adm

theorem markupOf_markup (hm : MediumCode b.mtype m) :
    MarkupOf b.mtype b.adm (Offer.markup m b.adm).1 := by
  cases hadm : b.adm with
  | none => exact .same nofun
  | some adm =>
    unfold Offer.markup
    dsimp only
    split_ifs with hnative
    · subst hnative
      have hcode := mtype_of_native hm
      unfold Offer.nativeMarkup
      split
      · next v hread =>
        cases hmember : v.member? "native" with
        | some inner => exact .unwrapped ⟨hcode, v, hread, hmember⟩
        | none =>
          refine .same ?_
          rintro text inner ⟨⟩ ⟨-, v', hread', hmember'⟩
          rw [hread] at hread'
          cases hread'
          rw [hmember] at hmember'
          cases hmember'
      · next e hread =>
        refine .same ?_
        rintro text inner ⟨⟩ ⟨-, v', hread', -⟩
        rw [hread] at hread'
        cases hread'
    · refine .same ?_
      rintro text inner - ⟨hcode, -⟩
      rw [hcode] at hm
      cases hm
      exact hnative rfl

/-- **The text of a member is read back as the member**, where its numbers are integers. -/
theorem read_compact_of_member {text name : String} {v inner : Value} (hread : Decoder.read Decoder.any text = .ok v)
    (hmember : v.member? name = some inner) (hints : ∀ n ∈ (Document.ofValue inner).numbers, n.IsInteger) :
    Decoder.read Decoder.any inner.compact = .ok inner := by
  have hplain : v.Plain (fun _ => True) .ofText := plain_of_any (read_eq_ok_iff.mp hread).1 fun _ _ => trivial
  have hinner : inner.Plain (fun _ => True) .ofText := by
    cases hplain with
    | object henter _ hms =>
      obtain ⟨n, hn, rfl⟩ := enter_text_iff.mp henter
      exact (hms _ (Members.mem_of_get? hmember)).mono (by omega)
    | _ => cases hmember
  exact read_compact (fun n => legible_of_isInteger) (hinner.of_numbers hints) (any_ofValue hinner)

/-! ## The ext -/

/-- The ext of an offer: that of the bid with a member that tells of the creative, in the place of the one of its name
or at the end. -/
structure ExtOf (ms : Members) (info : Value) (out : Members) : Prop where
  info : out.get? "prebid" = some info
  names : out.names = if "prebid" ∈ ms.names then ms.names else ms.names ++ ["prebid"]
  kept : ∀ (i : Nat) m, ms[i]? = some m → m.1 ≠ "prebid" → out[i]? = some m
  nodup : out.names.Nodup

theorem extOf_insert {ms : Members} (h : ms.names.Nodup) (info : Value) : ExtOf ms info (ms.insert "prebid" info) :=
  ⟨Members.get?_insert_self, Members.names_insert, fun _ _ hm hne => Members.getElem?_insert hm hne,
    Members.nodup_insert h⟩

/-- The names of the media. -/
inductive MediumName : Medium → String → Prop where
  | banner : MediumName .banner "banner"
  | video : MediumName .video "video"
  | audio : MediumName .audio "audio"
  | native : MediumName .native "native"

/-- The medium that shows: a banner that is known to play a video shows as a video, any other bid as what it is. -/
inductive ShownAs (m : Medium) (e : Option BidExt) : String → Prop where
  | bannerVideo (h : e.bind (fun e => e.bannerVideo) = some true) : ShownAs m e "video"
  | own {name : String} (h : e.bind (fun e => e.bannerVideo) ≠ some true) (hname : MediumName m name) : ShownAs m e name

/-- What an offer tells of its creative: the medium that shows, and how long its video is. -/
inductive CreativeInfo (shown : String) : Option Int32 → Value → Prop where
  | untimed : CreativeInfo shown none (.object [("meta", .object [("mediaType", .string shown)])])
  | timed (n : Int32) : CreativeInfo shown (some n)
    (.object [("meta", .object [("mediaType", .string shown)]), ("video", .object [("duration", .ofInt32 n)])])

theorem mediumName_name (m : Medium) : MediumName m m.name := by
  cases m with
  | banner => exact .banner
  | video => exact .video
  | audio => exact .audio
  | native => exact .native

theorem creativeInfo_prebidInfo (m : Medium) (e : Option BidExt) : ∃ shown, ShownAs m e shown ∧
    CreativeInfo shown (e.bind fun e => e.video.bind fun v => v.duration) (Offer.prebidInfo m e) := by
  have hduration : e.bind BidExt.duration = e.bind fun e => e.video.bind fun v => v.duration := rfl
  have hshown : e.any BidExt.isBannerVideo = true ↔ e.bind (fun e => e.bannerVideo) = some true := by
    cases e with
    | none => simp
    | some e => cases hibv : e.bannerVideo <;> simp [BidExt.isBannerVideo, hibv]
  have hinfo : ∀ shown, CreativeInfo shown (e.bind BidExt.duration)
      (.object (("meta", .object [("mediaType", .string shown)]) ::
        Members.optional "video" ((e.bind BidExt.duration).map fun n => .object [("duration", .ofInt32 n)]))) := by
    intro shown
    cases e.bind BidExt.duration with
    | none => exact .untimed
    | some n => exact .timed n
  rw [← hduration]
  unfold Offer.prebidInfo
  simp only [hshown]
  split_ifs with hvideo
  · exact ⟨_, .bannerVideo hvideo, hinfo _⟩
  · exact ⟨_, .own hvideo (mediumName_name m), hinfo _⟩

/-! ## The offer -/

/-- The offer of a bid of whose ext this is read: all is kept but the categories, the markup and the ext. What is read
goes into the offer and its ext; where nothing is read nothing does. -/
structure OfferOf (currency : Option String) (b : Bid) (e : Option BidExt) (o : Offer) : Prop where
  same : o.IsOf currency b
  type : ∃ name, MediumName o.medium name ∧ o.toJson.member? "type" = some (.string name)
  cat : FirstCategory b.cat o.bid.cat
  adm : MarkupOf b.mtype b.adm o.bid.adm
  ext : ∃ shown info out, ShownAs o.medium e shown ∧
    CreativeInfo shown (e.bind fun e => e.video.bind fun v => v.duration) info ∧
    o.bid.ext = some out ∧ ExtOf (b.ext.getD []) info out
  dealPriority : o.dealPriority = e.bind fun e => e.dealPriority
  seat : o.seat = e.bind fun e => e.seat
  unread : e = none → o.dealPriority = none ∧ o.seat = none ∧ ∃ name info out, MediumName o.medium name ∧
    CreativeInfo name none info ∧ o.bid.ext = some out ∧ ExtOf (b.ext.getD []) info out

theorem exists_offerOf (hmedium : b.hasMedium = true) (hnames : (b.ext.getD []).names.Nodup)
    (currency : Option String) : ∃ o, (Offer.ofBid currency b).1 = some o ∧ OfferOf currency b b.parsedExt o := by
  rw [hasMedium_eq, Option.isSome_iff_exists] at hmedium
  obtain ⟨m, hm⟩ := hmedium
  have hcode := mediumCode_iff.mp hm
  obtain ⟨shown, hshown, hinfo⟩ := creativeInfo_prebidInfo m b.parsedExt
  have hext := extOf_insert hnames (Offer.prebidInfo m b.parsedExt)
  unfold Offer.ofBid
  simp only [hm, ← parsedExt_eq]
  refine ⟨_, rfl, ⟨rfl, hcode, rfl⟩, ⟨_, mediumName_name m, rfl⟩, firstCategory_head b.cat, markupOf_markup hcode,
    ⟨shown, _, _, hshown, hinfo, rfl, hext⟩, rfl, rfl, ?_⟩
  intro hnone
  rw [hnone] at hshown hinfo hext ⊢
  obtain ⟨hvideo⟩ | ⟨-, hname⟩ := hshown
  · cases hvideo
  · exact ⟨rfl, rfl, shown, _, _, hname, hinfo, rfl, hext⟩

theorem decoder_of_decodeBody {body : String} {r : BidResponse} (h : decodeBody body = .ok (some r)) :
    ∃ doc, BidResponse.decoder .value doc = .ok r :=
  ⟨_, decoder_scan h⟩

/-- **The offer of a bid.** A bid of a response that is decoded makes an offer when it has a medium, with what is read of
its ext; and the markup that is taken out of a native one is read back as what it was. -/
theorem offer_of_decoded {body : String} {r : BidResponse} (hbody : decodeBody body = .ok (some r)) (hb : b ∈ r.bids)
    (hmedium : b.hasMedium = true) (currency : Option String) :
    (∃ e o, ParsedExt b.ext e ∧ (Offer.ofBid currency b).1 = some o ∧ OfferOf currency b e o) ∧
      ∀ adm inner, b.adm = some adm → Unwraps b.mtype adm inner →
        (∀ n ∈ (Document.ofValue inner).numbers, n.IsInteger) →
        Decoder.read Decoder.any inner.compact = .ok inner := by
  obtain ⟨doc, hdoc⟩ := decoder_of_decodeBody hbody
  obtain ⟨_, bid, hbid⟩ := BidResponse.exists_of_mem_bids hdoc hb
  have hplain : ∀ ms, b.ext = some ms → (Value.object ms).Plain (fun _ => True) .value := fun _ => Bid.plain_ext hbid
  have hnames : (b.ext.getD []).names.Nodup := by
    cases hext : b.ext with
    | none => exact List.nodup_nil
    | some ms => exact (hplain ms hext).names
  obtain ⟨o, ho, hoffer⟩ := exists_offerOf hmedium hnames currency
  refine ⟨⟨b.parsedExt, o, parsedExt_of_plain hplain, ho, hoffer⟩, ?_⟩
  rintro adm inner - ⟨-, v, hread, hmember⟩ hints
  exact read_compact_of_member hread hmember hints

/-- A banner that plays a video, in two categories. -/
def videoBanner : Bid :=
  { Bid.absent with
    impid := "1"
    cat := some ["a", "b"]
    mtype := some 1
    ext := some [("ibv", .bool true), ("prebid", .null), ("note", .string "n")] }

/-- A response with that bid. -/
def responseWithVideoBanner : BidResponse :=
  { BidResponse.absent with seatbid := some [{ OpenRtb.SeatBid.absent with bid := some [videoBanner] }] }

/-- The text of that response. -/
def videoBannerBody : String :=
  (Value.object [("seatbid", .array [.object [("bid", .array [.object [("impid", .string "1"),
    ("cat", .ofStrings ["a", "b"]), ("mtype", .ofInt32 1),
    ("ext", .object [("ibv", .bool true), ("prebid", .null), ("note", .string "n")])]])]])]).compact

/-- The banner stays a banner and shows as a video, and what it says of itself gives way. -/
theorem offer_of_videoBanner : ∃ o ms, (Offer.ofBid (some "EUR") videoBanner).1 = some o ∧ o.medium = .banner ∧
    o.toJson.member? "type" = some (.string "banner") ∧ o.bid.cat = some ["a"] ∧ o.bid.ext = some ms ∧
    ms.names = ["ibv", "prebid", "note"] ∧
    ms.get? "prebid" = some (.object [("meta", .object [("mediaType", .string "video")])]) := by
  have hbody : decodeBody videoBannerBody = .ok (some responseWithVideoBanner) := by
    refine (decodeBody_eq_ok_iff (isTextOf_compact rfl ?_)).mpr ⟨rfl, rfl⟩
    intro n hn
    cases List.mem_singleton.mp hn
    rfl
  obtain ⟨⟨e, o, hparsed, ho, hoffer⟩, -⟩ := offer_of_decoded hbody (List.mem_singleton.mpr rfl) rfl (some "EUR")
  have hread : ParsedExt videoBanner.ext (some ⟨none, none, none, some true⟩) :=
    .read ⟨.absent, .absent, .absent, .given nofun rfl⟩
  cases hparsed.unique hread
  have hcat : o.bid.cat = some ["a"] := by
    have hfirst : FirstCategory (some ["a", "b"]) o.bid.cat := hoffer.cat
    generalize o.bid.cat = cat at hfirst
    cases hfirst
    rfl
  have hmedium : o.medium = .banner := by
    have hcode : MediumCode (some 1) o.medium := hoffer.same.2.1
    generalize o.medium = medium at hcode
    cases hcode
    rfl
  obtain ⟨name, hname, htype⟩ := hoffer.type
  rw [hmedium] at hname
  cases hname
  obtain ⟨shown, info, ms, ⟨-⟩ | ⟨hnot, -⟩, hinfo, hms, hext⟩ := hoffer.ext
  · cases hinfo
    exact ⟨o, ms, ho, hmedium, htype, hcat, hms, hext.names, hext.info⟩
  · exact absurd rfl hnot

end BidAdapter
