import BidAdapter.Proofs.Dispatch
import BidAdapter.Proofs.Json.Passing
import BidAdapter.Proofs.Json.Scanning
import BidAdapter.Proofs.OpenRtb.RequestReading
import BidAdapter.Proofs.OpenRtb.RequestWriting

/-!
# What passes through

What a document holds that the adapter has no use for goes out as it came in.

* `FormatPassed`, …, `RequestPassed` : what stays of every record on its way from the document to the body;
* `passed_of_format`, …, `passed_of_payload` : a record that is read and written keeps all that;
* `request_passes_through` : so does the request that is sent.
-/

namespace BidAdapter

set_option autoImplicit false

open Json
open Json.Decoder (string int32 list members)
open OpenRtb

/-! ## Records -/

structure FormatPassed (ms : List (Name × Document)) (out : Members) : Prop where
  w : Under Holds "w" ms out
  h : Under Holds "h" ms out
  others : Carried ["w", "h"] ms out

/-- The size of a banner may change. -/
structure BannerPassed (ms : List (Name × Document)) (out : Members) : Prop where
  format : Under (Arrays (Objects FormatPassed)) "format" ms out
  others : Carried ["w", "h", "format"] ms out

structure VideoPassed (ms : List (Name × Document)) (out : Members) : Prop where
  mimes : Under Holds "mimes" ms out
  w : Under Holds "w" ms out
  h : Under Holds "h" ms out
  others : Carried ["mimes", "w", "h"] ms out

structure NativePassed (ms : List (Name × Document)) (out : Members) : Prop where
  request : Under Holds "request" ms out
  ver : Under Holds "ver" ms out
  others : Carried ["request", "ver"] ms out

/-- A banner may be dropped, and none is made. -/
structure ImpPassed (ms : List (Name × Document)) (out : Members) : Prop where
  id : TextPassed "id" ms out
  banner : ∀ v, out.get? "banner" = some v → ∃ doc, given ["banner"] ms = some doc ∧ Objects BannerPassed doc v
  video : Under (Objects VideoPassed) "video" ms out
  native : Under (Objects NativePassed) "native" ms out
  others : Carried Imp.known ms out

/-- A publisher keeps all but its id; one that is made has nothing else. -/
inductive PublisherPassed : Option Document → Option Value → Prop where
  | absent : PublisherPassed none none
  | made (id : String) : PublisherPassed none (some (.object [("id", .string id)]))
  | kept {doc : Document} {v : Value} (h : Objects (Carried ["id"]) doc v) : PublisherPassed (some doc) (some v)

structure SitePassed (ms : List (Name × Document)) (out : Members) : Prop where
  id : Under Holds "id" ms out
  domain : Under Holds "domain" ms out
  publisher : PublisherPassed (given ["publisher"] ms) (out.get? "publisher")
  others : Carried ["id", "domain", "publisher"] ms out

structure AppPassed (ms : List (Name × Document)) (out : Members) : Prop where
  id : Under Holds "id" ms out
  bundle : Under Holds "bundle" ms out
  publisher : PublisherPassed (given ["publisher"] ms) (out.get? "publisher")
  ext : Under Holds "ext" ms out
  others : Carried ["id", "bundle", "publisher", "ext"] ms out

/-- The ext of a request is made anew. -/
structure RequestPassed (ms : List (Name × Document)) (out : Members) : Prop where
  id : TextPassed "id" ms out
  imp : Under (Arrays (Objects ImpPassed)) "imp" ms out
  site : Under (Objects SitePassed) "site" ms out
  app : Under (Objects AppPassed) "app" ms out
  others : Carried ["id", "imp", "site", "app", "ext"] ms out

/-! ## Records that stay -/

section Records
variable {o : Origin} {doc : Document}

theorem passed_of_format {f : Format} (h : Format.decoder o doc = .ok f) : Objects FormatPassed doc f.toJson := by
  obtain ⟨inner, ms, -, rfl, hread⟩ := Format.readFrom_of_decoder h
  rw [Format.toJson_eq]
  have hw : Written inner ms f.typed f.others := ⟨hread.others, by simp [Format.typed]⟩
  refine .mk ⟨?_, ?_, hw.carried⟩
  · exact hw.under (by simp [Format.typed]) hread.w fun _ _ => holds_of_int32
  · exact hw.under (by simp [Format.typed]) hread.h fun _ _ => holds_of_int32

theorem passed_of_video {v : Video} (h : Video.decoder o doc = .ok v) : Objects VideoPassed doc v.toJson := by
  obtain ⟨inner, ms, -, rfl, hread⟩ := Video.readFrom_of_decoder h
  rw [Video.toJson_eq]
  have hw : Written inner ms v.typed v.others := ⟨hread.others, by simp [Video.typed]⟩
  refine .mk ⟨?_, ?_, ?_, hw.carried⟩
  · exact hw.under (by simp [Video.typed]) hread.mimes fun _ _ => holds_of_strings
  · exact hw.under (by simp [Video.typed]) hread.w fun _ _ => holds_of_int32
  · exact hw.under (by simp [Video.typed]) hread.h fun _ _ => holds_of_int32

theorem passed_of_native {n : Native} (h : Native.decoder o doc = .ok n) : Objects NativePassed doc n.toJson := by
  obtain ⟨inner, ms, -, rfl, hread⟩ := Native.readFrom_of_decoder h
  rw [Native.toJson_eq]
  have hw : Written inner ms n.typed n.others := ⟨hread.others, by simp [Native.typed]⟩
  refine .mk ⟨?_, ?_, hw.carried⟩
  · exact hw.under (by simp [Native.typed]) hread.request fun _ _ => holds_of_string
  · exact hw.under (by simp [Native.typed]) hread.ver fun _ _ => holds_of_string

/-! ## Records that change -/

/-- A banner of another size is written like the one that was read. -/
theorem passed_of_banner {b : Banner} (w h : Option Int32) (hb : Banner.decoder o doc = .ok b) :
    Objects BannerPassed doc { b with w, h : Banner }.toJson := by
  obtain ⟨inner, ms, -, rfl, hread⟩ := Banner.readFrom_of_decoder hb
  rw [Banner.toJson_eq]
  have hw : Written inner ms { b with w, h : Banner }.typed b.others := ⟨hread.others, by simp [Banner.typed]⟩
  refine .mk ⟨?_, hw.carried⟩
  exact hw.under (by simp [Banner.typed]) hread.format fun _ _ => arrays_of_list fun _ _ _ => passed_of_format

theorem passed_of_imp {i out : Imp} {e : ImpExt} {app : Option DisplayManager} (h : Imp.decoder o doc = .ok i)
    (hout : outgoingImp i e app = .ok out) : Objects ImpPassed doc out.toJson := by
  obtain ⟨inner, ms, -, rfl, hread⟩ := Imp.readFrom_of_decoder h
  rw [Imp.toJson_eq]
  have hw : Written inner ms out.typed out.others := by
    rw [outgoingImp_others hout]
    exact ⟨hread.others, by simp [Imp.typed]⟩
  have hbanner : (Members.typed out.typed ++ out.others).get? "banner" = out.banner.map Banner.toJson :=
    hw.get? (by simp [Imp.typed])
  refine .mk ⟨?_, ?_, ?_, ?_, hw.carried⟩
  · exact hw.text (by simp [Imp.typed, outgoingImp_id hout]) hread.id
  · intro v hv
    rw [hbanner] at hv
    obtain ⟨b', hb', rfl⟩ := Option.map_eq_some_iff.mp hv
    obtain ⟨b, w, h, hb, rfl⟩ := outgoingImp_banner hout hb'
    have hgiven := hread.banner
    rw [hb] at hgiven
    cases hgiven with
    | present hgiven hread => exact ⟨_, hgiven, passed_of_banner w h hread⟩
  · exact hw.under (by simp [Imp.typed, outgoingImp_video hout]) hread.video fun _ _ => passed_of_video
  · exact hw.under (by simp [Imp.typed, outgoingImp_native hout]) hread.native fun _ _ => passed_of_native

/-- A publisher with its id put in, or made for it, or left. -/
theorem passed_of_publisher {ms : List (Name × Document)} {p : Option Publisher} (id : Option String)
    (h : OptionRead o ms ["publisher"] Publisher.decoder p) :
    PublisherPassed (given ["publisher"] ms) ((publisherWith id p).map Publisher.toJson) := by
  have hkept : ∀ {doc : Document} {p : Publisher} (id : Option String), Publisher.decoder o doc = .ok p →
      Objects (Carried ["id"]) doc { p with id : Publisher }.toJson := by
    intro doc p id hp
    obtain ⟨inner, ms, -, rfl, hread⟩ := Publisher.readFrom_of_decoder hp
    rw [Publisher.toJson_eq]
    have hw : Written inner ms { p with id : Publisher }.typed p.others := ⟨hread.others, by simp [Publisher.typed]⟩
    exact .mk hw.carried
  cases h with
  | absent hgiven =>
    rw [hgiven]
    cases id with
    | none => exact .absent
    | some id => exact .made id
  | present hgiven hread =>
    rw [hgiven]
    cases id with
    | none => exact .kept (hkept _ hread)
    | some id => exact .kept (hkept (some id) hread)

theorem passed_of_site {s : Site} (id : Option String) (h : Site.decoder o doc = .ok s) :
    Objects SitePassed doc { s with publisher := publisherWith id s.publisher : Site }.toJson := by
  obtain ⟨inner, ms, -, rfl, hread⟩ := Site.readFrom_of_decoder h
  rw [Site.toJson_eq]
  have hw : Written inner ms { s with publisher := publisherWith id s.publisher : Site }.typed s.others :=
    ⟨hread.others, by simp [Site.typed]⟩
  refine .mk ⟨?_, ?_, ?_, hw.carried⟩
  · exact hw.under (by simp [Site.typed]) hread.id fun _ _ => holds_of_string
  · exact hw.under (by simp [Site.typed]) hread.domain fun _ _ => holds_of_string
  · rw [hw.get? (x := (publisherWith id s.publisher).map Publisher.toJson) (by simp [Site.typed])]
    exact passed_of_publisher id hread.publisher

theorem passed_of_app {a : App} (id : Option String) (h : App.decoder o doc = .ok a) :
    Objects AppPassed doc { a with publisher := publisherWith id a.publisher : App }.toJson := by
  obtain ⟨inner, ms, -, rfl, hread⟩ := App.readFrom_of_decoder h
  rw [App.toJson_eq]
  have hw : Written inner ms { a with publisher := publisherWith id a.publisher : App }.typed a.others :=
    ⟨hread.others, by simp [App.typed]⟩
  refine .mk ⟨?_, ?_, ?_, ?_, hw.carried⟩
  · exact hw.under (by simp [App.typed]) hread.id fun _ _ => holds_of_string
  · exact hw.under (by simp [App.typed]) hread.bundle fun _ _ => holds_of_string
  · rw [hw.get? (x := (publisherWith id a.publisher).map Publisher.toJson) (by simp [App.typed])]
    exact passed_of_publisher id hread.publisher
  · exact hw.under (by simp [App.typed]) hread.ext fun _ _ => holds_of_members

/-- The request with impressions that pass in their places, and any settings. -/
theorem passed_of_payload {app : Option DisplayManager} {r : BidRequest} {outs : List Imp} (settings : Settings)
    (h : BidRequest.decoder o doc = .ok r) (himp : r.imp ≠ []) (hpasses : List.Forall₂ (Passes app) r.imp outs) :
    Objects RequestPassed doc (outgoingPayload r outs settings).toJson := by
  obtain ⟨inner, ms, -, rfl, hread⟩ := BidRequest.readFrom_of_decoder h
  rw [BidRequest.toJson_eq]
  have hw : Written inner ms (outgoingPayload r outs settings).typed (outgoingPayload r outs settings).others :=
    ⟨hread.others, by simp [BidRequest.typed]⟩
  refine .mk ⟨?_, ?_, ?_, ?_, hw.carried⟩
  · exact hw.text (by simp [BidRequest.typed, outgoingPayload]) hread.id
  · unfold Under
    rw [hw.get? (x := some (.array (outs.map Imp.toJson))) (by simp [BidRequest.typed, outgoingPayload])]
    rcases hread.imp with ⟨-, hnil⟩ | ⟨doc, hgiven, hlist⟩
    · exact absurd hnil himp
    · obtain ⟨deeper, ds, -, rfl, hds⟩ := list_eq_ok_iff.mp hlist
      have hpassed : List.Forall₂ (fun d out => Objects ImpPassed d out.toJson) ds outs := by
        refine forall₂_trans ?_ hds hpasses
        rintro d i out hi ⟨e, -, -, hout⟩
        exact passed_of_imp hi hout
      rw [hgiven]
      exact .some (.mk (List.forall₂_map_right_iff.mpr hpassed))
  · exact hw.under (by simp [BidRequest.typed, outgoingPayload]; rfl) hread.site
      fun _ _ => passed_of_site settings.publisherId
  · exact hw.under (by simp [BidRequest.typed, outgoingPayload]; rfl) hread.app
      fun _ _ => passed_of_app settings.publisherId

end Records

/-- **What the adapter has no use for passes through.** Where a text is read as a request that is sent on, everything in
it that has no typed field stands in the body in its place, in its order and with its value, and so do the ids, the
sites and apps, the videos, the native ads and the formats of the banners that are kept. -/
theorem request_passes_through {b : Bidder} {text : String} {r : BidRequest} {out : OutgoingRequest}
    (hread : BidRequest.decoder.read text = .ok r) (hsends : b.dispatch r = .sends out) :
    out.body = out.payload.toJson.compact ∧
      Objects RequestPassed (Document.scan .document text).1 out.payload.toJson := by
  obtain ⟨params, imps, -, himp, himps, rfl⟩ := exists_of_sends hsends
  have hdecoder := (read_eq_ok_iff.mp hread).1
  have hpasses := passes_of_adaptedImps himps
  refine ⟨rfl, ?_⟩
  exact passed_of_payload _ hdecoder himp hpasses

/-- A request with a member that has no typed field, and an impression with another. -/
def requestWithOthers : BidRequest :=
  { BidRequest.absent with
    id := "r", imp := [{ Imp.absent with id := "1", video := some .absent, others := [("secure", .bool true)] }],
    others := [("tmax", .string "500")] }

/-- The text of such a request is read and sent on, and both members are in the body. -/
theorem request_passes_through_with_others :
    BidRequest.decoder.read requestWithOthers.toJson.compact = .ok requestWithOthers ∧
      ∃ out,
        Bidder.dispatch ⟨⟨"http".toList, [], true, none, none, ['/'], none, none⟩, "pubmatic"⟩ requestWithOthers =
          .sends out ∧
        out.body = out.payload.toJson.compact ∧
        Objects RequestPassed (.ofValue requestWithOthers.toJson) out.payload.toJson := by
  have hnumbers : (Document.ofValue requestWithOthers.toJson).numbers = [] := rfl
  have hany : Decoder.any .ofText (.ofValue requestWithOthers.toJson) = .ok requestWithOthers.toJson := rfl
  have hplain : requestWithOthers.toJson.Plain (fun _ => False) .ofText := plain_of_any hany (by simp [hnumbers])
  have hread : BidRequest.decoder.read requestWithOthers.toJson.compact = .ok requestWithOthers :=
    read_compact (fun _ h => h.elim) hplain rfl
  obtain ⟨out, hsends⟩ :
      ∃ out,
        Bidder.dispatch ⟨⟨"http".toList, [], true, none, none, ['/'], none, none⟩, "pubmatic"⟩ requestWithOthers =
          .sends out := ⟨_, rfl⟩
  have hpasses := request_passes_through hread hsends
  rw [scan_compact fluent_document (fun _ h => h.elim) hplain] at hpasses
  exact ⟨hread, out, hsends, hpasses⟩

end BidAdapter
