import BidAdapter.Proofs.Outgoing.RebuiltExt
import BidAdapter.Proofs.PassThrough

/-!
# The settings of a request

What the request and its impressions say about all of it, and where that goes.

* `Wrapper.merge_foldl`, `mergedWrapper_eq` : wrappers that are merged one after the other keep, field by field, the
  first that is set;
* `FirstPublisher`, `firstPublisher_spec` : the first publisher of the impressions that is not blank;
* `SentWrapper`, `SentPublisher` : what of this an outgoing request has; `OnWire` : where it stands in the body;
* `settings_reach_wire` : every request that is sent has it, in these places.
-/

namespace BidAdapter

set_option autoImplicit false

open Json
open OpenRtb

/-! ## Wrappers -/

/-- The first number that is not zero, and zero where there is none. -/
def firstSet (ns : List Int32) : Int32 := (ns.find? fun n => n ≠ 0).getD 0

namespace Wrapper

/-- One field of a merged wrapper. -/
theorem firstSet_cons (m n : Int32) (ns : List Int32) :
    firstSet ((if m = 0 then n else m) :: ns) = firstSet (m :: n :: ns) := by
  by_cases h : m = 0
  · simp [firstSet, h]
  · simp [firstSet, h]

/-- **Each field of merged wrappers is the first that is set**, wherever the other one is. -/
theorem merge_foldl (w : Wrapper) (ws : List Wrapper) :
    ws.foldl merge w = ⟨firstSet ((w :: ws).map profile), firstSet ((w :: ws).map version)⟩ := by
  induction ws generalizing w with
  | nil =>
    have hone : ∀ n : Int32, firstSet [n] = n := by
      intro n
      by_cases h : n = 0
      · simp [firstSet, h]
      · simp [firstSet, h]
    simp [hone]
  | cons v ws ih =>
    rw [List.foldl_cons, ih]
    simp only [List.map_cons, merge, firstSet_cons]

end Wrapper

/-- The wrappers of impressions that have one, in order. -/
def wrappersOf (exts : List ImpExt) : List Wrapper := exts.filterMap fun e => e.bidder.bind fun p => p.wrapper

theorem wrapper_slot (e : ImpExt) : e.slot.wrapper = e.bidder.bind fun p => p.wrapper := by
  unfold ImpExt.slot
  cases e.bidder with
  | none => rfl
  | some p => rfl

theorem mergedWrapper_eq (exts : List ImpExt) :
    Settings.mergedWrapper exts =
      if wrappersOf exts = [] then none
      else some
        ⟨firstSet ((wrappersOf exts).map Wrapper.profile), firstSet ((wrappersOf exts).map Wrapper.version)⟩ := by
  have hslots : (exts.filterMap fun e => e.slot.wrapper) = wrappersOf exts := by simp only [wrapper_slot, wrappersOf]
  unfold Settings.mergedWrapper
  rw [hslots]
  cases wrappersOf exts with
  | nil => rfl
  | cons w ws => simp [Wrapper.merge_foldl]

/-! ## Publishers -/

/-- The publisher id of an impression, as it is written. -/
def ImpExt.publisherId (e : ImpExt) : Option String := e.bidder.bind fun p => p.publisherId

/-- The id is that of the first impression whose publisher is not blank. -/
def FirstPublisher (exts : List ImpExt) (id : String) : Prop :=
  ∃ before e behind, exts = before ++ e :: behind ∧ e.publisherId = some id ∧ Text.blank id = false ∧
    ∀ e' ∈ before, ∀ id', e'.publisherId = some id' → Text.blank id' = true

/-- No impression has a publisher that is not blank. -/
def NoPublisher (exts : List ImpExt) : Prop := ∀ e ∈ exts, ∀ id, e.publisherId = some id → Text.blank id = true

theorem publisherId_slot (e : ImpExt) : e.slot.publisherId = e.publisherId := by
  unfold ImpExt.slot ImpExt.publisherId
  cases e.bidder with
  | none => rfl
  | some p => rfl

theorem firstPublisher_cons_of_blank {e : ImpExt} {exts : List ImpExt}
    (h : ∀ id, e.publisherId = some id → Text.blank id = true) :
    Settings.firstPublisher (e :: exts) = Settings.firstPublisher exts := by
  unfold Settings.firstPublisher
  cases hid : e.publisherId with
  | none => rw [List.filterMap_cons_none (by rw [publisherId_slot, hid])]
  | some id =>
    rw [List.filterMap_cons_some (by rw [publisherId_slot, hid]), List.find?_cons_of_neg (by simp [h id hid])]

theorem firstPublisher_cons_of_not_blank {e : ImpExt} {exts : List ImpExt} {id : String}
    (hid : e.publisherId = some id) (h : Text.blank id = false) :
    Settings.firstPublisher (e :: exts) = some id := by
  unfold Settings.firstPublisher
  rw [List.filterMap_cons_some (by rw [publisherId_slot, hid]), List.find?_cons_of_pos (by simp [h])]

/-- **The publisher of the settings is the first that is not blank**, and there is none only where all are blank. -/
theorem firstPublisher_spec (exts : List ImpExt) :
    (∃ id, Settings.firstPublisher exts = some id ∧ FirstPublisher exts id) ∨
      (Settings.firstPublisher exts = none ∧ NoPublisher exts) := by
  induction exts with
  | nil => exact Or.inr ⟨rfl, fun e he => absurd he List.not_mem_nil⟩
  | cons e exts ih =>
    by_cases hblank : ∀ id, e.publisherId = some id → Text.blank id = true
    · rw [firstPublisher_cons_of_blank hblank]
      rcases ih with ⟨id, hfirst, before, e', behind, rfl, hid, hnot, hbefore⟩ | ⟨hnone, hall⟩
      · refine Or.inl ⟨id, hfirst, e :: before, e', behind, rfl, hid, hnot, ?_⟩
        exact List.forall_mem_cons.mpr ⟨hblank, hbefore⟩
      · exact Or.inr ⟨hnone, List.forall_mem_cons.mpr ⟨hblank, hall⟩⟩
    · simp only [not_forall, Bool.not_eq_true] at hblank
      obtain ⟨id, hid, hnot⟩ := hblank
      refine Or.inl ⟨id, firstPublisher_cons_of_not_blank hid hnot, [], e, exts, rfl, hid, hnot, ?_⟩
      exact fun e' he' => absurd he' List.not_mem_nil

/-! ## Parameters -/

/-- The wrapper that the ext of a request has for a bidder. -/
def requestWrapper (b : Bidder) (r : BidRequest) : Option Value :=
  (((r.ext.bind fun e => e.prebid).bind fun p => p.bidderparams).bind fun ms => ms.get? b.name).bind
    fun v => v.member? "wrapper"

section Params
variable {b : Bidder} {r : BidRequest} {params : RequestParams}

theorem ofMember_of_params (h : paramsOf b r = .ok params) :
    Wrapper.ofMember (requestWrapper b r) = .ok params.wrapper := by
  unfold paramsOf RequestParams.ofPrebid at h
  unfold requestWrapper
  cases hprebid : r.ext.bind fun e => e.prebid with
  | none =>
    rw [hprebid] at h
    cases h
    rfl
  | some p =>
    rw [hprebid] at h
    obtain ⟨wrapper, hwrapper, h⟩ := bind_eq_ok_iff.mp h
    obtain ⟨categories, -, h⟩ := bind_eq_ok_iff.mp h
    cases h
    rw [← hwrapper, Option.bind_some]
    cases p.bidderparams.bind fun ms => ms.get? b.name with
    | none => rfl
    | some v => rfl

/-- A wrapper that is there and not null counts, whatever it is. -/
theorem exists_of_ofMember {v : Value} {w : Option Wrapper} (hv : v ≠ .null)
    (h : Wrapper.ofMember (some v) = .ok w) : ∃ w', w = some w' := by
  unfold Wrapper.ofMember at h
  split at h
  · next heq => cases heq
  · next heq =>
    cases heq
    exact absurd rfl hv
  · obtain ⟨profile, -, h⟩ := bind_eq_ok_iff.mp h
    obtain ⟨version, -, h⟩ := bind_eq_ok_iff.mp h
    cases h
    exact ⟨_, rfl⟩
  · cases h
    exact ⟨_, rfl⟩

end Params

/-! ## What is sent -/

/-- The wrapper in the ext of an outgoing request. -/
def OutgoingRequest.wrapper (out : OutgoingRequest) : Option Value :=
  out.payload.ext.bind fun e => e.others.get? "wrapper"

/-- The publisher id of a site or an app. -/
def publisherIdOf (p : Option Publisher) : Option Value := p.bind fun p => p.id.map .string

/-- Which wrapper is sent, where the request has its own or none and the impressions have some or none. -/
inductive SentWrapper (own : Option Value) (ws : List Wrapper) : Option Value → Prop where
  /-- That of the request, whatever the impressions have. -/
  | request (v : Value) (w : Wrapper) (hown : own = some v) (hv : v ≠ .null)
    (hw : Wrapper.ofMember (some v) = .ok (some w)) : SentWrapper own ws
    (some (.object [("profile", .ofInt32 w.profile), ("version", .ofInt32 w.version)]))
  /-- Those of the impressions, each field by itself. -/
  | imps (hown : own = none ∨ own = some .null) (hws : ws ≠ []) : SentWrapper own ws
    (some (.object [("profile", .ofInt32 (firstSet (ws.map Wrapper.profile))),
      ("version", .ofInt32 (firstSet (ws.map Wrapper.version)))]))
  | absent (hown : own = none ∨ own = some .null) (hws : ws = []) : SentWrapper own ws none

/-- Which publisher is sent with a site and with an app. -/
inductive SentPublisher (exts : List ImpExt) (r out : BidRequest) : Prop where
  /-- The first of the impressions that is not blank, with all else that the publisher has. -/
  | first (id : String) (h : FirstPublisher exts id)
    (hsite : out.site = r.site.map fun (s : Site) =>
      { s with publisher := some { s.publisher.getD .absent with id := some id } })
    (happ : out.app = r.app.map fun (a : App) =>
      { a with publisher := some { a.publisher.getD .absent with id := some id } })
  | kept (h : NoPublisher exts) (hsite : out.site = r.site) (happ : out.app = r.app)

/-- The body says what the payload has. -/
structure OnWire (out : OutgoingRequest) : Prop where
  wrapper : out.payload.toJson.at? ["ext", "wrapper"] = out.wrapper
  site : out.payload.toJson.at? ["site"] = out.payload.site.map Site.toJson
  sitePublisher : out.payload.toJson.at? ["site", "publisher", "id"] =
    publisherIdOf (out.payload.site.bind fun s => s.publisher)
  app : out.payload.toJson.at? ["app"] = out.payload.app.map App.toJson
  appPublisher : out.payload.toJson.at? ["app", "publisher", "id"] =
    publisherIdOf (out.payload.app.bind fun a => a.publisher)

theorem wrapper_ext (s : Settings) (incoming : Option RequestExt) :
    ((s.ext incoming).bind fun e => e.others.get? "wrapper") = s.wrapper.map Wrapper.toJson := by
  cases hext : s.ext incoming with
  | none =>
    rw [(ext_eq_none_iff.mp hext).2.1]
    rfl
  | some e => exact (rebuiltExt_of_ext hext).wrapper

theorem sentWrapper {own : Option Value} {w : Option Wrapper} (exts : List ImpExt)
    (h : Wrapper.ofMember own = .ok w) :
    SentWrapper own (wrappersOf exts) ((w.or (Settings.mergedWrapper exts)).map Wrapper.toJson) := by
  have hmerged : (own = none ∨ own = some .null) →
      SentWrapper own (wrappersOf exts) ((Settings.mergedWrapper exts).map Wrapper.toJson) := by
    intro hown
    rw [mergedWrapper_eq]
    split_ifs with hws
    · exact .absent hown hws
    · exact .imps hown hws
  cases own with
  | none =>
    cases h
    exact hmerged (Or.inl rfl)
  | some v =>
    by_cases hv : v = .null
    · subst hv
      cases h
      exact hmerged (Or.inr rfl)
    · obtain ⟨w', rfl⟩ := exists_of_ofMember hv h
      exact .request v w' rfl hv h

theorem sentPublisher (r : BidRequest) (imps : List Imp) (params : RequestParams) (exts : List ImpExt) :
    SentPublisher exts r (outgoingPayload r imps (Settings.resolve params exts)) := by
  rcases firstPublisher_spec exts with ⟨id, hfirst, hid⟩ | ⟨hnone, hall⟩
  · refine .first id hid ?_ ?_
    · simp [outgoingPayload, Settings.resolve, hfirst, publisherWith]
    · simp [outgoingPayload, Settings.resolve, hfirst, publisherWith]
  · refine .kept hall ?_ ?_
    · simp [outgoingPayload, Settings.resolve, hnone, publisherWith]
    · simp [outgoingPayload, Settings.resolve, hnone, publisherWith]

/-! ## The body -/

section Body
variable {o : Origin} {doc : Document} {ms : List (Name × Document)}

/-- The id of a publisher that is read, made or changed is written as its id. -/
theorem at?_publisher {v : Value} {p : Option Publisher} {id : Option String}
    (h : OptionRead o ms ["publisher"] Publisher.decoder p)
    (hv : v.member? "publisher" = (publisherWith id p).map Publisher.toJson) :
    v.at? ["publisher", "id"] = publisherIdOf (publisherWith id p) := by
  have hwritten : ∀ p : Publisher, "id" ∉ p.others.names → p.toJson.at? ["id"] = publisherIdOf (some p) := by
    intro p hp
    have hid : p.toJson.member? "id" = p.id.map .string :=
      member?_typed (Publisher.toJson_eq p) (by simp [Publisher.typed]) (by simp [Publisher.typed]) hp
    rw [Value.at?_singleton, hid]
    rfl
  have hothers : "id" ∉ (p.getD .absent).others.names := by
    cases h with
    | absent h => simp [Publisher.absent, Members.names]
    | present h hread =>
      obtain ⟨inner, ds, -, -, hparts⟩ := Publisher.readFrom_of_decoder hread
      exact fun hid => hparts.others.not_mem hid (by decide)
  rw [Value.at?_cons, hv]
  cases id with
  | some id => exact hwritten { p.getD .absent with id := some id } hothers
  | none =>
    cases p with
    | none => rfl
    | some p => exact hwritten p hothers

/-- A member of the ext beside the part for bidders. -/
theorem member?_requestExt (e : RequestExt) {name : String} (h : name ≠ "prebid") :
    e.toJson.member? name = e.others.get? name := by
  have htyped : (Members.typed e.typed).get? name = none := by
    apply Members.get?_of_not_mem
    intro hname
    exact h (List.mem_singleton.mp ((Members.names_typed e.typed).subset hname))
  rw [RequestExt.toJson_eq, Value.member?, Members.get?_append, htyped, Option.none_or]

/-- A site that was read, with its publisher. -/
theorem at?_site {x : Option Site} {id : Option String} (h : OptionRead o ms ["site"] Site.decoder x) :
    (((x.map fun s => { s with publisher := publisherWith id s.publisher }).map Site.toJson).bind
      fun v => v.at? ["publisher", "id"]) =
      publisherIdOf ((x.map fun s => { s with publisher := publisherWith id s.publisher }).bind
        fun s => s.publisher) := by
  cases h with
  | absent h => rfl
  | @present doc s h hread =>
    obtain ⟨inner, ds, -, -, hparts⟩ := Site.readFrom_of_decoder hread
    have hothers : "publisher" ∉ s.others.names := fun hn => hparts.others.not_mem hn (by decide)
    apply at?_publisher hparts.publisher
    exact member?_typed (Site.toJson_eq _) (by simp [Site.typed]) (by simp [Site.typed]) hothers

/-- An app that was read, with its publisher. -/
theorem at?_app {x : Option App} {id : Option String} (h : OptionRead o ms ["app"] App.decoder x) :
    (((x.map fun a => { a with publisher := publisherWith id a.publisher }).map App.toJson).bind
      fun v => v.at? ["publisher", "id"]) =
      publisherIdOf ((x.map fun a => { a with publisher := publisherWith id a.publisher }).bind
        fun a => a.publisher) := by
  cases h with
  | absent h => rfl
  | @present doc a h hread =>
    obtain ⟨inner, ds, -, -, hparts⟩ := App.readFrom_of_decoder hread
    have hothers : "publisher" ∉ a.others.names := fun hn => hparts.others.not_mem hn (by decide)
    apply at?_publisher hparts.publisher
    exact member?_typed (App.toJson_eq _) (by simp [App.typed]) (by simp [App.typed]) hothers

/-- What stands in the body under a name that a request knows. -/
theorem member?_outgoingPayload {r : BidRequest} (imps : List Imp) (s : Settings)
    (h : BidRequest.decoder o doc = .ok r) (name : String) (x : Option Value)
    (hmem : (name, x) ∈ (outgoingPayload r imps s).typed) : (outgoingPayload r imps s).toJson.member? name = x := by
  obtain ⟨inner, ms, -, -, hread⟩ := BidRequest.readFrom_of_decoder h
  have hw : Written inner ms (outgoingPayload r imps s).typed (outgoingPayload r imps s).others :=
    ⟨hread.others, by simp [BidRequest.typed]⟩
  rw [BidRequest.toJson_eq]
  exact hw.get? hmem

/-- What a request that was read is sent with stands in the body. -/
theorem onWire_of_decoder {r : BidRequest} (url : Endpoint.Url) (imps : List Imp) (s : Settings)
    (h : BidRequest.decoder o doc = .ok r) : OnWire ⟨url, outgoingPayload r imps s⟩ := by
  obtain ⟨inner, ms, -, -, hread⟩ := BidRequest.readFrom_of_decoder h
  have hsite := member?_outgoingPayload imps s h "site" _ (by simp [BidRequest.typed]; rfl)
  have happ := member?_outgoingPayload imps s h "app" _ (by simp [BidRequest.typed]; rfl)
  have hext := member?_outgoingPayload imps s h "ext" _ (by simp [BidRequest.typed]; rfl)
  refine ⟨?_, ?_, ?_, ?_, ?_⟩
  · rw [Value.at?_cons, hext, Option.bind_map]
    refine Option.bind_congr fun e _ => ?_
    rw [Function.comp, Value.at?_singleton]
    exact member?_requestExt e (by decide)
  · rw [Value.at?_singleton, hsite]
  · rw [Value.at?_cons, hsite]
    exact at?_site hread.site
  · rw [Value.at?_singleton, happ]
  · rw [Value.at?_cons, happ]
    exact at?_app hread.app

end Body

/-- **The settings of a request reach the wire.** The impressions of a request that is sent are all read. A wrapper that
the request has for the bidder is sent as it is; else each field of the wrapper that is sent is the first that is set
among those of the impressions, and none is sent where they have none. The first publisher of the impressions that is
not blank is that of the site and of the app, as it is written, and all else of them is kept; where there is none, both
are left as they are. In the body of a request that was read all this stands in its place. -/
theorem settings_reach_wire {b : Bidder} {r : BidRequest} {out : OutgoingRequest} (h : b.dispatch r = .sends out) :
    ∃ exts, List.Forall₂ (fun i e => readImpExt i = .ok e) r.imp exts ∧
      SentWrapper (requestWrapper b r) (wrappersOf exts) out.wrapper ∧ SentPublisher exts r out.payload ∧
      ∀ o doc, BidRequest.decoder o doc = .ok r → OnWire out := by
  obtain ⟨params, imps, hparams, -, himps, rfl⟩ := exists_of_sends h
  refine ⟨imps.map fun p => p.1, ?_, ?_, sentPublisher r _ params _, fun o doc => onWire_of_decoder _ _ _⟩
  · rw [List.forall₂_map_right_iff]
    apply (mapM_eq_ok_iff.mp himps).imp
    intro i p hp
    exact (adaptImp_eq_ok_iff.mp hp).1
  · have hwrapper : OutgoingRequest.wrapper (requestOf b r params imps) = _ := wrapper_ext _ _
    rw [hwrapper]
    exact sentWrapper _ (ofMember_of_params hparams)

/-- An impression with a video and with parameters for its bidder. -/
def impWithParams (params : Members) : Imp :=
  { Imp.absent with id := "1", video := some .absent, ext := some [("bidder", .object params)] }

/-- A request for a site whose impressions have a wrapper each; the publisher of the first is blank. -/
def requestWithParams : BidRequest :=
  { BidRequest.absent with
    id := "r", site := some .absent
    imp := [impWithParams [("publisherId", .string " "), ("wrapper", .object [("profile", .ofInt32 1)])],
      impWithParams [("publisherId", .string " p "),
        ("wrapper", .object [("profile", .ofInt32 5), ("version", .ofInt32 2)])]] }

/-- The profile of the first impression is sent with the version and the publisher of the second. -/
theorem settings_reach_wire_of_two :
    ∃ out exts,
      Bidder.dispatch ⟨⟨"http".toList, [], true, none, none, ['/'], none, none⟩, "pubmatic"⟩ requestWithParams =
        .sends out ∧
      out.wrapper = some (.object [("profile", .ofInt32 1), ("version", .ofInt32 2)]) ∧
      out.payload.site = some ⟨none, none, some ⟨some " p ", []⟩, []⟩ ∧
      List.Forall₂ (fun i e => readImpExt i = .ok e) requestWithParams.imp exts ∧
      SentWrapper none (wrappersOf exts) out.wrapper ∧ SentPublisher exts requestWithParams out.payload ∧
      OnWire out := by
  obtain ⟨out, hsends, hwrapper, hsite⟩ :
      ∃ out,
        Bidder.dispatch ⟨⟨"http".toList, [], true, none, none, ['/'], none, none⟩, "pubmatic"⟩ requestWithParams =
          .sends out ∧
        out.wrapper = some (.object [("profile", .ofInt32 1), ("version", .ofInt32 2)]) ∧
        out.payload.site = some ⟨none, none, some ⟨some " p ", []⟩, []⟩ := ⟨_, rfl, rfl, rfl⟩
  have hread : BidRequest.decoder.ofValue requestWithParams.toJson = .ok requestWithParams := rfl
  obtain ⟨exts, hexts, hsent, hpublisher, hwire⟩ := settings_reach_wire hsends
  exact ⟨out, exts, hsends, hwrapper, hsite, hexts, hsent, hpublisher, hwire _ _ hread⟩

end BidAdapter
