import BidAdapter.OpenRtb.Request
import BidAdapter.Proofs.Json.RecordReading

/-!
# What a bid request is read from

For every record of a bid request, `ReadFrom` : its parts are read from the members of one object, each from its own
name, and `readFrom_of_decoder` : a record that is read has parts like that.
-/

namespace BidAdapter.OpenRtb

set_option autoImplicit false

open Json
open Json.Decoder (optional string bool int32 list members table)

variable {o : Origin} {doc : Document}

/-! ## Media -/

structure Format.ReadFrom (o : Origin) (ms : List (Name × Document)) (f : Format) : Prop where
  w : OptionRead o ms ["w"] int32 f.w
  h : OptionRead o ms ["h"] int32 f.h
  others : OthersRead o ms ["w", "h"] f.others

theorem Format.readFrom_of_decoder {f : Format} (h : Format.decoder o doc = .ok f) :
    ∃ inner ms, o.enter = .ok inner ∧ doc = .object ms none ∧ f.ReadFrom inner ms := by
  obtain ⟨inner, ms, seen, hinner, hdoc, hrun, -⟩ := openRecord_eq_ok_iff.mp h
  refine ⟨inner, ms, hinner, hdoc, ?_, ?_, ?_⟩
  · exact optionRead_of_run hrun Format.w (.of_keep (by decide) (by simp) (by simp) fun _ _ _ => rfl) rfl
  · exact optionRead_of_run hrun Format.h (.of_keep (by decide) (by simp) (by simp) fun _ _ _ => rfl) rfl
  · exact othersRead_of_run hrun Format.others ⟨by simp [Field.of, map_eq_ok_iff], fun _ _ _ => rfl⟩ rfl

structure Banner.ReadFrom (o : Origin) (ms : List (Name × Document)) (b : Banner) : Prop where
  format : OptionRead o ms ["format"] (list Format.decoder) b.format
  others : OthersRead o ms ["w", "h", "format"] b.others

theorem Banner.readFrom_of_decoder {b : Banner} (h : Banner.decoder o doc = .ok b) :
    ∃ inner ms, o.enter = .ok inner ∧ doc = .object ms none ∧ b.ReadFrom inner ms := by
  obtain ⟨inner, ms, seen, hinner, hdoc, hrun, -⟩ := openRecord_eq_ok_iff.mp h
  refine ⟨inner, ms, hinner, hdoc, ?_, ?_⟩
  · exact optionRead_of_run hrun Banner.format (.of_keep (by decide) (by simp) (by simp) fun _ _ _ => rfl) rfl
  · exact othersRead_of_run hrun Banner.others ⟨by simp [Field.of, map_eq_ok_iff], fun _ _ _ => rfl⟩ rfl

structure Video.ReadFrom (o : Origin) (ms : List (Name × Document)) (v : Video) : Prop where
  mimes : OptionRead o ms ["mimes"] (list string) v.mimes
  w : OptionRead o ms ["w"] int32 v.w
  h : OptionRead o ms ["h"] int32 v.h
  others : OthersRead o ms ["mimes", "w", "h"] v.others

theorem Video.readFrom_of_decoder {v : Video} (h : Video.decoder o doc = .ok v) :
    ∃ inner ms, o.enter = .ok inner ∧ doc = .object ms none ∧ v.ReadFrom inner ms := by
  obtain ⟨inner, ms, seen, hinner, hdoc, hrun, -⟩ := openRecord_eq_ok_iff.mp h
  refine ⟨inner, ms, hinner, hdoc, ?_, ?_, ?_, ?_⟩
  · exact optionRead_of_run hrun Video.mimes (.of_keep (by decide) (by simp) (by simp) fun _ _ _ => rfl) rfl
  · exact optionRead_of_run hrun Video.w (.of_keep (by decide) (by simp) (by simp) fun _ _ _ => rfl) rfl
  · exact optionRead_of_run hrun Video.h (.of_keep (by decide) (by simp) (by simp) fun _ _ _ => rfl) rfl
  · exact othersRead_of_run hrun Video.others ⟨by simp [Field.of, map_eq_ok_iff], fun _ _ _ => rfl⟩ rfl

structure Native.ReadFrom (o : Origin) (ms : List (Name × Document)) (n : Native) : Prop where
  request : OptionRead o ms ["request"] string n.request
  ver : OptionRead o ms ["ver"] string n.ver
  others : OthersRead o ms ["request", "ver"] n.others

theorem Native.readFrom_of_decoder {n : Native} (h : Native.decoder o doc = .ok n) :
    ∃ inner ms, o.enter = .ok inner ∧ doc = .object ms none ∧ n.ReadFrom inner ms := by
  obtain ⟨inner, ms, seen, hinner, hdoc, hrun, -⟩ := openRecord_eq_ok_iff.mp h
  refine ⟨inner, ms, hinner, hdoc, ?_, ?_, ?_⟩
  · exact optionRead_of_run hrun Native.request (.of_keep (by decide) (by simp) (by simp) fun _ _ _ => rfl) rfl
  · exact optionRead_of_run hrun Native.ver (.of_keep (by decide) (by simp) (by simp) fun _ _ _ => rfl) rfl
  · exact othersRead_of_run hrun Native.others ⟨by simp [Field.of, map_eq_ok_iff], fun _ _ _ => rfl⟩ rfl

/-! ## The impression -/

/-- The names of the members that an impression knows. -/
def Imp.known : List String :=
  ["id", "banner", "video", "audio", "native", "tagid", "bidfloor", "displaymanager", "displaymanagerver", "ext"]

structure Imp.ReadFrom (o : Origin) (ms : List (Name × Document)) (i : Imp) : Prop where
  id : PartRead o ms ["id"] string "" i.id
  banner : OptionRead o ms ["banner"] Banner.decoder i.banner
  video : OptionRead o ms ["video"] Video.decoder i.video
  native : OptionRead o ms ["native"] Native.decoder i.native
  others : OthersRead o ms Imp.known i.others

theorem Imp.readFrom_of_decoder {i : Imp} (h : Imp.decoder o doc = .ok i) :
    ∃ inner ms, o.enter = .ok inner ∧ doc = .object ms none ∧ i.ReadFrom inner ms := by
  obtain ⟨inner, ms, seen, hinner, hdoc, hrun, -⟩ := openRecord_eq_ok_iff.mp h
  refine ⟨inner, ms, hinner, hdoc, ?_, ?_, ?_, ?_, ?_⟩
  · exact partRead_of_run hrun Imp.id (.of_keep (by decide) (by simp) (by simp) fun _ _ _ => rfl)
      fun _ => not_mistyped
  · exact optionRead_of_run hrun Imp.banner (.of_keep (by decide) (by simp) (by simp) fun _ _ _ => rfl) rfl
  · exact optionRead_of_run hrun Imp.video (.of_keep (by decide) (by simp) (by simp) fun _ _ _ => rfl) rfl
  · exact optionRead_of_run hrun Imp.native (.of_keep (by decide) (by simp) (by simp) fun _ _ _ => rfl) rfl
  · exact othersRead_of_run hrun Imp.others ⟨by simp [Field.of, map_eq_ok_iff], fun _ _ _ => rfl⟩ rfl

/-! ## Where the ad is shown -/

structure Publisher.ReadFrom (o : Origin) (ms : List (Name × Document)) (p : Publisher) : Prop where
  others : OthersRead o ms ["id"] p.others

theorem Publisher.readFrom_of_decoder {p : Publisher} (h : Publisher.decoder o doc = .ok p) :
    ∃ inner ms, o.enter = .ok inner ∧ doc = .object ms none ∧ p.ReadFrom inner ms := by
  obtain ⟨inner, ms, seen, hinner, hdoc, hrun, -⟩ := openRecord_eq_ok_iff.mp h
  refine ⟨inner, ms, hinner, hdoc, ?_⟩
  constructor
  exact othersRead_of_run hrun Publisher.others ⟨by simp [Field.of, map_eq_ok_iff], fun _ _ _ => rfl⟩ rfl

structure Site.ReadFrom (o : Origin) (ms : List (Name × Document)) (s : Site) : Prop where
  id : OptionRead o ms ["id"] string s.id
  domain : OptionRead o ms ["domain"] string s.domain
  publisher : OptionRead o ms ["publisher"] Publisher.decoder s.publisher
  others : OthersRead o ms ["id", "domain", "publisher"] s.others

theorem Site.readFrom_of_decoder {s : Site} (h : Site.decoder o doc = .ok s) :
    ∃ inner ms, o.enter = .ok inner ∧ doc = .object ms none ∧ s.ReadFrom inner ms := by
  obtain ⟨inner, ms, seen, hinner, hdoc, hrun, -⟩ := openRecord_eq_ok_iff.mp h
  refine ⟨inner, ms, hinner, hdoc, ?_, ?_, ?_, ?_⟩
  · exact optionRead_of_run hrun Site.id (.of_keep (by decide) (by simp) (by simp) fun _ _ _ => rfl) rfl
  · exact optionRead_of_run hrun Site.domain (.of_keep (by decide) (by simp) (by simp) fun _ _ _ => rfl) rfl
  · exact optionRead_of_run hrun Site.publisher (.of_keep (by decide) (by simp) (by simp) fun _ _ _ => rfl) rfl
  · exact othersRead_of_run hrun Site.others ⟨by simp [Field.of, map_eq_ok_iff], fun _ _ _ => rfl⟩ rfl

structure App.ReadFrom (o : Origin) (ms : List (Name × Document)) (a : App) : Prop where
  id : OptionRead o ms ["id"] string a.id
  bundle : OptionRead o ms ["bundle"] string a.bundle
  publisher : OptionRead o ms ["publisher"] Publisher.decoder a.publisher
  ext : OptionRead o ms ["ext"] members a.ext
  others : OthersRead o ms ["id", "bundle", "publisher", "ext"] a.others

theorem App.readFrom_of_decoder {a : App} (h : App.decoder o doc = .ok a) :
    ∃ inner ms, o.enter = .ok inner ∧ doc = .object ms none ∧ a.ReadFrom inner ms := by
  obtain ⟨inner, ms, seen, hinner, hdoc, hrun, -⟩ := openRecord_eq_ok_iff.mp h
  refine ⟨inner, ms, hinner, hdoc, ?_, ?_, ?_, ?_, ?_⟩
  · exact optionRead_of_run hrun App.id (.of_keep (by decide) (by simp) (by simp) fun _ _ _ => rfl) rfl
  · exact optionRead_of_run hrun App.bundle (.of_keep (by decide) (by simp) (by simp) fun _ _ _ => rfl) rfl
  · exact optionRead_of_run hrun App.publisher (.of_keep (by decide) (by simp) (by simp) fun _ _ _ => rfl) rfl
  · exact optionRead_of_run hrun App.ext (.of_keep (by decide) (by simp) (by simp) fun _ _ _ => rfl) rfl
  · exact othersRead_of_run hrun App.others ⟨by simp [Field.of, map_eq_ok_iff], fun _ _ _ => rfl⟩ rfl

/-! ## The request ext -/

structure BidderCodes.ReadFrom (o : Origin) (ms : List (Name × Document)) (c : BidderCodes) : Prop where
  enabled : OptionRead o ms ["enabled"] bool c.enabled
  allowedbiddercodes : OptionRead o ms ["allowedbiddercodes"] (list string) c.allowedbiddercodes

theorem BidderCodes.readFrom_of_decoder {c : BidderCodes} (h : BidderCodes.decoder o doc = .ok c) :
    ∃ inner ms, ClosedForm ["enabled", "allowedbiddercodes"] doc ms ∧ c.ReadFrom inner ms := by
  obtain ⟨inner, ms, hform, hrun⟩ := recordRun_of_closedRecord (by decide) h
  refine ⟨inner, ms, hform, ?_, ?_⟩
  · exact hrun.optionRead BidderCodes.enabled (.of_passOver (by decide) (by simp) (by simp)) rfl
  · exact hrun.optionRead BidderCodes.allowedbiddercodes (.of_passOver (by decide) (by simp) (by simp)) rfl

structure AlternateCodes.ReadFrom (o : Origin) (ms : List (Name × Document)) (c : AlternateCodes) : Prop where
  enabled : OptionRead o ms ["enabled"] bool c.enabled
  bidders : OptionRead o ms ["bidders"] (table BidderCodes.decoder) c.bidders

theorem AlternateCodes.readFrom_of_decoder {c : AlternateCodes} (h : AlternateCodes.decoder o doc = .ok c) :
    ∃ inner ms, ClosedForm ["enabled", "bidders"] doc ms ∧ c.ReadFrom inner ms := by
  obtain ⟨inner, ms, hform, hrun⟩ := recordRun_of_closedRecord (by decide) h
  refine ⟨inner, ms, hform, ?_, ?_⟩
  · exact hrun.optionRead AlternateCodes.enabled (.of_passOver (by decide) (by simp) (by simp)) rfl
  · exact hrun.optionRead AlternateCodes.bidders (.of_passOver (by decide) (by simp) (by simp)) rfl

structure Prebid.ReadFrom (o : Origin) (ms : List (Name × Document)) (p : Prebid) : Prop where
  bidderparams : OptionRead o ms ["bidderparams"] members p.bidderparams
  /-- There is one member of the two names at most. -/
  alternatebiddercodes : ReadOnce o ms ["alternatebiddercodes", "alternateBidderCodes"]
    (optional AlternateCodes.decoder) none p.alternatebiddercodes
  others : OthersRead o ms ["bidderparams", "alternatebiddercodes", "alternateBidderCodes"] p.others

theorem Prebid.readFrom_of_decoder {p : Prebid} (h : Prebid.decoder o doc = .ok p) :
    ∃ inner ms, o.enter = .ok inner ∧ doc = .object ms none ∧ p.ReadFrom inner ms := by
  obtain ⟨inner, ms, seen, hinner, hdoc, hrun, -⟩ := openRecord_eq_ok_iff.mp h
  refine ⟨inner, ms, hinner, hdoc, ?_, ?_, ?_⟩
  · refine optionRead_of_run hrun Prebid.bidderparams (.of_keep (by decide) (by simp) ?_ fun _ _ _ => rfl) rfl
    simp [Field.Acts, Field.of, Field.names, map_eq_ok_iff]
    exact fun _ _ _ h _ => h
  · refine (recordRun_of_recordMembers hrun).readOnce Prebid.alternatebiddercodes
      (.of_keep (by decide) ?_ ?_ fun _ _ _ => rfl)
    · simp [Field.of, Field.names]
    · simp [Field.Acts, Field.of, Field.names, map_eq_ok_iff]
      exact fun _ _ _ h _ => h
  · exact othersRead_of_run hrun Prebid.others ⟨by simp [Field.of, map_eq_ok_iff], fun _ _ _ => rfl⟩ rfl

structure RequestExt.ReadFrom (o : Origin) (ms : List (Name × Document)) (e : RequestExt) : Prop where
  prebid : OptionRead o ms ["prebid"] Prebid.decoder e.prebid
  others : OthersRead o ms ["prebid"] e.others

theorem RequestExt.readFrom_of_decoder {e : RequestExt} (h : RequestExt.decoder o doc = .ok e) :
    ∃ inner ms, o.enter = .ok inner ∧ doc = .object ms none ∧ e.ReadFrom inner ms := by
  obtain ⟨inner, ms, seen, hinner, hdoc, hrun, -⟩ := openRecord_eq_ok_iff.mp h
  refine ⟨inner, ms, hinner, hdoc, ?_, ?_⟩
  · exact optionRead_of_run hrun RequestExt.prebid (.of_keep (by decide) (by simp) (by simp) fun _ _ _ => rfl) rfl
  · exact othersRead_of_run hrun RequestExt.others ⟨by simp [Field.of, map_eq_ok_iff], fun _ _ _ => rfl⟩ rfl

/-! ## The request -/

structure BidRequest.ReadFrom (o : Origin) (ms : List (Name × Document)) (r : BidRequest) : Prop where
  id : PartRead o ms ["id"] string "" r.id
  imp : PartRead o ms ["imp"] (list Imp.decoder) [] r.imp
  site : OptionRead o ms ["site"] Site.decoder r.site
  app : OptionRead o ms ["app"] App.decoder r.app
  ext : OptionRead o ms ["ext"] RequestExt.decoder r.ext
  others : OthersRead o ms ["id", "imp", "site", "app", "ext"] r.others

theorem BidRequest.readFrom_of_decoder {r : BidRequest} (h : BidRequest.decoder o doc = .ok r) :
    ∃ inner ms, o.enter = .ok inner ∧ doc = .object ms none ∧ r.ReadFrom inner ms := by
  obtain ⟨inner, ms, seen, hinner, hdoc, hrun, -⟩ := openRecord_eq_ok_iff.mp h
  refine ⟨inner, ms, hinner, hdoc, ?_, ?_, ?_, ?_, ?_, ?_⟩
  · exact partRead_of_run hrun BidRequest.id (.of_keep (by decide) (by simp) (by simp) fun _ _ _ => rfl)
      fun _ => not_mistyped
  · exact partRead_of_run hrun BidRequest.imp (.of_keep (by decide) (by simp) (by simp) fun _ _ _ => rfl)
      fun _ => not_mistyped
  · exact optionRead_of_run hrun BidRequest.site (.of_keep (by decide) (by simp) (by simp) fun _ _ _ => rfl) rfl
  · exact optionRead_of_run hrun BidRequest.app (.of_keep (by decide) (by simp) (by simp) fun _ _ _ => rfl) rfl
  · exact optionRead_of_run hrun BidRequest.ext (.of_keep (by decide) (by simp) (by simp) fun _ _ _ => rfl) rfl
  · exact othersRead_of_run hrun BidRequest.others ⟨by simp [Field.of, map_eq_ok_iff], fun _ _ _ => rfl⟩ rfl

end BidAdapter.OpenRtb
