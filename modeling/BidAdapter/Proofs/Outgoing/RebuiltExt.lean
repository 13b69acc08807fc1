import BidAdapter.Outgoing.RequestExt
import BidAdapter.Proofs.Json.Members
import BidAdapter.Proofs.Text.Trimming

/-!
# The rebuilt request ext

What the settings write into the ext of a request stands in it twice, and all else is kept.

* `sentCategories_eq` : the categories that are sent are those that are not blank, trimmed;
* `SentCodes` : the alternate codes that go out, which are those that name a bidder;
* `RebuiltExt` : the ext that is sent beside the one that came in, member by member; `RebuiltPrebid` : the same of the
  part for bidders, whose wrapper and categories are those of the ext;
* `ext_rebuilt` : which ext is left absent, and that any other is rebuilt like that.
-/

namespace BidAdapter

set_option autoImplicit false

open Json (Members Value)
open OpenRtb (AlternateCodes Prebid RequestExt)

variable {s : Settings}

/-! ## Members -/

section Members
variable {ms : Members} {name n : String} {x : Option Value} {known : List String}

@[simp] theorem get?_putSome_self : (ms.putSome name x).get? name = x.or (ms.get? name) := by
  cases x with
  | none => rfl
  | some v => exact Members.get?_insert_self

@[simp] theorem get?_putSome_of_ne (h : n ≠ name) : (ms.putSome name x).get? n = ms.get? n := by
  cases x with
  | none => rfl
  | some v => exact Members.get?_insert_of_ne h

theorem filter_putSome (h : x.isSome → name ∈ known) :
    (ms.putSome name x).filter (fun m => !known.contains m.1) = ms.filter fun m => !known.contains m.1 := by
  cases x with
  | none => rfl
  | some v => exact Members.filter_insert (h rfl)

theorem filter_putSome_of_not_mem (h : name ∉ known) :
    (ms.putSome name x).filter (fun m => !known.contains m.1) =
      Members.putSome (ms.filter fun m => !known.contains m.1) name x := by
  cases x with
  | none => rfl
  | some v => exact Members.filter_insert_of_not_mem h

theorem putSome_of_not_mem (h : name ∉ ms.names) : ms.putSome name x = ms ++ Members.optional name x := by
  cases x with
  | none => exact (List.append_nil ms).symm
  | some v => exact Members.insert_of_not_mem h

theorem putSome_putSome_self : (ms.putSome name x).putSome name x = ms.putSome name x := by
  cases x with
  | none => rfl
  | some v => exact Members.insert_insert_self

/-- What is put in a second time is there before what has come behind it. -/
theorem putSome_append_putSome {ns : Members} :
    (ms.putSome name x ++ ns).putSome name x = ms.putSome name x ++ ns := by
  cases x with
  | none => rfl
  | some v =>
    have hname : name ∈ (ms.insert name v).names := Members.mem_names_insert.mpr (Or.inr rfl)
    have happend : Members.insert (ms.insert name v ++ ns) name v = (ms.insert name v).insert name v ++ ns :=
      Members.insert_append_of_mem hname
    rwa [Members.insert_insert_self] at happend

theorem putSome_append_perm {ns : Members} (h : name ∉ ns.names) :
    ((ms ++ ns).putSome name x).Perm (ms.putSome name x ++ ns) := by
  cases x with
  | none => exact List.Perm.refl _
  | some v => exact Members.insert_append_perm h

theorem nodup_putSome (h : ms.names.Nodup) : (ms.putSome name x).names.Nodup := by
  cases x with
  | none => exact h
  | some v => exact Members.nodup_insert h

theorem mem_names_putSome (h : n ∈ (ms.putSome name x).names) : n ∈ ms.names ∨ n = name := by
  cases x with
  | none => exact Or.inl h
  | some v => exact Members.mem_names_insert.mp h

theorem putSome_eq_nil_iff : ms.putSome name x = [] ↔ ms = [] ∧ x = none := by
  cases x with
  | none => simp [Json.Members.putSome]
  | some v => simp [Json.Members.putSome, Members.insert_ne_nil]

end Members

/-! ## What the settings write -/

namespace Settings

/-- Categories that are blank are left out, all others are trimmed. -/
theorem sentCategories_eq (s : Settings) :
    s.sentCategories = (s.categories.filter fun c => !Text.blank c).map Text.trim := by
  have hblank : ((fun t => decide (t ≠ "")) ∘ Text.trim) = fun c => !Text.blank c := by
    funext c
    rw [Function.comp, Text.trim, Text.blank, Bool.eq_iff_iff]
    simp [Text.trimChars_eq_nil_iff]
  rw [sentCategories, List.filter_map, hblank]

theorem categoriesValue_eq_none_iff : s.categoriesValue = none ↔ s.sentCategories = [] := by
  simp [categoriesValue]

theorem bidderParams_eq (s : Settings) :
    s.bidderParams = Members.typed [("wrapper", s.wrapperValue), ("acat", s.categoriesValue)] := by
  simp [bidderParams, Members.typed]

theorem names_bidderParams (s : Settings) : s.bidderParams.names.Sublist ["wrapper", "acat"] := by
  rw [bidderParams_eq]
  exact Members.names_typed _

theorem bidderParams_eq_nil_iff : s.bidderParams = [] ↔ s.wrapper = none ∧ s.sentCategories = [] := by
  have hoptional : ∀ (name : String) (x : Option Value), Members.optional name x = [] ↔ x = none := by
    intro name x
    cases x with
    | none => simp [Members.optional]
    | some v => simp [Members.optional]
  rw [bidderParams, List.append_eq_nil_iff, hoptional, hoptional, categoriesValue_eq_none_iff, wrapperValue,
    Option.map_eq_none_iff]

/-- The members beside the part for bidders that the settings write. -/
def ownMembers (s : Settings) : List String :=
  ["wrapper", "acat"] ++ if s.allowedBidders.isSome then ["marketplace"] else []

end Settings

theorem OpenRtb.AlternateCodes.hasBidders_iff {c : AlternateCodes} :
    c.hasBidders = true ↔ ∃ t, c.bidders = some t ∧ t ≠ [] := by
  unfold hasBidders
  cases c.bidders with
  | none => simp
  | some t => simp

/-! ## The ext -/

/-- The members of an ext beside the part for bidders. -/
def othersOf (incoming : Option RequestExt) : Members := (incoming.map fun e => e.others).getD []

def prebidOf (incoming : Option RequestExt) : Option Prebid := incoming.bind fun e => e.prebid

/-- The alternate codes of a part for bidders. -/
def codesOf (incoming : Option Prebid) : Option AlternateCodes := incoming.bind fun p => p.alternatebiddercodes

/-- The codes that go out, beside those that came in: they go out as they are where they name a bidder, and else not. -/
inductive SentCodes : Option AlternateCodes → Option AlternateCodes → Prop where
  | absent : SentCodes none none
  | nameless {c : AlternateCodes} (h : c.bidders = none ∨ c.bidders = some []) : SentCodes (some c) none
  | named {c : AlternateCodes} {t : Json.Table OpenRtb.BidderCodes} (h : c.bidders = some t) (ht : t ≠ []) :
    SentCodes (some c) (some c)

theorem sentCodes_filter (codes : Option AlternateCodes) : SentCodes codes (codes.filter AlternateCodes.hasBidders) := by
  cases codes with
  | none => exact .absent
  | some c =>
    cases hbidders : c.hasBidders with
    | true =>
      rw [Option.filter_some_pos hbidders]
      obtain ⟨t, ht, hne⟩ := AlternateCodes.hasBidders_iff.mp hbidders
      exact .named ht hne
    | false =>
      have hnone : ∀ t, c.bidders = some t → t = [] := by
        intro t ht
        by_contra hne
        rw [AlternateCodes.hasBidders_iff.mpr ⟨t, ht, hne⟩] at hbidders
        cases hbidders
      rw [Option.filter_some_neg (by simp [hbidders])]
      cases h : c.bidders with
      | none => exact .nameless (Or.inl h)
      | some t =>
        rw [hnone t h] at h
        exact .nameless (Or.inr h)

theorem SentCodes.eq_of_bidders {c : AlternateCodes} {codes : Option AlternateCodes} (h : SentCodes (some c) codes)
    (hbidders : ∃ t, c.bidders = some t ∧ t ≠ []) : codes = some c := by
  obtain ⟨t, ht, hne⟩ := hbidders
  cases h with
  | named => rfl
  | nameless hnone =>
    rw [ht] at hnone
    rcases hnone with hnone | hnone
    · cases hnone
    · exact absurd (Option.some.inj hnone) hne

/-- The part for bidders of the ext that is sent, with the members of that ext, beside the part that came in. -/
inductive RebuiltPrebid (s : Settings) (out : Members) (incoming : Option Prebid) : Option Prebid → Prop where
  /-- The wrapper and the categories, as they stand in the ext, and the codes that came in. -/
  | params (params : Members) (sent : Option AlternateCodes) (h : s.wrapper ≠ none ∨ s.sentCategories ≠ [])
    (hnames : params.names.Sublist ["wrapper", "acat"]) (hwrapper : params.get? "wrapper" = out.get? "wrapper")
    (hacat : params.get? "acat" = out.get? "acat") (hsent : SentCodes (codesOf incoming) sent) :
    RebuiltPrebid s out incoming (some ⟨some params, sent, []⟩)
  /-- The codes that came in and nothing else. -/
  | codes (c : AlternateCodes) (sent : Option AlternateCodes) (hwrapper : s.wrapper = none)
    (hacat : s.sentCategories = []) (h : codesOf incoming = some c) (hsent : SentCodes (some c) sent) :
    RebuiltPrebid s out incoming (some ⟨none, sent, []⟩)
  /-- The part that came in. -/
  | kept (hwrapper : s.wrapper = none) (hacat : s.sentCategories = []) (h : codesOf incoming = none) :
    RebuiltPrebid s out incoming incoming

/-- The ext that is sent, beside the ext that came in. -/
structure RebuiltExt (s : Settings) (incoming : Option RequestExt) (out : RequestExt) : Prop where
  /-- What the settings do not write is kept, in its order. -/
  kept : out.others.filter (fun m => !("prebid" :: s.ownMembers).contains m.1) =
    (othersOf incoming).filter fun m => !("prebid" :: s.ownMembers).contains m.1
  wrapper : out.others.get? "wrapper" =
    s.wrapper.map fun w => .object [("profile", .ofInt32 w.profile), ("version", .ofInt32 w.version)]
  acat : out.others.get? "acat" =
    if s.sentCategories = [] then none else some (.array (s.sentCategories.map .string))
  marketplace : ∀ bs, s.allowedBidders = some bs →
    out.others.get? "marketplace" = some (.object [("allowedbidders", .array (bs.map .string))])
  /-- The part for bidders is no member of the others, and no name stands twice where none did. -/
  prebidOnce : "prebid" ∉ out.others.names
  nodup : (othersOf incoming).names.Nodup → out.others.names.Nodup
  prebid : RebuiltPrebid s out.others (prebidOf incoming) out.prebid

namespace Settings
variable {incoming : Option Prebid}

theorem prebid_of_params (h : s.bidderParams ≠ []) : s.prebid incoming =
    some ⟨some s.bidderParams, (codesOf incoming).filter AlternateCodes.hasBidders, []⟩ := by
  simp [prebid, codesOf, h]

theorem prebid_of_codes (h : s.bidderParams = []) {c : AlternateCodes} (hcodes : codesOf incoming = some c) :
    s.prebid incoming = some ⟨none, (some c).filter AlternateCodes.hasBidders, []⟩ := by
  unfold codesOf at hcodes
  simp [prebid, h, hcodes]

theorem prebid_of_none (h : s.bidderParams = []) (hcodes : codesOf incoming = none) :
    s.prebid incoming = incoming := by
  unfold codesOf at hcodes
  unfold prebid
  rw [h, hcodes]
  rfl

end Settings

theorem rebuiltPrebid {out : Members} (incoming : Option Prebid) (hwrapper : out.get? "wrapper" = s.wrapperValue)
    (hacat : out.get? "acat" = s.categoriesValue) : RebuiltPrebid s out incoming (s.prebid incoming) := by
  by_cases hparams : s.bidderParams = []
  · obtain ⟨hnoWrapper, hnoCategories⟩ := Settings.bidderParams_eq_nil_iff.mp hparams
    cases hcodes : codesOf incoming with
    | none =>
      rw [Settings.prebid_of_none hparams hcodes]
      exact .kept hnoWrapper hnoCategories hcodes
    | some c =>
      rw [Settings.prebid_of_codes hparams hcodes]
      exact .codes c _ hnoWrapper hnoCategories hcodes (sentCodes_filter _)
  · have hset : s.wrapper ≠ none ∨ s.sentCategories ≠ [] := by
      rw [Settings.bidderParams_eq_nil_iff, not_and_or] at hparams
      exact hparams
    rw [Settings.prebid_of_params hparams]
    have hparamsEq := Settings.bidderParams_eq s
    refine .params s.bidderParams _ hset s.names_bidderParams ?_ ?_ (sentCodes_filter _)
    · rw [hparamsEq, hwrapper]
      exact Members.get?_typed_only (by simp) (by simp)
    · rw [hparamsEq, hacat]
      exact Members.get?_typed_only (by simp) (by simp)

/-- The members that stay: all but those that are written anew. -/
def keptOf (incoming : Option RequestExt) : Members := (othersOf incoming).filter fun m => !rebuiltMembers.contains m.1

theorem not_mem_names_keptOf {name : String} {incoming : Option RequestExt} (h : name ∈ rebuiltMembers) :
    name ∉ (keptOf incoming).names := by
  intro hname
  obtain ⟨m, hm, rfl⟩ := List.mem_map.mp hname
  simpa [h] using (List.mem_filter.mp hm).2

theorem extMembers_eq (s : Settings) (incoming : Option RequestExt) :
    s.extMembers incoming = (((keptOf incoming).putSome "wrapper" s.wrapperValue).putSome "acat"
      s.categoriesValue).putSome "marketplace" s.marketplaceValue := rfl

theorem get?_extMembers_wrapper (s : Settings) (incoming : Option RequestExt) :
    (s.extMembers incoming).get? "wrapper" = s.wrapperValue := by
  have hnone : (keptOf incoming).get? "wrapper" = none := Members.get?_of_not_mem (not_mem_names_keptOf (by decide))
  rw [extMembers_eq]
  simp [hnone]

theorem get?_extMembers_acat (s : Settings) (incoming : Option RequestExt) :
    (s.extMembers incoming).get? "acat" = s.categoriesValue := by
  have hnone : (keptOf incoming).get? "acat" = none := Members.get?_of_not_mem (not_mem_names_keptOf (by decide))
  rw [extMembers_eq]
  simp [hnone]

/-- What the settings do not write stays as it is. -/
theorem filter_extMembers (s : Settings) (incoming : Option RequestExt) :
    (s.extMembers incoming).filter (fun m => !("prebid" :: s.ownMembers).contains m.1) =
      (othersOf incoming).filter fun m => !("prebid" :: s.ownMembers).contains m.1 := by
  have hown : s.marketplaceValue.isSome → "marketplace" ∈ "prebid" :: s.ownMembers := by
    intro h
    have hallowed : s.allowedBidders.isSome := by simpa [Settings.marketplaceValue] using h
    simp [Settings.ownMembers, hallowed]
  rw [extMembers_eq, filter_putSome hown, filter_putSome fun _ => by simp [Settings.ownMembers],
    filter_putSome fun _ => by simp [Settings.ownMembers], keptOf, List.filter_filter]
  apply List.filter_congr
  intro m _
  -- the members that are written anew are among those of the settings, but for the part for bidders
  have hsub : m.1 ∈ rebuiltMembers → m.1 ∈ "prebid" :: s.ownMembers := by
    intro h
    simp only [rebuiltMembers, List.mem_cons, List.not_mem_nil, or_false] at h
    rcases h with h | h | h <;> simp [Settings.ownMembers, h]
  by_cases h : m.1 ∈ rebuiltMembers
  · simp [h, hsub h]
  · simp [h]

theorem prebid_not_mem_extMembers (s : Settings) (incoming : Option RequestExt) :
    "prebid" ∉ (s.extMembers incoming).names := by
  rw [extMembers_eq]
  intro h
  rcases mem_names_putSome h with h | h
  · rcases mem_names_putSome h with h | h
    · rcases mem_names_putSome h with h | h
      · exact not_mem_names_keptOf (by decide) h
      · exact absurd h (by decide)
    · exact absurd h (by decide)
  · exact absurd h (by decide)

theorem nodup_extMembers (s : Settings) {incoming : Option RequestExt} (h : (othersOf incoming).names.Nodup) :
    (s.extMembers incoming).names.Nodup := by
  rw [extMembers_eq]
  exact nodup_putSome (nodup_putSome (nodup_putSome (Members.nodup_filter _ h)))

theorem extMembers_eq_nil_iff {s : Settings} :
    s.extMembers none = [] ↔ s.wrapper = none ∧ s.sentCategories = [] ∧ s.allowedBidders = none := by
  rw [extMembers_eq, putSome_eq_nil_iff, putSome_eq_nil_iff, putSome_eq_nil_iff, Settings.categoriesValue_eq_none_iff,
    Settings.wrapperValue, Settings.marketplaceValue, Option.map_eq_none_iff, Option.map_eq_none_iff]
  have hkept : keptOf none = [] := rfl
  simp [hkept, and_assoc]

theorem rebuiltExt (s : Settings) (incoming : Option RequestExt) :
    RebuiltExt s incoming ⟨s.prebid (prebidOf incoming), s.extMembers incoming⟩ := by
  have hwrapper := get?_extMembers_wrapper s incoming
  have hacat := get?_extMembers_acat s incoming
  refine ⟨filter_extMembers s incoming, hwrapper, ?_, ?_, prebid_not_mem_extMembers s incoming, nodup_extMembers s,
    rebuiltPrebid _ hwrapper hacat⟩
  · dsimp only
    rw [hacat, Settings.categoriesValue]
    simp only [List.isEmpty_iff]
    rfl
  · intro bs hbs
    dsimp only
    rw [extMembers_eq, get?_putSome_self, Settings.marketplaceValue, hbs]
    rfl

/-- An ext is left absent where none came in and the settings write nothing. -/
theorem ext_eq_none_iff {incoming : Option RequestExt} : s.ext incoming = none ↔
    incoming = none ∧ s.wrapper = none ∧ s.sentCategories = [] ∧ s.allowedBidders = none := by
  cases incoming with
  | some e => simp [Settings.ext]
  | none =>
    have hext : s.ext none = none ↔ s.prebid none = none ∧ s.extMembers none = [] := by
      simp [Settings.ext, RequestExt.isEmpty]
    have hprebid : s.bidderParams = [] → s.prebid none = none := by
      intro hparams
      exact Settings.prebid_of_none hparams rfl
    rw [hext, extMembers_eq_nil_iff]
    constructor
    · rintro ⟨-, hnothing⟩
      exact ⟨rfl, hnothing⟩
    · rintro ⟨-, hwrapper, hcategories, hallowed⟩
      exact ⟨hprebid (Settings.bidderParams_eq_nil_iff.mpr ⟨hwrapper, hcategories⟩), hwrapper, hcategories, hallowed⟩

theorem eq_of_ext {incoming : Option RequestExt} {out : RequestExt} (h : s.ext incoming = some out) :
    out = ⟨s.prebid (prebidOf incoming), s.extMembers incoming⟩ := by
  unfold Settings.ext at h
  dsimp only at h
  split_ifs at h
  cases h
  rfl

theorem rebuiltExt_of_ext {incoming : Option RequestExt} {out : RequestExt} (h : s.ext incoming = some out) :
    RebuiltExt s incoming out := by
  rw [eq_of_ext h]
  exact rebuiltExt s incoming

/-- **The ext of a request is rebuilt.** None is sent where none came in and the settings write nothing. Any other ext
keeps what the settings do not write, in its order; the wrapper, the categories that are not blank and the seats that
may bid stand in it as the settings have them, whatever stood there; and the part for bidders has the same wrapper and
the same categories, beside the alternate codes that name a bidder, or those codes alone, or is what it was. -/
theorem ext_rebuilt (s : Settings) (incoming : Option RequestExt) :
    s.sentCategories = (s.categories.filter fun c => !Text.blank c).map Text.trim ∧
    (s.ext incoming = none ↔
      incoming = none ∧ s.wrapper = none ∧ s.sentCategories = [] ∧ s.allowedBidders = none) ∧
    ∀ out, s.ext incoming = some out → RebuiltExt s incoming out :=
  ⟨s.sentCategories_eq, ext_eq_none_iff, fun _ => rebuiltExt_of_ext⟩

/-- Alternate codes that name no bidder are read, and do not go out beside the wrapper of the settings. -/
theorem codes_without_bidders_dropped :
    ∃ incoming out : RequestExt,
      RequestExt.decoder.ofValue (.object [("prebid", .object [("alternatebiddercodes",
        .object [("enabled", .bool true), ("bidders", .object [])])])]) = .ok incoming ∧
      codesOf incoming.prebid = some ⟨some true, some []⟩ ∧
      Settings.ext ⟨none, some ⟨1, 2⟩, [], none⟩ (some incoming) = some out ∧ codesOf out.prebid = none :=
  ⟨_, _, rfl, rfl, rfl, rfl⟩

end BidAdapter
