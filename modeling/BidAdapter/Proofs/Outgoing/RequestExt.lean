import BidAdapter.Proofs.OpenRtb.RequestRoundTrip
import BidAdapter.Proofs.Outgoing.RebuiltExt

/-!
# The outgoing request ext written and read back

* `plain_wrapperValue`, `plain_categoriesValue`, `plain_marketplaceValue` : what the settings add is plain;
* `roundTrips_settingsPrebid`, `keepable_extMembers` : the rebuilt parts of an ext that was read;
* `roundTrips_settingsExt` : the rebuilt ext is read back as it was written.
-/

namespace BidAdapter

set_option autoImplicit false

open Json
open OpenRtb

variable {kind : Number → Prop} {room : Nat} {s : Settings}

/-! ## What the settings add -/

theorem plain_ofStrings (ss : List String) : (Value.ofStrings ss).Plain kind (.text (room + 1)) := by
  have hround : RoundTrips kind (Decoder.list Decoder.string) Value.ofStrings (.text (room + 1)) ss :=
    roundTrips_strings rfl
  exact hround.plain

theorem plain_wrapper (hint : ∀ n fits, kind (.int n fits)) (w : Wrapper) :
    w.toJson.Plain kind (.text (room + 1)) := by
  refine .object rfl (by simp [Members.names]) ?_
  intro m hm
  simp only [List.mem_cons, List.not_mem_nil, or_false] at hm
  rcases hm with rfl | rfl
  · exact .number (hint _ _)
  · exact .number (hint _ _)

theorem plain_wrapperValue (hint : ∀ n fits, kind (.int n fits)) {v : Value} (h : s.wrapperValue = some v) :
    v.Plain kind (.text (room + 1)) := by
  obtain ⟨w, -, rfl⟩ := Option.map_eq_some_iff.mp h
  exact plain_wrapper hint w

theorem plain_categoriesValue {v : Value} (h : s.categoriesValue = some v) : v.Plain kind (.text (room + 1)) := by
  unfold Settings.categoriesValue at h
  split_ifs at h
  cases h
  exact plain_ofStrings _

theorem plain_marketplaceValue {v : Value} (h : s.marketplaceValue = some v) : v.Plain kind (.text (room + 2)) := by
  obtain ⟨bs, -, rfl⟩ := Option.map_eq_some_iff.mp h
  refine .object rfl (by simp [Members.names]) ?_
  intro m hm
  rw [List.mem_singleton.mp hm]
  exact plain_ofStrings bs

/-! ## The rebuilt parts -/

theorem plain_optional {o : Origin} {name : String} {x : Option Value} (hx : ∀ v, x = some v → v.Plain kind o) :
    ∀ m ∈ Members.optional name x, m.2.Plain kind o := by
  intro m hm
  cases x with
  | none => cases hm
  | some v =>
    rw [List.mem_singleton.mp hm]
    exact hx v rfl

theorem plain_bidderParams (hint : ∀ n fits, kind (.int n fits)) (s : Settings) :
    (Value.object s.bidderParams).Plain kind (.text (room + 2)) := by
  have hnames : (Members.names s.bidderParams).Nodup := List.Nodup.sublist s.names_bidderParams (by simp)
  refine .object rfl hnames ?_
  intro m hm
  rcases List.mem_append.mp hm with hm | hm
  · exact plain_optional (fun v hv => plain_wrapperValue hint hv) m hm
  · exact plain_optional (fun v hv => plain_categoriesValue hv) m hm

/-- The part for bidders is what was there, or made anew from the settings and from the codes that were there. -/
theorem roundTrips_settingsPrebid (hint : ∀ n fits, kind (.int n fits)) {incoming : Option Prebid} {p : Prebid}
    (hincoming : ∀ p, incoming = some p → RoundTrips kind Prebid.decoder Prebid.toJson (.text (room + 5)) p)
    (hcodes : ∀ p c, incoming = some p → p.alternatebiddercodes = some c → ∀ t, c.bidders = some t → t.Ordered)
    (h : s.prebid incoming = some p) : RoundTrips kind Prebid.decoder Prebid.toJson (.text (room + 5)) p := by
  unfold Settings.prebid at h
  dsimp only at h
  split at h
  · exact hincoming p h
  · cases h
    refine Prebid.roundTrips rfl ?_ ?_ .nil
    · intro ms hms
      dsimp only at hms
      split at hms
      · cases hms
      · cases hms
        exact plain_bidderParams hint s
    · intro c hc
      obtain ⟨hbind, -⟩ := Option.filter_eq_some_iff.mp hc
      obtain ⟨p, hp, hpc⟩ := Option.bind_eq_some_iff.mp hbind
      exact AlternateCodes.roundTrips (hcodes p c hp hpc)

theorem keepable_putSome {known : List String} {o : Origin} {ms : Members} {name : String} {x : Option Value}
    (h : Keepable kind o known ms) (hname : name ∉ known) (hx : ∀ v, x = some v → v.Plain kind o) :
    Keepable kind o known (ms.putSome name x) := by
  cases x with
  | none => exact h
  | some v => exact h.insert hname (hx v rfl)

theorem keepable_extMembers (hint : ∀ n fits, kind (.int n fits)) {incoming : Option RequestExt}
    (hincoming : ∀ e, incoming = some e → Keepable kind (.text (room + 2)) ["prebid"] e.others) :
    Keepable kind (.text (room + 2)) ["prebid"] (s.extMembers incoming) := by
  have hothers : Keepable kind (.text (room + 2)) ["prebid"] ((incoming.map fun e => e.others).getD []) := by
    cases incoming with
    | none => exact .nil
    | some e => exact hincoming e rfl
  unfold Settings.extMembers
  refine keepable_putSome ?_ (by decide) fun v hv => plain_marketplaceValue hv
  refine keepable_putSome ?_ (by decide) fun v hv => plain_categoriesValue hv
  refine keepable_putSome ?_ (by decide) fun v hv => plain_wrapperValue hint hv
  exact hothers.filter _

/-! ## The ext -/

/-- **The rebuilt ext is read back as it was written**, whatever the settings are. -/
theorem roundTrips_settingsExt (hint : ∀ n fits, kind (.int n fits)) {ms : List (Name × Document)}
    {incoming : Option RequestExt} {e : RequestExt} (hkind : OfKind kind ms)
    (hincoming : OptionRead (.text (room + 6)) ms ["ext"] RequestExt.decoder incoming) (h : s.ext incoming = some e) :
    RoundTrips kind RequestExt.decoder RequestExt.toJson (.text (room + 6)) e := by
  have hparts : ∀ e, incoming = some e → ∃ ms, OfKind kind ms ∧ e.ReadFrom (.text (room + 5)) ms := by
    refine hincoming.forall hkind ?_
    intro doc e he hdoc
    obtain ⟨inner, ms, hinner, rfl, hread⟩ := RequestExt.readFrom_of_decoder he
    cases hinner
    exact ⟨ms, .of_numbers hdoc, hread⟩
  rw [eq_of_ext h]
  refine RequestExt.roundTrips rfl ?_ ?_
  · intro p hp
    refine roundTrips_settingsPrebid hint ?_ ?_ hp
    · intro p hp
      obtain ⟨e, he, hep⟩ := Option.bind_eq_some_iff.mp hp
      obtain ⟨ms, hms, hread⟩ := hparts e he
      exact hread.prebid.forall hms (fun _ _ => Prebid.roundTrips_of_decoder) p hep
    · intro p c hp
      obtain ⟨e, he, hep⟩ := Option.bind_eq_some_iff.mp hp
      obtain ⟨ms, hms, hread⟩ := hparts e he
      exact hread.prebid.forall hms (fun _ _ h _ => Prebid.ordered_of_decoder h) p hep c
  · apply keepable_extMembers hint
    intro e he
    obtain ⟨ms, hms, hread⟩ := hparts e he
    exact hread.others.keepable hms

end BidAdapter
