import BidAdapter.Proofs.OpenRtb.RequestWriting
import BidAdapter.Proofs.Outgoing.RebuiltExt

/-!
# The ext that is rebuilt again

Rebuilding an ext a second time, with the same settings, changes the order of its members and nothing else.

* `keptOf_ext` : what stays of a rebuilt ext is what stayed of the first one, with the seats that may bid;
* `extMembers_ext` : the members of an ext that is rebuilt again, `extMembers_perm` : those of the ext before it;
* `prebid_prebid` : the part for bidders, whichever of its three shapes it has, is rebuilt as it is;
* `RequestExt.Reordered` : two exts that differ in the order of their members alone; `ext_rebuilt_again` : the ext that
  is rebuilt is one like that.
-/

namespace BidAdapter

set_option autoImplicit false

open Json (Members Value)
open OpenRtb (AlternateCodes Prebid RequestExt)

/-! ## Objects up to the order of their members -/

/-- The same members under the same names, in whatever order. -/
structure Json.Members.Reordered (ms ns : Members) : Prop where
  perm : ms.Perm ns
  get? : ∀ name, ms.get? name = ns.get? name

/-- Two objects with the same members, in whatever order. -/
inductive Json.Value.Reordered : Value → Value → Prop where
  | object {ms ns : Members} (h : ms.Reordered ns) : Reordered (.object ms) (.object ns)

theorem Json.Members.Reordered.append_left {ms ns : Members} (h : ms.Reordered ns) (before : Members) :
    Members.Reordered (before ++ ms) (before ++ ns) := by
  refine ⟨h.perm.append_left before, ?_⟩
  intro name
  rw [Members.get?_append, Members.get?_append, h.get?]

/-! ## The members beside the part for bidders -/

section Members
variable (s : Settings) (incoming : Option RequestExt)

theorem marketplace_not_mem_bidderParams : "marketplace" ∉ s.bidderParams.names := by
  intro h
  exact absurd (s.names_bidderParams.subset h) (by decide)

/-- The wrapper and the categories go behind what stays, and the seats that may bid behind them or in their place. -/
theorem extMembers_eq_append :
    s.extMembers incoming = (keptOf incoming ++ s.bidderParams).putSome "marketplace" s.marketplaceValue := by
  have hwrapper : "wrapper" ∉ (keptOf incoming).names := not_mem_names_keptOf (by decide)
  have hacat : "acat" ∉ Members.names (keptOf incoming ++ Members.optional "wrapper" s.wrapperValue) := by
    rw [Members.names_append, List.mem_append, not_or]
    refine ⟨not_mem_names_keptOf (by decide), ?_⟩
    intro h
    exact absurd ((Members.names_optional "wrapper" s.wrapperValue).subset h) (by decide)
  rw [extMembers_eq, putSome_of_not_mem hwrapper, putSome_of_not_mem hacat, List.append_assoc]
  rfl

theorem filter_keptOf :
    (keptOf incoming).filter (fun m => !rebuiltMembers.contains m.1) = keptOf incoming := by
  rw [keptOf, List.filter_filter]
  simp only [Bool.and_self]

theorem filter_rebuiltMembers_extMembers :
    (s.extMembers incoming).filter (fun m => !rebuiltMembers.contains m.1) =
      (keptOf incoming).putSome "marketplace" s.marketplaceValue := by
  rw [extMembers_eq, filter_putSome_of_not_mem (by decide), filter_putSome fun _ => by decide,
    filter_putSome fun _ => by decide, filter_keptOf]

/-- What stays when an ext is rebuilt again is what stayed of the first one, with the seats that may bid. -/
theorem keptOf_ext : keptOf (s.ext incoming) = (keptOf incoming).putSome "marketplace" s.marketplaceValue := by
  cases hout : s.ext incoming with
  | none =>
    obtain ⟨hincoming, -, -, hallowed⟩ := ext_eq_none_iff.mp hout
    have hnone : s.marketplaceValue = none := by rw [Settings.marketplaceValue, hallowed, Option.map_none]
    rw [hincoming, hnone]
    rfl
  | some out =>
    rw [← filter_rebuiltMembers_extMembers, eq_of_ext hout]
    rfl

/-- Rebuilt again, the wrapper and the categories stand last. -/
theorem extMembers_ext : s.extMembers (s.ext incoming) =
    (keptOf incoming).putSome "marketplace" s.marketplaceValue ++ s.bidderParams := by
  rw [extMembers_eq_append, keptOf_ext, putSome_append_putSome]

theorem extMembers_perm : (s.extMembers incoming).Perm (s.extMembers (s.ext incoming)) := by
  rw [extMembers_ext, extMembers_eq_append]
  exact putSome_append_perm (marketplace_not_mem_bidderParams s)

theorem extMembers_reordered : Members.Reordered (s.extMembers incoming) (s.extMembers (s.ext incoming)) := by
  refine ⟨extMembers_perm s incoming, ?_⟩
  intro name
  rw [extMembers_ext, extMembers_eq_append, Members.get?_append]
  by_cases hname : name = "marketplace"
  · subst hname
    have hnone := Members.get?_of_not_mem (marketplace_not_mem_bidderParams s)
    rw [get?_putSome_self, get?_putSome_self, Members.get?_append, hnone, Option.or_none, Option.or_none]
  · rw [get?_putSome_of_ne hname, get?_putSome_of_ne hname, Members.get?_append]

end Members

/-! ## The part for bidders -/

/-- Alternate codes that name a bidder still do. -/
theorem filter_hasBidders (c : Option AlternateCodes) :
    (c.filter AlternateCodes.hasBidders).filter AlternateCodes.hasBidders = c.filter AlternateCodes.hasBidders := by
  rw [Option.filter_filter]
  simp only [Bool.and_self]

/-- The part for bidders has one of three shapes, and each of them is rebuilt as it is. -/
theorem prebid_prebid (s : Settings) (p : Option Prebid) : s.prebid (s.prebid p) = s.prebid p := by
  by_cases hparams : s.bidderParams = []
  · cases hcodes : codesOf p with
    | none => rw [Settings.prebid_of_none hparams hcodes, Settings.prebid_of_none hparams hcodes]
    | some c =>
      rw [Settings.prebid_of_codes hparams hcodes]
      -- codes that name no bidder are gone, and what is left is a part without codes
      cases hfilter : (some c).filter AlternateCodes.hasBidders with
      | none => exact Settings.prebid_of_none hparams rfl
      | some d =>
        rw [Settings.prebid_of_codes hparams rfl, ← hfilter, filter_hasBidders]
  · have hcodes : codesOf (s.prebid p) = (codesOf p).filter AlternateCodes.hasBidders := by
      rw [Settings.prebid_of_params hparams]
      rfl
    rw [Settings.prebid_of_params hparams, hcodes, filter_hasBidders, Settings.prebid_of_params hparams]

/-! ## The ext -/

/-- Two exts that differ in the order of their members alone. -/
structure OpenRtb.RequestExt.Reordered (e e' : RequestExt) : Prop where
  prebid : e'.prebid = e.prebid
  others : e.others.Reordered e'.others
  written : e.toJson.Reordered e'.toJson

theorem reordered_of_others {p : Option Prebid} {ms ns : Members} (h : ms.Reordered ns) :
    RequestExt.Reordered ⟨p, ms⟩ ⟨p, ns⟩ := by
  refine ⟨rfl, h, ?_⟩
  rw [RequestExt.toJson_eq, RequestExt.toJson_eq]
  exact .object (h.append_left _)

/-- An ext that is there is rebuilt to one that is there. -/
theorem ext_some (s : Settings) (e : RequestExt) :
    s.ext (some e) = some ⟨s.prebid e.prebid, s.extMembers (some e)⟩ := by
  simp [Settings.ext]

theorem ext_ext_reordered (s : Settings) (incoming : Option RequestExt) :
    Option.Rel RequestExt.Reordered (s.ext incoming) (s.ext (s.ext incoming)) := by
  cases hout : s.ext incoming with
  | none =>
    obtain ⟨rfl, -⟩ := ext_eq_none_iff.mp hout
    rw [hout]
    exact .none
  | some out =>
    have hmembers := extMembers_reordered s incoming
    rw [hout] at hmembers
    have hprebid : s.prebid out.prebid = out.prebid := by
      rw [eq_of_ext hout]
      exact prebid_prebid s _
    rw [ext_some, hprebid]
    apply Option.Rel.some
    have hothers : out.others = s.extMembers incoming := by rw [eq_of_ext hout]
    rw [← hothers] at hmembers
    exact reordered_of_others hmembers

theorem extMembers_ext_ext (s : Settings) (incoming : Option RequestExt) :
    s.extMembers (s.ext (s.ext incoming)) = s.extMembers (s.ext incoming) := by
  rw [extMembers_ext, extMembers_ext, keptOf_ext, putSome_putSome_self]

/-- From the second time on not even the order changes. -/
theorem ext_ext_ext (s : Settings) (incoming : Option RequestExt) :
    s.ext (s.ext (s.ext incoming)) = s.ext (s.ext incoming) := by
  cases hout : s.ext incoming with
  | none =>
    obtain ⟨rfl, -⟩ := ext_eq_none_iff.mp hout
    rw [hout, hout]
  | some out =>
    have hmembers := extMembers_ext_ext s incoming
    rw [hout, ext_some] at hmembers
    rw [ext_some, ext_some, prebid_prebid, hmembers]

/-- **Rebuilding an ext is idempotent.** Whatever came in, an ext that is rebuilt again with the same settings is absent
if it was absent, and else it has the same part for bidders and the same other members, each as often as before and
with the same value; only their order may change, and that no more than once. -/
theorem ext_rebuilt_again (s : Settings) (incoming : Option RequestExt) :
    Option.Rel RequestExt.Reordered (s.ext incoming) (s.ext (s.ext incoming)) ∧
      s.ext (s.ext (s.ext incoming)) = s.ext (s.ext incoming) :=
  ⟨ext_ext_reordered s incoming, ext_ext_ext s incoming⟩

/-- The order does change: the seats that may bid, behind the wrapper at first, come to stand before it. -/
example :
    let s : Settings := ⟨none, some ⟨1, 2⟩, [], some ["a"]⟩
    (s.extMembers none).names = ["wrapper", "marketplace"] ∧
      (s.extMembers (s.ext none)).names = ["marketplace", "wrapper"] :=
  ⟨rfl, rfl⟩

end BidAdapter
