import BidAdapter.Problem
import BidAdapter.Proofs.Params.Wrapper
import Mathlib.Data.Option.Basic

/-!
# What a request says to a bidder

* `OpenRtb.Prebid.paramOf` : what stands under a name among the parameters of a bidder;
* `CategoriesFrom`, `FirstContainer` : the blocked categories, and the entry at which they fail;
* `AllowedFrom`, `allowedCodes_eq_iff` : the seats that may bid, where bidding under other codes is switched on;
* `ParamsFrom`, `FirstFault` : all of it, and the fault that is reported where there are several;
* `params_of_prebid` : when the parameters fail and with which fault, and what they are else.
-/

namespace BidAdapter

set_option autoImplicit false

open Json
open OpenRtb (BidderCodes Prebid)

/-- What stands under a name among the parameters of a bidder: nothing where there are none, or where they are no
object. -/
def OpenRtb.Prebid.paramOf (p : Prebid) (bidder name : String) : Option Value :=
  (p.bidderparams.bind fun ms => ms.get? bidder).bind fun v => v.member? name

/-! ## Categories -/

/-- The text of a category. -/
inductive CategoryFrom : Value → String → Prop where
  | string (s : String) : CategoryFrom (.string s) (Text.trim s)
  | number (n : Number) : CategoryFrom (.number n) n.text
  | true : CategoryFrom (.bool true) "true"
  | false : CategoryFrom (.bool false) "false"
  | null : CategoryFrom .null ""

/-- The texts of an array, one for each item; what is no array has none. -/
inductive CategoriesFrom : Option Value → List String → Prop where
  | array {items : List Value} {texts : List String} (h : List.Forall₂ CategoryFrom items texts) :
    CategoriesFrom (some (.array items)) texts
  | other {x : Option Value} (h : ∀ items, x ≠ some (.array items)) : CategoriesFrom x []

/-- The first array or object among items. -/
def FirstContainer (items : List Value) (v : Value) : Prop :=
  ∃ k, ∃ hk : k < items.length, items[k] = v ∧ v.isContainer = true ∧ ∀ j (hj : j < k), items[j].isContainer = false

section Categories
variable {v : Value} {x : Option Value} {text : String} {texts : List String} {e : ParamsError}

theorem categoryText_eq_ok_iff : categoryText v = .ok text ↔ CategoryFrom v text := by
  constructor
  · intro h
    unfold categoryText at h
    split at h <;> cases h
    · exact .string _
    · exact .null
    · exact .number _
    · exact .true
    · exact .false
  · intro h
    cases h <;> rfl

theorem categoryText_eq_error_iff : categoryText v = .error e ↔ v.isContainer = true ∧ e = .category v := by
  unfold categoryText
  cases v with
  | bool b => cases b <;> simp [Value.isContainer]
  | array | object => simp [Value.isContainer, eq_comm]
  | _ => simp [Value.isContainer]

/-- An item has a text unless it is a container. -/
theorem exists_categoryText_iff : (∃ text, categoryText v = .ok text) ↔ v.isContainer = false := by
  cases h : categoryText v with
  | ok text =>
    refine iff_of_true ⟨text, rfl⟩ ?_
    by_contra hcontainer
    rw [Bool.not_eq_false] at hcontainer
    rw [categoryText_eq_error_iff.mpr ⟨hcontainer, rfl⟩] at h
    cases h
  | error e => simp [(categoryText_eq_error_iff.mp h).1]

theorem categoriesOf_eq_ok_iff : categoriesOf x = .ok texts ↔ CategoriesFrom x texts := by
  unfold categoriesOf
  split
  · rw [mapM_eq_ok_iff]
    simp only [categoryText_eq_ok_iff]
    refine ⟨.array, ?_⟩
    intro h
    cases h with
    | array h => exact h
    | other h => exact absurd rfl (h _)
  · next hother =>
    constructor
    · rintro ⟨⟩
      exact .other hother
    · intro h
      cases h with
      | array => exact absurd rfl (hother _)
      | other => rfl

theorem categoriesOf_eq_error_iff :
    categoriesOf x = .error e ↔ ∃ items v, x = some (.array items) ∧ FirstContainer items v ∧ e = .category v := by
  unfold categoriesOf
  split
  · next items =>
    rw [mapM_eq_error_iff]
    simp only [categoryText_eq_error_iff, exists_categoryText_iff, Option.some_inj, Value.array.injEq]
    constructor
    · rintro ⟨k, hk, hbefore, hcontainer, rfl⟩
      exact ⟨items, items[k], rfl, ⟨k, hk, rfl, hcontainer, hbefore⟩, rfl⟩
    · rintro ⟨_, _, rfl, ⟨k, hk, rfl, hcontainer, hbefore⟩, rfl⟩
      exact ⟨k, hk, hbefore, hcontainer, rfl⟩
  · next hother =>
    refine iff_of_false (by simp) ?_
    rintro ⟨items, v, hx, -⟩
    exact hother items hx

/-- Items with texts have no container among them. -/
theorem CategoriesFrom.isContainer {items : List Value} (h : CategoriesFrom (some (.array items)) texts)
    (hv : v ∈ items) : v.isContainer = false := by
  cases h with
  | array h =>
    obtain ⟨text, -, htext⟩ := exists_of_mem_left h hv
    cases htext <;> rfl
  | other h => exact absurd rfl (h items)

end Categories

/-! ## Other codes -/

section Codes
variable {p : Prebid} {bidder : String} {entry : BidderCodes}

/-- Bidding under other codes is on for all, and for the bidder, who has this entry. -/
inductive SwitchedOn (p : Prebid) (bidder : String) : BidderCodes → Prop where
  | intro {codes : OpenRtb.AlternateCodes} {bidders : Table BidderCodes} {entry : BidderCodes}
    (hcodes : p.alternatebiddercodes = some codes) (hall : codes.enabled = some true)
    (hbidders : codes.bidders = some bidders) (hentry : bidders.get? bidder = some entry)
    (hbidder : entry.enabled = some true) : SwitchedOn p bidder entry

/-- The seats that may bid: the bidder and the listed ones, or all where the entry lists none or the wildcard alone. -/
inductive AllowedFrom (p : Prebid) (bidder : String) : Option (List String) → Prop where
  | off (h : ∀ entry, ¬SwitchedOn p bidder entry) : AllowedFrom p bidder none
  | all {entry : BidderCodes} (hon : SwitchedOn p bidder entry)
    (h : entry.allowedbiddercodes = none ∨ entry.allowedbiddercodes = some ["*"]) : AllowedFrom p bidder (some ["all"])
  | listed {entry : BidderCodes} {allowed : List String} (hon : SwitchedOn p bidder entry)
    (hallowed : entry.allowedbiddercodes = some allowed) (h : allowed ≠ ["*"]) :
    AllowedFrom p bidder (some (bidder :: allowed))

theorem allowedCodes_of_switchedOn (h : SwitchedOn p bidder entry) :
    p.allowedCodes bidder = match entry.allowedbiddercodes with
      | none | some ["*"] => some ["all"]
      | some allowed => some (bidder :: allowed) := by
  obtain ⟨hcodes, hall, hbidders, hentry, hbidder⟩ := h
  have hguards := And.intro ((Option.guard_eq_some' ()).mpr hall) ((Option.guard_eq_some' ()).mpr hbidder)
  simp only [Prebid.allowedCodes, Option.bind_eq_bind, Option.bind_some, hcodes, hbidders, hentry, hguards]
  rfl

theorem switchedOn_of_allowedCodes {allowed : List String} (h : p.allowedCodes bidder = some allowed) :
    ∃ entry, SwitchedOn p bidder entry := by
  unfold Prebid.allowedCodes at h
  simp only [Option.bind_eq_bind, Option.bind_eq_some_iff, Option.guard_eq_some'] at h
  obtain ⟨codes, hcodes, -, hall, bidders, hbidders, entry, hentry, -, hbidder, -⟩ := h
  exact ⟨entry, hcodes, hall, hbidders, hentry, hbidder⟩

theorem allowedFrom_allowedCodes (p : Prebid) (bidder : String) : AllowedFrom p bidder (p.allowedCodes bidder) := by
  by_cases hon : ∃ entry, SwitchedOn p bidder entry
  · obtain ⟨entry, hon⟩ := hon
    rw [allowedCodes_of_switchedOn hon]
    split
    · next hnone => exact .all hon (Or.inl hnone)
    · next hwildcard => exact .all hon (Or.inr hwildcard)
    · next allowed hlisted hallowed => exact .listed hon hallowed hlisted
  · have hnone : p.allowedCodes bidder = none := by
      rw [Option.eq_none_iff_forall_ne_some]
      intro allowed h
      exact hon (switchedOn_of_allowedCodes h)
    rw [hnone]
    exact .off (not_exists.mp hon)

theorem allowedCodes_eq_iff {x : Option (List String)} : p.allowedCodes bidder = x ↔ AllowedFrom p bidder x := by
  constructor
  · rintro rfl
    exact allowedFrom_allowedCodes p bidder
  · intro h
    cases h with
    | off h =>
      rw [Option.eq_none_iff_forall_ne_some]
      intro allowed hallowed
      obtain ⟨entry, hon⟩ := switchedOn_of_allowedCodes hallowed
      exact h entry hon
    | all hon h =>
      rw [allowedCodes_of_switchedOn hon]
      rcases h with h | h
      · rw [h]
      · rw [h]
        rfl
    | listed hon hallowed h =>
      rw [allowedCodes_of_switchedOn hon, hallowed]
      split
      · next heq => cases heq
      · next heq =>
        cases heq
        exact absurd rfl h
      · next heq =>
        cases heq
        rfl

end Codes

/-! ## All parameters -/

/-- What a bidder finds under its name. -/
structure ParamsFrom (p : Prebid) (bidder : String) (r : RequestParams) : Prop where
  wrapper : Wrapper.ReadFrom (p.paramOf bidder "wrapper") r.wrapper
  categories : CategoriesFrom (p.paramOf bidder "acat") r.categories
  allowedBidders : AllowedFrom p bidder r.allowedBidders

/-- Something is wrong with the parameters: a field of the wrapper is a text without a number, or a category is a
container. -/
inductive Faulty (p : Prebid) (bidder : String) : Prop where
  | wrapper {ms : Members} {s : String} (hobject : p.paramOf bidder "wrapper" = some (.object ms))
    (hfield : ms.get? "profile" = some (.string s) ∨ ms.get? "version" = some (.string s)) (hs : ¬Text.IsInt32 s)
  | category {items : List Value} {v : Value} (harray : p.paramOf bidder "acat" = some (.array items)) (hv : v ∈ items)
    (hcontainer : v.isContainer = true)

/-- The fault that is reported: that of the wrapper, and the first container only where the wrapper has none. -/
inductive FirstFault (p : Prebid) (bidder : String) : ParamsError → Prop where
  | wrapper {s : String} (h : Wrapper.FaultIn (p.paramOf bidder "wrapper") s) :
    FirstFault p bidder (.wrapper (.notInteger s))
  | category {w : Option Wrapper} {items : List Value} {v : Value}
    (hwrapper : Wrapper.ReadFrom (p.paramOf bidder "wrapper") w) (harray : p.paramOf bidder "acat" = some (.array items))
    (h : FirstContainer items v) : FirstFault p bidder (.category v)

section Params
variable {p : Prebid} {bidder : String} {e : ParamsError} {r : RequestParams}

theorem ofPrebid_eq (p : Prebid) (bidder : String) :
    RequestParams.ofPrebid (some p) bidder = Wrapper.ofMember (p.paramOf bidder "wrapper") >>= fun wrapper =>
      categoriesOf (p.paramOf bidder "acat") >>= fun categories =>
        .ok ⟨wrapper, categories, p.allowedCodes bidder⟩ := by
  have hmember (x : Option Value) (name : String) : (x.getD .null).member? name = x.bind fun v => v.member? name := by
    cases x with
    | none => rfl
    | some v => rfl
  unfold RequestParams.ofPrebid Prebid.paramOf
  simp only [hmember]
  rfl

theorem ofPrebid_eq_ok_iff : RequestParams.ofPrebid (some p) bidder = .ok r ↔ ParamsFrom p bidder r := by
  rw [ofPrebid_eq]
  simp only [bind_eq_ok_iff, Wrapper.ofMember_eq_ok_iff, categoriesOf_eq_ok_iff, Except.ok.injEq]
  constructor
  · rintro ⟨wrapper, hwrapper, categories, hcategories, rfl⟩
    exact ⟨hwrapper, hcategories, allowedFrom_allowedCodes p bidder⟩
  · intro h
    refine ⟨r.wrapper, h.wrapper, r.categories, h.categories, ?_⟩
    rw [allowedCodes_eq_iff.mpr h.allowedBidders]

theorem ofPrebid_eq_error_iff : RequestParams.ofPrebid (some p) bidder = .error e ↔ FirstFault p bidder e := by
  rw [ofPrebid_eq]
  simp only [bind_eq_error_iff, Wrapper.ofMember_eq_error_iff, Wrapper.ofMember_eq_ok_iff, categoriesOf_eq_error_iff]
  constructor
  · rintro (⟨s, h, rfl⟩ | ⟨w, hw, ⟨items, v, harray, h, rfl⟩ | ⟨_, _, ⟨⟩⟩⟩)
    · exact .wrapper h
    · exact .category hw harray h
  · intro h
    cases h with
    | wrapper h => exact Or.inl ⟨_, h, rfl⟩
    | category hw harray h => exact Or.inr ⟨_, hw, Or.inl ⟨_, _, harray, h, rfl⟩⟩

theorem FirstFault.faulty (h : FirstFault p bidder e) : Faulty p bidder := by
  cases h with
  | wrapper h =>
    generalize hx : p.paramOf bidder "wrapper" = x at h
    cases h with
    | profile hget hs => exact .wrapper hx (Or.inl hget) hs
    | version _ hget hs => exact .wrapper hx (Or.inr hget) hs
  | category _ harray h =>
    obtain ⟨k, hk, rfl, hcontainer, -⟩ := h
    exact .category harray (List.getElem_mem hk) hcontainer

/-- Parameters that are read have no fault. -/
theorem ParamsFrom.not_faulty (h : ParamsFrom p bidder r) : ¬Faulty p bidder := by
  rintro (⟨hobject, hfield, hs⟩ | ⟨harray, hv, hcontainer⟩)
  · have hwrapper := h.wrapper
    rw [hobject] at hwrapper
    generalize r.wrapper = w at hwrapper
    cases hwrapper with
    | object hprofile hversion =>
      rcases hfield with hget | hget
      · rw [hget] at hprofile
        exact hs hprofile.isInt32
      · rw [hget] at hversion
        exact hs hversion.isInt32
    | other _ hother => exact absurd rfl (hother _)
  · have hcategories := h.categories
    rw [harray] at hcategories
    rw [hcategories.isContainer hv] at hcontainer
    cases hcontainer

end Params

/-- **What a bidder finds in the ext of a request.** The parameters fail exactly where a field of the wrapper is a text
without a number or a category is a container. What is reported is the sender's to mend and names the first fault: that
of the profile before that of the version, and both before that of a category. Else they are the wrapper, the texts of
the categories and the seats that may bid. -/
theorem params_of_prebid (p : Prebid) (bidder : String) :
    ((∃ e, RequestParams.ofPrebid (some p) bidder = .error e) ↔ Faulty p bidder) ∧
      (∀ q, (RequestParams.ofPrebid (some p) bidder).mapError Problem.params = .error q ↔
        ∃ e, FirstFault p bidder e ∧ q = .params e) ∧
      (∀ e, (Problem.params e).kind = .badInput ∧
        (Problem.params e).message = "Error converting bidder params in Pubmatic extension: " ++ e.message) ∧
      ∀ r, RequestParams.ofPrebid (some p) bidder = .ok r ↔ ParamsFrom p bidder r := by
  refine ⟨⟨?_, ?_⟩, ?_, fun e => ⟨rfl, rfl⟩, fun r => ofPrebid_eq_ok_iff⟩
  · rintro ⟨e, he⟩
    exact (ofPrebid_eq_error_iff.mp he).faulty
  · intro hfaulty
    by_contra hnone
    obtain ⟨r, hr⟩ := exists_eq_ok_of_not_error (not_exists.mp hnone)
    exact (ofPrebid_eq_ok_iff.mp hr).not_faulty hfaulty
  · intro q
    rw [mapError_eq_error_iff]
    refine exists_congr fun e => ?_
    rw [ofPrebid_eq_error_iff, eq_comm (a := Problem.params e)]

end BidAdapter
