import BidAdapter.Proofs.Slot.Banner
import Mathlib.Data.String.Basic

/-!
# All or nothing

A bid request becomes one outgoing request, or one problem of its sender, or nothing at all.

* `Passes`, `FailsFirst` : what the checks say of one impression, whatever stands beside it;
* `adaptImp_eq_ok_iff`, `adaptImp_eq_error_iff` : the two are what becomes of an impression;
* `badInput_of_failsFirst` : what the checks report is the sender's to mend;
* `mem_impIds`, `pairwise_impIds` : the names of an outgoing request are the set of the names of its impressions;
* `dispatch_all_or_nothing` : which of the three cases a bid request is, and what is in it.
-/

namespace BidAdapter

set_option autoImplicit false

open OpenRtb (BidRequest Imp Prebid)

/-! ## One impression -/

section Checks
variable {app : Option DisplayManager} {i out : Imp} {p : Problem}

/-- The impression passes all checks and goes out as `out`, made from its own parameters. -/
def Passes (app : Option DisplayManager) (i out : Imp) : Prop :=
  ∃ e, readImpExt i = .ok e ∧ checkMedia i = .ok () ∧ outgoingImp i e app = .ok out

/-- The first check that an impression fails, in the order of the checks, reports the problem. -/
inductive FailsFirst (app : Option DisplayManager) (i : Imp) (p : Problem) : Prop where
  | ext (h : readImpExt i = .error p)
  | media (e : ImpExt) (hext : readImpExt i = .ok e) (h : checkMedia i = .error p)
  | outgoing (e : ImpExt) (hext : readImpExt i = .ok e) (hmedia : checkMedia i = .ok ())
    (h : outgoingImp i e app = .error p)

theorem adaptImp_eq_ok_iff {r : ImpExt × Imp} :
    adaptImp app i = .ok r ↔
      readImpExt i = .ok r.1 ∧ checkMedia i = .ok () ∧ outgoingImp i r.1 app = .ok r.2 := by
  unfold adaptImp
  simp only [bind_eq_ok_iff, pure_eq_ok_iff]
  constructor
  · rintro ⟨e, hext, ⟨⟩, hmedia, out, hout, rfl⟩
    exact ⟨hext, hmedia, hout⟩
  · rintro ⟨hext, hmedia, hout⟩
    exact ⟨r.1, hext, (), hmedia, r.2, hout, rfl⟩

theorem adaptImp_eq_error_iff : adaptImp app i = .error p ↔ FailsFirst app i p := by
  unfold adaptImp
  simp only [bind_eq_error_iff]
  constructor
  · rintro (hext | ⟨e, hext, hmedia | ⟨⟨⟩, hmedia, hout | ⟨out, -, hpure⟩⟩⟩)
    · exact .ext hext
    · exact .media e hext hmedia
    · exact .outgoing e hext hmedia hout
    · cases hpure
  · rintro (hext | ⟨e, hext, hmedia⟩ | ⟨e, hext, hmedia, hout⟩)
    · exact Or.inl hext
    · exact Or.inr ⟨e, hext, Or.inl hmedia⟩
    · exact Or.inr ⟨e, hext, Or.inr ⟨(), hmedia, Or.inl hout⟩⟩

theorem passes_iff : Passes app i out ↔ ∃ e, adaptImp app i = .ok (e, out) := by
  simp only [Passes, adaptImp_eq_ok_iff]

/-! ## Who has to mend what a check reports -/

theorem badInput_of_readImpExt (h : readImpExt i = .error p) : p.kind = .badInput := by
  obtain ⟨e, -, rfl⟩ := mapError_eq_error_iff.mp h
  rfl

theorem badInput_of_checkMedia (h : checkMedia i = .error p) : p.kind = .badInput := by
  unfold checkMedia at h
  split at h <;> cases h
  rfl

theorem badInput_of_parse {slot : Option String} {hasBanner : Bool}
    (h : AdSlot.parse slot hasBanner = .error p) : p.kind = .badInput := by
  cases AdSlot.parse_eq_iff.mp h <;> rfl

/-- What the checks report is the sender's to mend. -/
theorem badInput_of_failsFirst (h : FailsFirst app i p) : p.kind = .badInput := by
  cases h with
  | ext h => exact badInput_of_readImpExt h
  | media e _ h => exact badInput_of_checkMedia h
  | outgoing e _ _ h =>
    rcases outgoingImp_fails_iff.mp h with ⟨-, rfl⟩ | ⟨-, hslot⟩
    · rfl
    · exact badInput_of_parse hslot

end Checks

/-! ## The names of the impressions -/

namespace OutgoingRequest

theorem mem_insertName {name n : String} {ns : List String} : n ∈ insertName name ns ↔ n = name ∨ n ∈ ns := by
  induction ns with
  | nil => simp [insertName]
  | cons m ns ih =>
    unfold insertName
    split_ifs with hlt heq
    · simp
    · subst heq
      simp
    · simp only [List.mem_cons, ih]
      exact or_left_comm

theorem pairwise_insertName {name : String} {ns : List String} (h : ns.Pairwise (· < ·)) :
    (insertName name ns).Pairwise (· < ·) := by
  induction ns with
  | nil => simp [insertName]
  | cons m ns ih =>
    unfold insertName
    obtain ⟨hm, hns⟩ := List.pairwise_cons.mp h
    split_ifs with hlt heq
    · refine List.pairwise_cons.mpr ⟨?_, h⟩
      intro n hn
      rcases List.mem_cons.mp hn with rfl | hn
      · exact hlt
      · exact hlt.trans (hm n hn)
    · exact h
    · refine List.pairwise_cons.mpr ⟨?_, ih hns⟩
      intro n hn
      rcases mem_insertName.mp hn with rfl | hn
      · exact lt_of_le_of_ne (not_lt.mp hlt) (Ne.symm heq)
      · exact hm n hn

variable (r : OutgoingRequest)

theorem mem_impIds {name : String} : name ∈ r.impIds ↔ ∃ i ∈ r.payload.imp, i.id = name := by
  unfold impIds
  rw [← List.mem_map]
  induction r.payload.imp.map Imp.id with
  | nil => simp
  | cons n ns ih => rw [List.foldr_cons, mem_insertName, ih, List.mem_cons]

theorem pairwise_impIds : r.impIds.Pairwise (· < ·) := by
  unfold impIds
  induction r.payload.imp.map Imp.id with
  | nil => exact List.Pairwise.nil
  | cons n ns ih => exact pairwise_insertName ih

end OutgoingRequest

/-! ## The dispatch -/

section Dispatching
variable {b : Bidder} {r : BidRequest}

/-- What the bidder finds under its name in the ext of the request. -/
def paramsOf (b : Bidder) (r : BidRequest) : Except ParamsError RequestParams :=
  RequestParams.ofPrebid (r.ext.bind fun e => e.prebid) b.name

/-- What becomes of the impressions of a request, up to the first that fails. -/
def adaptedImps (r : BidRequest) : Except Problem (List (ImpExt × Imp)) :=
  r.imp.mapM (adaptImp (DisplayManager.ofApp r.app))

/-- The outgoing request of impressions that pass. -/
def requestOf (b : Bidder) (r : BidRequest) (params : RequestParams) (imps : List (ImpExt × Imp)) : OutgoingRequest :=
  ⟨b.endpoint, outgoingPayload r (imps.map fun p => p.2) (Settings.resolve params (imps.map fun p => p.1))⟩

/-- The four cases of a dispatch: the parameters of the request come before its impressions. -/
inductive DispatchCase (b : Bidder) (r : BidRequest) : Dispatch → Prop where
  | params (e : ParamsError) (h : paramsOf b r = .error e) : DispatchCase b r (.rejected (.params e))
  | noImps (params : RequestParams) (h : paramsOf b r = .ok params) (himp : r.imp = []) : DispatchCase b r .idle
  | failing (params : RequestParams) (h : paramsOf b r = .ok params) (himp : r.imp ≠ []) (p : Problem)
    (hp : adaptedImps r = .error p) : DispatchCase b r (.rejected p)
  | passing (params : RequestParams) (h : paramsOf b r = .ok params) (himp : r.imp ≠ [])
    (imps : List (ImpExt × Imp)) (himps : adaptedImps r = .ok imps) :
    DispatchCase b r (.sends (requestOf b r params imps))

theorem payload_eq (b : Bidder) (r : BidRequest) :
    b.payload r = (paramsOf b r).mapError .params >>= fun params =>
      if r.imp.isEmpty then .ok none
      else adaptedImps r >>= fun imps => .ok (some (requestOf b r params imps).payload) := rfl

theorem dispatch_of_params_error {e : ParamsError} (h : paramsOf b r = .error e) :
    b.dispatch r = .rejected (.params e) := by
  rw [Bidder.dispatch, payload_eq, h]
  rfl

theorem dispatch_of_no_imps {params : RequestParams} (h : paramsOf b r = .ok params) (himp : r.imp = []) :
    b.dispatch r = .idle := by
  rw [Bidder.dispatch, payload_eq, h, himp]
  rfl

theorem dispatch_of_imps {params : RequestParams} (h : paramsOf b r = .ok params) (himp : r.imp ≠ []) :
    b.dispatch r = match adaptedImps r with
      | .error p => .rejected p
      | .ok imps => .sends (requestOf b r params imps) := by
  rw [Bidder.dispatch, payload_eq, h, mapError_eq_ok_iff.mpr rfl, ok_bind, if_neg (by rwa [List.isEmpty_iff])]
  cases adaptedImps r with
  | error p => rfl
  | ok imps => rfl

/-- A request among those of a dispatch is what it sends. -/
theorem Dispatch.eq_sends_of_mem {d : Dispatch} {out : OutgoingRequest} (h : out ∈ d.requests) : d = .sends out := by
  cases d with
  | sends r => rw [List.mem_singleton.mp h]
  | idle => cases h
  | rejected p => cases h

theorem dispatch_cases (b : Bidder) (r : BidRequest) : DispatchCase b r (b.dispatch r) := by
  cases hparams : paramsOf b r with
  | error e =>
    rw [dispatch_of_params_error hparams]
    exact .params e hparams
  | ok params =>
    by_cases himp : r.imp = []
    · rw [dispatch_of_no_imps hparams himp]
      exact .noImps params hparams himp
    · rw [dispatch_of_imps hparams himp]
      cases himps : adaptedImps r with
      | error p => exact .failing params hparams himp p himps
      | ok imps => exact .passing params hparams himp imps himps

/-- What is sent comes from parameters that can be used and from impressions that all pass. -/
theorem exists_of_sends {out : OutgoingRequest} (h : b.dispatch r = .sends out) :
    ∃ params imps, paramsOf b r = .ok params ∧ r.imp ≠ [] ∧ adaptedImps r = .ok imps ∧
      out = requestOf b r params imps := by
  have hcase := dispatch_cases b r
  rw [h] at hcase
  cases hcase with
  | passing params hparams himp imps himps => exact ⟨params, imps, hparams, himp, himps, rfl⟩

theorem adaptedImps_eq_error_iff {p : Problem} :
    adaptedImps r = .error p ↔ ∃ k, ∃ hk : k < r.imp.length,
      (∀ j (hj : j < k), ∃ out, Passes (DisplayManager.ofApp r.app) r.imp[j] out) ∧
        FailsFirst (DisplayManager.ofApp r.app) r.imp[k] p := by
  have hpass : ∀ i, (∃ q, adaptImp (DisplayManager.ofApp r.app) i = .ok q) ↔
      ∃ out, Passes (DisplayManager.ofApp r.app) i out := by
    intro i
    simp only [passes_iff]
    constructor
    · rintro ⟨q, hq⟩
      exact ⟨q.2, q.1, hq⟩
    · rintro ⟨out, e, hq⟩
      exact ⟨(e, out), hq⟩
  simp only [adaptedImps, mapM_eq_error_iff, hpass, adaptImp_eq_error_iff]

/-- What passes stands at the place of the impression that it is made from. -/
theorem passes_of_adaptedImps {imps : List (ImpExt × Imp)} (h : adaptedImps r = .ok imps) :
    List.Forall₂ (Passes (DisplayManager.ofApp r.app)) r.imp (imps.map fun p => p.2) := by
  have hadapted := mapM_eq_ok_iff.mp h
  rw [List.forall₂_map_right_iff]
  apply hadapted.imp
  intro i q hq
  exact passes_iff.mpr ⟨q.1, hq⟩

theorem passes_of_sends {out : OutgoingRequest} (h : b.dispatch r = .sends out) :
    List.Forall₂ (Passes (DisplayManager.ofApp r.app)) r.imp out.payload.imp := by
  obtain ⟨params, imps, -, -, himps, rfl⟩ := exists_of_sends h
  exact passes_of_adaptedImps himps

theorem passes_id {app : Option DisplayManager} {i out : Imp} (h : Passes app i out) : out.id = i.id := by
  obtain ⟨e, -, -, hout⟩ := h
  exact outgoingImp_id hout

theorem mem_id_of_passes {app : Option DisplayManager} {is outs : List Imp} (h : List.Forall₂ (Passes app) is outs)
    (name : String) : (∃ o ∈ outs, o.id = name) ↔ ∃ i ∈ is, i.id = name := by
  have hids : is.map Imp.id = outs.map Imp.id := by
    induction h with
    | nil => rfl
    | cons hhead _ ih => rw [List.map_cons, List.map_cons, passes_id hhead, ih]
  rw [← List.mem_map, ← List.mem_map, hids]

theorem passes_all_iff : (∃ imps, adaptedImps r = .ok imps) ↔
    ∀ i ∈ r.imp, ∃ out, Passes (DisplayManager.ofApp r.app) i out := by
  constructor
  · rintro ⟨imps, himps⟩ i hi
    obtain ⟨out, -, hout⟩ := exists_of_mem_left (passes_of_adaptedImps himps) hi
    exact ⟨out, hout⟩
  · intro h
    apply exists_eq_ok_of_not_error
    intro p hp
    obtain ⟨k, hk, -, hfails⟩ := adaptedImps_eq_error_iff.mp hp
    obtain ⟨out, hout⟩ := h _ (List.getElem_mem hk)
    obtain ⟨e, he⟩ := passes_iff.mp hout
    rw [adaptImp_eq_error_iff.mpr hfails] at he
    cases he

end Dispatching

/-- **All or nothing.** A dispatch sends one request or reports one problem of the sender, never both. Parameters that
cannot be used are all that is reported; without impressions nothing is asked for; else either every impression passes
and all of them go out, each in its place and made from its own parameters, or the first that does not is all that is
reported. The names of the request are the set of the names of the impressions. -/
theorem dispatch_all_or_nothing (b : Bidder) (r : BidRequest) :
    ((b.dispatch r).requests.length ≤ 1 ∧ (b.dispatch r).problems.length ≤ 1 ∧
      ((b.dispatch r).requests = [] ∨ (b.dispatch r).problems = []) ∧
      ∀ p ∈ (b.dispatch r).problems, p.kind = .badInput) ∧
    (∀ e, paramsOf b r = .error e →
      (b.dispatch r).requests = [] ∧ (b.dispatch r).problems = [.params e]) ∧
    (∀ params, paramsOf b r = .ok params → r.imp = [] →
      (b.dispatch r).requests = [] ∧ (b.dispatch r).problems = []) ∧
    (∀ params, paramsOf b r = .ok params → r.imp ≠ [] →
      (b.dispatch r).requests.length + (b.dispatch r).problems.length = 1 ∧
      ((b.dispatch r).requests ≠ [] ↔ ∀ i ∈ r.imp, ∃ out, Passes (DisplayManager.ofApp r.app) i out) ∧
      ∀ p, (b.dispatch r).problems = [p] ↔ ∃ k, ∃ hk : k < r.imp.length,
        (∀ j (hj : j < k), ∃ out, Passes (DisplayManager.ofApp r.app) r.imp[j] out) ∧
          FailsFirst (DisplayManager.ofApp r.app) r.imp[k] p) ∧
    (∀ out ∈ (b.dispatch r).requests,
      List.Forall₂ (Passes (DisplayManager.ofApp r.app)) r.imp out.payload.imp ∧
      out.impIds.Pairwise (· < ·) ∧ ∀ name, name ∈ out.impIds ↔ ∃ i ∈ r.imp, i.id = name) := by
  refine ⟨?_, fun e he => ?_, fun params hparams himp => ?_, fun params hparams himp => ?_, fun out hout => ?_⟩
  · have hcase := dispatch_cases b r
    generalize b.dispatch r = d at hcase
    cases hcase with
    | params e h => simp [Dispatch.requests, Dispatch.problems, Problem.kind]
    | noImps params h himp => simp [Dispatch.requests, Dispatch.problems]
    | failing params h himp p hp =>
      obtain ⟨k, hk, -, hfails⟩ := adaptedImps_eq_error_iff.mp hp
      simp [Dispatch.requests, Dispatch.problems, badInput_of_failsFirst hfails]
    | passing params h himp imps himps => simp [Dispatch.requests, Dispatch.problems]
  · rw [dispatch_of_params_error he]
    exact ⟨rfl, rfl⟩
  · rw [dispatch_of_no_imps hparams himp]
    exact ⟨rfl, rfl⟩
  · rw [dispatch_of_imps hparams himp, ← passes_all_iff]
    simp only [← adaptedImps_eq_error_iff]
    cases adaptedImps r with
    | error p => simp [Dispatch.requests, Dispatch.problems]
    | ok imps => simp [Dispatch.requests, Dispatch.problems]
  · have hsends : b.dispatch r = .sends out := Dispatch.eq_sends_of_mem hout
    obtain ⟨params, imps, -, -, himps, rfl⟩ := exists_of_sends hsends
    have hpasses := passes_of_adaptedImps himps
    refine ⟨hpasses, OutgoingRequest.pairwise_impIds _, ?_⟩
    intro name
    rw [OutgoingRequest.mem_impIds, ← mem_id_of_passes hpasses]
    rfl

/-- Of three impressions the first passes and the others have no medium: the second is reported, and nothing is sent. -/
theorem dispatch_reports_second :
    (Bidder.dispatch ⟨⟨"http".toList, [], true, none, none, ['/'], none, none⟩, "pubmatic"⟩
      { BidRequest.absent with
        imp := [{ Imp.absent with id := "1", video := some .absent }, { Imp.absent with id := "2" },
          { Imp.absent with id := "3" }] }).problems = [.unsupportedMedia "2"] := by
  refine (((dispatch_all_or_nothing _ _).2.2.2.1 .absent rfl (by simp)).2.2 _).mpr
    ⟨1, by decide, ?_, .media .absent rfl rfl⟩
  intro j hj
  have hzero : j = 0 := by omega
  subst hzero
  exact ⟨_, .absent, rfl, rfl, rfl⟩

end BidAdapter
