import BidAdapter.Proofs.Decimal.Exponents
import BidAdapter.Proofs.Dispatch

/-!
# Floors

* `SlotFloor`, `Resolved` : what the text of a slot's floor says, and what comes of it beside the existing floor;
* `bidfloors_kept` : a floor is never lowered and never lost;
* `floorTexts_taken` : a text is a floor if it is a numeral that fits, every other text leaves the existing floor as it
  is, and no text decides what else becomes of a request.
-/

namespace BidAdapter

set_option autoImplicit false

open Decimal (Fits Numeral Near Unfit)
open OpenRtb (BidRequest Imp)

variable {text : String} {slot existing : Option Decimal} {k e : Decimal}

/-! ## Texts -/

/-- The two readers of a floor's text, without the blanks around it: the second is asked where the first refuses. -/
inductive SlotFloor (text : String) : Option Decimal → Prop where
  | blank (h : Text.blank text = true) : SlotFloor text none
  | plain {k : Decimal} (h : Decimal.plain? (Text.trimChars text.toList) = some k) : SlotFloor text (some k)
  | scientific {k : Decimal} (hplain : Decimal.plain? (Text.trimChars text.toList) = none)
    (h : Decimal.scientific? (Text.trimChars text.toList) = some k) : SlotFloor text (some k)
  | refused (hplain : Decimal.plain? (Text.trimChars text.toList) = none)
    (h : Decimal.scientific? (Text.trimChars text.toList) = none) : SlotFloor text none

theorem slotFloor_iff : SlotFloor text slot ↔ slot = floorOf text := by
  unfold floorOf Decimal.ofText?
  constructor
  · intro h
    cases h with
    | blank h =>
      rw [Text.trimChars_eq_nil_iff.mpr (List.all_eq_true.mp h)]
      decide
    | plain h => rw [h, Option.some_or]
    | scientific hplain h => rw [hplain, Option.none_or, h]
    | refused hplain h => rw [hplain, Option.none_or, h]
  · rintro rfl
    cases hplain : Decimal.plain? (Text.trimChars text.toList) with
    | some k => exact .plain hplain
    | none =>
      rw [Option.none_or]
      cases h : Decimal.scientific? (Text.trimChars text.toList) with
      | some k => exact .scientific hplain h
      | none => exact .refused hplain h

/-! ## Two floors -/

/-- The larger of the slot's floor and the existing one, by their values; of equal ones the slot's. -/
inductive Resolved : Option Decimal → Option Decimal → Option Decimal → Prop where
  | unset (existing : Option Decimal) : Resolved none existing existing
  | alone (k : Decimal) : Resolved (some k) none (some k)
  | slot {k e : Decimal} (h : e.value ≤ k.value) : Resolved (some k) (some e) (some k)
  | existing {k e : Decimal} (h : k.value < e.value) : Resolved (some k) (some e) (some e)

theorem resolved_largerFloor (slot existing : Option Decimal) : Resolved slot existing (largerFloor slot existing) := by
  cases slot with
  | none => exact .unset existing
  | some k =>
    cases existing with
    | none => exact .alone k
    | some e =>
      rw [largerFloor, Decimal.max_eq]
      split_ifs with hle
      · exact .slot hle
      · exact .existing (not_le.mp hle)

theorem Resolved.le {f : Option Decimal} (h : Resolved slot (some e) f) : ∃ k, f = some k ∧ e.value ≤ k.value := by
  cases h with
  | unset => exact ⟨e, rfl, le_rfl⟩
  | slot h => exact ⟨_, rfl, h⟩
  | existing h => exact ⟨e, rfl, le_rfl⟩

theorem outgoingImp_bidfloor {i out : Imp} {ext : ImpExt} {app : Option DisplayManager}
    (h : outgoingImp i ext app = .ok out) : out.bidfloor = resolveFloor ext.slot.floor i.bidfloor := by
  obtain ⟨tagid, banner, rfl⟩ := outgoingImp_eq_draft h
  rfl

/-- **No floor is lowered.** What the slot's text says resolves with the existing floor to the larger of the two,
whatever their scales and signs, and the existing floor stays where the text says nothing. So every impression that goes
out with a request has a floor if it came with one, and not a smaller one. -/
theorem bidfloors_kept (text : String) (existing : Option Decimal) :
    (∃ slot, SlotFloor text slot) ∧
      (∀ slot, SlotFloor text slot → Resolved slot existing (resolveFloor (some text) existing)) ∧
      ∀ b r, ∀ out ∈ (Bidder.dispatch b r).requests,
        List.Forall₂ (fun i o => ∀ e, i.bidfloor = some e → ∃ f, o.bidfloor = some f ∧ e.value ≤ f.value) r.imp
          out.payload.imp := by
  refine ⟨⟨floorOf text, slotFloor_iff.mpr rfl⟩, ?_, ?_⟩
  · intro slot hslot
    rw [slotFloor_iff.mp hslot]
    exact resolved_largerFloor (floorOf text) existing
  · intro b r out hout
    apply (passes_of_sends (Dispatch.eq_sends_of_mem hout)).imp
    rintro i o ⟨ext, -, -, ho⟩ e he
    rw [outgoingImp_bidfloor ho, he]
    exact (resolved_largerFloor (ext.slot.floor.bind floorOf) (some e)).le

/-- One, with one place and with two. -/
def onePlace : Decimal := ⟨false, 10, 1, by decide, by decide⟩

def twoPlaces : Decimal := ⟨false, 100, 2, by decide, by decide⟩

/-- Of equal floors the slot's is kept, not the existing one with its scale. -/
theorem equal_floors_slot : floorOf "1.0" = some onePlace ∧ onePlace.value = twoPlaces.value ∧
    resolveFloor (some "1.0") (some twoPlaces) ≠ some twoPlaces := by
  refine ⟨by decide, ?_, by decide⟩
  norm_num [Decimal.value, Decimal.signed, onePlace, twoPlaces]

/-- An impression with a floor, whose slot has a smaller one. -/
def loweredFloor : BidRequest :=
  { BidRequest.absent with
    imp := [{ Imp.absent with
      id := "1", video := some .absent, bidfloor := some twoPlaces
      ext := some [("bidder", .object [("kadfloor", .string " 99e-2 ")])] }] }

theorem bidfloors_kept_of_lower :
    Resolved (some ⟨false, 99, 2, by decide, by decide⟩) (some twoPlaces)
        (resolveFloor (some " 99e-2 ") (some twoPlaces)) ∧
      ∃ out, Bidder.dispatch ⟨⟨"http".toList, [], true, none, none, ['/'], none, none⟩, "pubmatic"⟩ loweredFloor =
          .sends out ∧
        List.Forall₂ (fun i o => ∀ e, i.bidfloor = some e → ∃ f, o.bidfloor = some f ∧ e.value ≤ f.value)
          loweredFloor.imp out.payload.imp := by
  obtain ⟨-, hresolved, hall⟩ := bidfloors_kept " 99e-2 " (some twoPlaces)
  exact ⟨hresolved _ (.scientific (by decide) (by decide)), _, rfl, hall _ loweredFloor _ (List.mem_singleton.mpr rfl)⟩

/-! ## Any text -/

def ImpExt.withoutFloor (ext : ImpExt) : ImpExt :=
  { ext with bidder := ext.bidder.map fun slot => { slot with floor := none } }

theorem slot_withoutFloor (ext : ImpExt) : ext.withoutFloor.slot = { ext.slot with floor := none } := by
  obtain ⟨bidder, data, ae, gpid⟩ := ext
  cases bidder with
  | none => rfl
  | some slot => rfl

theorem keywordMap_withoutFloor (ext : ImpExt) : ext.withoutFloor.keywordMap = ext.keywordMap := by
  unfold ImpExt.keywordMap
  rw [slot_withoutFloor]
  rfl

theorem withAdSlot_bidfloor (i draft : Imp) (slot : Option AdSlot) (f : Option Decimal) :
    withAdSlot i { draft with bidfloor := f } slot = { withAdSlot i draft slot with bidfloor := f } := by
  unfold withAdSlot
  split
  · rfl
  · split
    · rfl
    · rfl

/-- The floor's text decides nothing but the floor. -/
theorem outgoingImp_withoutFloor (i : Imp) (ext : ImpExt) (app : Option DisplayManager) :
    outgoingImp i ext app = (outgoingImp i ext.withoutFloor app).map fun o =>
      { o with bidfloor := resolveFloor ext.slot.floor i.bidfloor } := by
  unfold outgoingImp
  rw [keywordMap_withoutFloor, slot_withoutFloor]
  cases outgoingBanner i.banner with
  | error p => rfl
  | ok banner =>
    rw [ok_bind, ok_bind]
    cases AdSlot.parse ext.slot.adSlot i.banner.isSome with
    | error p => rfl
    | ok slot =>
      exact congrArg Except.ok
        (withAdSlot_bidfloor i { draftImp i ext app banner with bidfloor := resolveFloor none i.bidfloor } slot _)

theorem resolveFloor_of_numeral {q : ℚ} {n : ℤ} (h : Numeral (Text.trimChars text.toList) q n) :
    (Fits q n → ∃ d, d.Near (q * 10 ^ n) ∧ resolveFloor (some text) existing = some (existing.elim d d.max)) ∧
      (¬Fits q n → resolveFloor (some text) existing = existing) := by
  have hread : Decimal.Read q n (floorOf text) := Decimal.read_of_numeral h
  unfold resolveFloor
  rw [Option.bind_some]
  generalize floorOf text = slot at hread ⊢
  cases hread with
  | @kept d hfits hnear =>
    refine ⟨fun _ => ⟨d, hnear, ?_⟩, fun hno => absurd hfits hno⟩
    cases existing with
    | none => rfl
    | some e => rfl
  | ignored hno => exact ⟨fun hfits => absurd hfits hno, fun _ => rfl⟩

/-- **Any text will do for a floor.** A numeral that fits is taken as a decimal next to the number that it writes, with
the existing floor or alone. All other texts leave the existing floor as it is: numerals whose number does not fit,
however many digits they have and whatever the exponent, and what is no numeral. And no text decides anything else: the
impression goes out, or is refused, as it does without the text, and the request as a whole has one of its four ends. -/
theorem floorTexts_taken (text : String) (existing : Option Decimal) :
    (∀ q n, Numeral (Text.trimChars text.toList) q n →
      (Fits q n → ∃ d, d.Near (q * 10 ^ n) ∧ resolveFloor (some text) existing = some (existing.elim d d.max)) ∧
        (¬Fits q n → resolveFloor (some text) existing = existing)) ∧
      ((∀ q n, ¬Numeral (Text.trimChars text.toList) q n) → resolveFloor (some text) existing = existing) ∧
      (∀ i ext app, outgoingImp i ext app = (outgoingImp i ext.withoutFloor app).map fun o =>
        { o with bidfloor := resolveFloor ext.slot.floor i.bidfloor }) ∧
      ∀ b r, DispatchCase b r (b.dispatch r) := by
  refine ⟨fun q n h => resolveFloor_of_numeral h, ?_, outgoingImp_withoutFloor, dispatch_cases⟩
  intro hno
  have hnone : floorOf text = none := by
    by_contra hne
    obtain ⟨d, hd⟩ := Option.ne_none_iff_exists'.mp hne
    obtain ⟨q, n, h⟩ := Decimal.numeral_of_ofText? hd
    exact hno q n h
  unfold resolveFloor
  rw [Option.bind_some, hnone]
  rfl

/-- A number that its exponent makes too large, one that has a place more by its exponent than a decimal, and none. -/
theorem floorTexts_taken_of_exponents :
    Numeral (Text.trimChars " 9e28".toList) 9 28 ∧ ¬Fits 9 28 ∧
      resolveFloor (some " 9e28") (some onePlace) = some onePlace ∧
      Numeral (Text.trimChars "+2.5E-28 ".toList) (5 / 2) (-28) ∧ Fits (5 / 2) (-28) ∧
      (∃ d : Decimal, d.Near (5 / 2 * 10 ^ (-28 : ℤ)) ∧
        resolveFloor (some "+2.5E-28 ") (some onePlace) = some (d.max onePlace)) ∧
      (∀ q n, ¬Numeral (Text.trimChars " ".toList) q n) ∧ resolveFloor (some " ") (some onePlace) = some onePlace := by
  have hnine : Decimal.Unsigned "9".toList 9 := by
    have hwhole : Decimal.Unsigned ['9'] (9 : Nat) := .whole (.digit rfl .nil) (List.cons_ne_nil _ _)
    exact_mod_cast hwhole
  have hhalves : Decimal.Unsigned "2.5".toList (5 / 2) := by
    have hpoint : Decimal.Unsigned (['2'] ++ '.' :: ['5']) ((25 : Nat) / 10 ^ 1) :=
      .point (.digit rfl .nil) (.digit rfl .nil) (Or.inl (List.cons_ne_nil _ _))
    norm_num at hpoint
    exact hpoint
  have hlarge : Numeral (Text.trimChars " 9e28".toList) 9 28 :=
    .scientific (.bare hnine) (Or.inl rfl) (.up (.bare rfl))
  have hsmall : Numeral (Text.trimChars "+2.5E-28 ".toList) (5 / 2) (-28) :=
    .scientific (.plus hhalves) (Or.inr rfl) (.down (.bare rfl))
  have hno : ¬Fits 9 28 := by
    rintro ⟨-, -, hnumber⟩
    refine hnumber ?_
    norm_num [Unfit]
  have hfits : Fits (5 / 2) (-28) := by
    refine ⟨?_, by decide, ?_⟩
    · norm_num [Unfit]
    · norm_num [Unfit]
  have hnumeral : ∀ q n, ¬Numeral (Text.trimChars " ".toList) q n := fun q n h => h.ne_nil (by decide)
  exact ⟨hlarge, hno, ((floorTexts_taken " 9e28" (some onePlace)).1 9 28 hlarge).2 hno, hsmall, hfits,
    ((floorTexts_taken "+2.5E-28 " (some onePlace)).1 _ _ hsmall).1 hfits, hnumeral,
    (floorTexts_taken " " (some onePlace)).2.1 hnumeral⟩

end BidAdapter
