import BidAdapter.Proofs.Dispatch

/-!
# Media that are sent

* `size_iff` : an ad slot has a size for a banner exactly when it has a tag and something behind it;
* `banner_isSome_iff` : a banner goes out when it says something of its size, or when the ad slot does;
* `hasSupportedMedia_eq_false_iff` : which impressions go out without a medium;
* `sent_media` : every impression of an outgoing request has a medium, but for those.
-/

namespace BidAdapter

set_option autoImplicit false

open OpenRtb (Banner BidRequest Imp)

variable {i out : Imp} {e : ImpExt} {app : Option DisplayManager}

/-! ## The ad slot -/

/-- The ad slot of an impression's parameters, without blanks around it. -/
def ImpExt.slotChars (e : ImpExt) : List Char := Text.trimChars (e.slot.adSlot.getD "").toList

/-- An ad slot that is taken for a banner has a size exactly when it is a tag and something behind it. -/
theorem size_iff {slot : Option AdSlot} (h : AdSlot.parse e.slot.adSlot true = .ok slot) :
    (∃ size, slot.bind AdSlot.size = some size) ↔ '@' ∈ e.slotChars := by
  unfold ImpExt.slotChars
  cases AdSlot.parse_eq_iff.mp h with
  | blank hblank => simp [hblank]
  | plain hne hat => simp [hat]
  | sized htag hsides hliterals => simp [htag.at_mem]

/-! ## The banner -/

/-- **A banner goes out when it says something of its size, or when the ad slot does.** -/
theorem banner_isSome_iff (h : outgoingImp i e app = .ok out) :
    out.banner.isSome = true ↔ ∃ b, i.banner = some b ∧ (b.hasSize = true ∨ '@' ∈ e.slotChars) := by
  obtain ⟨-, slot, -, hslot, -⟩ := outgoingImp_eq_ok_iff.mp h
  have hsized := sizedBy_of_outgoing hslot h
  have hsize : i.banner.isSome = true → ((∃ size, slot.bind AdSlot.size = some size) ↔ '@' ∈ e.slotChars) := by
    intro hsome
    rw [hsome] at hslot
    exact size_iff hslot
  generalize i.banner = incoming at hsized hsize
  generalize out.banner = outgoing at hsized
  generalize slot.bind AdSlot.size = size at hsized hsize
  cases hsized with
  | slot w h b => simp [← hsize rfl]
  | absent => simp
  | sizeless hw hh hformats => simp [← hsize rfl, Banner.hasSize, hw, hh, hformats]
  | own hw hh => simp [Banner.hasSize, hw]
  | format hside hformats => simp [Banner.hasSize, hformats]

/-! ## All media -/

/-- The only medium of the impression is a banner that says nothing of its size, and neither does the ad slot. -/
structure Unsized (i : Imp) : Prop where
  banner : ∃ b, i.banner = some b ∧ b.hasSize = false
  video : i.video = none
  native : i.native = none
  slot : ∃ e, readImpExt i = .ok e ∧ '@' ∉ e.slotChars

theorem hasSupportedMedia_eq_false_iff (h : Passes app i out) : out.hasSupportedMedia = false ↔ Unsized i := by
  obtain ⟨e, hext, hmedia, hout⟩ := h
  have hbanner := banner_isSome_iff hout
  have hvideo := outgoingImp_video hout
  have hnative := outgoingImp_native hout
  simp only [Imp.hasSupportedMedia, Bool.or_eq_false_iff, hvideo, hnative, Option.isSome_eq_false_iff,
    Option.isNone_iff_eq_none]
  constructor
  · rintro ⟨⟨hnone, hv⟩, hn⟩
    -- the check of the impression as it came in leaves the banner as its only medium
    have hsome : ∃ b, i.banner = some b := by
      unfold checkMedia Imp.hasSupportedMedia at hmedia
      rw [hv, hn] at hmedia
      split_ifs at hmedia with hb
      simpa [Option.isSome_iff_exists] using hb
    obtain ⟨b, hb⟩ := hsome
    have hno : ¬(b.hasSize = true ∨ '@' ∈ e.slotChars) := by
      intro hsized
      have hstays := hbanner.mpr ⟨b, hb, hsized⟩
      rw [hnone] at hstays
      cases hstays
    rw [not_or, Bool.not_eq_true] at hno
    exact ⟨⟨b, hb, hno.1⟩, hv, hn, e, hext, hno.2⟩
  · rintro ⟨⟨b, hb, hsize⟩, hv, hn, e', hext', hslot⟩
    rw [hext] at hext'
    cases hext'
    refine ⟨⟨?_, hv⟩, hn⟩
    rw [← Option.not_isSome_iff_eq_none, hbanner]
    rintro ⟨b', hb', hsized⟩
    rw [hb] at hb'
    cases hb'
    rcases hsized with hsized | hsized
    · rw [hsize] at hsized
      cases hsized
    · exact hslot hsized

/-- **Every impression that is sent has a medium**, but for those whose only medium is a banner without a size, which the
ad slot does not give either. -/
theorem sent_media {b : Bidder} {r : BidRequest} {out : OutgoingRequest} (h : b.dispatch r = .sends out) :
    List.Forall₂ (fun i o => o.hasSupportedMedia = false ↔ Unsized i) r.imp out.payload.imp := by
  obtain ⟨params, imps, -, -, himps, rfl⟩ := exists_of_sends h
  apply (passes_of_adaptedImps himps).imp
  intro i o hpasses
  exact hasSupportedMedia_eq_false_iff hpasses

/-- A video has a medium when it goes out. -/
theorem sent_media_of_video :
    ∃ out, Bidder.dispatch ⟨⟨"http".toList, [], true, none, none, ['/'], none, none⟩, "pubmatic"⟩
        { BidRequest.absent with imp := [{ Imp.absent with id := "1", video := some .absent }] } = .sends out ∧
      ∀ o ∈ out.payload.imp, o.hasSupportedMedia = true := by
  obtain ⟨out, hsends⟩ : ∃ out, Bidder.dispatch
      ⟨⟨"http".toList, [], true, none, none, ['/'], none, none⟩, "pubmatic"⟩
      { BidRequest.absent with imp := [{ Imp.absent with id := "1", video := some .absent }] } = .sends out := ⟨_, rfl⟩
  refine ⟨out, hsends, ?_⟩
  intro o ho
  obtain ⟨i, hi, hmedia⟩ := exists_of_mem_right (sent_media hsends) ho
  rw [List.mem_singleton.mp hi] at hmedia
  rw [← Bool.not_eq_false, hmedia]
  intro hunsized
  cases hunsized.video

/-- An empty banner passes the checks and is left out: the impression goes out without a medium. -/
theorem sent_without_media :
    ∃ out, Bidder.dispatch ⟨⟨"http".toList, [], true, none, none, ['/'], none, none⟩, "pubmatic"⟩
        { BidRequest.absent with imp := [{ Imp.absent with id := "1", banner := some .absent }] } = .sends out ∧
      ∃ o ∈ out.payload.imp, o.hasSupportedMedia = false :=
  ⟨_, rfl, _, List.mem_singleton.mpr rfl, rfl⟩

end BidAdapter
