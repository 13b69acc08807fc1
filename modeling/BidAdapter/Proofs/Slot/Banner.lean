import BidAdapter.Proofs.Slot.AdSlot
import BidAdapter.Proofs.Slot.OutgoingImp

/-!
# The size of a banner

* `Banner.HalfSized` : one side and no format; such a banner is refused, whatever the ad slot says;
* `SizedBy` : the banner that goes out, by the size in the ad slot and the banner that came in; `sizedBy_of_outgoing` : so
  it does; `outgoingImp_banner` : it is the one that came in, with another size at most;
* `outgoingImp_sizes` : when an impression goes out, and with which banner and tag;
* `whole_iff` : where the ad slot has no size, the banner that goes out has both sides exactly when it came in with both
  or its first format has both.
-/

namespace BidAdapter

set_option autoImplicit false

open OpenRtb (Banner Format Imp)

variable {i out : Imp} {e : ImpExt} {app : Option DisplayManager} {b b' : Banner}

/-- A banner with one side and no format. -/
def OpenRtb.Banner.HalfSized (b : Banner) : Prop := (b.w.isSome ≠ b.h.isSome) ∧ b.formats = []

/-- The banner that goes out, by the size in the ad slot and the banner that came in. The ad slot has the last word, also
over a banner that says nothing of its size; without it a banner needs both sides, or takes both from its first format. -/
inductive SizedBy : Option SlotSize → Option Banner → Option Banner → Prop
  | slot (w h : Int32) (b : Banner) :
    SizedBy (some ⟨if w = 0 then none else some w, if h = 0 then none else some h⟩) (some b)
      (some { b with w := if w = 0 then none else some w, h := if h = 0 then none else some h })
  | absent : SizedBy none none none
  | sizeless {b : Banner} (hw : b.w = none) (hh : b.h = none) (hformats : b.formats = []) : SizedBy none (some b) none
  | own {b : Banner} (hw : b.w.isSome = true) (hh : b.h.isSome = true) : SizedBy none (some b) (some b)
  | format {b : Banner} {f : Format} {fs : List Format} (hside : b.w = none ∨ b.h = none)
      (hformats : b.formats = f :: fs) : SizedBy none (some b) (some { b with w := f.w, h := f.h })

/-! ## Without the ad slot -/

theorem outgoingBanner_of_sizedBy {x banner : Option Banner} (h : SizedBy none x banner) :
    outgoingBanner x = .ok banner := by
  cases h with
  | absent => rfl
  | sizeless hw hh hformats => simp [outgoingBanner, Banner.hasSize, hw, hh, hformats]
  | own hw hh => simp [outgoingBanner, Banner.hasSize, Banner.sized, hw, hh, Except.map]
  | @format b f fs hside hformats =>
    have hhalf : (b.w.isSome && b.h.isSome) = false := by rcases hside with hside | hside <;> simp [hside]
    simp [outgoingBanner, Banner.hasSize, Banner.sized, hhalf, hformats, Except.map]

theorem outgoingBanner_of_halfSized (h : b.HalfSized) : outgoingBanner (some b) = .error .bannerSize := by
  obtain ⟨hsides, hformats⟩ := h
  have hone : ∀ w h : Bool, w ≠ h → (w || h) = true ∧ (w && h) = false := by decide
  obtain ⟨hany, hhalf⟩ := hone _ _ hsides
  simp [outgoingBanner, Banner.hasSize, Banner.sized, hany, hhalf, hformats, Except.map]

/-- Something goes out for a banner that is not half-sized, be it no banner. -/
theorem exists_sizedBy (h : ¬b.HalfSized) : ∃ banner, SizedBy none (some b) banner := by
  by_cases hw : b.w = none
  · cases hformats : b.formats with
    | cons f fs => exact ⟨_, .format (Or.inl hw) hformats⟩
    | nil =>
      have hh : b.h = none := by
        by_contra hh
        refine h ⟨?_, hformats⟩
        simpa [hw, Option.isSome_iff_ne_none] using hh
      exact ⟨_, .sizeless hw hh hformats⟩
  · by_cases hh : b.h = none
    · cases hformats : b.formats with
      | cons f fs => exact ⟨_, .format (Or.inr hh) hformats⟩
      | nil =>
        refine absurd ⟨?_, hformats⟩ h
        simpa [hh, Option.isSome_iff_ne_none] using hw
    · exact ⟨_, .own (Option.isSome_iff_ne_none.mpr hw) (Option.isSome_iff_ne_none.mpr hh)⟩

theorem outgoingBanner_eq_error_iff {x : Option Banner} {p : Problem} :
    outgoingBanner x = .error p ↔ (∃ b, x = some b ∧ b.HalfSized) ∧ p = .bannerSize := by
  constructor
  · intro h
    cases x with
    | none => cases h
    | some b =>
      have hhalf : b.HalfSized := by
        by_contra hhalf
        obtain ⟨banner, hbanner⟩ := exists_sizedBy hhalf
        rw [outgoingBanner_of_sizedBy hbanner] at h
        cases h
      rw [outgoingBanner_of_halfSized hhalf] at h
      cases h
      exact ⟨⟨b, rfl, hhalf⟩, rfl⟩
  · rintro ⟨⟨b, rfl, hhalf⟩, rfl⟩
    exact outgoingBanner_of_halfSized hhalf

theorem outgoingBanner_eq_ok_iff {x banner : Option Banner} : outgoingBanner x = .ok banner ↔ SizedBy none x banner := by
  constructor
  · intro h
    cases x with
    | none =>
      cases h
      exact .absent
    | some b =>
      have hhalf : ¬b.HalfSized := by
        intro hhalf
        rw [outgoingBanner_of_halfSized hhalf] at h
        cases h
      obtain ⟨banner', hbanner⟩ := exists_sizedBy hhalf
      rw [outgoingBanner_of_sizedBy hbanner] at h
      cases h
      exact hbanner
  · exact outgoingBanner_of_sizedBy

/-! ## With the ad slot -/

/-- What goes out is the draft of a banner with the ad slot. -/
theorem exists_draft {slot : Option AdSlot} (hslot : AdSlot.parse e.slot.adSlot i.banner.isSome = .ok slot)
    (h : outgoingImp i e app = .ok out) :
    ∃ banner, SizedBy none i.banner banner ∧ out = withAdSlot i (draftImp i e app banner) slot := by
  obtain ⟨banner, slot', hbanner, hslot', rfl⟩ := outgoingImp_eq_ok_iff.mp h
  rw [hslot] at hslot'
  cases hslot'
  exact ⟨banner, outgoingBanner_eq_ok_iff.mp hbanner, rfl⟩

theorem sizedBy_of_outgoing {slot : Option AdSlot} (hslot : AdSlot.parse e.slot.adSlot i.banner.isSome = .ok slot)
    (h : outgoingImp i e app = .ok out) : SizedBy (slot.bind AdSlot.size) i.banner out.banner := by
  obtain ⟨banner, hbanner, rfl⟩ := exists_draft hslot h
  unfold withAdSlot
  cases slot with
  | none => exact hbanner
  | some slot =>
    rw [Option.bind_some]
    cases hsize : slot.size with
    | none =>
      simp only [hsize]
      exact hbanner
    | some size =>
      obtain ⟨hsome, w, h, rfl⟩ := AdSlot.size_of_parse hslot hsize
      obtain ⟨b, hb⟩ := Option.isSome_iff_exists.mp hsome
      simpa [hsize, hb] using SizedBy.slot w h b

/-- A banner that goes out is the one that came in, with another size at most. -/
theorem outgoingImp_banner (h : outgoingImp i e app = .ok out) (hb : out.banner = some b') :
    ∃ b w h, i.banner = some b ∧ b' = { b with w, h } := by
  obtain ⟨-, slot, -, hslot, -⟩ := outgoingImp_eq_ok_iff.mp h
  have hsized := sizedBy_of_outgoing hslot h
  rw [hb] at hsized
  generalize i.banner = banner at hsized
  generalize slot.bind AdSlot.size = size at hsized
  cases hsized with
  | slot w h b => exact ⟨b, _, _, rfl, rfl⟩
  | own hw hh => exact ⟨b', b'.w, b'.h, rfl, rfl⟩
  | format hside hformats => exact ⟨_, _, _, rfl, rfl⟩

theorem tagid_of_outgoing {slot : Option AdSlot} (hslot : AdSlot.parse e.slot.adSlot i.banner.isSome = .ok slot)
    (h : outgoingImp i e app = .ok out) : out.tagid = (slot.map AdSlot.tag).or i.tagid := by
  obtain ⟨banner, -, rfl⟩ := exists_draft hslot h
  unfold withAdSlot
  cases slot with
  | none => rfl
  | some slot =>
    simp only
    split <;> rfl

theorem outgoingImp_fails_iff {p : Problem} :
    outgoingImp i e app = .error p ↔
      (∃ b, i.banner = some b ∧ b.HalfSized) ∧ p = .bannerSize ∨
        (¬∃ b, i.banner = some b ∧ b.HalfSized) ∧ AdSlot.parse e.slot.adSlot i.banner.isSome = .error p := by
  have hok : (∃ banner, outgoingBanner i.banner = .ok banner) ↔ ¬∃ b, i.banner = some b ∧ b.HalfSized := by
    constructor
    · rintro ⟨banner, hbanner⟩ hhalf
      rw [outgoingBanner_eq_error_iff.mpr ⟨hhalf, rfl⟩] at hbanner
      cases hbanner
    · intro hhalf
      exact exists_eq_ok_of_not_error fun p hp => hhalf (outgoingBanner_eq_error_iff.mp hp).1
  rw [outgoingImp_eq_error_iff, outgoingBanner_eq_error_iff, hok]

/-- **When an impression goes out, and with which banner and tag.** -/
theorem outgoingImp_sizes (i : Imp) (e : ImpExt) (app : Option DisplayManager) :
    (∀ p, outgoingImp i e app = .error p ↔
      (∃ b, i.banner = some b ∧ b.HalfSized) ∧ p = .bannerSize ∨
        (¬∃ b, i.banner = some b ∧ b.HalfSized) ∧ AdSlot.parse e.slot.adSlot i.banner.isSome = .error p) ∧
    ∀ out, outgoingImp i e app = .ok out →
      ∃ slot, AdSlot.parse e.slot.adSlot i.banner.isSome = .ok slot ∧
        (slot = none ↔ Text.blank (e.slot.adSlot.getD "") = true) ∧
        SizedBy (slot.bind AdSlot.size) i.banner out.banner ∧
        out.tagid = (slot.map AdSlot.tag).or i.tagid ∧ out.audio = none := by
  refine ⟨fun p => outgoingImp_fails_iff, ?_⟩
  intro out h
  obtain ⟨-, slot, -, hslot, -⟩ := outgoingImp_eq_ok_iff.mp h
  exact ⟨slot, hslot, AdSlot.eq_none_iff_blank hslot, sizedBy_of_outgoing hslot h, tagid_of_outgoing hslot h,
    outgoingImp_audio h⟩

/-! ## Where the ad slot has no size -/

/-- Both sides are there. -/
def OpenRtb.Banner.Whole (b : Banner) : Prop := b.w.isSome = true ∧ b.h.isSome = true

/-- A side that was there is gone. -/
def OpenRtb.Banner.Erased (b b' : Banner) : Prop :=
  b.w.isSome = true ∧ b'.w = none ∨ b.h.isSome = true ∧ b'.h = none

theorem OpenRtb.Banner.Whole.not_erased (h : b'.Whole) : ¬b.Erased b' := by
  rintro (⟨-, hgone⟩ | ⟨-, hgone⟩)
  · simpa [hgone] using h.1
  · simpa [hgone] using h.2

/-- **A banner goes out with both sides exactly when it came in with both, or its first format has both.** A banner that
lacks a side takes both from its first format, also a side that the format lacks and the banner had. -/
theorem whole_iff {slot : Option AdSlot} (h : outgoingImp i e app = .ok out)
    (hslot : AdSlot.parse e.slot.adSlot i.banner.isSome = .ok slot) (hsize : slot.bind AdSlot.size = none)
    (hout : out.banner = some b') :
    ∃ b, i.banner = some b ∧
      (b'.Whole ∧ ¬b.Erased b' ↔
        b.Whole ∨ ∃ f fs, b.formats = f :: fs ∧ f.w.isSome = true ∧ f.h.isSome = true) ∧
      (b.Whole → b' = b) ∧
      (¬b.Whole → ∃ f fs, b.formats = f :: fs ∧ b' = { b with w := f.w, h := f.h }) := by
  have hsized := sizedBy_of_outgoing hslot h
  rw [hsize, hout] at hsized
  generalize i.banner = banner at hsized
  cases hsized with
  | own hw hh =>
    have hboth : b'.Whole := ⟨hw, hh⟩
    exact ⟨b', rfl, iff_of_true ⟨hboth, hboth.not_erased⟩ (Or.inl hboth), fun _ => rfl, fun hnot => absurd hboth hnot⟩
  | @format b f fs hside hformats =>
    have hhalf : ¬b.Whole := by
      rintro ⟨hw, hh⟩
      rcases hside with hside | hside
      · simp [hside] at hw
      · simp [hside] at hh
    refine ⟨b, rfl, ?_, fun hboth => absurd hboth hhalf, fun _ => ⟨f, fs, hformats, rfl⟩⟩
    rw [and_iff_left_of_imp Banner.Whole.not_erased, or_iff_right hhalf]
    constructor
    · intro hboth
      exact ⟨f, fs, hformats, hboth⟩
    · rintro ⟨f', fs', hformats', hboth⟩
      rw [hformats] at hformats'
      cases hformats'
      exact hboth

/-- An impression with a banner of one format, and of this width of its own. -/
def impWithFormat (w : Option Int32) (f : Format) : Imp :=
  { Imp.absent with id := "1", banner := some { Banner.absent with w, format := some [f] } }

/-- A banner without sides takes those of its first format. -/
theorem whole_of_format :
    ∃ out b b', outgoingImp (impWithFormat none ⟨some 100, some 200, []⟩) .absent none = .ok out ∧
      (impWithFormat none ⟨some 100, some 200, []⟩).banner = some b ∧ out.banner = some b' ∧
      b'.Whole ∧ ¬b.Erased b' := by
  have hout : outgoingImp (impWithFormat none ⟨some 100, some 200, []⟩) .absent none = .ok _ := rfl
  obtain ⟨b, hb, hwhole, -, -⟩ := whole_iff hout rfl rfl rfl
  have hformat : ∃ f fs, b.formats = f :: fs ∧ f.w.isSome = true ∧ f.h.isSome = true := by
    cases hb
    exact ⟨_, _, rfl, rfl, rfl⟩
  exact ⟨_, b, _, hout, hb, rfl, hwhole.mpr (Or.inr hformat)⟩

/-- A first format without a width takes the width of its banner away. -/
theorem width_erased :
    ∃ out b b', outgoingImp (impWithFormat (some 300) ⟨none, some 250, []⟩) .absent none = .ok out ∧
      (impWithFormat (some 300) ⟨none, some 250, []⟩).banner = some b ∧ out.banner = some b' ∧
      AdSlot.parse ImpExt.absent.slot.adSlot true = .ok none ∧ ¬b'.Whole ∧ b.Erased b' :=
  ⟨_, _, _, rfl, rfl, rfl, rfl, fun h => Bool.noConfusion h.1, Or.inl ⟨rfl, rfl⟩⟩

end BidAdapter
