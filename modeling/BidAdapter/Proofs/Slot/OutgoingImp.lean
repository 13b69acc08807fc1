import BidAdapter.Outgoing.Request
import BidAdapter.Proofs.Traversal

/-!
# What an outgoing impression is made of

* `draftImp` : the impression before its ad slot is looked at; `outgoingImp_eq_ok_iff` : an outgoing impression is the
  draft of its banner with its ad slot, where both can be had; `outgoingImp_eq_error_iff` : which of the two is refused;
* `outgoingImp_id`, `outgoingImp_video`, … : the members that stay as they came in.
-/

namespace BidAdapter

set_option autoImplicit false

open OpenRtb (Banner Imp)

variable {i out : Imp} {e : ImpExt} {app : Option DisplayManager}

/-- The impression with its banner, before its ad slot is looked at. -/
def draftImp (i : Imp) (e : ImpExt) (app : Option DisplayManager) (banner : Option Banner) : Imp :=
  { i with
    banner
    audio := none
    bidfloor := resolveFloor e.slot.floor i.bidfloor
    displaymanager := firstNonBlank i.displaymanager (app.map DisplayManager.source)
    displaymanagerver := firstNonBlank i.displaymanagerver (app.map DisplayManager.version)
    ext := if e.keywordMap.isEmpty then none else some e.keywordMap }

theorem outgoingImp_eq_ok_iff :
    outgoingImp i e app = .ok out ↔ ∃ banner slot, outgoingBanner i.banner = .ok banner ∧
      AdSlot.parse e.slot.adSlot i.banner.isSome = .ok slot ∧ withAdSlot i (draftImp i e app banner) slot = out := by
  unfold outgoingImp
  simp only [bind_eq_ok_iff, pure_eq_ok_iff]
  constructor
  · rintro ⟨banner, hbanner, slot, hslot, rfl⟩
    exact ⟨banner, slot, hbanner, hslot, rfl⟩
  · rintro ⟨banner, slot, hbanner, hslot, rfl⟩
    exact ⟨banner, hbanner, slot, hslot, rfl⟩

theorem outgoingImp_eq_error_iff {p : Problem} :
    outgoingImp i e app = .error p ↔ outgoingBanner i.banner = .error p ∨
      (∃ banner, outgoingBanner i.banner = .ok banner) ∧ AdSlot.parse e.slot.adSlot i.banner.isSome = .error p := by
  unfold outgoingImp
  rw [bind_eq_error_iff]
  refine or_congr_right ⟨?_, ?_⟩
  · rintro ⟨banner, hbanner, hrest⟩
    rcases bind_eq_error_iff.mp hrest with hslot | ⟨slot, -, hpure⟩
    · exact ⟨⟨banner, hbanner⟩, hslot⟩
    · cases hpure
  · rintro ⟨⟨banner, hbanner⟩, hslot⟩
    exact ⟨banner, hbanner, bind_eq_error_iff.mpr (Or.inl hslot)⟩

/-! ## Members that stay -/

/-- An ad slot changes the tag and the banner only. -/
theorem withAdSlot_eq (i draft : Imp) (slot : Option AdSlot) :
    ∃ tagid banner, withAdSlot i draft slot = { draft with tagid, banner } := by
  unfold withAdSlot
  split
  · exact ⟨draft.tagid, draft.banner, rfl⟩
  · split
    · exact ⟨_, _, rfl⟩
    · exact ⟨_, draft.banner, rfl⟩

/-- An outgoing impression is a draft with a tag and a banner. -/
theorem outgoingImp_eq_draft (h : outgoingImp i e app = .ok out) :
    ∃ tagid banner, out = { draftImp i e app none with tagid, banner } := by
  obtain ⟨banner, slot, -, -, rfl⟩ := outgoingImp_eq_ok_iff.mp h
  obtain ⟨tagid, banner', heq⟩ := withAdSlot_eq i (draftImp i e app banner) slot
  exact ⟨tagid, banner', heq⟩

theorem outgoingImp_id (h : outgoingImp i e app = .ok out) : out.id = i.id := by
  obtain ⟨tagid, banner, rfl⟩ := outgoingImp_eq_draft h
  rfl

theorem outgoingImp_video (h : outgoingImp i e app = .ok out) : out.video = i.video := by
  obtain ⟨tagid, banner, rfl⟩ := outgoingImp_eq_draft h
  rfl

theorem outgoingImp_native (h : outgoingImp i e app = .ok out) : out.native = i.native := by
  obtain ⟨tagid, banner, rfl⟩ := outgoingImp_eq_draft h
  rfl

theorem outgoingImp_others (h : outgoingImp i e app = .ok out) : out.others = i.others := by
  obtain ⟨tagid, banner, rfl⟩ := outgoingImp_eq_draft h
  rfl

theorem outgoingImp_audio (h : outgoingImp i e app = .ok out) : out.audio = none := by
  obtain ⟨tagid, banner, rfl⟩ := outgoingImp_eq_draft h
  rfl

theorem outgoingImp_ext (h : outgoingImp i e app = .ok out) :
    out.ext = if e.keywordMap.isEmpty then none else some e.keywordMap := by
  obtain ⟨tagid, banner, rfl⟩ := outgoingImp_eq_draft h
  rfl

end BidAdapter
