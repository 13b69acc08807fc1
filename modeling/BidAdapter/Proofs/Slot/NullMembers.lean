import BidAdapter.Proofs.Slot.AdUnit
import BidAdapter.Proofs.Slot.DisplayManager

/-!
# Members that are null

A member that is null has a text, the word `null`, where the text of any scalar is taken: in the pair of an app's ext and
in the slot that the data names. There it is not the same as a member that is absent.

* `App.without` : an app without a member of its ext;
* `Shadowed` : the ext of an app has its pair elsewhere, or no pair with or without the member;
* `null_counts_iff` : when a member that is null counts as absent, and what comes of it else.
-/

namespace BidAdapter

set_option autoImplicit false

open Json (Members Value)
open OpenRtb (App)
open DisplayManager (InPrebid ofApp ofParts? ofPrebid? scalarText?)

/-- The app without the member of that name in its ext. -/
def OpenRtb.App.without (a : App) (name : String) : App := { a with ext := a.ext.map fun ext => ext.erase name }

/-! ## The pair of an app -/

section Pair
variable {a : App} {ext : Members} {name other : String} {part : DisplayManager → String}

/-- The two members of the pair and the part that the first of them is. -/
inductive IsPart : String → String → (DisplayManager → String) → Prop where
  | source : IsPart "source" "version" DisplayManager.source
  | version : IsPart "version" "source" DisplayManager.version

/-- The pair does not hang on the other part: it stands under `prebid`, or the member has no text to stand beside. -/
def Shadowed (ext : Members) (member : String) : Prop :=
  (∃ dm, InPrebid ext dm) ∨ ∀ v, ext.get? member = some v → v.isContainer = true ∨ Text.blank v.asText = true

theorem IsPart.ne_prebid (h : IsPart name other part) : "prebid" ≠ name := by
  cases h <;> decide

theorem ofPrebid?_erase (h : "prebid" ≠ name) : ofPrebid? (ext.erase name) = ofPrebid? ext := by
  unfold ofPrebid?
  rw [Members.get?_erase_of_ne h]

/-- Without a part there is no pair. -/
theorem ofParts?_erase (h : IsPart name other part) :
    ofParts? (scalarText? (ext.erase name) "source") (scalarText? (ext.erase name) "version") = none := by
  rw [Option.eq_none_iff_forall_ne_some]
  intro dm hdm
  obtain ⟨s, v, hs, -, -, hv, -⟩ := DisplayManager.ofParts?_scalarText?_iff.mp hdm
  cases h with
  | source =>
    rw [Members.get?_erase_self] at hs
    cases hs
  | version =>
    rw [Members.get?_erase_self] at hv
    cases hv

/-- A null makes a pair with any text of the other member. -/
theorem ofParts?_null (h : IsPart name other part) (hnull : ext.get? name = some .null) {text : String}
    (hother : scalarText? ext other = some text) (hblank : Text.blank text = false) :
    ∃ dm, ofParts? (scalarText? ext "source") (scalarText? ext "version") = some dm ∧ part dm = "null" := by
  have hword : scalarText? ext name = some "null" := DisplayManager.scalarText?_eq_some_iff.mpr ⟨.null, hnull, rfl, rfl⟩
  have hnotBlank : Text.blank "null" = false := by decide
  cases h with
  | source =>
    exact ⟨⟨"null", text⟩, DisplayManager.ofParts?_eq_some_iff.mpr ⟨hword, hother, hnotBlank, hblank⟩, rfl⟩
  | version =>
    exact ⟨⟨text, "null"⟩, DisplayManager.ofParts?_eq_some_iff.mpr ⟨hother, hword, hblank, hnotBlank⟩, rfl⟩

theorem ofApp_without (h : IsPart name other part) (hext : a.ext = some ext) :
    ofApp (some (a.without name)) = ofPrebid? ext := by
  have herased : (a.without name).ext = some (ext.erase name) := by rw [App.without, hext, Option.map_some]
  rw [DisplayManager.ofApp_some herased, ofPrebid?_erase h.ne_prebid, ofParts?_erase h, Option.or_none]

/-- A pair that does not hang on the part stays when the part is left out. -/
theorem ofApp_without_of_shadowed (h : IsPart name other part) (hext : a.ext = some ext) (hshadow : Shadowed ext other) :
    ofApp (some (a.without name)) = ofApp (some a) := by
  rw [ofApp_without h hext, DisplayManager.ofApp_some hext]
  rcases hshadow with ⟨dm, hdm⟩ | hother
  · rw [DisplayManager.ofPrebid?_eq_some_iff.mpr hdm, Option.some_or]
  · have hnone : ofParts? (scalarText? ext "source") (scalarText? ext "version") = none := by
      rw [Option.eq_none_iff_forall_ne_some]
      intro dm hdm
      obtain ⟨s, v, hs, hscalar, hsource, hv, hscalar', hversion, hblank⟩ :=
        DisplayManager.ofParts?_scalarText?_iff.mp hdm
      cases h with
      | source => simpa [hscalar', hversion, hblank.version] using hother v hv
      | version => simpa [hscalar, hsource, hblank.source] using hother s hs
    rw [hnone, Option.or_none]

/-- Else the null is a part of the pair, and there is none without it. -/
theorem ofApp_of_not_shadowed (h : IsPart name other part) (hext : a.ext = some ext)
    (hnull : ext.get? name = some .null) (hshadow : ¬Shadowed ext other) :
    ofApp (some (a.without name)) = none ∧ (ofApp (some a)).map part = some "null" := by
  obtain ⟨hprebid, hother⟩ := not_or.mp hshadow
  have hnone : ofPrebid? ext = none := by
    rw [Option.eq_none_iff_forall_ne_some]
    intro dm hdm
    exact hprebid ⟨dm, DisplayManager.ofPrebid?_eq_some_iff.mp hdm⟩
  simp only [not_forall, not_or, Bool.not_eq_true] at hother
  obtain ⟨v, hv, hscalar, hblank⟩ := hother
  have htext : scalarText? ext other = some v.asText :=
    DisplayManager.scalarText?_eq_some_iff.mpr ⟨v, hv, hscalar, rfl⟩
  obtain ⟨dm, hdm, hpart⟩ := ofParts?_null h hnull htext hblank
  rw [ofApp_without h hext, DisplayManager.ofApp_some hext, hnone, hdm]
  exact ⟨rfl, congrArg some hpart⟩

end Pair

/-! ## The slot that the data names -/

theorem adUnit?_null {data : Members} (hnull : data.get? "pbadslot" = some .null) :
    adUnit? (some (data.erase "pbadslot")) = adServerSlot? data ∧
      adUnit? (some data) = (adServerSlot? data).or (some "null") := by
  have hserver : adServerSlot? (data.erase "pbadslot") = adServerSlot? data := by
    unfold adServerSlot?
    rw [Members.get?_erase_of_ne (by decide)]
  constructor
  · have herased : adUnit? (some (data.erase "pbadslot")) = (adServerSlot? (data.erase "pbadslot")).or
      (((data.erase "pbadslot").get? "pbadslot").map Value.asText) := rfl
    rw [herased, hserver, Members.get?_erase_self, Option.map_none, Option.or_none]
  · have hunit : adUnit? (some data) = (adServerSlot? data).or ((data.get? "pbadslot").map Value.asText) := rfl
    rw [hunit, hnull]
    rfl

/-- **A null is absent where it is not looked at, and nowhere else.** A part of an app's pair that is null may be left out
when the pair stands under `prebid` or the other part has no text; else the null is sent as the word and there is no pair
without it. A slot that the data names as null may be left out when the ad server has one; else it is sent as the word. -/
theorem null_counts_iff (a : App) (ext data : Members) (hext : a.ext = some ext) :
    (∀ name other part, IsPart name other part → ext.get? name = some .null →
      (ofApp (some (a.without name)) = ofApp (some a) ↔ Shadowed ext other) ∧
      (¬Shadowed ext other → ofApp (some (a.without name)) = none ∧ (ofApp (some a)).map part = some "null")) ∧
    (data.get? "pbadslot" = some .null →
      (adUnit? (some (data.erase "pbadslot")) = adUnit? (some data) ↔ ∃ slot, adServerSlot? data = some slot) ∧
      (adServerSlot? data = none →
        adUnit? (some (data.erase "pbadslot")) = none ∧ adUnit? (some data) = some "null")) := by
  refine ⟨fun name other part h hnull => ?_, fun hnull => ?_⟩
  · refine ⟨⟨fun heq => ?_, ofApp_without_of_shadowed h hext⟩, ofApp_of_not_shadowed h hext hnull⟩
    by_contra hshadow
    obtain ⟨hnone, hword⟩ := ofApp_of_not_shadowed h hext hnull hshadow
    rw [← heq, hnone] at hword
    cases hword
  · obtain ⟨herased, hunit⟩ := adUnit?_null hnull
    rw [herased, hunit]
    cases adServerSlot? data with
    | none => simp
    | some slot => simp

/-- An app with a source whose version is null, and the same half of a pair under `prebid`. -/
def nullVersion : App :=
  { App.absent with ext := some [("source", .string "sdk"), ("version", .null),
      ("prebid", .object [("source", .string "p"), ("version", .null)])] }

theorem null_counts_iff_of_version :
    (ofApp (some nullVersion) = some ⟨"sdk", "null"⟩ ∧ ofApp (some (nullVersion.without "version")) = none) ∧
      adUnit? (some [("pbadslot", .null), ("k", .string "v")]) = some "null" ∧
      adUnit? (some [("k", .string "v")]) = none := by
  obtain ⟨hpair, hslot⟩ := null_counts_iff nullVersion _ [("pbadslot", .null), ("k", .string "v")] rfl
  refine ⟨⟨by decide, ((hpair _ _ _ .version rfl).2 ?_).1⟩, ((hslot rfl).2 rfl).symm⟩
  rintro (⟨dm, ms, ⟨⟩, -, ⟨⟩, -⟩ | hother)
  rcases hother _ rfl with hcontainer | hblank
  · cases hcontainer
  · revert hblank
    decide

/-- A source that is null, a version that is null, and a slot that is null make a difference: without it there is none. -/
theorem null_is_word :
    (∃ a : App, (∃ ext : Members, a.ext = some ext ∧ ext.get? "source" = some .null) ∧
      ofApp (some a) = some ⟨"null", "1"⟩ ∧ ofApp (some (a.without "source")) = none) ∧
    (∃ a : App, (∃ ext : Members, a.ext = some ext ∧ ext.get? "version" = some .null) ∧
      ofApp (some a) = some ⟨"1", "null"⟩ ∧ ofApp (some (a.without "version")) = none) ∧
    ∃ data : Members, data.get? "pbadslot" = some .null ∧
      adUnit? (some data) = some "null" ∧ adUnit? (some (data.erase "pbadslot")) = none := by
  refine ⟨⟨{ App.absent with ext := some [("source", .null), ("version", .string "1")] }, ⟨_, rfl, rfl⟩, ?_⟩,
    ⟨{ App.absent with ext := some [("source", .string "1"), ("version", .null)] }, ⟨_, rfl, rfl⟩, ?_⟩,
    [("pbadslot", .null)], rfl, ?_⟩
  all_goals decide

end BidAdapter
