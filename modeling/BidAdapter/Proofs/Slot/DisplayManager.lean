import BidAdapter.Proofs.Dispatch
import BidAdapter.Proofs.Json.Members

/-!
# Display managers

* `InPrebid`, `InExt` : the two levels at which an app may declare the pair; `DeclaredBy`, `ofApp_eq_iff` : the pair of
  an app is that of the first level that has one, whole;
* `TakenFrom` : a text of an impression's own, or else the one that is declared;
* `displayManagers_sent` : the display managers of an outgoing request.
-/

namespace BidAdapter

set_option autoImplicit false

open Json (Members Value)
open OpenRtb (App BidRequest Imp)

/-! ## What an app declares -/

namespace DisplayManager

variable {ext : Members} {dm : DisplayManager} {name text : String} {app : Option App} {x : Option DisplayManager}

/-- Neither part is blank. -/
structure NotBlank (dm : DisplayManager) : Prop where
  source : Text.blank dm.source = false
  version : Text.blank dm.version = false

/-- Both parts are strings in the object under `prebid`, and not blank. -/
def InPrebid (ext : Members) (dm : DisplayManager) : Prop :=
  ∃ ms : Members, ext.get? "prebid" = some (.object ms) ∧ ms.get? "source" = some (.string dm.source) ∧
    ms.get? "version" = some (.string dm.version) ∧ dm.NotBlank

/-- Both parts are the texts of members of the ext that are no containers, and not blank. -/
def InExt (ext : Members) (dm : DisplayManager) : Prop :=
  ∃ s v, ext.get? "source" = some s ∧ s.isContainer = false ∧ s.asText = dm.source ∧
    ext.get? "version" = some v ∧ v.isContainer = false ∧ v.asText = dm.version ∧ dm.NotBlank

/-- What an app declares: the pair under `prebid`, else the pair of the ext itself, else nothing. -/
inductive DeclaredBy : Option App → Option DisplayManager → Prop where
  | prebid {a : App} {ext : Members} {dm : DisplayManager} (hext : a.ext = some ext) (h : InPrebid ext dm) :
    DeclaredBy (some a) (some dm)
  | ext {a : App} {ext : Members} {dm : DisplayManager} (hext : a.ext = some ext) (hprebid : ∀ d, ¬InPrebid ext d)
    (h : InExt ext dm) : DeclaredBy (some a) (some dm)
  | nothing {app : Option App}
    (h : ∀ a ext, app = some a → a.ext = some ext → ∀ d, ¬InPrebid ext d ∧ ¬InExt ext d) : DeclaredBy app none

theorem ofParts?_eq_some_iff {source version : Option String} :
    ofParts? source version = some dm ↔ source = some dm.source ∧ version = some dm.version ∧ dm.NotBlank := by
  unfold ofParts?
  split
  · next s v =>
    rw [Option.some_inj, Option.some_inj]
    split_ifs with hblank
    · refine iff_of_false (by simp) ?_
      rintro ⟨rfl, rfl, hsource, hversion⟩
      rw [hsource, hversion] at hblank
      cases hblank
    · rw [Bool.not_eq_true, Bool.or_eq_false_iff] at hblank
      constructor
      · rintro ⟨⟩
        exact ⟨rfl, rfl, hblank.1, hblank.2⟩
      · rintro ⟨rfl, rfl, -⟩
        rfl
  · next hparts =>
    refine iff_of_false (by simp) ?_
    rintro ⟨hsource, hversion, -⟩
    exact hparts _ _ hsource hversion

theorem scalarText?_eq_some_iff :
    scalarText? ext name = some text ↔ ∃ v, ext.get? name = some v ∧ v.isContainer = false ∧ v.asText = text := by
  unfold scalarText?
  cases ext.get? name with
  | none => simp
  | some v => cases hv : v.isContainer <;> simp [hv]

theorem ofPrebid?_eq_some_iff : ofPrebid? ext = some dm ↔ InPrebid ext dm := by
  unfold ofPrebid? InPrebid
  simp only [Option.bind_eq_bind, Option.bind_eq_some_iff, Value.members?_eq_some_iff, exists_eq_right,
    ofParts?_eq_some_iff, Value.string?_eq_some_iff]

/-- The pair of the ext itself. -/
theorem ofParts?_scalarText?_iff :
    ofParts? (scalarText? ext "source") (scalarText? ext "version") = some dm ↔ InExt ext dm := by
  rw [ofParts?_eq_some_iff, scalarText?_eq_some_iff, scalarText?_eq_some_iff]
  constructor
  · rintro ⟨⟨s, hs, hscalar, hsource⟩, ⟨v, hv, hscalar', hversion⟩, hblank⟩
    exact ⟨s, v, hs, hscalar, hsource, hv, hscalar', hversion, hblank⟩
  · rintro ⟨s, v, hs, hscalar, hsource, hv, hscalar', hversion, hblank⟩
    exact ⟨⟨s, hs, hscalar, hsource⟩, ⟨v, hv, hscalar', hversion⟩, hblank⟩

theorem ofApp_some {a : App} (hext : a.ext = some ext) :
    ofApp (some a) = (ofPrebid? ext).or (ofParts? (scalarText? ext "source") (scalarText? ext "version")) := by
  unfold ofApp
  simp only [Option.bind_eq_bind, Option.bind_some, hext]

theorem declaredBy_ofApp (app : Option App) : DeclaredBy app (ofApp app) := by
  obtain _ | a := app
  · exact .nothing (by rintro a ext ⟨⟩)
  cases hext : a.ext with
  | none =>
    have hnone : ofApp (some a) = none := by
      unfold ofApp
      simp only [Option.bind_eq_bind, Option.bind_some, hext, Option.bind_none]
    rw [hnone]
    refine .nothing ?_
    rintro a' ext ⟨⟩ hext'
    rw [hext] at hext'
    cases hext'
  | some ext =>
    rw [ofApp_some hext]
    cases hprebid : ofPrebid? ext with
    | some dm => exact .prebid hext (ofPrebid?_eq_some_iff.mp hprebid)
    | none =>
      have hnone : ∀ d, ¬InPrebid ext d := by
        intro d hd
        rw [ofPrebid?_eq_some_iff.mpr hd] at hprebid
        cases hprebid
      rw [Option.none_or]
      cases hparts : ofParts? (scalarText? ext "source") (scalarText? ext "version") with
      | some dm => exact .ext hext hnone (ofParts?_scalarText?_iff.mp hparts)
      | none =>
        refine .nothing ?_
        rintro a' ext' ⟨⟩ hext' d
        rw [hext] at hext'
        cases hext'
        refine ⟨hnone d, fun hd => ?_⟩
        rw [ofParts?_scalarText?_iff.mpr hd] at hparts
        cases hparts

/-- An app declares no more than one pair. -/
theorem ofApp_of_declaredBy (h : DeclaredBy app x) : ofApp app = x := by
  cases h with
  | prebid hext h => rw [ofApp_some hext, ofPrebid?_eq_some_iff.mpr h, Option.some_or]
  | @ext a ext dm hext hprebid h =>
    have hnone : ofPrebid? ext = none := by
      rw [Option.eq_none_iff_forall_ne_some]
      intro d hd
      exact hprebid d (ofPrebid?_eq_some_iff.mp hd)
    rw [ofApp_some hext, hnone, ofParts?_scalarText?_iff.mpr h, Option.none_or]
  | nothing h =>
    have hdeclared := declaredBy_ofApp app
    generalize ofApp app = y at hdeclared ⊢
    cases hdeclared with
    | prebid hext hdm => exact absurd hdm (h _ _ rfl hext _).1
    | ext hext _ hdm => exact absurd hdm (h _ _ rfl hext _).2
    | nothing _ => rfl

/-- **The pair of an app is that of the first level that has one, whole.** -/
theorem ofApp_eq_iff : ofApp app = x ↔ DeclaredBy app x := by
  constructor
  · rintro rfl
    exact declaredBy_ofApp app
  · exact ofApp_of_declaredBy

theorem notBlank_of_declaredBy (h : DeclaredBy app (some dm)) : dm.NotBlank := by
  cases h with
  | prebid _ h =>
    obtain ⟨ms, -, -, -, hblank⟩ := h
    exact hblank
  | ext _ _ h =>
    obtain ⟨s, v, -, -, -, -, -, -, hblank⟩ := h
    exact hblank

end DisplayManager

/-! ## What an impression takes -/

/-- A text that is taken as it is: the impression's own if it is there and not blank, else the one that is declared. -/
inductive TakenFrom (own declared : Option String) : Option String → Prop where
  | own {s : String} (h : own = some s) (hblank : Text.blank s = false) : TakenFrom own declared (some s)
  | declared (h : ∀ s, own = some s → Text.blank s = true) : TakenFrom own declared declared

theorem takenFrom_firstNonBlank {own declared : Option String} (h : ∀ s, declared = some s → Text.blank s = false) :
    TakenFrom own declared (firstNonBlank own declared) := by
  have hkept : declared.filter (fun s => !Text.blank s) = declared := by
    cases declared with
    | none => rfl
    | some s => rw [Option.filter_some_pos (by rw [h s rfl]; rfl)]
  unfold firstNonBlank
  rw [hkept]
  cases own with
  | none => exact .declared (by rintro s ⟨⟩)
  | some s =>
    cases hblank : Text.blank s with
    | false =>
      rw [Option.filter_some_pos (by rw [hblank]; rfl), Option.some_or]
      exact .own rfl hblank
    | true =>
      rw [Option.filter_some_neg (by rw [hblank]; decide), Option.none_or]
      refine .declared ?_
      rintro t ⟨⟩
      exact hblank

open DisplayManager (DeclaredBy)

theorem takenFrom_of_outgoingImp {i out : Imp} {e : ImpExt} {app : Option App} {dm : Option DisplayManager}
    (hdm : DeclaredBy app dm) (h : outgoingImp i e dm = .ok out) :
    TakenFrom i.displaymanager (dm.map DisplayManager.source) out.displaymanager ∧
      TakenFrom i.displaymanagerver (dm.map DisplayManager.version) out.displaymanagerver := by
  obtain ⟨tagid, banner, rfl⟩ := outgoingImp_eq_draft h
  constructor
  · apply takenFrom_firstNonBlank
    intro s hs
    obtain ⟨d, rfl, rfl⟩ := Option.map_eq_some_iff.mp hs
    exact (DisplayManager.notBlank_of_declaredBy hdm).source
  · apply takenFrom_firstNonBlank
    intro s hs
    obtain ⟨d, rfl, rfl⟩ := Option.map_eq_some_iff.mp hs
    exact (DisplayManager.notBlank_of_declaredBy hdm).version

/-- **The display managers that are sent.** An app declares one pair or none, both parts from one level. Every impression
keeps a source that is not blank and else takes the declared one, and so with the version, each without looking at the
other. -/
theorem displayManagers_sent (b : Bidder) (r : BidRequest) :
    ∃ dm, DisplayManager.ofApp r.app = dm ∧ (∀ x, DeclaredBy r.app x ↔ x = dm) ∧
      ∀ out ∈ (b.dispatch r).requests,
        List.Forall₂ (fun i o => TakenFrom i.displaymanager (dm.map DisplayManager.source) o.displaymanager ∧
          TakenFrom i.displaymanagerver (dm.map DisplayManager.version) o.displaymanagerver) r.imp out.payload.imp := by
  refine ⟨DisplayManager.ofApp r.app, rfl, ?_, ?_⟩
  · intro x
    rw [← DisplayManager.ofApp_eq_iff]
    exact eq_comm
  · intro out hout
    apply (passes_of_sends (Dispatch.eq_sends_of_mem hout)).imp
    rintro i o ⟨e, -, -, ho⟩
    exact takenFrom_of_outgoingImp (DisplayManager.declaredBy_ofApp r.app) ho

/-- An app with half a pair under `prebid` and a whole one beside it, for an impression that has a version of its own. -/
def halfDeclared : BidRequest :=
  { BidRequest.absent with
    imp := [{ Imp.absent with id := "1", video := some .absent, displaymanagerver := some " 7" }]
    app := some { App.absent with ext := some [("prebid", .object [("source", .string "p")]),
      ("source", .string "sdk "), ("version", .bool true)] } }

theorem displayManagers_sent_of_half :
    ∃ out, Bidder.dispatch ⟨⟨"http".toList, [], true, none, none, ['/'], none, none⟩, "pubmatic"⟩ halfDeclared =
        .sends out ∧
      List.Forall₂ (fun i o => TakenFrom i.displaymanager (some "sdk ") o.displaymanager ∧
        TakenFrom i.displaymanagerver (some "true") o.displaymanagerver) halfDeclared.imp out.payload.imp ∧
      out.payload.imp.map (fun o => (o.displaymanager, o.displaymanagerver)) = [(some "sdk ", some " 7")] := by
  obtain ⟨dm, hdm, -, hall⟩ := displayManagers_sent
    ⟨⟨"http".toList, [], true, none, none, ['/'], none, none⟩, "pubmatic"⟩ halfDeclared
  have hdeclared : dm = some ⟨"sdk ", "true"⟩ := by
    rw [← hdm]
    decide
  subst hdeclared
  exact ⟨_, rfl, hall _ (List.mem_singleton.mpr rfl), rfl⟩

end BidAdapter
