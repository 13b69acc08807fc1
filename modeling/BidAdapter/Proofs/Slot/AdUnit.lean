import BidAdapter.Proofs.Params.ImpExt
import BidAdapter.Slot.Keywords

/-!
# The ad unit

* `AdServer.ReadFrom` : what an ad server is read from;
* `NamesSlot` : the values that name a slot of the known ad server; `adServerSlot?_iff` : the slot is read from these and
  no others;
* `UnitOf`, `adUnit?_iff` : the ad unit is this slot, else the text of the slot that the data names;
* `slot_of_array` : an array names a slot too.
-/

namespace BidAdapter

set_option autoImplicit false

open Json
open Json.Decoder (string)

variable {o : Origin} {doc : Document} {s : AdServer} {slot : String} {v : Value} {data : Members}

/-! ## Ad servers -/

structure AdServer.ReadFrom (o : Origin) (ms : List (Name × Document)) (s : AdServer) : Prop where
  name : OptionRead o ms ["name"] string s.name
  adslot : OptionRead o ms ["adslot"] string s.adslot

theorem AdServer.readFrom_of_decoder (h : AdServer.decoder o doc = .ok s) :
    ∃ inner ms, ClosedForm ["name", "adslot"] doc ms ∧ s.ReadFrom inner ms := by
  obtain ⟨inner, ms, hform, hrun⟩ := recordRun_of_closedRecord (by decide) h
  refine ⟨inner, ms, hform, ?_, ?_⟩
  · exact hrun.optionRead AdServer.name (.of_passOver (by decide) (by simp) (by simp)) rfl
  · exact hrun.optionRead AdServer.adslot (.of_passOver (by decide) (by simp) (by simp)) rfl

theorem AdServer.knownSlot?_eq_some_iff :
    s.knownSlot? = some slot ↔ s.name = some "gam" ∧ s.adslot = some slot ∧ slot ≠ "" := by
  unfold AdServer.knownSlot?
  split
  · next text hname hslot =>
    rw [hname, hslot]
    split_ifs with hempty
    · refine iff_of_false (by simp) ?_
      rintro ⟨-, hsome, hne⟩
      cases hsome
      exact hne hempty
    · rw [Option.some_inj]
      constructor
      · rintro rfl
        exact ⟨rfl, rfl, hempty⟩
      · rintro ⟨-, hsome, -⟩
        exact hsome
  · next hother =>
    refine iff_of_false (by simp) ?_
    rintro ⟨hname, hslot, -⟩
    exact hother slot hname hslot

/-- A text that may be absent is read from members where they have a text. -/
theorem optionRead_text_iff {ms : Members} {name text : String} {x : Option String}
    (h : OptionRead o (Document.ofMembers ms) [name] string x) : x = some text ↔ ms.get? name = some (.string text) := by
  have hgiven : given [name] (Document.ofMembers ms) = some (.string text) ↔ ms.get? name = some (.string text) := by
    rw [given_ofMembers]
    constructor
    · rintro ⟨v, hget, -, hv⟩
      cases v <;> cases hv
      exact hget
    · intro hget
      exact ⟨_, hget, by simp, rfl⟩
  rw [← hgiven]
  cases h with
  | absent hnone => simp [hnone]
  | present hsome hread =>
    rw [hsome, string_eq_ok_iff.mp hread]
    simp

/-! ## Slots -/

/-- The values that name a slot of the known ad server: an object that has both texts, or the array of them. -/
inductive NamesSlot : Value → String → Prop where
  | object {ms : Members} {slot : String} (hname : ms.get? "name" = some (.string "gam"))
    (hslot : ms.get? "adslot" = some (.string slot)) (hne : slot ≠ "") : NamesSlot (.object ms) slot
  | array {slot : String} (hne : slot ≠ "") : NamesSlot (.array [.string "gam", .string slot]) slot

theorem namesSlot_of_decoder (h : AdServer.decoder.ofValue v = .ok s) (hslot : s.knownSlot? = some slot) :
    NamesSlot v slot := by
  obtain ⟨inner, docs, hform, hread⟩ := AdServer.readFrom_of_decoder h
  obtain ⟨hname, hadslot, hne⟩ := AdServer.knownSlot?_eq_some_iff.mp hslot
  obtain ⟨ms, rfl, hv⟩ := exists_members_of_closedForm hform
  have hgam := (optionRead_text_iff hread.name).mp hname
  have htext := (optionRead_text_iff hread.adslot).mp hadslot
  rcases hv with rfl | ⟨items, rfl, hlength, rfl⟩
  · exact .object hgam htext hne
  · -- the slot is the second item of the array, and there is no third
    obtain _ | ⟨first, _ | ⟨second, rest⟩⟩ := items
    · cases htext
    · cases htext
    · have hrest : rest = [] := by simpa using hlength
      cases hrest
      cases hgam
      cases htext
      exact .array hne

/-- What names a slot is read. -/
theorem exists_decoder_of_namesSlot (hnames : ∀ ms, v = .object ms → (Members.names ms).Nodup) (h : NamesSlot v slot) :
    ∃ s, AdServer.decoder.ofValue v = .ok s ∧ s.knownSlot? = some slot := by
  cases h with
  | @object ms slot hname hslot hne =>
    have hms := hnames ms rfl
    obtain ⟨s, hs⟩ : ∃ s, AdServer.decoder.ofValue (.object ms) = .ok s := by
      refine exists_closedRecord_of_members (by simp [Field.of]) (by simp [Field.of]) hms ?_
      intro f hf v hv
      have hv := Members.get?_of_mem hms hv
      simp only [List.mem_cons, List.not_mem_nil, or_false] at hf
      rcases hf with rfl | rfl
      · cases hname.symm.trans hv
        exact ⟨_, rfl⟩
      · cases hslot.symm.trans hv
        exact ⟨_, rfl⟩
    obtain ⟨inner, docs, hform, hread⟩ := AdServer.readFrom_of_decoder hs
    cases hform
    exact ⟨s, hs, AdServer.knownSlot?_eq_some_iff.mpr
      ⟨(optionRead_text_iff hread.name).mpr hname, (optionRead_text_iff hread.adslot).mpr hslot, hne⟩⟩
  | array hne => exact ⟨_, rfl, AdServer.knownSlot?_eq_some_iff.mpr ⟨rfl, rfl, hne⟩⟩

theorem adServerSlot?_iff (hnames : ∀ ms, data.get? "adserver" = some (.object ms) → (Members.names ms).Nodup) :
    adServerSlot? data = some slot ↔ ∃ v, data.get? "adserver" = some v ∧ NamesSlot v slot := by
  unfold adServerSlot?
  simp only [Option.bind_eq_bind, Option.bind_eq_some_iff]
  refine exists_congr fun v => and_congr_right fun hv => ?_
  constructor
  · rintro ⟨s, hs, hslot⟩
    exact namesSlot_of_decoder (toOption_eq_some_iff.mp hs) hslot
  · intro h
    obtain ⟨s, hs, hslot⟩ := exists_decoder_of_namesSlot (fun ms heq => hnames ms (heq ▸ hv)) h
    exact ⟨s, toOption_eq_some_iff.mpr hs, hslot⟩

/-! ## Ad units -/

/-- What the ad unit of some data is: the slot of the known ad server, else the text of the slot that the data names. -/
inductive UnitOf (data : Members) : Option String → Prop where
  | server {v : Value} {slot : String} (hserver : data.get? "adserver" = some v) (hslot : NamesSlot v slot) :
    UnitOf data (some slot)
  | named (h : ∀ v slot, data.get? "adserver" = some v → ¬NamesSlot v slot) :
    UnitOf data ((data.get? "pbadslot").map Value.asText)

/-- In an ext that is read, the ad server has no name twice. -/
theorem nodup_adserver_of_ofMembers {ext : Option Members} {e : ImpExt} {ms : Members}
    (h : ImpExt.ofMembers ext = .ok e) (hdata : e.data = some data)
    (hserver : data.get? "adserver" = some (.object ms)) : (Members.names ms).Nodup :=
  ((ImpExt.plain_data h hdata).member hserver).names

/-- **The ad unit is the slot of the known ad server**, which an object or an array names, **else the text of the slot
that the data names.** -/
theorem adUnit?_iff (hnames : ∀ ms, data.get? "adserver" = some (.object ms) → (Members.names ms).Nodup)
    {x : Option String} : adUnit? (some data) = x ↔ UnitOf data x := by
  have hunit : adUnit? (some data) = (adServerSlot? data).or ((data.get? "pbadslot").map Value.asText) := rfl
  rw [hunit]
  constructor
  · rintro rfl
    cases hslot : adServerSlot? data with
    | some slot =>
      obtain ⟨v, hv, hnamed⟩ := (adServerSlot?_iff hnames).mp hslot
      exact .server hv hnamed
    | none =>
      refine .named ?_
      intro v slot hv hnamed
      rw [(adServerSlot?_iff hnames).mpr ⟨v, hv, hnamed⟩] at hslot
      cases hslot
  · intro h
    cases h with
    | server hv hnamed => rw [(adServerSlot?_iff hnames).mpr ⟨_, hv, hnamed⟩, Option.some_or]
    | named hnone =>
      have hslot : adServerSlot? data = none := by
        rw [Option.eq_none_iff_forall_ne_some]
        intro slot hslot
        obtain ⟨v, hv, hnamed⟩ := (adServerSlot?_iff hnames).mp hslot
        exact hnone v slot hv hnamed
      rw [hslot, Option.none_or]

/-- Data with both slots. -/
def dataWithAdServer : Members :=
  [("pbadslot", .string "p"), ("adserver", .object [("adslot", .string "/1/s"), ("name", .string "gam")])]

theorem adUnit?_iff_of_object :
    ∃ e, ImpExt.ofMembers (some [("data", .object dataWithAdServer)]) = .ok e ∧ adUnit? e.data = some "/1/s" := by
  obtain ⟨e, he, hdata⟩ : ∃ e, ImpExt.ofMembers (some [("data", .object dataWithAdServer)]) = .ok e ∧
      e.data = some dataWithAdServer := ⟨_, rfl, rfl⟩
  refine ⟨e, he, ?_⟩
  rw [hdata]
  exact (adUnit?_iff fun ms => nodup_adserver_of_ofMembers he hdata).mpr (.server rfl (.object rfl rfl (by decide)))

/-- An array of both texts names a slot, though it is no object. -/
theorem slot_of_array : ¬∀ data : Members, (∀ ms, data.get? "adserver" ≠ some (.object ms)) →
    adUnit? (some data) = (data.get? "pbadslot").map Value.asText := by
  intro h
  have harray := h [("adserver", .array [.string "gam", .string "a"]), ("pbadslot", .string "p")] (by rintro ms ⟨⟩)
  revert harray
  decide

end BidAdapter
