import BidAdapter.Proofs.Json.Acceptance
import BidAdapter.Proofs.Params.Wrapper
import Mathlib.Tactic.MkIffOfInductiveProp

/-!
# Which exts of an impression are read

* `Members.Allows` : a member that may be absent or null;
* `Keyword.Shape`, `SlotParams.Shape`, `ImpExt.Shape` : what may stand in an ext;
* `Keyword.accepts_iff`, `SlotParams.accepts_iff`, `ImpExt.accepts_iff` : this and nothing else is read;
* `ImpExt.plain_data` : the data of an ext that is read;
* `ext_read_iff` : an ext is read exactly when it has its shape; `keyword_by_position` : a keyword may be the array of its
  fields, where every other record has to be an object.
-/

namespace BidAdapter

set_option autoImplicit false

open Json
open Json.Decoder (string int32 list members optional)

/-- Under a name, nothing stands but null and what meets a condition. -/
def Json.Members.Allows (ms : Members) (name : String) (P : Value → Prop) : Prop :=
  ∀ v, ms.get? name = some v → v = .null ∨ P v

/-! ## Shapes -/

/-- The values that are keywords: an object with a key, and the array of a key and, where they are given, its values. -/
inductive Keyword.Shape : Value → Prop where
  | object {ms : Members} {key : String} (hkey : ms.get? "key" = some (.string key))
    (hvalue : ∀ v, ms.get? "value" = some v → ∃ ss, v = .ofStrings ss) : Shape (.object ms)
  | key (key : String) : Shape (.array [.string key])
  | both (key : String) (ss : List String) : Shape (.array [.string key, .ofStrings ss])

@[mk_iff]
structure SlotParams.Shape (ms : Members) : Prop where
  publisherId : ms.Allows "publisherId" fun v => ∃ s, v = .string s
  adSlot : ms.Allows "adSlot" fun v => ∃ s, v = .string s
  dctr : ms.Allows "dctr" fun v => ∃ s, v = .string s
  pmzoneid : ms.Allows "pmzoneid" fun v => ∃ s, v = .string s
  wrapper : ms.Allows "wrapper" fun v => ∃ w, v = .object w ∧ Wrapper.Shape w
  keywords : ms.Allows "keywords" fun v => ∃ items, v = .array items ∧ ∀ k ∈ items, Keyword.Shape k
  kadfloor : ms.Allows "kadfloor" fun v => (∃ s, v = .string s) ∨ ∃ n, v = .number n

@[mk_iff]
structure ImpExt.Shape (ms : Members) : Prop where
  bidder : ms.Allows "bidder" fun v => ∃ slot, v = .object slot ∧ SlotParams.Shape slot
  data : ms.Allows "data" fun v => ∃ members, v = .object members
  ae : ms.Allows "ae" fun v => ∃ n, v = .ofInt32 n
  gpid : ms.Allows "gpid" fun v => ∃ s, v = .string s

/-! ## Parts -/

section Parts
variable {α : Type} {d : Decoder α} {v : Value} {ms : Members} {kind : Number → Prop}

theorem accepts_objectOnly_iff (hplain : v.Plain kind .value) :
    (objectOnly d).Accepts v ↔ v = .null ∨ ∃ ms, v = .object ms ∧ d.Accepts (.object ms) := by
  unfold Decoder.Accepts
  simp only [Decoder.ofValue, objectOnly_eq_ok_iff, any_ofValue hplain, Except.ok.injEq]
  constructor
  · rintro ⟨x, ⟨hnull, -⟩ | ⟨ms, a, hv, ha, -⟩⟩
    · exact Or.inl hnull
    · exact Or.inr ⟨ms, hv, a, ha⟩
  · rintro (hnull | ⟨ms, hv, a, ha⟩)
    · exact ⟨none, Or.inl ⟨hnull, rfl⟩⟩
    · exact ⟨some a, Or.inr ⟨ms, a, hv, ha, rfl⟩⟩

theorem accepts_textOrNumber_iff (hplain : v.Plain kind .value) :
    textOrNumber.Accepts v ↔ v = .null ∨ (∃ s, v = .string s) ∨ ∃ n, v = .number n := by
  unfold Decoder.Accepts Decoder.ofValue textOrNumber
  simp only [any_ofValue hplain, ok_bind]
  cases v <;> simp [pure, Except.pure, throw, throwThe, MonadExceptOf.throw]

/-- A member that may be null. -/
theorem forall_accepts_optional_iff {name : String} {P : Value → Prop}
    (h : ∀ v, ms.get? name = some v → (d.Accepts v ↔ P v)) :
    (∀ v, ms.get? name = some v → (optional d).Accepts v) ↔ ms.Allows name P := by
  refine forall₂_congr fun v hv => ?_
  rw [accepts_optional_iff, h v hv]

/-- A member that has to be an object, or is null. -/
theorem forall_accepts_objectOnly_iff {name : String} {P : Members → Prop}
    (hplain : (Value.object ms).Plain kind .value)
    (h : ∀ part, ms.get? name = some (.object part) → (d.Accepts (.object part) ↔ P part)) :
    (∀ v, ms.get? name = some v → (objectOnly d).Accepts v) ↔
      ms.Allows name fun v => ∃ part, v = .object part ∧ P part := by
  refine forall₂_congr fun v hv => ?_
  rw [accepts_objectOnly_iff (hplain.member hv)]
  refine or_congr_right (exists_congr fun part => and_congr_right ?_)
  rintro rfl
  exact h part hv

end Parts

/-! ## Records -/

section Records
variable {v : Value} {ms : Members} {kind : Number → Prop}

theorem Keyword.accepts_object_iff (hms : ms.names.Nodup) :
    Keyword.decoder.Accepts (.object ms) ↔ (∃ key, ms.get? "key" = some (.string key)) ∧
      ∀ v, ms.get? "value" = some v → ∃ ss, v = .ofStrings ss := by
  rw [Keyword.decoder, closedRecord_accepts_object_iff (by decide) (by simp [Field.of, Field.needed]) hms]
  simp only [List.forall_mem_cons, List.not_mem_nil, Field.name_needed, Field.name_of, Field.required_needed,
    Field.required_of, Field.accepts_read_needed, Field.accepts_read_of, accepts_string_iff, accepts_strings_iff,
    Bool.false_eq_true, false_imp_iff, implies_true, and_true, true_imp_iff]
  constructor
  · rintro ⟨⟨hkey, hvalue⟩, v, hv⟩
    obtain ⟨key, rfl⟩ := hkey v hv
    exact ⟨⟨key, hv⟩, hvalue⟩
  · rintro ⟨⟨key, hkey⟩, hvalue⟩
    refine ⟨⟨?_, hvalue⟩, _, hkey⟩
    intro v hv
    rw [hkey] at hv
    cases hv
    exact ⟨key, rfl⟩

theorem Keyword.accepts_array_iff {items : List Value} :
    Keyword.decoder.Accepts (.array items) ↔ (∃ key, items = [.string key]) ∨
      ∃ key ss, items = [.string key, .ofStrings ss] := by
  rw [Keyword.decoder, closedRecord_accepts_array_iff]
  rcases items with _ | ⟨first, _ | ⟨second, _ | ⟨third, rest⟩⟩⟩
  · simp
  · simp [accepts_string_iff]
  · simp [accepts_string_iff, accepts_strings_iff]
  · simp

theorem Keyword.accepts_iff (hplain : v.Plain kind .value) : Keyword.decoder.Accepts v ↔ Keyword.Shape v := by
  constructor
  · intro h
    rcases object_or_array_of_closedRecord h with ⟨ms, rfl⟩ | ⟨items, rfl⟩
    · obtain ⟨⟨key, hkey⟩, hvalue⟩ := (Keyword.accepts_object_iff hplain.names).mp h
      exact .object hkey hvalue
    · rcases Keyword.accepts_array_iff.mp h with ⟨key, rfl⟩ | ⟨key, ss, rfl⟩
      · exact .key key
      · exact .both key ss
  · intro h
    cases h with
    | object hkey hvalue => exact (Keyword.accepts_object_iff hplain.names).mpr ⟨⟨_, hkey⟩, hvalue⟩
    | key key => exact Keyword.accepts_array_iff.mpr (Or.inl ⟨key, rfl⟩)
    | both key ss => exact Keyword.accepts_array_iff.mpr (Or.inr ⟨key, ss, rfl⟩)

theorem SlotParams.accepts_iff (hplain : (Value.object ms).Plain kind .value) :
    SlotParams.decoder.Accepts (.object ms) ↔ SlotParams.Shape ms := by
  have htext (name : String) : (∀ v, ms.get? name = some v → (optional string).Accepts v) ↔
      ms.Allows name fun v => ∃ s, v = .string s := forall_accepts_optional_iff fun _ _ => accepts_string_iff
  have hwrapper : (∀ v, ms.get? "wrapper" = some v → (objectOnly Wrapper.decoder).Accepts v) ↔
      ms.Allows "wrapper" fun v => ∃ w, v = .object w ∧ Wrapper.Shape w :=
    forall_accepts_objectOnly_iff hplain fun w hw => Wrapper.accepts_iff (hplain.member hw)
  have hkeywords : (∀ v, ms.get? "keywords" = some v → (optional (list Keyword.decoder)).Accepts v) ↔
      ms.Allows "keywords" fun v => ∃ items, v = .array items ∧ ∀ k ∈ items, Keyword.Shape k := by
    refine forall_accepts_optional_iff fun v hv => ?_
    rw [accepts_list_iff]
    refine exists_congr fun items => and_congr_right ?_
    rintro rfl
    exact forall₂_congr fun k hk => Keyword.accepts_iff ((hplain.member hv).item hk)
  have hfloor : (∀ v, ms.get? "kadfloor" = some v → textOrNumber.Accepts v) ↔
      ms.Allows "kadfloor" fun v => (∃ s, v = .string s) ∨ ∃ n, v = .number n :=
    forall₂_congr fun v hv => accepts_textOrNumber_iff (hplain.member hv)
  rw [SlotParams.decoder, closedRecord_accepts_object_iff (by decide) (by simp [Field.of]) hplain.names,
    SlotParams.shape_iff]
  simp [htext, hwrapper, hkeywords, hfloor]

theorem ImpExt.accepts_iff (hplain : (Value.object ms).Plain kind .value) :
    ImpExt.decoder.Accepts (.object ms) ↔ ImpExt.Shape ms := by
  have hbidder : (∀ v, ms.get? "bidder" = some v → (objectOnly SlotParams.decoder).Accepts v) ↔
      ms.Allows "bidder" fun v => ∃ slot, v = .object slot ∧ SlotParams.Shape slot :=
    forall_accepts_objectOnly_iff hplain fun slot hslot => SlotParams.accepts_iff (hplain.member hslot)
  have hdata : (∀ v, ms.get? "data" = some v → (optional members).Accepts v) ↔
      ms.Allows "data" fun v => ∃ data, v = .object data :=
    forall_accepts_optional_iff fun v hv => accepts_members_iff (hplain.member hv)
  have hae : (∀ v, ms.get? "ae" = some v → (optional int32).Accepts v) ↔
      ms.Allows "ae" fun v => ∃ n, v = .ofInt32 n := forall_accepts_optional_iff fun _ _ => accepts_int32_iff
  have hgpid : (∀ v, ms.get? "gpid" = some v → (optional string).Accepts v) ↔
      ms.Allows "gpid" fun v => ∃ s, v = .string s := forall_accepts_optional_iff fun _ _ => accepts_string_iff
  rw [ImpExt.decoder, closedRecord_accepts_object_iff (by decide) (by simp [Field.of]) hplain.names, ImpExt.shape_iff]
  simp [hbidder, hdata, hae, hgpid]

end Records

/-- The data of an ext are an object without a name twice, at any depth. -/
theorem ImpExt.plain_data {ext : Option Members} {e : ImpExt} {data : Members} (h : ImpExt.ofMembers ext = .ok e)
    (hdata : e.data = some data) : (Value.object data).Plain (fun _ => True) .value := by
  cases ext with
  | none =>
    cases h
    cases hdata
  | some ms =>
    have hdecoder : ImpExt.decoder .value (.ofValue (.object ms)) = .ok e := h
    obtain ⟨inner, docs, -, hrun⟩ := recordRun_of_closedRecord (by decide) hdecoder
    have hread : OptionRead inner docs ["data"] members e.data :=
      hrun.optionRead ImpExt.data (.of_passOver (by decide) (by simp) (by simp)) rfl
    rw [hdata] at hread
    cases hread with
    | present _ hmembers =>
      have hany := any_value_of_any (members_eq_ok_iff.mp hmembers)
      exact plain_of_any hany fun _ _ => trivial

/-- **An ext is read exactly when it has the shape of one**: the bidder and its wrapper only as objects, but a keyword
also as the array of its fields. -/
theorem ext_read_iff {ms : Members} (hplain : (Value.object ms).Plain (fun _ => True) .value) :
    (∃ e, ImpExt.ofMembers (some ms) = .ok e) ↔ ImpExt.Shape ms := ImpExt.accepts_iff hplain

/-- An ext with two keywords, of which the second is the array of its fields. -/
def extWithKeywords : Members :=
  [("bidder", .object [("wrapper", .object [("profile", .string "-7"), ("version", .array [.null])]),
    ("keywords", .array [.object [("value", .ofStrings []), ("key", .string "a")],
      .array [.string "k", .ofStrings ["v"]]]),
    ("kadfloor", .number (.int 2 (by decide)))]), ("data", .null)]

theorem plain_extWithKeywords : (Value.object extWithKeywords).Plain (fun _ => True) .value := by
  have hread : Decoder.any .value (.ofValue (.object extWithKeywords)) = .ok (.object extWithKeywords) := rfl
  exact plain_of_any hread fun _ _ => trivial

theorem ext_read_of_keywords : (Value.object extWithKeywords).Plain (fun _ => True) .value ∧
    ImpExt.Shape extWithKeywords ∧ ∃ e, ImpExt.ofMembers (some extWithKeywords) = .ok e ∧
      e.slot.keywords = some [⟨"a", []⟩, ⟨"k", ["v"]⟩] :=
  ⟨plain_extWithKeywords, (ext_read_iff plain_extWithKeywords).mp ⟨_, rfl⟩, _, rfl, rfl⟩

/-- An ext is read though one of its keywords is no object. -/
theorem keyword_by_position : ¬∀ (ms slot : Members) (keywords : List Value),
    (Value.object ms).Plain (fun _ => True) .value → (∃ e, ImpExt.ofMembers (some ms) = .ok e) →
      ms.get? "bidder" = some (.object slot) → slot.get? "keywords" = some (.array keywords) →
        ∀ k ∈ keywords, ∃ ms : Members, k = .object ms ∧ ms.get? "key" ≠ none := by
  intro h
  have hobject := h extWithKeywords _ _ plain_extWithKeywords ⟨_, rfl⟩ rfl rfl (.array [.string "k", .ofStrings ["v"]])
    (by simp)
  obtain ⟨ms, heq, -⟩ := hobject
  cases heq

end BidAdapter
