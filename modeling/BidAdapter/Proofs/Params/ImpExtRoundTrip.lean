import BidAdapter.Proofs.Json.RoundTrip
import BidAdapter.Proofs.Params.ImpExt

/-!
# Exts of impressions written and read again

* `roundTrips_textOrNumber`, `Wrapper.roundTrips_field`, `RoundTrips.objectOnly` : parts that are taken from more than
  one kind of value are written as the one that is read as itself;
* `Wrapper.roundTrips`, `Keyword.roundTrips`, `SlotParams.roundTrips` : whatever they are, they are read back as they
  were written; `ImpExt.roundTrips` : so is an ext with plain data, which `ImpExt.plain_data` is of any that was read;
* `ext_reread` : an ext that was read comes to the same when it is written and read again.
-/

namespace BidAdapter

set_option autoImplicit false

open Json
open Json.Decoder (string list members)

variable {kind : Number → Prop} {o : Origin}

/-! ## Parts -/

/-- What has to be an object is written as one. -/
theorem Json.RoundTrips.objectOnly {α : Type} {d : Decoder α} {enc : α → Value} {a : α}
    (h : RoundTrips kind d enc .value a) (hobject : ∃ ms, enc a = .object ms) :
    RoundTrips kind (objectOnly d) (Option.elim · .null enc) .value (some a) := by
  obtain ⟨ms, hms⟩ := hobject
  refine ⟨h.plain, objectOnly_eq_ok_iff.mpr (Or.inr ⟨ms, a, ?_, ?_, rfl⟩)⟩
  · rw [Option.elim_some, any_ofValue h.plain, hms]
  · rw [← hms]
    exact h.reads

theorem roundTrips_textOrNumber (s : String) :
    RoundTrips kind textOrNumber (Option.elim · .null .string) o (some s) := ⟨.string s, rfl⟩

theorem Keyword.roundTrips (k : Keyword) : RoundTrips kind Keyword.decoder Keyword.toJson .value k := by
  have hjson : k.toJson =
      .object (Members.typed [("key", some (.string k.key)), ("value", some (.ofStrings k.value))]) := rfl
  refine closedRecord_roundTrips hjson rfl (by decide)
    (by simp [Field.of, Field.needed, Members.typed, Members.optional]) ?_
  refine .read (.string k.key) rfl ?_
  refine .always (roundTrips_strings rfl) ?_
  exact .nil _

section Integers
variable (hint : ∀ n fits, kind (.int n fits))
include hint

theorem Wrapper.roundTrips_field (n : Int32) : RoundTrips kind Wrapper.fieldDecoder .ofInt32 o n := by
  have hplain : (Value.ofInt32 n).Plain kind o := .number (hint _ _)
  exact ⟨hplain, Wrapper.fieldDecoder_eq_ok_iff.mpr ⟨_, any_ofValue hplain, .number n⟩⟩

theorem Wrapper.roundTrips (w : Wrapper) : RoundTrips kind Wrapper.decoder Wrapper.toJson .value w := by
  have hjson : w.toJson = .object (Members.typed
      [("profile", some (.ofInt32 w.profile)), ("version", some (.ofInt32 w.version))]) := rfl
  refine closedRecord_roundTrips hjson rfl (by decide) (by simp [Field.of]) ?_
  refine .always (Wrapper.roundTrips_field hint w.profile) ?_
  refine .always (Wrapper.roundTrips_field hint w.version) ?_
  exact .nil _

/-! ## The ext -/

def SlotParams.typed (p : SlotParams) : List (String × Option Value) :=
  [("publisherId", p.publisherId.map .string), ("adSlot", p.adSlot.map .string), ("dctr", p.dctr.map .string),
    ("pmzoneid", p.zoneId.map .string), ("wrapper", p.wrapper.map Wrapper.toJson),
    ("keywords", p.keywords.map fun ks => .array (ks.map Keyword.toJson)), ("kadfloor", p.floor.map .string)]

omit hint in
theorem SlotParams.toJson_eq (p : SlotParams) : p.toJson = .object (Members.typed p.typed) := by
  simp [toJson, Members.typed, typed]

theorem SlotParams.roundTrips (p : SlotParams) : RoundTrips kind SlotParams.decoder SlotParams.toJson .value p := by
  refine closedRecord_roundTrips p.toJson_eq rfl (by decide) (by simp [Field.of]) ?_
  refine .string rfl ?_
  refine .string rfl ?_
  refine .string rfl ?_
  refine .string rfl ?_
  refine .part rfl rfl (fun w _ => (Wrapper.roundTrips hint w).objectOnly ⟨_, rfl⟩) ?_
  refine .option rfl (fun _ => not_mistyped) rfl (fun ks _ => roundTrips_list rfl fun k _ => k.roundTrips) ?_
  refine .part rfl rfl (fun s _ => roundTrips_textOrNumber s) ?_
  exact .nil _

def ImpExt.typed (e : ImpExt) : List (String × Option Value) :=
  [("bidder", e.bidder.map SlotParams.toJson), ("data", e.data.map .object), ("ae", e.ae.map .ofInt32),
    ("gpid", e.gpid.map .string)]

omit hint in
theorem ImpExt.toJson_eq (e : ImpExt) : e.toJson = .object (Members.typed e.typed) := by
  simp [toJson, Members.typed, typed]

theorem ImpExt.roundTrips {e : ImpExt} (hdata : ∀ data, e.data = some data → (Value.object data).Plain kind .value) :
    RoundTrips kind ImpExt.decoder ImpExt.toJson .value e := by
  refine closedRecord_roundTrips e.toJson_eq rfl (by decide) (by simp [Field.of]) ?_
  refine .part rfl rfl (fun p _ => (SlotParams.roundTrips hint p).objectOnly ⟨_, p.toJson_eq⟩) ?_
  refine .members rfl hdata ?_
  refine .int32 hint rfl ?_
  refine .string rfl ?_
  exact .nil _

end Integers

/-! ## Reading again -/

/-- What is read of a value is read again from what is written of it. -/
def Json.Decoder.Idempotent {α : Type} (d : Decoder α) (enc : α → Value) : Prop :=
  ∀ v a, d.ofValue v = .ok a → d.ofValue (enc a) = .ok a

theorem idempotent_of_roundTrips {α : Type} {d : Decoder α} {enc : α → Value}
    (h : ∀ a, RoundTrips (fun _ => True) d enc .value a) : d.Idempotent enc := fun _ a _ => (h a).reads

theorem idempotent_textOrNumber : textOrNumber.Idempotent (Option.elim · .null .string) := by
  rintro v (_ | s) -
  · rfl
  · rfl

theorem idempotent_objectOnly {α : Type} {d : Decoder α} {enc : α → Value}
    (h : ∀ a, RoundTrips (fun _ => True) d enc .value a) (hobject : ∀ a, ∃ ms, enc a = .object ms) :
    (objectOnly d).Idempotent (Option.elim · .null enc) := by
  rintro v (_ | a) -
  · rfl
  · exact ((h a).objectOnly (hobject a)).reads

/-- **An ext that was read comes to the same when it is written and read again**, and so does each part that is taken
from more than one kind of value. -/
theorem ext_reread {ext : Option Members} {e : ImpExt} (h : ImpExt.ofMembers ext = .ok e) :
    (∃ out, e.toJson = .object out ∧ (Value.object out).Plain (fun _ => True) .value ∧
      ImpExt.ofMembers (some out) = .ok e ∧
      ∀ e', ImpExt.ofMembers (some out) = .ok e' → e'.toJson.compact = e.toJson.compact) ∧
    textOrNumber.Idempotent (Option.elim · .null .string) ∧ Wrapper.fieldDecoder.Idempotent .ofInt32 ∧
    (objectOnly Wrapper.decoder).Idempotent (Option.elim · .null Wrapper.toJson) ∧
    Keyword.decoder.Idempotent Keyword.toJson ∧
    (objectOnly SlotParams.decoder).Idempotent (Option.elim · .null SlotParams.toJson) := by
  have hint (n : Int) (fits : -2 ^ 63 ≤ n ∧ n < 2 ^ 64) : (fun _ => True : Number → Prop) (.int n fits) := trivial
  refine ⟨?_, idempotent_textOrNumber, ?_, ?_, ?_, ?_⟩
  · obtain ⟨hplain, hreads⟩ := ImpExt.roundTrips hint fun data => ImpExt.plain_data h
    rw [e.toJson_eq] at hplain hreads
    refine ⟨_, e.toJson_eq, hplain, hreads, ?_⟩
    intro e' he'
    cases hreads.symm.trans he'
    rfl
  · exact idempotent_of_roundTrips (Wrapper.roundTrips_field hint)
  · exact idempotent_objectOnly (Wrapper.roundTrips hint) fun _ => ⟨_, rfl⟩
  · exact idempotent_of_roundTrips Keyword.roundTrips
  · exact idempotent_objectOnly (SlotParams.roundTrips hint) fun p => ⟨_, p.toJson_eq⟩

/-- What is written of `extWithKeywords` : integers, a price as text, and no keyword that is an array. -/
def rewrittenExt : Members :=
  [("bidder", .object [("wrapper", .object [("profile", .ofInt32 (-7)), ("version", .ofInt32 0)]),
    ("keywords", .array [.object [("key", .string "a"), ("value", .array [])],
      .object [("key", .string "k"), ("value", .array [.string "v"])]]), ("kadfloor", .string "2")])]

theorem ext_reread_of_keywords : ∃ e, ImpExt.ofMembers (some extWithKeywords) = .ok e ∧
    e.toJson = .object rewrittenExt ∧ ImpExt.ofMembers (some rewrittenExt) = .ok e := by
  obtain ⟨e, he, hjson⟩ : ∃ e, ImpExt.ofMembers (some extWithKeywords) = .ok e ∧ e.toJson = .object rewrittenExt :=
    ⟨_, rfl, rfl⟩
  obtain ⟨⟨out, hout, -, hread, -⟩, -⟩ := ext_reread he
  rw [hjson] at hout
  cases hout
  exact ⟨e, he, hjson, hread⟩

end BidAdapter
