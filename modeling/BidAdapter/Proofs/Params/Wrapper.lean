import BidAdapter.Params.ImpExt
import BidAdapter.Params.RequestParams
import BidAdapter.Proofs.Json.Acceptance
import BidAdapter.Proofs.Text.Integers
import Mathlib.Tactic.MkIffOfInductiveProp

/-!
# Wrappers that are read

A wrapper stands in the ext of a request and in that of an impression, and each place has a reader of its own.

* `Wrapper.FieldFrom` : what a field of a wrapper comes to, from any value or none; `fieldOf_eq_error_iff` : only a text
  that is no literal fails; `Wrapper.Coerced`, `fieldOf_exact` : both by the kind of the value;
* `Wrapper.ReadFrom`, `Wrapper.FaultIn` : the same for a whole wrapper; `ofMember_eq_ok_iff`, `ofMember_eq_error_iff` :
  they are what becomes of the wrapper of a request;
* `Wrapper.Shape`, `Wrapper.accepts_iff` : the objects of which a wrapper of an impression is read;
  `objectOnly_eq_ok_iff`, `decoder_eq_ok_iff` : and as what;
* `wrapper_readers_agree` : both readers come to the same.
-/

namespace BidAdapter

set_option autoImplicit false

open Json

/-- The literals of 32-bit integers. -/
def Text.IsInt32 (s : String) : Prop := ∃ n : Int32, Literal s.toList n.toInt

namespace Wrapper

variable {v : Value} {x : Option Value} {n : Int32} {ms : Members} {name s : String}

/-! ## Fields -/

/-- What a field of a wrapper comes to: the integer of a literal or of a number of 32 bits, else zero. -/
inductive FieldFrom : Option Value → Int32 → Prop where
  | absent : FieldFrom none 0
  | literal {s : String} {n : Int32} (h : Text.Literal s.toList n.toInt) : FieldFrom (some (.string s)) n
  | number (n : Int32) : FieldFrom (some (.ofInt32 n)) n
  | other {v : Value} (hstring : ∀ s, v ≠ .string s) (hnumber : ∀ n, v ≠ .ofInt32 n) : FieldFrom (some v) 0

theorem isInt32_iff : Text.IsInt32 s ↔ ∃ n, Text.int32? s.toList = some n := by
  simp only [Text.IsInt32, Text.int32?_eq_some_iff]

theorem fieldOf_ofInt32 (n : Int32) : fieldOf (.ofInt32 n) = .ok n := by
  have hrange : -2 ^ 31 ≤ n.toInt ∧ n.toInt < 2 ^ 31 := ⟨n.le_toInt, n.toInt_lt⟩
  simp only [Value.ofInt32, Number.ofInt32, fieldOf, if_pos hrange, Int32.ofInt_toInt]

theorem fieldOf_of_fieldFrom (h : FieldFrom (some v) n) : fieldOf v = .ok n := by
  cases h with
  | literal h => simp only [fieldOf, Text.int32?_eq_some_iff.mpr h]
  | number => exact fieldOf_ofInt32 n
  | other hstring hnumber =>
    unfold fieldOf
    split
    · next s => exact absurd rfl (hstring s)
    · next k fits =>
      split_ifs with hrange
      · have hint : Number.int k fits = .ofInt32 (Int32.ofInt k) :=
          int_eq_ofInt32_iff.mpr (Int32.toInt_ofInt_of_le hrange.1 hrange.2).symm
        exact absurd (congrArg Value.number hint) (hnumber _)
      · rfl
    · rfl

theorem fieldOf_eq_error_iff {e : ShapeError} :
    fieldOf v = .error e ↔ ∃ s, v = .string s ∧ ¬Text.IsInt32 s ∧ e = .notInteger s := by
  simp only [isInt32_iff, not_exists]
  unfold fieldOf
  split
  · next s =>
    cases hs : Text.int32? s.toList with
    | some n => simp [hs]
    | none => simp [hs, eq_comm]
  · simp
  · next hstring _ =>
    refine iff_of_false (by simp) ?_
    rintro ⟨s, rfl, -⟩
    exact hstring s rfl

/-- What is no text has a number, and a text has one exactly as a literal. -/
theorem exists_fieldFrom (h : ∀ s, v = .string s → Text.IsInt32 s) : ∃ n, FieldFrom (some v) n := by
  by_cases hstring : ∃ s, v = .string s
  · obtain ⟨s, rfl⟩ := hstring
    obtain ⟨n, hn⟩ := h s rfl
    exact ⟨n, .literal hn⟩
  · by_cases hnumber : ∃ n, v = .ofInt32 n
    · obtain ⟨n, rfl⟩ := hnumber
      exact ⟨n, .number n⟩
    · exact ⟨0, .other (not_exists.mp hstring) (not_exists.mp hnumber)⟩

theorem fieldOf_eq_ok_iff : fieldOf v = .ok n ↔ FieldFrom (some v) n := by
  refine ⟨fun h => ?_, fieldOf_of_fieldFrom⟩
  have hliteral : ∀ s, v = .string s → Text.IsInt32 s := by
    intro s hs
    by_contra hnot
    rw [fieldOf_eq_error_iff.mpr ⟨s, hs, hnot, rfl⟩] at h
    cases h
  obtain ⟨m, hm⟩ := exists_fieldFrom hliteral
  rw [fieldOf_of_fieldFrom hm] at h
  cases h
  exact hm

/-- A field comes to one number only. -/
theorem FieldFrom.unique {m : Int32} (hm : FieldFrom x m) (hn : FieldFrom x n) : m = n := by
  cases x with
  | none =>
    cases hm
    cases hn
    rfl
  | some v =>
    have heq := (fieldOf_of_fieldFrom hm).symm.trans (fieldOf_of_fieldFrom hn)
    cases heq
    rfl

/-- A text that is no literal comes to nothing. -/
theorem FieldFrom.isInt32 (h : FieldFrom (some (.string s)) n) : Text.IsInt32 s := by
  cases h with
  | literal h => exact ⟨n, h⟩
  | other hstring _ => exact absurd rfl (hstring s)

/-- What a value comes to as a field, by its kind, with the message of a text that fails. A number that is written with
a fraction or an exponent is no integer. -/
inductive Coerced : Value → Except String Int32 → Prop where
  | literal {s : String} {n : Int32} (h : Text.Literal s.toList n.toInt) : Coerced (.string s) (.ok n)
  | text {s : String} (h : ¬Text.IsInt32 s) : Coerced (.string s) (.error ("For input string: \"" ++ s ++ "\""))
  | integer {k : Int} {fits : -2 ^ 63 ≤ k ∧ k < 2 ^ 64} {n : Int32} (h : n.toInt = k) :
    Coerced (.number (.int k fits)) (.ok n)
  | beyond {k : Int} {fits : -2 ^ 63 ≤ k ∧ k < 2 ^ 64} (h : ∀ n : Int32, n.toInt ≠ k) :
    Coerced (.number (.int k fits)) (.ok 0)
  | real (x : Float) (finite : x.isFinite = true) : Coerced (.number (.real x finite)) (.ok 0)
  | null : Coerced .null (.ok 0)
  | bool (b : Bool) : Coerced (.bool b) (.ok 0)
  | array (items : List Value) : Coerced (.array items) (.ok 0)
  | object (ms : Members) : Coerced (.object ms) (.ok 0)

theorem coerced_fieldOf (v : Value) : Coerced v ((fieldOf v).mapError ShapeError.message) := by
  cases v with
  | null => exact .null
  | bool b => exact .bool b
  | array items => exact .array items
  | object ms => exact .object ms
  | string s =>
    by_cases hs : Text.IsInt32 s
    · obtain ⟨n, hn⟩ := hs
      rw [fieldOf_of_fieldFrom (.literal hn)]
      exact .literal hn
    · rw [fieldOf_eq_error_iff.mpr ⟨s, rfl, hs, rfl⟩]
      exact .text hs
  | number k =>
    cases k with
    | real x finite => exact .real x finite
    | int k fits =>
      by_cases hk : ∃ n : Int32, n.toInt = k
      · obtain ⟨n, rfl⟩ := hk
        have hn : fieldOf (.number (.int n.toInt fits)) = .ok n := fieldOf_ofInt32 n
        rw [hn]
        exact .integer rfl
      · have hother : FieldFrom (some (.number (.int k fits))) 0 := by
          refine .other (by simp) ?_
          intro n hn
          exact hk ⟨n, (int_eq_ofInt32_iff.mp (Value.number.inj hn)).symm⟩
        rw [fieldOf_of_fieldFrom hother]
        exact .beyond (not_exists.mp hk)

/-- A value comes to one number or to one message. -/
theorem Coerced.unique {r r' : Except String Int32} (h : Coerced v r) (h' : Coerced v r') : r = r' := by
  cases h with
  | literal h =>
    cases h' with
    | literal h' => rw [FieldFrom.unique (.literal h) (.literal h')]
    | text h' => exact absurd ⟨_, h⟩ h'
  | text h =>
    cases h' with
    | literal h' => exact absurd ⟨_, h'⟩ h
    | text => rfl
  | integer h =>
    cases h' with
    | integer h' => rw [Int32.toInt_inj.mp (h.trans h'.symm)]
    | beyond h' => exact absurd h (h' _)
  | beyond h =>
    cases h' with
    | integer h' => exact absurd h' (h _)
    | beyond => rfl
  | real | null | bool | array | object =>
    cases h'
    rfl

/-- **The fields of a wrapper are read exactly.** A text is read if and only if it is the literal of an integer of 32
bits, digits behind one sign or none, and fails with a message that quotes it otherwise; a number is read as itself if
it is an integer of 32 bits and as zero otherwise, and so is any other value. Every integer of 32 bits is thus read
alike from its number and from its text. -/
theorem fieldOf_exact :
    (∀ v r, (fieldOf v).mapError ShapeError.message = r ↔ Coerced v r) ∧
      ∀ n : Int32, fieldOf (.ofInt32 n) = .ok n ∧ fieldOf (.string (Number.ofInt32 n).text) = .ok n := by
  refine ⟨?_, ?_⟩
  · intro v r
    constructor
    · rintro rfl
      exact coerced_fieldOf v
    · exact (coerced_fieldOf v).unique
  · intro n
    have htext : (Number.ofInt32 n).text.toList = intChars n.toInt := String.toList_ofList
    have hliteral : Text.Literal (Number.ofInt32 n).text.toList n.toInt := by
      rw [htext]
      exact Text.int32?_eq_some_iff.mp (Text.int32?_intChars n)
    exact ⟨fieldOf_ofInt32 n, fieldOf_of_fieldFrom (.literal hliteral)⟩

theorem memberOf_eq_ok_iff : memberOf ms name = .ok n ↔ FieldFrom (ms.get? name) n := by
  unfold memberOf
  cases ms.get? name with
  | some v => exact mapError_eq_ok_iff.trans fieldOf_eq_ok_iff
  | none =>
    constructor
    · rintro ⟨⟩
      exact .absent
    · rintro ⟨⟩
      rfl

theorem memberOf_eq_error_iff {e : ParamsError} :
    memberOf ms name = .error e ↔
      ∃ s, ms.get? name = some (.string s) ∧ ¬Text.IsInt32 s ∧ e = .wrapper (.notInteger s) := by
  unfold memberOf
  cases ms.get? name with
  | none => simp
  | some v =>
    simp only [mapError_eq_error_iff, fieldOf_eq_error_iff, Option.some_inj]
    constructor
    · rintro ⟨_, ⟨s, hv, hs, rfl⟩, rfl⟩
      exact ⟨s, hv, hs, rfl⟩
    · rintro ⟨s, hv, hs, rfl⟩
      exact ⟨_, ⟨s, hv, hs, rfl⟩, rfl⟩

/-! ## The wrapper of a request -/

/-- What a wrapper comes to: none where nothing or null stands, each field by itself in an object, and both unset in
anything else. -/
inductive ReadFrom : Option Value → Option Wrapper → Prop where
  | absent : ReadFrom none none
  | null : ReadFrom (some .null) none
  | object {ms : Members} {w : Wrapper} (hprofile : FieldFrom (ms.get? "profile") w.profile)
    (hversion : FieldFrom (ms.get? "version") w.version) : ReadFrom (some (.object ms)) (some w)
  | other {v : Value} (hnull : v ≠ .null) (hobject : ∀ ms, v ≠ .object ms) : ReadFrom (some v) (some ⟨0, 0⟩)

/-- The text of the first field that is no literal. -/
inductive FaultIn : Option Value → String → Prop where
  | profile {ms : Members} {s : String} (h : ms.get? "profile" = some (.string s)) (hs : ¬Text.IsInt32 s) :
    FaultIn (some (.object ms)) s
  | version {ms : Members} {n : Int32} {s : String} (hprofile : FieldFrom (ms.get? "profile") n)
    (h : ms.get? "version" = some (.string s)) (hs : ¬Text.IsInt32 s) : FaultIn (some (.object ms)) s

theorem ofMember_eq_ok_iff {w : Option Wrapper} : ofMember x = .ok w ↔ ReadFrom x w := by
  unfold ofMember
  split
  · constructor
    · rintro ⟨⟩
      exact .absent
    · rintro ⟨⟩
      rfl
  · constructor
    · rintro ⟨⟩
      exact .null
    · rintro (_ | _ | _ | ⟨hnull, -⟩)
      · rfl
      · exact absurd rfl hnull
  · simp only [bind_eq_ok_iff, memberOf_eq_ok_iff, pure_eq_ok_iff]
    constructor
    · rintro ⟨profile, hprofile, version, hversion, rfl⟩
      exact .object hprofile hversion
    · intro h
      cases h with
      | object hprofile hversion => exact ⟨_, hprofile, _, hversion, rfl⟩
      | other _ hobject => exact absurd rfl (hobject _)
  · next v hnull hobject =>
    constructor
    · rintro ⟨⟩
      exact .other hnull hobject
    · intro h
      cases h with
      | null => exact absurd rfl hnull
      | object => exact absurd rfl (hobject _)
      | other => rfl

theorem ofMember_eq_error_iff {e : ParamsError} :
    ofMember x = .error e ↔ ∃ s, FaultIn x s ∧ e = .wrapper (.notInteger s) := by
  unfold ofMember
  split
  · refine iff_of_false (by simp) ?_
    rintro ⟨s, ⟨⟩, -⟩
  · refine iff_of_false (by simp) ?_
    rintro ⟨s, ⟨⟩, -⟩
  · simp only [bind_eq_error_iff, memberOf_eq_ok_iff, memberOf_eq_error_iff]
    constructor
    · rintro (⟨s, hget, hs, rfl⟩ | ⟨n, hprofile, ⟨s, hget, hs, rfl⟩ | ⟨_, _, hpure⟩⟩)
      · exact ⟨s, .profile hget hs, rfl⟩
      · exact ⟨s, .version hprofile hget hs, rfl⟩
      · cases hpure
    · rintro ⟨s, h, rfl⟩
      cases h with
      | profile hget hs => exact Or.inl ⟨s, hget, hs, rfl⟩
      | version hprofile hget hs => exact Or.inr ⟨_, hprofile, Or.inl ⟨s, hget, hs, rfl⟩⟩
  · next v _ hobject =>
    refine iff_of_false (by simp) ?_
    rintro ⟨s, h, -⟩
    cases h with
    | profile => exact hobject _ rfl
    | version => exact hobject _ rfl

end Wrapper

/-! ## The wrapper of an impression -/

section Reading
variable {α : Type} {d : Decoder α} {o : Origin} {doc : Document}

/-- A record that has to be an object is read from the value of the document. -/
theorem objectOnly_eq_ok_iff {x : Option α} :
    objectOnly d o doc = .ok x ↔ (Decoder.any o doc = .ok .null ∧ x = none) ∨
      ∃ ms a, Decoder.any o doc = .ok (.object ms) ∧ d.ofValue (.object ms) = .ok a ∧ x = some a := by
  unfold objectOnly
  rw [bind_eq_ok_iff]
  constructor
  · rintro ⟨v, hv, h⟩
    split at h
    · cases h
      exact Or.inl ⟨hv, rfl⟩
    · obtain ⟨a, ha, rfl⟩ := map_eq_ok_iff.mp h
      exact Or.inr ⟨_, a, hv, ha, rfl⟩
    · cases h
  · rintro (⟨hv, rfl⟩ | ⟨ms, a, hv, ha, rfl⟩)
    · exact ⟨_, hv, rfl⟩
    · exact ⟨_, hv, map_eq_ok_iff.mpr ⟨a, ha, rfl⟩⟩

namespace Wrapper

variable {n : Int32} {w : Wrapper} {v : Value} {ms : Members} {kind : Number → Prop}

theorem fieldDecoder_eq_ok_iff :
    fieldDecoder o doc = .ok n ↔ ∃ v, Decoder.any o doc = .ok v ∧ FieldFrom (some v) n := by
  unfold fieldDecoder
  rw [bind_eq_ok_iff]
  refine exists_congr fun v => and_congr_right fun _ => ?_
  rw [← fieldOf_eq_ok_iff]
  cases fieldOf v with
  | ok m => simp [pure, Except.pure]
  | error e => simp [throw, throwThe, MonadExceptOf.throw]

theorem accepts_fieldDecoder_iff (hplain : v.Plain kind .value) :
    fieldDecoder.Accepts v ↔ ∀ s, v = .string s → Text.IsInt32 s := by
  unfold Decoder.Accepts
  simp only [Decoder.ofValue, fieldDecoder_eq_ok_iff, any_ofValue hplain, Except.ok.injEq, exists_eq_left']
  constructor
  · rintro ⟨n, hn⟩ s rfl
    exact hn.isInt32
  · exact exists_fieldFrom

/-- A wrapper of which every text is the literal of an integer. -/
@[mk_iff]
structure Shape (ms : Members) : Prop where
  profile : ∀ s, ms.get? "profile" = some (.string s) → Text.IsInt32 s
  version : ∀ s, ms.get? "version" = some (.string s) → Text.IsInt32 s

theorem accepts_iff (hplain : (Value.object ms).Plain kind .value) :
    decoder.Accepts (.object ms) ↔ Shape ms := by
  have hfield (name : String) : (∀ v, ms.get? name = some v → fieldDecoder.Accepts v) ↔
      ∀ s, ms.get? name = some (.string s) → Text.IsInt32 s := by
    constructor
    · intro h s hs
      exact (accepts_fieldDecoder_iff (hplain.member hs)).mp (h _ hs) s rfl
    · intro h v hv
      refine (accepts_fieldDecoder_iff (hplain.member hv)).mpr ?_
      rintro s rfl
      exact h s hv
  rw [decoder, closedRecord_accepts_object_iff (by decide) (by simp [Field.of]) hplain.names, shape_iff]
  simp [hfield]

/-- A field of a plain object. -/
theorem fieldFrom_of_readOnce {name : String} (hplain : (Value.object ms).Plain kind .value)
    (h : ReadOnce o (Document.ofMembers ms) [name] fieldDecoder 0 n) : FieldFrom (ms.get? name) n := by
  rcases h.of_members with ⟨hnone, rfl⟩ | ⟨v, hget, hread⟩
  · rw [hnone]
    exact .absent
  · obtain ⟨v', hv', hfield⟩ := fieldDecoder_eq_ok_iff.mp hread
    rw [(hplain.member hget).eq_of_any hv'] at hfield
    rw [hget]
    exact hfield

/-- Each field of a plain object is read from the member of its name, whatever else is there. -/
theorem decoder_eq_ok_iff (hplain : (Value.object ms).Plain kind .value) :
    decoder.ofValue (.object ms) = .ok w ↔
      FieldFrom (ms.get? "profile") w.profile ∧ FieldFrom (ms.get? "version") w.version := by
  have hfields : ∀ w, decoder.ofValue (.object ms) = .ok w →
      FieldFrom (ms.get? "profile") w.profile ∧ FieldFrom (ms.get? "version") w.version := by
    intro w h
    have hrecord : decoder .value (.ofValue (.object ms)) = .ok w := h
    obtain ⟨inner, docs, hform, hrun⟩ := recordRun_of_closedRecord (by decide) hrecord
    cases hform
    constructor
    · exact fieldFrom_of_readOnce hplain (hrun.readOnce profile (.of_passOver (by decide) (by simp) (by simp)))
    · exact fieldFrom_of_readOnce hplain (hrun.readOnce version (.of_passOver (by decide) (by simp) (by simp)))
  refine ⟨hfields w, ?_⟩
  rintro ⟨hprofile, hversion⟩
  have hshape : Shape ms := by
    constructor
    · intro s hs
      rw [hs] at hprofile
      exact hprofile.isInt32
    · intro s hs
      rw [hs] at hversion
      exact hversion.isInt32
  obtain ⟨w', hw'⟩ := (accepts_iff hplain).mpr hshape
  obtain ⟨hprofile', hversion'⟩ := hfields w' hw'
  have heq : w' = w := by
    cases w'
    cases w
    exact congrArg₂ Wrapper.mk (hprofile'.unique hprofile) (hversion'.unique hversion)
  rw [← heq]
  exact hw'

/-- The wrapper of an impression, where a value is null or an object. -/
theorem objectOnly_eq_ok_iff_readFrom {v : Value} {x : Option Wrapper} (hread : Decoder.any o doc = .ok v)
    (hv : v = .null ∨ ∃ ms, v = .object ms) : objectOnly decoder o doc = .ok x ↔ ReadFrom (some v) x := by
  rw [objectOnly_eq_ok_iff, hread]
  rcases hv with rfl | ⟨ms, rfl⟩
  · constructor
    · rintro (⟨-, rfl⟩ | ⟨ms, a, ⟨⟩, -⟩)
      exact .null
    · intro h
      cases h with
      | null => exact Or.inl ⟨rfl, rfl⟩
      | other hnull _ => exact absurd rfl hnull
  · have hplain : (Value.object ms).Plain (fun _ => True) .value :=
      plain_of_any (any_value_of_any hread) fun _ _ => trivial
    constructor
    · rintro (⟨⟨⟩, -⟩ | ⟨ms', w, ⟨⟩, hw, rfl⟩)
      obtain ⟨hprofile, hversion⟩ := (decoder_eq_ok_iff hplain).mp hw
      exact .object hprofile hversion
    · intro h
      cases h with
      | object hprofile hversion => exact Or.inr ⟨ms, _, rfl, (decoder_eq_ok_iff hplain).mpr ⟨hprofile, hversion⟩, rfl⟩
      | other _ hobject => exact absurd rfl (hobject ms)

end Wrapper

end Reading

/-- **Both readers come to the same.** Where a document has the value `v`, null or an object, it is read as the wrapper
of an impression exactly when its value is read as the wrapper of a request, and as the same one. -/
theorem wrapper_readers_agree {o : Origin} {doc : Document} {v : Value} (hread : Decoder.any o doc = .ok v)
    (hv : v = .null ∨ ∃ ms, v = .object ms) :
    (objectOnly Wrapper.decoder o doc).toOption = (Wrapper.ofMember (some v)).toOption := by
  ext x
  rw [toOption_eq_some_iff, toOption_eq_some_iff, Wrapper.ofMember_eq_ok_iff]
  exact Wrapper.objectOnly_eq_ok_iff_readFrom hread hv

/-- A wrapper with a name twice, a number beyond 32 bits and members that no reader knows. -/
def crowdedWrapper : Document :=
  .object [(.ok "profile", .string "x"), (.ok "version", .string "+07"), (.ok "more", .array [.null] none),
    (.ok "profile", .number (.int 3000000000 (by decide)))] none

theorem wrapper_readers_agree_of_crowded : ∃ v, Decoder.any .value crowdedWrapper = .ok v ∧
    (v = .null ∨ ∃ ms, v = .object ms) ∧ (objectOnly Wrapper.decoder .value crowdedWrapper).toOption =
      (Wrapper.ofMember (some v)).toOption ∧ (Wrapper.ofMember (some v)).toOption = some (some ⟨0, 7⟩) := by
  obtain ⟨v, hread, hv, hsome⟩ : ∃ v, Decoder.any .value crowdedWrapper = .ok v ∧
      (v = .null ∨ ∃ ms, v = .object ms) ∧ (Wrapper.ofMember (some v)).toOption = some (some ⟨0, 7⟩) :=
    ⟨_, rfl, Or.inr ⟨_, rfl⟩, by decide⟩
  exact ⟨v, hread, hv, wrapper_readers_agree hread hv, hsome⟩

end BidAdapter
