import BidAdapter.Answer.BidExt
import BidAdapter.OpenRtb.Response
import BidAdapter.Proofs.Json.Acceptance

/-!
# The ext of a bid

* `VideoInfo.ReadFrom`, `BidExt.ReadFrom` : the values of which the video and the ext of a bid are read, and as what;
  `VideoInfo.decoder_eq_ok_iff`, `BidExt.decoder_eq_ok_iff` : they are read of these and of no others;
* `ParsedExt` : what is read of an ext that may be absent or of another shape; `parsedExt_of_plain` : that is read of
  the ext of a bid.
-/

namespace BidAdapter

set_option autoImplicit false

open Json

variable {o : Origin} {kind : Number → Prop} {v : Value} {ms : Members} {x : Option Value} {n n' : Option Int32}

/-! ## The video -/

/-- A number of 32 bits that may be absent is one number at most. -/
theorem int32_unique (h : OptionFrom (· = .ofInt32 ·) x n) (h' : OptionFrom (· = .ofInt32 ·) x n') : n = n' := by
  refine h.unique h' ?_
  rintro _ k k' rfl hk
  exact Int32.toInt_inj.mp (int_eq_ofInt32_iff.mp (Value.number.inj hk))

theorem accepts_of_int32 (h : OptionFrom (· = .ofInt32 ·) x n) (hx : x = some v) :
    (Decoder.optional Decoder.int32).Accepts v :=
  h.accepts (fun _ k _ hk => accepts_int32_iff.mpr ⟨k, hk⟩) hx

/-- The video of a bid is read of an object that has its length, or of an array of no more than that. -/
inductive VideoInfo.ReadFrom : Value → VideoInfo → Prop where
  | object {ms : Members} {i : VideoInfo} (h : OptionFrom (· = .ofInt32 ·) (ms.get? "duration") i.duration) :
    ReadFrom (.object ms) i
  | array {items : List Value} {i : VideoInfo} (hlength : items.length ≤ 1)
    (h : OptionFrom (· = .ofInt32 ·) items.head? i.duration) : ReadFrom (.array items) i

namespace VideoInfo

variable {i i' : VideoInfo}

theorem ReadFrom.unique (h : ReadFrom v i) (h' : ReadFrom v i') : i = i' := by
  have hduration : i.duration = i'.duration := by
    cases h with
    | object h =>
      cases h' with
      | object h' => exact int32_unique h h'
    | array _ h =>
      cases h' with
      | array _ h' => exact int32_unique h h'
  cases i
  cases i'
  exact congrArg mk hduration

theorem readFrom_of_decoder (h : decoder o (.ofValue v) = .ok i) : ReadFrom v i := by
  obtain ⟨inner, docs, hform, hrun⟩ := recordRun_of_closedRecord (by decide) h
  obtain ⟨ms, rfl, hv⟩ := exists_members_of_closedForm hform
  have hduration : OptionFrom (· = .ofInt32 ·) (Members.get? ms "duration") i.duration :=
    hrun.optionFrom duration (.of_passOver (by decide) (by simp) (by simp)) rfl fun _ _ _ => int32_ofValue_iff.mp
  rcases hv with rfl | ⟨items, rfl, hlength, rfl⟩
  · exact .object hduration
  · refine .array hlength ?_
    cases items with
    | nil => exact hduration
    | cons item items => exact hduration

theorem accepts_of_readFrom (hnames : ∀ ms, v = .object ms → (Members.names ms).Nodup) (h : ReadFrom v i) :
    decoder.Accepts v := by
  cases h with
  | @object ms i h =>
    rw [decoder, closedRecord_accepts_object_iff (by decide) (by simp [Field.of]) (hnames ms rfl)]
    simp only [List.mem_singleton, forall_eq, Field.name_of, Field.accepts_read_of, Field.required_of,
      Bool.false_eq_true, false_implies, and_true]
    exact fun _ => accepts_of_int32 h
  | @array items i hlength h =>
    rw [decoder, closedRecord_accepts_array_iff]
    cases items with
    | nil => simp
    | cons item items =>
      have hnil : items = [] := by simpa using hlength
      have haccepts : (Decoder.optional Decoder.int32).Accepts item := accepts_of_int32 h rfl
      subst hnil
      simpa using haccepts

/-- **The video of a bid is read of these values**, and of no others. -/
theorem decoder_eq_ok_iff (hnames : ∀ ms, v = .object ms → (Members.names ms).Nodup) :
    decoder.ofValue v = .ok i ↔ ReadFrom v i := by
  refine ⟨readFrom_of_decoder, ?_⟩
  intro h
  obtain ⟨i', hi'⟩ := accepts_of_readFrom hnames h
  rw [h.unique (readFrom_of_decoder hi')]
  exact hi'

end VideoInfo

/-! ## The ext -/

/-- What is read of an ext: each part of its own member, which may be absent or null. -/
structure BidExt.ReadFrom (ms : Members) (e : BidExt) : Prop where
  video : OptionFrom VideoInfo.ReadFrom (ms.get? "video") e.video
  dealPriority : OptionFrom (· = .ofInt32 ·) (ms.get? "prebiddealpriority") e.dealPriority
  seat : OptionFrom (· = .string ·) (ms.get? "marketplace") e.seat
  bannerVideo : OptionFrom (· = .bool ·) (ms.get? "ibv") e.bannerVideo

namespace BidExt

variable {e e' : BidExt}

theorem ReadFrom.unique (h : ReadFrom ms e) (h' : ReadFrom ms e') : e = e' := by
  have hvideo := h.video.unique h'.video fun _ _ _ => VideoInfo.ReadFrom.unique
  have hdealPriority := int32_unique h.dealPriority h'.dealPriority
  have hseat := h.seat.unique h'.seat fun _ _ _ hs hs' => Value.string.inj (hs.symm.trans hs')
  have hbannerVideo := h.bannerVideo.unique h'.bannerVideo fun _ _ _ hb hb' => Value.bool.inj (hb.symm.trans hb')
  cases e
  cases e'
  cases hvideo
  cases hdealPriority
  cases hseat
  cases hbannerVideo
  rfl

theorem readFrom_of_decoder (h : decoder o (.ofValue (.object ms)) = .ok e) : ReadFrom ms e := by
  obtain ⟨inner, docs, hform, hrun⟩ := recordRun_of_closedRecord (by decide) h
  cases hform
  refine ⟨?_, ?_, ?_, ?_⟩
  · exact hrun.optionFrom video (.of_passOver (by decide) (by simp) (by simp)) rfl fun _ _ _ =>
      VideoInfo.readFrom_of_decoder
  · exact hrun.optionFrom dealPriority (.of_passOver (by decide) (by simp) (by simp)) rfl fun _ _ _ =>
      int32_ofValue_iff.mp
  · exact hrun.optionFrom seat (.of_passOver (by decide) (by simp) (by simp)) rfl fun _ _ _ => string_ofValue_iff.mp
  · exact hrun.optionFrom bannerVideo (.of_passOver (by decide) (by simp) (by simp)) rfl fun _ _ _ =>
      bool_ofValue_iff.mp

/-- **An ext is read of these members**, and of no others. -/
theorem decoder_eq_ok_iff (hplain : (Value.object ms).Plain kind .value) :
    decoder.ofValue (.object ms) = .ok e ↔ ReadFrom ms e := by
  refine ⟨readFrom_of_decoder, ?_⟩
  intro h
  obtain ⟨e', he'⟩ : decoder.Accepts (.object ms) := by
    rw [decoder, closedRecord_accepts_object_iff (by decide) (by simp [Field.of]) hplain.names]
    simp only [List.forall_mem_cons, List.not_mem_nil, Field.name_of, Field.accepts_read_of, Field.required_of,
      Bool.false_eq_true, false_implies, implies_true, and_true]
    refine ⟨?_, ?_, ?_, ?_⟩
    · intro v
      refine h.video.accepts fun w i hw hi => ⟨i, (VideoInfo.decoder_eq_ok_iff ?_).mpr hi⟩
      rintro ms' rfl
      exact (hplain.member hw).names
    · exact fun _ => accepts_of_int32 h.dealPriority
    · exact fun v => h.seat.accepts fun _ s _ hs => accepts_string_iff.mpr ⟨s, hs⟩
    · exact fun v => h.bannerVideo.accepts fun _ b _ hb => accepts_bool_iff.mpr ⟨b, hb⟩
  rw [h.unique (readFrom_of_decoder he')]
  exact he'

end BidExt

/-! ## Bids -/

/-- What is read of the ext of a bid, if there is one and it can be read. -/
def OpenRtb.Bid.parsedExt (b : OpenRtb.Bid) : Option BidExt :=
  b.ext.bind fun ms => (BidExt.decoder.ofValue (.object ms)).toOption

/-- What comes of an ext: nothing where there is none, or one with a member of another shape. -/
inductive ParsedExt : Option Members → Option BidExt → Prop where
  | absent : ParsedExt none none
  | read {ms : Members} {e : BidExt} (h : e.ReadFrom ms) : ParsedExt (some ms) (some e)
  | unread {ms : Members} (h : ∀ e, ¬BidExt.ReadFrom ms e) : ParsedExt (some ms) none

theorem ParsedExt.unique {x : Option Members} {e e' : Option BidExt} (h : ParsedExt x e) (h' : ParsedExt x e') :
    e = e' := by
  cases h with
  | absent =>
    cases h'
    rfl
  | read h =>
    cases h' with
    | read h' => rw [h.unique h']
    | unread h' => exact absurd h (h' _)
  | unread h =>
    cases h' with
    | read h' => exact absurd h' (h _)
    | unread => rfl

theorem parsedExt_of_plain {b : OpenRtb.Bid} (h : ∀ ms, b.ext = some ms → (Value.object ms).Plain kind .value) :
    ParsedExt b.ext b.parsedExt := by
  unfold OpenRtb.Bid.parsedExt
  cases hext : b.ext with
  | none => exact .absent
  | some ms =>
    have hiff : ∀ e, BidExt.decoder.ofValue (.object ms) = .ok e ↔ e.ReadFrom ms := fun e =>
      BidExt.decoder_eq_ok_iff (h ms hext)
    rw [Option.bind_some]
    cases hread : BidExt.decoder.ofValue (.object ms) with
    | ok e => exact .read ((hiff e).mp hread)
    | error err =>
      refine .unread fun e he => ?_
      rw [(hiff e).mpr he] at hread
      cases hread

end BidAdapter
