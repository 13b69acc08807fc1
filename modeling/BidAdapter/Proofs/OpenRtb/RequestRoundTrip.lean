import BidAdapter.Proofs.Json.RoundTrip
import BidAdapter.Proofs.OpenRtb.RequestReading
import BidAdapter.Proofs.OpenRtb.RequestWriting

/-!
# Bid requests written and read back

For every record of a bid request, `roundTrips` : it is read back as it was written when its parts are; and
`roundTrips_of_decoder`, `writable_of_decoder` or `ordered_of_decoder` : the parts of a record that was read are like
that. All numbers are of one kind, to which the 64-bit integers belong.
-/

namespace BidAdapter.OpenRtb

set_option autoImplicit false

open Json
open Json.Decoder (string int32 list members)

variable {kind : Number → Prop} {o inner : Origin} {doc : Document}

/-! ## Media -/

section Media
variable (hint : ∀ n fits, kind (.int n fits))
include hint

theorem Format.roundTrips {f : Format} (hinner : o.enter = .ok inner)
    (hothers : Keepable kind inner ["w", "h"] f.others) : RoundTrips kind Format.decoder Format.toJson o f := by
  refine openRecord_roundTrips (fun others => { f with others }) (fun _ _ _ => rfl) rfl f.toJson_eq hinner (by decide)
    (by simp [Field.of]) ?_ hothers
  refine .int32 hint rfl ?_
  refine .int32 hint rfl ?_
  exact .nil _

theorem Format.roundTrips_of_decoder {f : Format} (h : Format.decoder o doc = .ok f)
    (hkind : ∀ n ∈ doc.numbers, kind n) : RoundTrips kind Format.decoder Format.toJson o f := by
  obtain ⟨inner, ms, hinner, rfl, hread⟩ := Format.readFrom_of_decoder h
  exact Format.roundTrips hint hinner (hread.others.keepable (.of_numbers hkind))

/-- A banner whose formats and other members can be written. -/
structure Banner.Writable (kind : Number → Prop) (o : Origin) (b : Banner) : Prop where
  format : ∀ fs, b.format = some fs →
    RoundTrips kind (list Format.decoder) (fun fs => .array (fs.map Format.toJson)) o fs
  others : Keepable kind o ["w", "h", "format"] b.others

theorem Banner.roundTrips {b : Banner} (hinner : o.enter = .ok inner) (h : b.Writable kind inner) :
    RoundTrips kind Banner.decoder Banner.toJson o b := by
  refine openRecord_roundTrips (fun others => { b with others }) (fun _ _ _ => rfl) rfl b.toJson_eq hinner (by decide)
    (by simp [Field.of]) ?_ h.others
  refine .int32 hint rfl ?_
  refine .int32 hint rfl ?_
  refine .option rfl (fun _ => not_mistyped) rfl h.format ?_
  exact .nil _

theorem Banner.writable_of_decoder {b : Banner} (h : Banner.decoder o doc = .ok b)
    (hkind : ∀ n ∈ doc.numbers, kind n) : ∃ inner, o.enter = .ok inner ∧ b.Writable kind inner := by
  obtain ⟨inner, ms, hinner, rfl, hread⟩ := Banner.readFrom_of_decoder h
  have hms : OfKind kind ms := .of_numbers hkind
  refine ⟨inner, hinner, ?_, hread.others.keepable hms⟩
  refine hread.format.forall hms ?_
  intro doc fs hfs hnumbers
  obtain ⟨deeper, hdeeper, hall⟩ := forall_of_list (P := fun o f => RoundTrips kind Format.decoder Format.toJson o f)
    hfs hnumbers fun _ _ _ => Format.roundTrips_of_decoder hint
  exact roundTrips_list hdeeper hall

theorem Video.roundTrips {v : Video} (hinner : o.enter = .ok inner)
    (hmimes : ∀ ss, v.mimes = some ss → RoundTrips kind (list string) .ofStrings inner ss)
    (hothers : Keepable kind inner ["mimes", "w", "h"] v.others) :
    RoundTrips kind Video.decoder Video.toJson o v := by
  refine openRecord_roundTrips (fun others => { v with others }) (fun _ _ _ => rfl) rfl v.toJson_eq hinner (by decide)
    (by simp [Field.of]) ?_ hothers
  refine .option rfl (fun _ => not_mistyped) rfl hmimes ?_
  refine .int32 hint rfl ?_
  refine .int32 hint rfl ?_
  exact .nil _

omit hint in
theorem strings_of_list {ss : List String} (h : list string o doc = .ok ss) :
    RoundTrips kind (list string) .ofStrings o ss := by
  obtain ⟨inner, ds, hinner, -, -⟩ := list_eq_ok_iff.mp h
  exact roundTrips_strings hinner

theorem Video.roundTrips_of_decoder {v : Video} (h : Video.decoder o doc = .ok v)
    (hkind : ∀ n ∈ doc.numbers, kind n) : RoundTrips kind Video.decoder Video.toJson o v := by
  obtain ⟨inner, ms, hinner, rfl, hread⟩ := Video.readFrom_of_decoder h
  have hms : OfKind kind ms := .of_numbers hkind
  have hmimes : ∀ ss, v.mimes = some ss → RoundTrips kind (list string) .ofStrings inner ss :=
    hread.mimes.forall hms fun _ _ h _ => strings_of_list h
  exact Video.roundTrips hint hinner hmimes (hread.others.keepable hms)

omit hint in
theorem Native.roundTrips {n : Native} (hinner : o.enter = .ok inner)
    (hothers : Keepable kind inner ["request", "ver"] n.others) :
    RoundTrips kind Native.decoder Native.toJson o n := by
  refine openRecord_roundTrips (fun others => { n with others }) (fun _ _ _ => rfl) rfl n.toJson_eq hinner (by decide)
    (by simp [Field.of]) ?_ hothers
  refine .string rfl ?_
  refine .string rfl ?_
  exact .nil _

omit hint in
theorem Native.roundTrips_of_decoder {n : Native} (h : Native.decoder o doc = .ok n)
    (hkind : ∀ k ∈ doc.numbers, kind k) : RoundTrips kind Native.decoder Native.toJson o n := by
  obtain ⟨inner, ms, hinner, rfl, hread⟩ := Native.readFrom_of_decoder h
  exact Native.roundTrips hinner (hread.others.keepable (.of_numbers hkind))

end Media

/-! ## The impression -/

/-- An impression that can be written, without an audio clip and without a floor. -/
structure Imp.Writable (kind : Number → Prop) (o : Origin) (i : Imp) : Prop where
  banner : ∀ b, i.banner = some b → RoundTrips kind Banner.decoder Banner.toJson o b
  video : ∀ v, i.video = some v → RoundTrips kind Video.decoder Video.toJson o v
  audio : i.audio = none
  native : ∀ n, i.native = some n → RoundTrips kind Native.decoder Native.toJson o n
  bidfloor : i.bidfloor = none
  ext : ∀ ms, i.ext = some ms → (Value.object ms).Plain kind o
  others : Keepable kind o Imp.known i.others

theorem Imp.roundTrips {i : Imp} (hinner : o.enter = .ok inner) (h : i.Writable kind inner) :
    RoundTrips kind Imp.decoder Imp.toJson o i := by
  refine openRecord_roundTrips (fun others => { i with others }) (fun _ _ _ => rfl) rfl i.toJson_eq hinner (by decide)
    (by simp [Field.of]) ?_ h.others
  have haudio : ∀ a, i.audio = some a → RoundTrips kind Audio.decoder Audio.toJson inner a := by
    rw [h.audio]
    intro a ha
    cases ha
  have hfloor : ∀ d, i.bidfloor = some d →
      RoundTrips kind Decimal.decoder (fun d => .ofFloat d.toDouble) inner d := by
    rw [h.bidfloor]
    intro d hd
    cases hd
  refine .always (roundTrips_string i.id) ?_
  refine .option rfl (fun _ => not_mistyped) rfl h.banner ?_
  refine .option rfl (fun _ => not_mistyped) rfl h.video ?_
  refine .option rfl (fun _ => not_mistyped) rfl haudio ?_
  refine .option rfl (fun _ => not_mistyped) rfl h.native ?_
  refine .string rfl ?_
  refine .option rfl (fun _ => not_mistyped) rfl hfloor ?_
  refine .string rfl ?_
  refine .string rfl ?_
  refine .members rfl h.ext ?_
  exact .nil _

/-! ## Where the ad is shown -/

theorem Publisher.roundTrips {p : Publisher} (hinner : o.enter = .ok inner)
    (hothers : Keepable kind inner ["id"] p.others) : RoundTrips kind Publisher.decoder Publisher.toJson o p := by
  refine openRecord_roundTrips (fun others => { p with others }) (fun _ _ _ => rfl) rfl p.toJson_eq hinner (by decide)
    (by simp [Field.of]) ?_ hothers
  refine .string rfl ?_
  exact .nil _

theorem Site.roundTrips {s : Site} (hinner : o.enter = .ok inner)
    (hpublisher : ∀ p, s.publisher = some p → RoundTrips kind Publisher.decoder Publisher.toJson inner p)
    (hothers : Keepable kind inner ["id", "domain", "publisher"] s.others) :
    RoundTrips kind Site.decoder Site.toJson o s := by
  refine openRecord_roundTrips (fun others => { s with others }) (fun _ _ _ => rfl) rfl s.toJson_eq hinner (by decide)
    (by simp [Field.of]) ?_ hothers
  refine .string rfl ?_
  refine .string rfl ?_
  refine .option rfl (fun _ => not_mistyped) rfl hpublisher ?_
  exact .nil _

theorem App.roundTrips {a : App} (hinner : o.enter = .ok inner)
    (hpublisher : ∀ p, a.publisher = some p → RoundTrips kind Publisher.decoder Publisher.toJson inner p)
    (hext : ∀ ms, a.ext = some ms → (Value.object ms).Plain kind inner)
    (hothers : Keepable kind inner ["id", "bundle", "publisher", "ext"] a.others) :
    RoundTrips kind App.decoder App.toJson o a := by
  refine openRecord_roundTrips (fun others => { a with others }) (fun _ _ _ => rfl) rfl a.toJson_eq hinner (by decide)
    (by simp [Field.of]) ?_ hothers
  refine .string rfl ?_
  refine .string rfl ?_
  refine .option rfl (fun _ => not_mistyped) rfl hpublisher ?_
  refine .members rfl hext ?_
  exact .nil _

/-! ## The request ext -/

theorem BidderCodes.roundTrips {room : Nat} (c : BidderCodes) :
    RoundTrips kind BidderCodes.decoder BidderCodes.toJson (.text (room + 2)) c := by
  refine closedRecord_roundTrips c.toJson_eq rfl (by decide) (by simp [Field.of]) ?_
  refine .bool rfl ?_
  refine .option rfl (fun _ => not_mistyped) rfl (fun ss _ => roundTrips_strings rfl) ?_
  exact .nil _

theorem AlternateCodes.roundTrips {room : Nat} {c : AlternateCodes}
    (hbidders : ∀ t, c.bidders = some t → t.Ordered) :
    RoundTrips kind AlternateCodes.decoder AlternateCodes.toJson (.text (room + 4)) c := by
  have htable : ∀ t, c.bidders = some t → RoundTrips kind (Decoder.table BidderCodes.decoder)
      (fun t => .object (t.map fun e => (e.1, e.2.toJson))) (.text (room + 3)) t := by
    intro t ht
    exact roundTrips_table rfl (hbidders t ht) fun e _ => e.2.roundTrips
  refine closedRecord_roundTrips c.toJson_eq rfl (by decide) (by simp [Field.of]) ?_
  refine .bool rfl ?_
  refine .option rfl (fun _ => not_mistyped) rfl htable ?_
  exact .nil _

/-- The bidders of a table stand in order, however it is written. -/
theorem AlternateCodes.ordered_of_decoder {c : AlternateCodes} (h : AlternateCodes.decoder o doc = .ok c) :
    ∀ t, c.bidders = some t → t.Ordered := by
  obtain ⟨inner, ms, -, hread⟩ := AlternateCodes.readFrom_of_decoder h
  intro t ht
  have hbidders := hread.bidders
  rw [ht] at hbidders
  cases hbidders with
  | present hgiven htable => exact ordered_of_table htable

theorem Prebid.roundTrips {p : Prebid} (hinner : o.enter = .ok inner)
    (hparams : ∀ ms, p.bidderparams = some ms → (Value.object ms).Plain kind inner)
    (hcodes : ∀ c, p.alternatebiddercodes = some c →
      RoundTrips kind AlternateCodes.decoder AlternateCodes.toJson inner c)
    (hothers : Keepable kind inner ["bidderparams", "alternatebiddercodes", "alternateBidderCodes"] p.others) :
    RoundTrips kind Prebid.decoder Prebid.toJson o p := by
  refine openRecord_roundTrips (fun others => { p with others }) (fun _ _ _ => rfl) rfl p.toJson_eq hinner (by decide)
    (by simp [Field.of]) ?_ hothers
  refine .members rfl hparams ?_
  refine .option rfl (fun _ => not_mistyped) rfl hcodes ?_
  exact .nil _

theorem Prebid.roundTrips_of_decoder {room : Nat} {p : Prebid} (h : Prebid.decoder (.text (room + 5)) doc = .ok p)
    (hkind : ∀ n ∈ doc.numbers, kind n) : RoundTrips kind Prebid.decoder Prebid.toJson (.text (room + 5)) p := by
  obtain ⟨inner, ms, hinner, rfl, hread⟩ := Prebid.readFrom_of_decoder h
  have hms : OfKind kind ms := .of_numbers hkind
  cases hinner
  refine Prebid.roundTrips rfl ?_ ?_ (hread.others.keepable hms)
  · exact hread.bidderparams.forall hms fun _ _ => plain_of_members
  · refine hread.alternatebiddercodes.optionRead.forall hms ?_
    intro doc c hc _
    exact AlternateCodes.roundTrips (AlternateCodes.ordered_of_decoder hc)

theorem Prebid.ordered_of_decoder {p : Prebid} (h : Prebid.decoder o doc = .ok p) :
    ∀ c, p.alternatebiddercodes = some c → ∀ t, c.bidders = some t → t.Ordered := by
  obtain ⟨inner, ms, -, rfl, hread⟩ := Prebid.readFrom_of_decoder h
  intro c hc
  have hcodes := hread.alternatebiddercodes.optionRead
  rw [hc] at hcodes
  cases hcodes with
  | present _ hread => exact AlternateCodes.ordered_of_decoder hread

theorem RequestExt.roundTrips {e : RequestExt} (hinner : o.enter = .ok inner)
    (hprebid : ∀ p, e.prebid = some p → RoundTrips kind Prebid.decoder Prebid.toJson inner p)
    (hothers : Keepable kind inner ["prebid"] e.others) :
    RoundTrips kind RequestExt.decoder RequestExt.toJson o e := by
  refine openRecord_roundTrips (fun others => { e with others }) (fun _ _ _ => rfl) rfl e.toJson_eq hinner (by decide)
    (by simp [Field.of]) ?_ hothers
  refine .option rfl (fun _ => not_mistyped) rfl hprebid ?_
  exact .nil _

/-! ## The request -/

theorem BidRequest.roundTrips {r : BidRequest} (hinner : o.enter = .ok inner)
    (himp : RoundTrips kind (list Imp.decoder) (fun is => .array (is.map Imp.toJson)) inner r.imp)
    (hsite : ∀ s, r.site = some s → RoundTrips kind Site.decoder Site.toJson inner s)
    (happ : ∀ a, r.app = some a → RoundTrips kind App.decoder App.toJson inner a)
    (hext : ∀ e, r.ext = some e → RoundTrips kind RequestExt.decoder RequestExt.toJson inner e)
    (hothers : Keepable kind inner ["id", "imp", "site", "app", "ext"] r.others) :
    RoundTrips kind BidRequest.decoder BidRequest.toJson o r := by
  refine openRecord_roundTrips (fun others => { r with others }) (fun _ _ _ => rfl) rfl r.toJson_eq hinner (by decide)
    (by simp [Field.of]) ?_ hothers
  refine .always (roundTrips_string r.id) ?_
  refine .always himp ?_
  refine .option rfl (fun _ => not_mistyped) rfl hsite ?_
  refine .option rfl (fun _ => not_mistyped) rfl happ ?_
  refine .option rfl (fun _ => not_mistyped) rfl hext ?_
  exact .nil _

end BidAdapter.OpenRtb
