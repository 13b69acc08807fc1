import BidAdapter.Proofs.Dispatch
import BidAdapter.Proofs.Json.Scanning
import BidAdapter.Proofs.Outgoing.RequestExt
import BidAdapter.Proofs.Slot.Keywords

/-!
# The body is the payload

* `Number.IsInteger` : the numbers of integer literals; `legible_of_isInteger` : they are read back as they are written;
* `writable_of_outgoingImp`, `roundTrips_publisherWith`, … : the parts that the adapter changes;
* `roundTrips_payload` : a payload is read back as it was written;
* `body_round_trips` : reading the body gives the payload, and the body that is shown.
-/

namespace BidAdapter

set_option autoImplicit false

open Json
open Json.Decoder (string list)
open OpenRtb

/-! ## Integers -/

/-- The numbers of integer literals: those of 64 bits, and the double that the literal `-0` stands for. -/
inductive Json.Number.IsInteger : Number → Prop where
  | int (n : Int) (fits : -2 ^ 63 ≤ n ∧ n < 2 ^ 64) : IsInteger (.int n fits)
  | negativeZero : IsInteger (.real (-0.0) (by decide +kernel))

/-- The negative zero is written with a fraction. -/
theorem legible_negativeZero : Dialect.document.Legible (.real (-0.0) (by decide +kernel)) := by
  have hchars : (Number.real (-0.0) (by decide +kernel)).chars = ['-', '0', '.', '0'] := by decide +kernel
  have hnumber : Numeral.number? ⟨true, [0], [0], 0, false⟩ = some (.real (-0.0) (by decide +kernel)) := by
    decide +kernel
  refine ⟨⟨'-', _, hchars, Or.inl rfl⟩, ?_⟩
  intro rest hrest
  have hscan : scanNumeral ('-' :: '0' :: '.' :: '0' :: rest) = (.ok ⟨true, [0], [0], 0, false⟩, rest) := by
    cases hrest <;> rfl
  rw [hchars]
  exact (document_number hscan).trans (by rw [leaf_of_number? hnumber])

theorem legible_of_isInteger {n : Number} (h : n.IsInteger) : Dialect.document.Legible n := by
  cases h with
  | int n fits => exact legible_int fits
  | negativeZero => exact legible_negativeZero

/-! ## Parts that change -/

section Parts
variable {kind : Number → Prop} {room : Nat} {doc : Document} {ms : List (Name × Document)}

/-- An outgoing impression without a floor can be written. -/
theorem writable_of_outgoingImp (hint : ∀ n fits, kind (.int n fits)) {i out : Imp} {e : ImpExt}
    {app : Option DisplayManager} (h : Imp.decoder (.text (room + 2)) doc = .ok i) (hkind : ∀ n ∈ doc.numbers, kind n)
    (hout : outgoingImp i e app = .ok out) (hfloor : out.bidfloor = none) : out.Writable kind (.text (room + 1)) := by
  obtain ⟨inner, ms, hinner, rfl, hread⟩ := Imp.readFrom_of_decoder h
  have hms : OfKind kind ms := .of_numbers hkind
  cases hinner
  refine ⟨?_, ?_, outgoingImp_audio hout, ?_, hfloor, ?_, ?_⟩
  · intro b' hb'
    obtain ⟨b, w, h, hb, rfl⟩ := outgoingImp_banner hout hb'
    obtain ⟨inner, hinner, hwritable⟩ :=
      hread.banner.forall hms (fun _ _ => Banner.writable_of_decoder hint) b hb
    exact Banner.roundTrips hint hinner ⟨hwritable.format, hwritable.others⟩
  · rw [outgoingImp_video hout]
    exact hread.video.forall hms fun _ _ => Video.roundTrips_of_decoder hint
  · rw [outgoingImp_native hout]
    exact hread.native.forall hms fun _ _ => Native.roundTrips_of_decoder
  · intro members hmembers
    rw [outgoingImp_ext hout] at hmembers
    have hflat := flat_keywordMap hint e
    split at hmembers
    · cases hmembers
    · cases hmembers
      exact .object rfl hflat.names fun m hm => hflat.plain m hm _
  · rw [outgoingImp_others hout]
    exact hread.others.keepable hms

/-- The publisher with its id put in, or made for it, or left. -/
theorem roundTrips_publisherWith (hkind : OfKind kind ms) {id : Option String} {p : Option Publisher}
    (h : OptionRead (.text (room + 1)) ms ["publisher"] Publisher.decoder p) :
    ∀ p', publisherWith id p = some p' →
      RoundTrips kind Publisher.decoder Publisher.toJson (.text (room + 1)) p' := by
  have hothers : ∀ p', p = some p' → Keepable kind (.text room) ["id"] p'.others := by
    refine h.forall hkind ?_
    intro doc p hp hdoc
    obtain ⟨inner, ms, hinner, rfl, hread⟩ := Publisher.readFrom_of_decoder hp
    cases hinner
    exact hread.others.keepable (.of_numbers hdoc)
  intro p' hp'
  apply Publisher.roundTrips rfl
  unfold publisherWith at hp'
  split at hp'
  · cases hp'
    cases p with
    | none => exact .nil
    | some p => exact hothers p rfl
  · exact hothers p' hp'

theorem roundTrips_site (id : Option String) {s : Site} (h : Site.decoder (.text (room + 2)) doc = .ok s)
    (hkind : ∀ n ∈ doc.numbers, kind n) :
    RoundTrips kind Site.decoder Site.toJson (.text (room + 2))
      { s with publisher := publisherWith id s.publisher } := by
  obtain ⟨inner, ms, hinner, rfl, hread⟩ := Site.readFrom_of_decoder h
  have hms : OfKind kind ms := .of_numbers hkind
  cases hinner
  exact Site.roundTrips rfl (roundTrips_publisherWith hms hread.publisher) (hread.others.keepable hms)

theorem roundTrips_app (id : Option String) {a : App} (h : App.decoder (.text (room + 2)) doc = .ok a)
    (hkind : ∀ n ∈ doc.numbers, kind n) :
    RoundTrips kind App.decoder App.toJson (.text (room + 2))
      { a with publisher := publisherWith id a.publisher } := by
  obtain ⟨inner, ms, hinner, rfl, hread⟩ := App.readFrom_of_decoder h
  have hms : OfKind kind ms := .of_numbers hkind
  cases hinner
  exact App.roundTrips rfl (roundTrips_publisherWith hms hread.publisher)
    (hread.ext.forall hms fun _ _ => plain_of_members) (hread.others.keepable hms)

end Parts

/-! ## The payload -/

theorem roundTrips_payload {kind : Number → Prop} (hint : ∀ n fits, kind (.int n fits)) {doc : Document}
    {r : BidRequest} {app : Option DisplayManager} {outs : List Imp} (settings : Settings)
    (h : BidRequest.decoder .ofText doc = .ok r) (hkind : ∀ n ∈ doc.numbers, kind n)
    (hpasses : List.Forall₂ (Passes app) r.imp outs) (hfloor : ∀ i ∈ outs, i.bidfloor = none) :
    RoundTrips kind BidRequest.decoder BidRequest.toJson .ofText (outgoingPayload r outs settings) := by
  obtain ⟨inner, ms, hinner, rfl, hread⟩ := BidRequest.readFrom_of_decoder h
  have hms : OfKind kind ms := .of_numbers hkind
  cases hinner
  refine BidRequest.roundTrips rfl ?_ ?_ ?_ ?_ (hread.others.keepable hms)
  · have hinner : Origin.enter (.text 126) = .ok (.text 125) := rfl
    apply roundTrips_list hinner
    intro out hout
    obtain ⟨i, hi, e, -, -, hpass⟩ := exists_of_mem_right hpasses hout
    rcases hread.imp with ⟨-, hnil⟩ | ⟨doc, hgiven, hlist⟩
    · rw [hnil] at hi
      cases hi
    · -- each impression comes from a document of its own, whose numbers are among those of the list
      obtain ⟨inner, hinner, hall⟩ := forall_of_list hlist (hms.of_given hgiven)
        (P := fun o i => ∃ doc, Imp.decoder o doc = .ok i ∧ ∀ n ∈ doc.numbers, kind n)
        fun _ doc i hi hdoc => ⟨doc, hi, hdoc⟩
      cases hinner
      obtain ⟨doc, hdecoder, hdoc⟩ := hall i hi
      exact Imp.roundTrips rfl (writable_of_outgoingImp hint hdecoder hdoc hpass (hfloor out hout))
  · intro s' hs'
    obtain ⟨s, hs, rfl⟩ := Option.map_eq_some_iff.mp hs'
    exact hread.site.forall hms (fun _ _ => roundTrips_site settings.publisherId) s hs
  · intro a' ha'
    obtain ⟨a, ha, rfl⟩ := Option.map_eq_some_iff.mp ha'
    exact hread.app.forall hms (fun _ _ => roundTrips_app settings.publisherId) a ha
  · exact fun e he => roundTrips_settingsExt hint hms hread.ext he

/-- **The body is the payload.** Where a text whose numbers are integers is read as a request that is sent on without a
floor, the text of the body is read back as the payload, and as the very value that is shown, which is written as the
body. -/
theorem body_round_trips {b : Bidder} {text : String} {r : BidRequest} {out : OutgoingRequest}
    (hintegers : ∀ n ∈ (Document.scan .document text).1.numbers, n.IsInteger)
    (hread : BidRequest.decoder.read text = .ok r) (hsends : b.dispatch r = .sends out)
    (hfloor : ∀ i ∈ out.payload.imp, i.bidfloor = none) :
    BidRequest.decoder.read out.body = .ok out.payload ∧
      ∃ shown, out.toJson.member? "body" = some shown ∧ shown.compact = out.body ∧
        Decoder.read Decoder.any out.body = .ok shown := by
  obtain ⟨params, imps, -, -, himps, rfl⟩ := exists_of_sends hsends
  have hdecoder := (read_eq_ok_iff.mp hread).1
  have hpasses := passes_of_adaptedImps himps
  have hround : RoundTrips Number.IsInteger BidRequest.decoder BidRequest.toJson .ofText
      (requestOf b r params imps).payload := roundTrips_payload .int _ hdecoder hintegers hpasses hfloor
  refine ⟨?_, _, rfl, rfl, ?_⟩
  · exact read_compact (fun _ => legible_of_isInteger) hround.plain hround.reads
  · exact read_compact (fun _ => legible_of_isInteger) hround.plain (any_ofValue hround.plain)

/-- A request with a number, and an impression without a floor. -/
def requestWithDeadline : BidRequest :=
  { BidRequest.absent with
    id := "r", imp := [{ Imp.absent with id := "1", video := some .absent }],
    others := [("tmax", .number (.int 500 (by decide)))] }

/-- The text of such a request is read and sent on, and the body is read back. -/
theorem body_round_trips_with_deadline :
    BidRequest.decoder.read requestWithDeadline.toJson.compact = .ok requestWithDeadline ∧
      ∃ out,
        Bidder.dispatch ⟨⟨"http".toList, [], true, none, none, ['/'], none, none⟩, "pubmatic"⟩ requestWithDeadline =
          .sends out ∧
        BidRequest.decoder.read out.body = .ok out.payload ∧
          ∃ shown, out.toJson.member? "body" = some shown ∧ shown.compact = out.body ∧
            Decoder.read Decoder.any out.body = .ok shown := by
  have hnumbers : (Document.ofValue requestWithDeadline.toJson).numbers = [.int 500 (by decide)] := rfl
  have hintegers : ∀ n ∈ (Document.ofValue requestWithDeadline.toJson).numbers, n.IsInteger := by
    simp [hnumbers, Number.IsInteger.int]
  have hany : Decoder.any .ofText (.ofValue requestWithDeadline.toJson) = .ok requestWithDeadline.toJson := rfl
  have hplain := plain_of_any hany hintegers
  have hread : BidRequest.decoder.read requestWithDeadline.toJson.compact = .ok requestWithDeadline :=
    read_compact (fun _ => legible_of_isInteger) hplain rfl
  obtain ⟨out, hsends, hfloor⟩ :
      ∃ out,
        Bidder.dispatch ⟨⟨"http".toList, [], true, none, none, ['/'], none, none⟩, "pubmatic"⟩ requestWithDeadline =
          .sends out ∧ ∀ i ∈ out.payload.imp, i.bidfloor = none := by
    refine ⟨_, rfl, ?_⟩
    rintro i (_ | ⟨_, h⟩)
    · rfl
    · cases h
  have hscanned : ∀ n ∈ (Document.scan .document requestWithDeadline.toJson.compact).1.numbers, n.IsInteger := by
    rw [scan_compact fluent_document (fun _ => legible_of_isInteger) hplain]
    exact hintegers
  exact ⟨hread, out, hsends, body_round_trips hscanned hread hsends hfloor⟩

end BidAdapter
