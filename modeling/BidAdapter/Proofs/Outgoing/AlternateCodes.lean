import BidAdapter.Proofs.Outgoing.Settings

/-!
# Alternate codes on their way out

The codes under which bidders may bid are read by records that keep only what they know.

* `EntryForwarded`, `EntriesForwarded`, `CodesForwarded` : what of the codes, of their table and of an entry goes out;
* `forwarded_of_entry`, `forwarded_of_table`, `forwarded_of_codes` : what is read and written keeps exactly that;
* `codes_forwarded` : so do those of a request that is sent; `unknown_code_lost` : a member that is lost like this.
-/

namespace BidAdapter

set_option autoImplicit false

open Json
open OpenRtb

/-! ## What goes out -/

/-- A record that keeps only what it knows, written as an object or as an array, and an object. -/
inductive Records (names : List String) (R : List (Name × Document) → Members → Prop) : Document → Value → Prop where
  | mk {doc : Document} {ms : List (Name × Document)} {out : Members} (hform : ClosedForm names doc ms) (h : R ms out) :
    Records names R doc (.object out)

/-- The two members that an entry knows go out with their values, and nothing else does. -/
structure EntryForwarded (ms : List (Name × Document)) (out : Members) : Prop where
  enabled : Under Holds "enabled" ms out
  allowedbiddercodes : Under Holds "allowedbiddercodes" ms out
  known : out.names.Sublist ["enabled", "allowedbiddercodes"]

/-- Every bidder has its last entry, and they stand in the order of their names. -/
structure EntriesForwarded (ms : List (Name × Document)) (out : Members) : Prop where
  entry : ∀ name, Option.Rel (Records ["enabled", "allowedbiddercodes"] EntryForwarded)
    (membersNamed [name] ms).getLast? (out.get? name)
  ordered : out.names.Pairwise (· < ·)

/-- The switch and the table go out, and nothing else does. -/
structure CodesForwarded (ms : List (Name × Document)) (out : Members) : Prop where
  enabled : Under Holds "enabled" ms out
  bidders : Under (Objects EntriesForwarded) "bidders" ms out
  known : out.names.Sublist ["enabled", "bidders"]

/-! ## Records -/

section Records
variable {o : Origin} {doc : Document}

theorem forwarded_of_entry {c : BidderCodes} (h : BidderCodes.decoder o doc = .ok c) :
    Records ["enabled", "allowedbiddercodes"] EntryForwarded doc c.toJson := by
  obtain ⟨inner, ms, hform, hread⟩ := BidderCodes.readFrom_of_decoder h
  have hget : ∀ name x, (name, x) ∈ c.typed → (Members.typed c.typed).get? name = x :=
    fun name x => Members.get?_typed_only (by simp [BidderCodes.typed])
  rw [BidderCodes.toJson_eq]
  refine .mk hform ⟨?_, ?_, Members.names_typed c.typed⟩
  · exact under_of_get? (hget _ _ (by simp [BidderCodes.typed])) hread.enabled fun _ _ => holds_of_bool
  · exact under_of_get? (hget _ _ (by simp [BidderCodes.typed])) hread.allowedbiddercodes fun _ _ => holds_of_strings

theorem forwarded_of_table {t : Table BidderCodes} (h : Decoder.table BidderCodes.decoder o doc = .ok t) :
    Objects EntriesForwarded doc (.object (t.map fun e => (e.1, e.2.toJson))) := by
  have hordered : t.Ordered := ordered_of_table h
  obtain ⟨inner, ms, -, rfl, hentries⟩ := table_eq_ok_iff.mp h
  refine .mk ⟨?_, ?_⟩
  · intro name
    rw [Table.get?_map BidderCodes.toJson]
    rcases get?_of_tableEntries hentries name with ⟨doc, c, hlast, hread, hget⟩ | ⟨hnil, hget⟩
    · rw [hlast, hget]
      exact .some (forwarded_of_entry hread)
    · rw [hnil, hget]
      exact .none
  · rw [Members.names, List.map_map]
    exact hordered

theorem forwarded_of_codes {c : AlternateCodes} {cs : List (Name × Document)} {stop : Option Flaw}
    (h : AlternateCodes.decoder o (.object cs stop) = .ok c) :
    Objects CodesForwarded (.object cs stop) c.toJson := by
  obtain ⟨inner, ms, hform, hread⟩ := AlternateCodes.readFrom_of_decoder h
  cases hform
  have hget : ∀ name x, (name, x) ∈ c.typed → (Members.typed c.typed).get? name = x :=
    fun name x => Members.get?_typed_only (by simp [AlternateCodes.typed])
  rw [AlternateCodes.toJson_eq]
  refine .mk ⟨?_, ?_, Members.names_typed c.typed⟩
  · exact under_of_get? (hget _ _ (by simp [AlternateCodes.typed])) hread.enabled fun _ _ => holds_of_bool
  · exact under_of_get? (hget _ _ (by simp [AlternateCodes.typed])) hread.bidders fun _ _ => forwarded_of_table

/-- Codes whose table has members name a bidder. -/
theorem exists_bidders_of_decoder {c : AlternateCodes} {cs bs : List (Name × Document)} {stop stop' : Option Flaw}
    (h : AlternateCodes.decoder o (.object cs stop) = .ok c) (hbidders : given ["bidders"] cs = some (.object bs stop'))
    (hbs : bs ≠ []) : ∃ t, c.bidders = some t ∧ t ≠ [] := by
  obtain ⟨inner, ms, hform, hread⟩ := AlternateCodes.readFrom_of_decoder h
  cases hform
  obtain ⟨t, ht, htable⟩ := hread.bidders.of_given hbidders
  obtain ⟨deeper, ms, -, heq, hentries⟩ := table_eq_ok_iff.mp htable
  cases heq
  exact ⟨t, ht, ne_nil_of_tableEntries hentries hbs⟩

end Records

/-! ## From the request to the body -/

section Request
variable {o : Origin} {doc : Document}

/-- The codes that stand in a document are those of the request that is read from it. -/
theorem codes_of_at? {r : BidRequest} {cs : List (Name × Document)} {stop : Option Flaw}
    (h : BidRequest.decoder o doc = .ok r)
    (hcodes : doc.at? ["ext", "prebid", "alternatebiddercodes"] = some (.object cs stop)) :
    ∃ c inner, codesOf (prebidOf r.ext) = some c ∧ AlternateCodes.decoder inner (.object cs stop) = .ok c := by
  obtain ⟨inner, ms, -, rfl, hrequest⟩ := BidRequest.readFrom_of_decoder h
  obtain ⟨ext, hgiven, hcodes⟩ := Option.bind_eq_some_iff.mp hcodes
  obtain ⟨e, he, hread⟩ := hrequest.ext.of_given hgiven
  obtain ⟨inner, es, -, rfl, hext⟩ := RequestExt.readFrom_of_decoder hread
  obtain ⟨prebid, hgiven, hcodes⟩ := Option.bind_eq_some_iff.mp hcodes
  obtain ⟨p, hp, hread⟩ := hext.prebid.of_given hgiven
  obtain ⟨inner, ps, -, rfl, hprebid⟩ := Prebid.readFrom_of_decoder hread
  obtain ⟨codes, hgiven, hcodes⟩ := Option.bind_eq_some_iff.mp hcodes
  cases hcodes
  obtain ⟨c, hread, hc⟩ := map_eq_ok_iff.mp (hprebid.alternatebiddercodes.of_given (by simp) hgiven)
  refine ⟨c, inner, ?_, hread⟩
  simp only [codesOf, prebidOf, he, hp, ← hc, Option.bind_some]

/-- Codes that name a bidder are those of the ext that is sent. -/
theorem codes_kept (s : Settings) {incoming : Option RequestExt} {c : AlternateCodes}
    (hc : codesOf (prebidOf incoming) = some c) (hbidders : ∃ t, c.bidders = some t ∧ t ≠ []) :
    ∃ e p, s.ext incoming = some e ∧ "prebid" ∉ e.others.names ∧ e.prebid = some p ∧
      p.alternatebiddercodes = some c ∧ p.others = [] := by
  cases hext : s.ext incoming with
  | none =>
    rw [(ext_eq_none_iff.mp hext).1] at hc
    cases hc
  | some e =>
    have hrebuilt := rebuiltExt_of_ext hext
    have hprebid := hrebuilt.prebid
    generalize hp : e.prebid = p at hprebid
    cases hprebid with
    | params params codes h hnames hwrapper hacat hcodes =>
      rw [hc] at hcodes
      exact ⟨e, _, rfl, hrebuilt.prebidOnce, hp, hcodes.eq_of_bidders hbidders, rfl⟩
    | codes c' codes hwrapper hacat h hcodes =>
      rw [← h, hc] at hcodes
      exact ⟨e, _, rfl, hrebuilt.prebidOnce, hp, hcodes.eq_of_bidders hbidders, rfl⟩
    | kept hwrapper hacat h =>
      rw [hc] at h
      cases h

/-- The codes of the part for bidders stand in its place in the body. -/
theorem at?_codes {v : Value} {e : RequestExt} {p : Prebid} {c : AlternateCodes} (hv : v.member? "ext" = some e.toJson)
    (hothers : "prebid" ∉ e.others.names) (hp : e.prebid = some p) (hc : p.alternatebiddercodes = some c)
    (hnone : p.others = []) : v.at? ["ext", "prebid", "alternatebiddercodes"] = some c.toJson := by
  have hprebid : e.toJson.member? "prebid" = some p.toJson :=
    member?_typed (RequestExt.toJson_eq e) (by simp [RequestExt.typed]) (by simp [RequestExt.typed, hp]) hothers
  have hcodes : p.toJson.member? "alternatebiddercodes" = some c.toJson :=
    member?_typed (Prebid.toJson_eq p) (by simp [Prebid.typed]) (by simp [Prebid.typed, hc])
      (by simp [hnone, Members.names])
  rw [Value.at?_cons, hv, Option.bind_some, Value.at?_cons, hprebid, Option.bind_some, Value.at?_singleton, hcodes]

end Request

/-- **Alternate codes are forwarded as far as they are known.** Where a request that is sent has codes that name a
bidder, the codes go out with every bidder, and each bidder with its last entry; the switches and the lists of codes
have their values. A member that neither the codes nor an entry knows is not forwarded. -/
theorem codes_forwarded {b : Bidder} {r : BidRequest} {out : OutgoingRequest} {o : Origin} {doc : Document}
    {cs bs : List (Name × Document)} {stop stop' : Option Flaw} (hread : BidRequest.decoder o doc = .ok r)
    (hsends : b.dispatch r = .sends out)
    (hcodes : doc.at? ["ext", "prebid", "alternatebiddercodes"] = some (.object cs stop))
    (hbidders : given ["bidders"] cs = some (.object bs stop')) (hbs : bs ≠ []) :
    ∃ v, out.payload.toJson.at? ["ext", "prebid", "alternatebiddercodes"] = some v ∧
      Objects CodesForwarded (.object cs stop) v := by
  obtain ⟨params, imps, -, -, -, rfl⟩ := exists_of_sends hsends
  obtain ⟨c, inner, hc, hdecoder⟩ := codes_of_at? hread hcodes
  have hnames := exists_bidders_of_decoder hdecoder hbidders hbs
  obtain ⟨e, p, he, hothers, hp, hpc, hnone⟩ :=
    codes_kept (Settings.resolve params (imps.map fun p => p.1)) hc hnames
  have hext : (requestOf b r params imps).payload.toJson.member? "ext" = some e.toJson := by
    refine member?_outgoingPayload _ _ hread "ext" _ ?_
    simp [BidRequest.typed, outgoingPayload, he]
  exact ⟨c.toJson, at?_codes hext hothers hp hpc hnone, forwarded_of_codes hdecoder⟩

/-- A request with codes for one bidder, whose entry has a member that it does not know. -/
def requestWithCodes : Value :=
  .object [("id", .string "r"), ("imp", .array [.object [("id", .string "1"), ("video", .object [])]]),
    ("ext", .object [("prebid", .object [("alternatebiddercodes", .object [("bidders",
      .object [("x", .object [("enabled", .bool true), ("note", .string "y")])])])])])]

/-- Such a request is sent with its codes. -/
theorem codes_forwarded_with_note :
    ∃ r out, BidRequest.decoder.ofValue requestWithCodes = .ok r ∧
      Bidder.dispatch ⟨⟨"http".toList, [], true, none, none, ['/'], none, none⟩, "pubmatic"⟩ r = .sends out ∧
      ∃ cs v, (Document.ofValue requestWithCodes).at? ["ext", "prebid", "alternatebiddercodes"] =
          some (.object cs none) ∧
        out.payload.toJson.at? ["ext", "prebid", "alternatebiddercodes"] = some v ∧
        Objects CodesForwarded (.object cs none) v := by
  obtain ⟨r, out, hread, hsends⟩ :
      ∃ r out, BidRequest.decoder.ofValue requestWithCodes = .ok r ∧
        Bidder.dispatch ⟨⟨"http".toList, [], true, none, none, ['/'], none, none⟩, "pubmatic"⟩ r = .sends out :=
    ⟨_, _, rfl, rfl⟩
  obtain ⟨v, hv, hforwarded⟩ := codes_forwarded hread hsends rfl rfl (List.cons_ne_nil _ _)
  exact ⟨r, out, hread, hsends, _, v, rfl, hv, hforwarded⟩

/-- And the member that is not known is lost. -/
theorem unknown_code_lost :
    ∃ r out, BidRequest.decoder.ofValue requestWithCodes = .ok r ∧
      Bidder.dispatch ⟨⟨"http".toList, [], true, none, none, ['/'], none, none⟩, "pubmatic"⟩ r = .sends out ∧
      requestWithCodes.at? ["ext", "prebid", "alternatebiddercodes", "bidders", "x"] =
        some (.object [("enabled", .bool true), ("note", .string "y")]) ∧
      out.payload.toJson.at? ["ext", "prebid", "alternatebiddercodes", "bidders", "x"] =
        some (.object [("enabled", .bool true)]) :=
  ⟨_, _, rfl, rfl, rfl, rfl⟩

end BidAdapter
