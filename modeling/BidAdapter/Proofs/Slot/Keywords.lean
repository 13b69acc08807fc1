import BidAdapter.Proofs.Json.Reading
import BidAdapter.Proofs.Slot.OutgoingImp
import BidAdapter.Slot.Keywords

/-!
# The keyword map and its sources

* `SlotParams.keyword?` : what the keywords of the bidder have under a name; `ImpExt.sources` : what goes before them;
* `keywordMap_eq` : the keyword map is what these put in, one after the other;
* `Flat` : members with distinct names and scalar values; `flat_keywordMap` : the keyword map is flat, whatever it is made
  from;
* `Assembled`, `keywordMap_assembled` : what stands in the keyword map under each name, and in which order;
* `get?_ae_iff` : a number under the name of the flag for auctions on the device is the flag that came in.
-/

namespace BidAdapter

set_option autoImplicit false

open Json (Members Number Value)

variable {kind : Number → Prop}

/-! ## Sources -/

/-- The keywords that have values. -/
def SlotParams.valued (p : SlotParams) : List Keyword := (p.keywords.getD []).filter fun k => !k.value.isEmpty

/-- What a keyword puts in: its values with commas between them. -/
def Keyword.member (k : Keyword) : String × Value := (k.key, .string (String.intercalate "," k.value))

/-- What the keywords have under a name: the values of the last one of that name that has any. -/
def SlotParams.keyword? (p : SlotParams) (name : String) : Option Value :=
  (p.valued.filter fun k => k.key = name).getLast?.map fun k => k.member.2

/-- A text as a value, unless it is absent or empty. -/
def textValue? (x : Option String) : Option Value := (x.filter (· ≠ "")).map .string

/-- The zone: the one that is set, else the one that the keywords have under its older name. -/
def SlotParams.zone? (p : SlotParams) : Option Value :=
  (textValue? p.zoneId).or (p.keyword? "pmZoneID")

/-- What goes before the keywords, in the order in which it is put in. -/
def ImpExt.sources (e : ImpExt) : List (String × Option Value) :=
  [("pmZoneId", e.slot.zone?), ("key_val", textValue? (targeting e.slot.dctr e.data)),
    ("dfp_ad_unit_code", textValue? (adUnit? e.data)), ("ae", e.ae.map .ofInt32), ("gpid", e.gpid.map .string)]

/-- The keywords but for those of the zone's older name. -/
def SlotParams.keywordPairs (p : SlotParams) : List (String × Value) :=
  (p.valued.map Keyword.member).filter fun m => m.1 ≠ "pmZoneID"

/-! ## One after the other -/

theorem textValue?_of_ne {s : String} (h : s ≠ "") : textValue? (some s) = some (.string s) := by
  simp [textValue?, Option.filter, h]

theorem toMembers_eq (p : SlotParams) :
    Keyword.toMembers (p.keywords.getD []) = Members.ofPairs (p.valued.map Keyword.member) := by
  unfold Keyword.toMembers Members.ofPairs
  rw [List.foldl_map]
  rfl

theorem get?_keywords (p : SlotParams) (name : String) :
    (Members.ofPairs (p.valued.map Keyword.member)).get? name = p.keyword? name := by
  rw [Members.get?_ofPairs, List.filter_map, List.getLast?_map, Option.map_map]
  rfl

theorem ofPairs_optional (ps : List (String × Value)) (name : String) (x : Option Value) :
    Members.ofPairs (ps ++ Members.optional name x) =
      match x with
      | some v => (Members.ofPairs ps).insert name v
      | none => Members.ofPairs ps := by
  cases x with
  | none => rw [Members.optional, List.append_nil]
  | some v => exact Members.ofPairs_concat ps (name, v)

theorem putText_ofPairs (ps : List (String × Value)) (name : String) (x : Option String) :
    (Members.ofPairs ps).putText name x = Members.ofPairs (ps ++ Members.optional name (textValue? x)) := by
  rw [ofPairs_optional]
  unfold Json.Members.putText
  cases x with
  | none => rfl
  | some s =>
    by_cases hs : s = ""
    · rw [hs]
      rfl
    · rw [textValue?_of_ne hs]
      exact if_neg hs

theorem keywordMembers_eq (p : SlotParams) :
    p.keywordMembers = Members.ofPairs (p.keywordPairs ++ Members.optional "pmZoneId" p.zone?) := by
  rw [ofPairs_optional]
  unfold SlotParams.keywordMembers SlotParams.zone? SlotParams.keywordPairs
  dsimp only
  rw [toMembers_eq, get?_keywords, Members.erase_ofPairs]
  cases p.zoneId with
  | none => cases p.keyword? "pmZoneID" <;> rfl
  | some zone =>
    by_cases hzone : zone = ""
    · rw [hzone]
      cases p.keyword? "pmZoneID" <;> rfl
    · rw [textValue?_of_ne hzone]
      cases p.keyword? "pmZoneID" <;> exact if_neg hzone

/-- **The keyword map is what the keywords put in, and behind them what goes before them.** -/
theorem keywordMap_eq (e : ImpExt) :
    e.keywordMap = Members.ofPairs (e.slot.keywordPairs ++ Members.typed e.sources) := by
  simp only [Members.typed, ImpExt.sources, List.flatMap_cons, List.flatMap_nil, List.append_nil, ← List.append_assoc]
  unfold ImpExt.keywordMap
  dsimp only
  rw [keywordMembers_eq, putText_ofPairs, putText_ofPairs]
  generalize e.slot.keywordPairs ++ Members.optional "pmZoneId" _ ++ Members.optional "key_val" _ ++
    Members.optional "dfp_ad_unit_code" _ = texts
  rw [ofPairs_optional, ofPairs_optional]
  cases e.ae <;> cases e.gpid <;> rfl

/-! ## Flat members -/

/-- Members with distinct names whose values are plain wherever they stand. -/
structure Flat (kind : Number → Prop) (ms : Members) : Prop where
  names : ms.names.Nodup
  plain : ∀ m ∈ ms, ∀ o, m.2.Plain kind o

theorem text_of_keyword? {p : SlotParams} {name : String} {v : Value} (h : p.keyword? name = some v) :
    ∃ s, v = .string s := by
  obtain ⟨k, -, rfl⟩ := Option.map_eq_some_iff.mp h
  exact ⟨_, rfl⟩

theorem text_of_map {x : Option String} {v : Value} (h : x.map .string = some v) : ∃ s, v = .string s := by
  obtain ⟨s, -, rfl⟩ := Option.map_eq_some_iff.mp h
  exact ⟨s, rfl⟩

theorem text_of_zone? {p : SlotParams} {v : Value} (h : p.zone? = some v) : ∃ s, v = .string s := by
  rcases Option.or_eq_some_iff.mp h with h | ⟨-, h⟩
  · exact text_of_map h
  · exact text_of_keyword? h

/-- A member of the keyword map is a text, or the flag for auctions on the device. -/
theorem text_or_flag {e : ImpExt} {name : String} {v : Value} (h : (name, v) ∈ e.keywordMap) :
    (∃ s, v = .string s) ∨ name = "ae" ∧ ∃ n, e.ae = some n ∧ v = .ofInt32 n := by
  rw [keywordMap_eq] at h
  rcases List.mem_append.mp (Members.mem_of_mem_ofPairs h) with h | h
  · obtain ⟨k, -, hk⟩ := List.mem_map.mp (List.mem_filter.mp h).1
    cases hk
    exact Or.inl ⟨_, rfl⟩
  · have hmem := Members.mem_typed_iff.mp h
    simp only [ImpExt.sources, List.mem_cons, Prod.mk.injEq, List.not_mem_nil, or_false] at hmem
    rcases hmem with ⟨-, hv⟩ | ⟨-, hv⟩ | ⟨-, hv⟩ | ⟨rfl, hv⟩ | ⟨-, hv⟩
    · exact Or.inl (text_of_zone? hv.symm)
    · exact Or.inl (text_of_map hv.symm)
    · exact Or.inl (text_of_map hv.symm)
    · obtain ⟨n, hn, rfl⟩ := Option.map_eq_some_iff.mp hv.symm
      exact Or.inr ⟨rfl, n, hn, rfl⟩
    · exact Or.inl (text_of_map hv.symm)

/-- **The keyword map is flat**, whatever it is made from. -/
theorem flat_keywordMap (hint : ∀ n fits, kind (.int n fits)) (e : ImpExt) : Flat kind e.keywordMap := by
  constructor
  · rw [keywordMap_eq]
    exact Members.nodup_ofPairs _
  · rintro ⟨name, v⟩ hm o
    rcases text_or_flag hm with ⟨s, rfl⟩ | ⟨-, n, -, rfl⟩
    · exact .string s
    · exact .number (hint _ _)

/-! ## Under a name -/

theorem nodup_sources (e : ImpExt) : (e.sources.map Prod.fst).Nodup := by simp [ImpExt.sources]

theorem get?_keywordPairs {p : SlotParams} {name : String} (h : name ≠ "pmZoneID") :
    (Members.ofPairs p.keywordPairs).get? name = p.keyword? name := by
  rw [SlotParams.keywordPairs, ← Members.erase_ofPairs, Members.get?_erase_of_ne h, get?_keywords]

/-- What is put in last counts. -/
theorem get?_keywordMap (e : ImpExt) {name : String} (h : name ≠ "pmZoneID") :
    e.keywordMap.get? name = ((Members.typed e.sources).get? name).or (e.slot.keyword? name) := by
  have hnodup : (Members.typed e.sources).names.Nodup := (nodup_sources e).sublist (Members.names_typed _)
  rw [keywordMap_eq, Members.get?_ofPairs_append, Members.ofPairs_of_nodup hnodup, get?_keywordPairs h]

theorem get?_source {e : ImpExt} {name : String} {x : Option Value} (h : (name, x) ∈ e.sources) :
    e.keywordMap.get? name = x.or (e.slot.keyword? name) := by
  have hname : name ≠ "pmZoneID" := by
    rintro rfl
    simp [ImpExt.sources] at h
  rw [get?_keywordMap e hname, Members.get?_typed_only (nodup_sources e) h]

/-- The names in the order in which something is put in under them, but for the older name of the zone. -/
def ImpExt.writtenNames (e : ImpExt) : List String :=
  (e.slot.valued.map Keyword.key).filter (· ≠ "pmZoneID") ++ (e.sources.filter fun t => t.2.isSome).map Prod.fst

theorem names_keywordMap (e : ImpExt) : e.keywordMap.names = e.writtenNames.eraseDups := by
  rw [keywordMap_eq, Members.names_ofPairs, List.map_append, ImpExt.writtenNames, ← Members.names_typed_eq,
    SlotParams.keywordPairs, List.filter_map, List.filter_map, List.map_map]
  rfl

/-- How the members of a keyword map come from their sources. -/
structure Assembled (e : ImpExt) (ms : Members) : Prop where
  /-- A source goes before the keywords of its name. -/
  source : ∀ name x, (name, x) ∈ e.sources → ms.get? name = x.or (e.slot.keyword? name)
  keyword : ∀ name, name ∉ e.sources.map Prod.fst → name ≠ "pmZoneID" → ms.get? name = e.slot.keyword? name
  older : "pmZoneID" ∉ ms.names
  texts : ∀ name v, (name, v) ∈ ms → name ≠ "ae" → ∃ s, v = .string s
  /-- What is put in again keeps its place. -/
  order : ms.names = e.writtenNames.eraseDups

theorem assembled (e : ImpExt) : Assembled e e.keywordMap := by
  refine ⟨fun _ _ => get?_source, ?_, ?_, ?_, names_keywordMap e⟩
  · intro name hname holder
    have hnone : (Members.typed e.sources).get? name = none :=
      Members.get?_of_not_mem fun hmem => hname ((Members.names_typed _).subset hmem)
    rw [get?_keywordMap e holder, hnone, Option.none_or]
  · rw [names_keywordMap, List.mem_eraseDups]
    simp [ImpExt.writtenNames, ImpExt.sources]
  · intro name v hm hname
    exact (text_or_flag hm).resolve_right fun hflag => hname hflag.1

/-- **What the ext that an impression carries is made of**: each name has what goes before the keywords, else the last
keyword with values, and the names stand as they are put in first. An impression goes out without an ext when there is
nothing of this. -/
theorem keywordMap_assembled (e : ImpExt) :
    Assembled e e.keywordMap ∧ ∀ i app out, outgoingImp i e app = .ok out →
      (out.ext = none ↔ e.keywordMap = []) ∧ out.ext.getD [] = e.keywordMap := by
  refine ⟨assembled e, ?_⟩
  intro i app out hout
  rw [outgoingImp_ext hout]
  cases e.keywordMap with
  | nil => simp
  | cons m ms => simp

/-- Keywords under names that something goes before, one of them twice. -/
def extWithReservedKeywords : ImpExt where
  bidder := some { SlotParams.absent with
    dctr := some "d"
    keywords := some [⟨"pmZoneID", ["z"]⟩, ⟨"ae", ["x"]⟩, ⟨"key_val", ["y"]⟩, ⟨"pmZoneID", ["1", "2"]⟩] }
  data := none
  ae := some 1
  gpid := none

/-- Such keywords leave their places only, and the zone stands where it is put in under its own name. -/
theorem keywordMap_assembled_of_reserved :
    ∃ out ms, outgoingImp { OpenRtb.Imp.absent with id := "1", video := some .absent } extWithReservedKeywords none =
        .ok out ∧ out.ext = some ms ∧ ms.names = ["ae", "key_val", "pmZoneId"] ∧
      ms.get? "ae" = some (.ofInt32 1) ∧ ms.get? "key_val" = some (.string "d") ∧
      ms.get? "pmZoneId" = some (.string "1,2") := by
  obtain ⟨out, ms, hout, hms⟩ : ∃ out ms, outgoingImp { OpenRtb.Imp.absent with id := "1", video := some .absent }
      extWithReservedKeywords none = .ok out ∧ out.ext = some ms := ⟨_, _, rfl, rfl⟩
  obtain ⟨hassembled, hext⟩ := keywordMap_assembled extWithReservedKeywords
  have heq : ms = extWithReservedKeywords.keywordMap := by
    rw [← (hext _ _ out hout).2, hms]
    rfl
  subst heq
  refine ⟨out, _, hout, hms, hassembled.order, ?_, ?_, ?_⟩
  · exact hassembled.source "ae" (some (.ofInt32 1)) (List.mem_of_getElem? (i := 3) rfl)
  · exact hassembled.source "key_val" (some (.string "d")) (List.mem_of_getElem? (i := 1) rfl)
  · exact hassembled.source "pmZoneId" (some (.string "1,2")) (List.mem_of_getElem? (i := 0) rfl)

/-! ## The flag for auctions on the device -/

/-- **The flag that goes out is the one that came in**: a keyword of its name is overwritten, and is no number where no
flag came in. -/
theorem get?_ae_iff {e : ImpExt} {n : Number} :
    e.keywordMap.get? "ae" = some (.number n) ↔ e.ae.map Number.ofInt32 = some n := by
  have hae : ("ae", e.ae.map .ofInt32) ∈ e.sources := by simp [ImpExt.sources]
  rw [get?_source hae]
  cases e.ae with
  | none =>
    refine iff_of_false ?_ (by simp)
    intro h
    obtain ⟨s, hs⟩ := text_of_keyword? h
    cases hs
  | some ae => simp [Value.ofInt32]

end BidAdapter
