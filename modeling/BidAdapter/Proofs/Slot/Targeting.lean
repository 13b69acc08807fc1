import BidAdapter.Proofs.Slot.Keywords
import BidAdapter.Proofs.Text.Splitting
import BidAdapter.Proofs.Text.Trimming

/-!
# The targeting text

* `forTargeting` : which members of the data go into the text; `targetingParts_eq` : each of them adds one part;
* `segments` : what is between the bars of a text;
* `targeting_lossless` : the segments of the text are those of the given pairs and then the parts of the data;
* `keywordMap_emptyDctr` : given pairs that are empty count as absent only where the data adds no part, and elsewhere
  leave a bar in front of the text.
-/

namespace BidAdapter

set_option autoImplicit false

open Json (Members Value)

/-! ## Parts -/

/-- Whether a member of the data goes into the targeting text: it is not one of the two that name the slot, and no
object. -/
def forTargeting (m : String × Value) : Bool := m.1 ≠ "pbadslot" && m.1 ≠ "adserver" && m.2.members?.isNone

/-- The trimmed text of a value, and for an array the trimmed texts of its items with commas between them. -/
def Json.Value.targetingText : Value → String
  | .array items => String.intercalate "," (items.map fun v => Text.trim v.asText)
  | v => Text.trim v.asText

/-- The part that a member adds. -/
def partOf (m : String × Value) : String := Text.trim m.1 ++ "=" ++ m.2.targetingText

theorem targetingPart_eq (m : String × Value) :
    targetingPart m.1 m.2 = if m.2.members?.isNone then some (partOf m) else none := by
  obtain ⟨name, v⟩ := m
  cases v <;> rfl

theorem targetingParts_eq (data : Members) : targetingParts data = (data.filter forTargeting).map partOf := by
  unfold targetingParts
  rw [← List.filterMap_eq_map, List.filterMap_filter, List.filterMap_filter]
  congr 1
  funext m
  rw [targetingPart_eq]
  by_cases hname : m.1 = "pbadslot" ∨ m.1 = "adserver"
  · rcases hname with h | h <;> simp [forTargeting, reservedData, h]
  · obtain ⟨hslot, hserver⟩ := not_or.mp hname
    simp [forTargeting, reservedData, hslot, hserver]

/-- A part is free of bars where the name and the text of the value are. -/
theorem bar_mem_partOf (m : String × Value) :
    '|' ∈ (partOf m).toList ↔ '|' ∈ m.1.toList ∨ '|' ∈ m.2.targetingText.toList := by
  have hbar : Text.isBlank '|' = false := by decide
  have htrim : '|' ∈ (Text.trim m.1).toList ↔ '|' ∈ m.1.toList := by
    rw [Text.trim, String.toList_ofList, Text.mem_trimChars_of_not_blank hbar]
  simp [partOf, htrim]

theorem partOf_ne_empty (m : String × Value) : partOf m ≠ "" := by
  intro h
  have hlist := congrArg String.toList h
  simp [partOf] at hlist

/-! ## Segments -/

/-- What is between the bars of a text. -/
def segments (s : String) : List String := (s.toList.splitOn '|').map String.ofList

theorem segments_of_not_mem {s : String} (h : '|' ∉ s.toList) : segments s = [s] := by
  rw [segments, List.splitOn_eq_singleton h, List.map_singleton, String.ofList_toList]

theorem not_mem_of_mem_segments {s t : String} (h : t ∈ segments s) : '|' ∉ t.toList := by
  obtain ⟨cs, hcs, rfl⟩ := List.mem_map.mp h
  rw [← Text.splitOn_eq] at hcs
  rw [String.toList_ofList]
  exact Text.not_mem_of_mem_splitOn hcs

theorem segments_intercalate {ss : List String} (h : ss ≠ []) :
    segments (String.intercalate "|" ss) = ss.flatMap segments := by
  have hne : ss.map String.toList ≠ [] := by simpa using h
  have hbar : "|".toList = ['|'] := rfl
  rw [segments, String.toList_intercalate, hbar, Text.splitOn_intercalate hne, List.flatMap_map, List.map_flatMap]
  rfl

/-- Texts are their own segments if no bar is in any of them. -/
theorem flatMap_segments_eq_self_iff (ss : List String) :
    ss.flatMap segments = ss ↔ ∀ s ∈ ss, '|' ∉ s.toList := by
  constructor
  · intro h s hs
    rw [← h] at hs
    obtain ⟨t, -, ht⟩ := List.mem_flatMap.mp hs
    exact not_mem_of_mem_segments ht
  · intro h
    rw [List.flatMap_congr fun s hs => segments_of_not_mem (h s hs), List.flatMap_singleton']

/-! ## The text -/

theorem targeting_some (dctr : Option String) (data : Members) :
    targeting dctr (some data) =
      some (String.intercalate "|" (dctr.toList ++ (data.filter forTargeting).map partOf)) := by
  rw [targeting, targetingParts_eq]

/-- **The targeting text loses nothing**: it is the given pairs and one part for each member for targeting, in their
order, with bars between them, and the other members leave no trace. Between its bars stand the segments of the given
pairs and then the parts, as long as no name and no text of such a member has a bar in it, and only then. -/
theorem targeting_lossless (dctr : Option String) (data : Members) :
    ∃ text, targeting dctr (some data) = some text ∧
      text = String.intercalate "|" (dctr.toList ++ (data.filter forTargeting).map partOf) ∧
      targeting dctr (some (data.filter forTargeting)) = some text ∧
      (dctr.toList ++ (data.filter forTargeting).map partOf ≠ [] →
        (segments text = dctr.toList.flatMap segments ++ (data.filter forTargeting).map partOf ↔
          ∀ m ∈ data, forTargeting m = true → '|' ∉ m.1.toList ∧ '|' ∉ m.2.targetingText.toList)) := by
  refine ⟨_, targeting_some dctr data, rfl, ?_, ?_⟩
  · rw [targeting_some, List.filter_filter]
    simp only [Bool.and_self]
  · intro hne
    rw [segments_intercalate hne, List.flatMap_append, List.append_right_inj, flatMap_segments_eq_self_iff]
    simp only [List.forall_mem_map, List.mem_filter, bar_mem_partOf, not_or, and_imp]

theorem targeting_lossless_of_bar :
    targeting (some "a=1|b=2") (some [("pbadslot", .string "s"), (" c ", .array [.string " x", .bool true]),
        ("o", .object []), ("n", .null)]) = some "a=1|b=2|c=x,true|n=null" ∧
      segments "a=1|b=2|c=x,true|n=null" = ["a=1", "b=2", "c=x,true", "n=null"] := by
  obtain ⟨text, htext, -, -, hsegments⟩ := targeting_lossless (some "a=1|b=2")
    [("pbadslot", .string "s"), (" c ", .array [.string " x", .bool true]), ("o", .object []), ("n", .null)]
  have heq : text = "a=1|b=2|c=x,true|n=null" := Option.some_inj.mp (htext.symm.trans (by decide))
  subst heq
  exact ⟨htext, (hsegments (by simp)).mpr (by decide)⟩

/-! ## Empty pairs -/

/-- The same ext with other given pairs. -/
def ImpExt.withDctr (e : ImpExt) (dctr : Option String) : ImpExt := { e with bidder := some { e.slot with dctr } }

/-- Without members for targeting, empty pairs put in nothing, like absent ones. -/
theorem targeting_of_no_part {data : Option Members} (h : ∀ m ∈ data.getD [], forTargeting m = false) :
    textValue? (targeting (some "") data) = none ∧ textValue? (targeting none data) = none := by
  cases data with
  | none => exact ⟨rfl, rfl⟩
  | some data =>
    have hfilter : data.filter forTargeting = [] := List.filter_eq_nil_iff.mpr fun m hm => by simp [h m hm]
    rw [targeting_some, targeting_some, hfilter]
    exact ⟨rfl, rfl⟩

theorem intercalate_ne_empty {sep s : String} {ss : List String} (h : s ≠ "") :
    String.intercalate sep (s :: ss) ≠ "" := by
  cases ss with
  | nil => rwa [String.intercalate_singleton]
  | cons t ts =>
    rw [String.intercalate_cons_of_ne_nil (List.cons_ne_nil t ts)]
    intro hempty
    have hlist := congrArg String.toList hempty
    simp [h] at hlist

/-- With such a member, empty pairs put a bar in front of the text. -/
theorem targeting_of_part {data : Option Members} (h : ∃ m ∈ data.getD [], forTargeting m = true) :
    ∃ text, textValue? (targeting none data) = some (.string text) ∧
      textValue? (targeting (some "") data) = some (.string ("|" ++ text)) := by
  cases data with
  | none => simp at h
  | some data =>
    rw [targeting_some, targeting_some]
    cases hparts : data.filter forTargeting with
    | nil =>
      obtain ⟨m, hm, hfor⟩ := h
      have hmem : m ∈ data.filter forTargeting := List.mem_filter.mpr ⟨hm, hfor⟩
      rw [hparts] at hmem
      cases hmem
    | cons m ms =>
      have htext : String.intercalate "|" ((m :: ms).map partOf) ≠ "" := intercalate_ne_empty (partOf_ne_empty m)
      have hbar : String.intercalate "|" ("" :: (m :: ms).map partOf) =
          "|" ++ String.intercalate "|" ((m :: ms).map partOf) := by
        rw [String.intercalate_cons_of_ne_nil (by simp), String.empty_append]
      refine ⟨_, textValue?_of_ne htext, ?_⟩
      rw [Option.toList_some, List.singleton_append, hbar]
      exact textValue?_of_ne (by simp)

/-- The given pairs count for one member of the keyword map only. -/
theorem exists_keywordMap_withDctr (e : ImpExt) :
    ∃ ps qs, "key_val" ∉ Members.names qs ∧ ∀ dctr, (e.withDctr dctr).keywordMap =
      Members.ofPairs (ps ++ (Members.optional "key_val" (textValue? (targeting dctr e.data)) ++ qs)) := by
  refine ⟨e.slot.keywordPairs ++ Members.optional "pmZoneId" e.slot.zone?, Members.typed (e.sources.drop 2), ?_, ?_⟩
  · intro hmem
    have hname := (Members.names_typed _).subset hmem
    simp [ImpExt.sources] at hname
  · intro dctr
    rw [keywordMap_eq, List.append_assoc]
    rfl

theorem exists_bar_of_part {e : ImpExt} (h : ∃ m ∈ e.data.getD [], forTargeting m = true) :
    ∃ text, (e.withDctr none).keywordMap.get? "key_val" = some (.string text) ∧
      (e.withDctr (some "")).keywordMap =
        (e.withDctr none).keywordMap.insert "key_val" (.string ("|" ++ text)) := by
  obtain ⟨ps, qs, hname, hmap⟩ := exists_keywordMap_withDctr e
  obtain ⟨text, hnone, hempty⟩ := targeting_of_part h
  have hsource : ("key_val", textValue? (targeting none e.data)) ∈ (e.withDctr none).sources :=
    List.mem_of_getElem? (i := 1) rfl
  have hget : (e.withDctr none).keywordMap.get? "key_val" = some (.string text) := by
    rw [get?_source hsource, hnone, Option.some_or]
  refine ⟨text, hget, ?_⟩
  rw [hmap, hmap, hnone, hempty]
  exact (Members.insert_ofPairs hname).symm

/-- **Given pairs that are empty do not always count as absent.** They do where the data has no member for targeting,
and only there. Elsewhere they put a bar in front of the targeting text, and nothing else is different. -/
theorem keywordMap_emptyDctr (e : ImpExt) :
    ((e.withDctr (some "")).keywordMap = (e.withDctr none).keywordMap ↔
      ∀ m ∈ e.data.getD [], forTargeting m = false) ∧
    ((∃ m ∈ e.data.getD [], forTargeting m = true) →
      ∃ text, (e.withDctr none).keywordMap.get? "key_val" = some (.string text) ∧
        (e.withDctr (some "")).keywordMap =
          (e.withDctr none).keywordMap.insert "key_val" (.string ("|" ++ text))) := by
  refine ⟨⟨?_, ?_⟩, exists_bar_of_part⟩
  · intro heq
    by_contra hsome
    obtain ⟨text, hget, hinsert⟩ := exists_bar_of_part (e := e) (by simpa using hsome)
    rw [hinsert] at heq
    rw [← heq, Members.get?_insert_self, Option.some_inj, Value.string.injEq] at hget
    have hlength := congrArg String.length hget
    simp at hlength
  · intro h
    obtain ⟨ps, qs, -, hmap⟩ := exists_keywordMap_withDctr e
    obtain ⟨hempty, hnone⟩ := targeting_of_no_part h
    rw [hmap, hmap, hempty, hnone]

/-- An ext whose data has one member for targeting. -/
def extWithData : ImpExt where
  bidder := none
  data := some [("k", .string "v")]
  ae := none
  gpid := none

theorem keywordMap_emptyDctr_of_data :
    (extWithData.withDctr none).keywordMap = [("key_val", .string "k=v")] ∧
      (extWithData.withDctr (some "")).keywordMap = [("key_val", .string "|k=v")] := by
  have hdata : ∃ m ∈ extWithData.data.getD [], forTargeting m = true :=
    ⟨("k", .string "v"), by simp [extWithData], rfl⟩
  obtain ⟨text, hget, hinsert⟩ := (keywordMap_emptyDctr extWithData).2 hdata
  have hnone : (extWithData.withDctr none).keywordMap = [("key_val", .string "k=v")] := rfl
  have htext : text = "k=v" := by
    rw [hnone] at hget
    exact (Value.string.inj (Option.some.inj hget)).symm
  rw [htext, hnone] at hinsert
  exact ⟨hnone, hinsert⟩

/-- The members of an ext with such data, for a bidder. -/
def membersWithData (bidder : Members) : Members :=
  [("bidder", .object bidder), ("data", .object [("k", .string "v")])]

/-- Pairs that are read as empty leave a bar where the targeting text of absent ones has none. -/
theorem emptyDctr_leaves_bar :
    ∃ e e', ImpExt.ofMembers (some (membersWithData [("dctr", .string "")])) = .ok e ∧
      ImpExt.ofMembers (some (membersWithData [])) = .ok e' ∧
      e.keywordMap.get? "key_val" = some (.string "|k=v") ∧ e'.keywordMap.get? "key_val" = some (.string "k=v") :=
  ⟨_, _, rfl, rfl, rfl, rfl⟩

end BidAdapter
