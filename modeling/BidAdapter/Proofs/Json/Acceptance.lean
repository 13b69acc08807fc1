import BidAdapter.Proofs.Json.RecordReading

/-!
# Accepted values

* `Decoder.Accepts` : a value of which something is read;
* `accepts_string_iff`, …, `accepts_list_iff` : scalars, values that may be null, objects and lists;
* `OptionFrom` : what becomes of a value that may be absent or null; `RecordRun.optionFrom` : a part of a record comes from
  such a value;
* `closedRecord_accepts_object_iff`, `closedRecord_accepts_array_iff` : a closed record takes an object by the names of
  its members, and an array by the places of its items.
-/

namespace BidAdapter.Json

set_option autoImplicit false

/-- A value of which something is read. -/
def Decoder.Accepts {α : Type} (d : Decoder α) (v : Value) : Prop := ∃ a, d.ofValue v = .ok a

variable {α β : Type} {d : Decoder β} {v : Value} {kind : Number → Prop}

/-! ## Scalars, objects and lists -/

theorem string_ofValue_iff {o : Origin} {s : String} : Decoder.string o (.ofValue v) = .ok s ↔ v = .string s :=
  string_eq_ok_iff.trans Document.ofValue_eq_string_iff

theorem bool_ofValue_iff {o : Origin} {b : Bool} : Decoder.bool o (.ofValue v) = .ok b ↔ v = .bool b :=
  bool_eq_ok_iff.trans Document.ofValue_eq_bool_iff

theorem int32_ofValue_iff {o : Origin} {n : Int32} : Decoder.int32 o (.ofValue v) = .ok n ↔ v = .ofInt32 n :=
  int32_eq_ok_iff.trans Document.ofValue_eq_number_iff

theorem accepts_string_iff : Decoder.string.Accepts v ↔ ∃ s, v = .string s := exists_congr fun _ => string_ofValue_iff

theorem accepts_bool_iff : Decoder.bool.Accepts v ↔ ∃ b, v = .bool b := exists_congr fun _ => bool_ofValue_iff

theorem accepts_int32_iff : Decoder.int32.Accepts v ↔ ∃ n, v = .ofInt32 n := exists_congr fun _ => int32_ofValue_iff

theorem accepts_members_iff (hplain : v.Plain kind .value) : Decoder.members.Accepts v ↔ ∃ ms, v = .object ms := by
  refine exists_congr fun ms => ?_
  rw [Decoder.ofValue, members_eq_ok_iff, any_ofValue hplain, Except.ok.injEq]

theorem accepts_optional_iff : (Decoder.optional d).Accepts v ↔ v = .null ∨ d.Accepts v := by
  constructor
  · rintro ⟨x, hx⟩
    rcases optional_eq_ok_iff.mp hx with ⟨hnull, -⟩ | ⟨-, b, hb, -⟩
    · exact Or.inl (Document.ofValue_eq_null_iff.mp hnull)
    · exact Or.inr ⟨b, hb⟩
  · intro h
    by_cases hnull : v = .null
    · rw [hnull]
      exact ⟨none, rfl⟩
    · obtain ⟨b, hb⟩ := h.resolve_left hnull
      have hdoc : Document.ofValue v ≠ .null := mt Document.ofValue_eq_null_iff.mp hnull
      exact ⟨some b, optional_eq_ok_iff.mpr (Or.inr ⟨hdoc, b, hb, rfl⟩)⟩

theorem list_ofValue_eq_ok_iff {xs : List β} : (Decoder.list d).ofValue v = .ok xs ↔
    ∃ items, v = .array items ∧ List.Forall₂ (fun w x => d.ofValue w = .ok x) items xs := by
  rw [Decoder.ofValue, list_eq_ok_iff]
  constructor
  · rintro ⟨inner, ds, hinner, heq, hds⟩
    cases hinner
    cases v with
    | array items =>
      cases heq
      rw [Document.ofItems_eq_map, List.forall₂_map_left_iff] at hds
      exact ⟨items, rfl, hds⟩
    | _ => cases heq
  · rintro ⟨items, rfl, hds⟩
    refine ⟨.value, _, rfl, rfl, ?_⟩
    rw [Document.ofItems_eq_map, List.forall₂_map_left_iff]
    exact hds

theorem accepts_list_iff : (Decoder.list d).Accepts v ↔ ∃ items, v = .array items ∧ ∀ w ∈ items, d.Accepts w := by
  constructor
  · rintro ⟨xs, hxs⟩
    obtain ⟨items, rfl, hitems⟩ := list_ofValue_eq_ok_iff.mp hxs
    exact ⟨items, rfl, exists_forall₂_iff.mp ⟨xs, hitems⟩⟩
  · rintro ⟨items, rfl, h⟩
    obtain ⟨xs, hitems⟩ := exists_forall₂_iff.mpr h
    exact ⟨xs, list_ofValue_eq_ok_iff.mpr ⟨items, rfl, hitems⟩⟩

theorem accepts_strings_iff : (Decoder.list Decoder.string).Accepts v ↔ ∃ ss, v = .ofStrings ss := by
  simp only [accepts_list_iff, accepts_string_iff, ← exists_forall₂_iff]
  constructor
  · rintro ⟨items, rfl, ss, hss⟩
    have heq : List.Forall₂ Eq items (ss.map .string) := List.forall₂_map_right_iff.mpr hss
    rw [List.forall₂_eq_eq_eq] at heq
    rw [heq]
    exact ⟨ss, rfl⟩
  · rintro ⟨ss, rfl⟩
    refine ⟨ss.map .string, rfl, ss, ?_⟩
    rw [List.forall₂_map_left_iff, List.forall₂_same]
    exact fun _ _ => rfl

/-! ## Parts that may be absent -/

/-- What becomes of a value that may be absent or null; of any other value it is what `R` says. -/
inductive OptionFrom (R : Value → β → Prop) : Option Value → Option β → Prop where
  | absent : OptionFrom R none none
  | null : OptionFrom R (some .null) none
  | given {v : Value} {b : β} (hnull : v ≠ .null) (h : R v b) : OptionFrom R (some v) (some b)

section OptionFrom
variable {R : Value → β → Prop}

theorem OptionFrom.unique {x : Option Value} {y y' : Option β} (h : OptionFrom R x y) (h' : OptionFrom R x y')
    (hR : ∀ v b b', R v b → R v b' → b = b') : y = y' := by
  cases h with
  | absent =>
    cases h'
    rfl
  | null =>
    cases h' with
    | null => rfl
    | given hnull _ => exact absurd rfl hnull
  | given hnull hb =>
    cases h' with
    | null => exact absurd rfl hnull
    | given _ hb' => rw [hR _ _ _ hb hb']

/-- A value of which a part comes is accepted. -/
theorem OptionFrom.accepts {x : Option Value} {y : Option β} (h : OptionFrom R x y)
    (hR : ∀ w b, x = some w → R w b → d.Accepts w) (hx : x = some v) : (Decoder.optional d).Accepts v := by
  cases hx
  cases h with
  | null => exact accepts_optional_iff.mpr (Or.inl rfl)
  | given _ hb => exact accepts_optional_iff.mpr (Or.inr (hR _ _ rfl hb))

/-- A part of a record that may be absent comes from what the members have under its name. -/
theorem RecordRun.optionFrom {fields : List (Field α)} {unknown : Unknown α} {o : Origin} {absent a : α} {ms : Members}
    {name : String} (hrun : RecordRun fields unknown o [] absent (Document.ofMembers ms) a) (get : α → Option β)
    (h : Owns fields unknown [name] (Decoder.optional d) get) (habsent : get absent = none)
    (hR : ∀ v b, ms.get? name = some v → d o (.ofValue v) = .ok b → R v b) :
    OptionFrom R (ms.get? name) (get a) := by
  rcases (hrun.readOnce get h).of_members with ⟨hnone, hget⟩ | ⟨v, hv, hread⟩
  · rw [hnone, hget, habsent]
    exact .absent
  · rw [hv]
    rcases optional_eq_ok_iff.mp hread with ⟨hnull, hget⟩ | ⟨hnull, b, hb, hget⟩
    · rw [Document.ofValue_eq_null_iff.mp hnull, hget]
      exact .null
    · rw [hget]
      exact .given (mt Document.ofValue_eq_null_iff.mpr hnull) (hR v b hv hb)

end OptionFrom

/-! ## Records -/

section Records
variable {fields : List (Field α)} {title : String} {absent : α} {ms : Members}

@[simp] theorem Field.name_of {name : String} {set : α → β → α} : (Field.of name d set).name = name := rfl

@[simp] theorem Field.required_of {name : String} {set : α → β → α} : (Field.of name d set).required = false := rfl

@[simp] theorem Field.name_needed {name : String} {set : α → β → α} : (Field.needed name d set).name = name := rfl

@[simp] theorem Field.required_needed {name : String} {set : α → β → α} :
    (Field.needed name d set).required = true := rfl

@[simp] theorem Field.accepts_read_of {name : String} {set : α → β → α} :
    (Field.of name d set).read.Accepts v ↔ d.Accepts v := by
  constructor
  · rintro ⟨change, hchange⟩
    obtain ⟨b, hb, -⟩ := map_eq_ok_iff.mp hchange
    exact ⟨b, hb⟩
  · rintro ⟨b, hb⟩
    exact ⟨_, map_eq_ok_iff.mpr ⟨b, hb, rfl⟩⟩

@[simp] theorem Field.accepts_read_needed {name : String} {set : α → β → α} :
    (Field.needed name d set).read.Accepts v ↔ d.Accepts v := by
  have hread : (Field.needed name d set).read = (Field.of name d set).read := rfl
  rw [hread, Field.accepts_read_of]

/-- What is a closed record is an object or an array. -/
theorem object_or_array_of_closedRecord (h : (Decoder.closedRecord title fields absent).Accepts v) :
    (∃ ms, v = .object ms) ∨ ∃ items, v = .array items := by
  obtain ⟨a, ha⟩ := h
  cases v with
  | object ms => exact Or.inl ⟨ms, rfl⟩
  | array items => exact Or.inr ⟨items, rfl⟩
  | _ => exact absurd ha not_mistyped

/-- **An object is a closed record** when each field reads the member of its name, where there is one, and no needed
member is missing. -/
theorem closedRecord_accepts_object_iff (hnames : (fields.flatMap Field.names).Nodup)
    (hother : ∀ f ∈ fields, f.otherName = none) (hms : ms.names.Nodup) :
    (Decoder.closedRecord title fields absent).Accepts (.object ms) ↔
      (∀ f ∈ fields, ∀ v, ms.get? f.name = some v → f.read.Accepts v) ∧
        ∀ f ∈ fields, f.required = true → ∃ v, ms.get? f.name = some v := by
  constructor
  · rintro ⟨a, ha⟩
    obtain ⟨inner, seen, hinner, -, hrun, hmissing⟩ := recordObject_eq_ok_iff.mp ha
    cases hinner
    constructor
    · intro f hf v hv
      have hmem := Document.mem_ofMembers_iff.mpr ⟨v, Members.mem_of_get? hv, rfl⟩
      have hfind := (Field.find?_eq_some_iff hnames).mpr ⟨hf, List.mem_cons_self⟩
      exact (recordRun_of_recordMembers hrun).exists_read hmem hfind
    · intro f hf hrequired
      have hseen := missing?_eq_none_iff.mp hmissing f hf hrequired
      obtain ⟨⟨⟩⟩ | ⟨n, doc, g, hmem, hg, hname⟩ := (mem_seen_iff hrun).mp hseen
      obtain ⟨v, hv, -⟩ := Document.mem_ofMembers_iff.mp hmem
      rw [← hname, Field.name_of_find? hother hg]
      exact ⟨v, Members.get?_of_mem hms hv⟩
  · rintro ⟨hread, hneeded⟩
    refine exists_closedRecord_of_members hother ?_ hms ?_
    · intro f hf hrequired
      obtain ⟨v, hv⟩ := hneeded f hf hrequired
      exact Members.mem_names_of_mem (Members.mem_of_get? hv)
    · intro f hf v hv
      exact hread f hf v (Members.get?_of_mem hms hv)

/-- The items of an array, one for each field, and no field behind the last item that the record needs. -/
theorem exists_recordItems_iff {size position : Nat} {a : α} {items : List Value} :
    (∃ a', Decoder.recordItems title size .value none a position fields (Document.ofItems items) = .ok (a', [])) ↔
      items.length ≤ fields.length ∧ (∀ p ∈ fields.zip items, p.1.read.Accepts p.2) ∧
        ∀ f ∈ fields.drop items.length, f.required = false := by
  induction fields generalizing items position a with
  | nil =>
    cases items with
    | nil => simp [Decoder.recordItems, Document.ofItems]
    | cons v items => simp [Decoder.recordItems, Document.ofItems]
  | cons f fields ih =>
    cases items with
    | nil =>
      have hrest : (∃ a', Decoder.recordItems title size .value none a (position + 1) fields [] = .ok (a', [])) ↔
          ∀ f ∈ fields, f.required = false := by
        simpa [Document.ofItems] using @ih (position + 1) a []
      simp only [Document.ofItems, Decoder.recordItems, finish, ok_bind]
      cases hrequired : f.required with
      | true => simp [hrequired, throw, throwThe, MonadExceptOf.throw]
      | false => simpa [hrequired] using hrest
    | cons v items =>
      simp only [Document.ofItems, Decoder.recordItems, bind_eq_ok_iff, List.length_cons, Nat.add_le_add_iff_right,
        List.zip_cons_cons, List.forall_mem_cons, List.drop_succ_cons]
      constructor
      · rintro ⟨a', change, hchange, hrest⟩
        obtain ⟨hlength, hitems, hneeded⟩ := ih.mp ⟨a', hrest⟩
        exact ⟨hlength, ⟨⟨change, hchange⟩, hitems⟩, hneeded⟩
      · rintro ⟨hlength, ⟨⟨change, hchange⟩, hitems⟩, hneeded⟩
        obtain ⟨a', hrest⟩ := ih.mpr ⟨hlength, hitems, hneeded⟩
        exact ⟨a', change, hchange, hrest⟩

/-- **An array is a closed record** when each of its items is read by the field in its place, and the record needs no
field behind them. -/
theorem closedRecord_accepts_array_iff {items : List Value} :
    (Decoder.closedRecord title fields absent).Accepts (.array items) ↔
      items.length ≤ fields.length ∧ (∀ p ∈ fields.zip items, p.1.read.Accepts p.2) ∧
        ∀ f ∈ fields.drop items.length, f.required = false := by
  have hitems (a : α) : (Decoder.closedRecord title fields absent).ofValue (.array items) = .ok a ↔
      Decoder.recordItems title fields.length .value none absent 0 fields (Document.ofItems items) = .ok (a, []) := by
    rw [Decoder.ofValue, Document.ofValue, closedRecord_array_eq_ok_iff]
    constructor
    · rintro ⟨inner, hinner, -, hrun⟩
      cases hinner
      exact hrun
    · intro hrun
      exact ⟨.value, rfl, rfl, hrun⟩
  exact (exists_congr hitems).trans exists_recordItems_iff

end Records

end BidAdapter.Json
