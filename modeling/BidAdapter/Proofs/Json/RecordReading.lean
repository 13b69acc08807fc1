import BidAdapter.Json.Record
import BidAdapter.Proofs.Json.Reading

/-!
# What a record is read from

* `recordMembers_cons_iff` : one member of a record, known or unknown; `RecordRun` : all of them, one after the other;
  `RecordRun.exists_read`, `mem_seen_iff` : each known one is read by its field, and these fields are those that are seen;
* `Owns` : a part of a record that one of its fields reads and nothing else changes; `Owns.read` : the part comes from
  the one member of that field, or is absent;
* `KeepsOthers`, `KeepsOthers.read` : what the record does not know is kept as the members of any object are;
* `ReadOnce`, `PartRead`, `OptionRead`, `OthersRead` : the same for the parts of a record, in the terms of the document;
* `openRecord_eq_ok_iff` : a record that is read is an object, and what its members make of the absent record;
* `read_eq_ok_iff` : a whole text;
* `given_ofMembers`, `exists_recordMembers_of_members` : records that are read from the members of a value;
* `ClosedForm`, `recordRun_of_closedRecord` : a closed record that is read is an object, or an array of its fields in
  order; `exists_closedRecord_of_members`, `closedRecord_array_eq_ok_iff` : the objects and arrays of which one is read;
* `get?_of_tableEntries`, `ordered_of_table` : a table has the last entry of each name, in the order of the names.
-/

namespace BidAdapter.Json

set_option autoImplicit false

variable {α β : Type}

/-! ## Names -/

/-- Whether a name is one of some names. -/
def Name.among (names : List String) : Name → Bool
  | .ok n => names.contains n
  | .error _ => false

/-- What stands in an object under some names. -/
def membersNamed (names : List String) (ms : List (Name × Document)) : List Document :=
  (ms.filter fun m => m.1.among names).map Prod.snd

/-- What stands in an object under some names; null is as good as nothing. -/
def given (names : List String) (ms : List (Name × Document)) : Option Document :=
  match membersNamed names ms with
  | [] | .null :: _ => none
  | doc :: _ => some doc

/-- The members of an object under other names. -/
def membersBeside (names : List String) (ms : List (Name × Document)) : List (Name × Document) :=
  ms.filter fun m => !m.1.among names

/-- What stands in a document behind names, one inside the other. -/
def Document.at? : Document → List String → Option Document
  | doc, [] => some doc
  | .object ms _, n :: ns => (given [n] ms).bind fun doc => doc.at? ns
  | _, _ :: _ => none

theorem membersNamed_cons {names : List String} {n : String} {doc : Document} {ms : List (Name × Document)} :
    membersNamed names ((.ok n, doc) :: ms) =
      if n ∈ names then doc :: membersNamed names ms else membersNamed names ms := by
  unfold membersNamed
  rw [List.filter_cons]
  simp only [Name.among, List.contains_iff_mem]
  split_ifs
  · rfl
  · rfl

theorem membersBeside_cons {names : List String} {n : String} {doc : Document} {ms : List (Name × Document)} :
    membersBeside names ((.ok n, doc) :: ms) =
      if n ∈ names then membersBeside names ms else (.ok n, doc) :: membersBeside names ms := by
  unfold membersBeside
  rw [List.filter_cons]
  by_cases h : n ∈ names
  · simp [Name.among, h]
  · simp [Name.among, h]

namespace Field

variable {fields : List (Field α)} {f : Field α} {n : String}

/-- The names under which a field is read. -/
def names (f : Field α) : List String := f.name :: f.otherName.toList

theorem mem_names_iff : n ∈ f.names ↔ (f.name == n || f.otherName == some n) = true := by
  rw [names, List.mem_cons, Option.mem_toList, Bool.or_eq_true, beq_iff_eq, beq_iff_eq, eq_comm]

theorem name_sublist_names (fields : List (Field α)) :
    (fields.map name).Sublist (fields.flatMap names) := by
  induction fields with
  | nil => exact List.Sublist.refl _
  | cons f fields ih =>
    rw [List.map_cons, List.flatMap_cons]
    exact (ih.trans (List.sublist_append_right f.otherName.toList _)).cons_cons f.name

/-- A name that is no field's. -/
theorem find?_eq_none_iff : find? fields n = none ↔ n ∉ fields.flatMap names := by
  rw [find?, List.find?_eq_none, List.mem_flatMap, not_exists]
  simp only [← mem_names_iff, not_and]

/-- The field of a name, where no field has another one. -/
theorem name_of_find? (hother : ∀ f ∈ fields, f.otherName = none) (h : find? fields n = some f) : f.name = n := by
  have hfound := List.find?_some h
  rw [hother f (List.mem_of_find?_eq_some h)] at hfound
  simpa using hfound

/-- Every name of a field has one. -/
theorem exists_find?_name (hf : f ∈ fields) : ∃ g, find? fields f.name = some g := by
  refine Option.ne_none_iff_exists'.mp ?_
  rw [Ne, find?_eq_none_iff, not_not]
  exact List.mem_flatMap.mpr ⟨f, hf, List.mem_cons_self⟩

/-- Where no two fields share a name, the field of a name is the one that has it. -/
theorem find?_eq_some_iff (hnames : (fields.flatMap names).Nodup) :
    find? fields n = some f ↔ f ∈ fields ∧ n ∈ f.names := by
  constructor
  · intro h
    have hn := List.find?_some h
    exact ⟨List.mem_of_find?_eq_some h, mem_names_iff.mpr hn⟩
  · rintro ⟨hf, hn⟩
    induction fields with
    | nil => cases hf
    | cons g fields ih =>
      rw [List.flatMap_cons, List.nodup_append] at hnames
      rw [find?, List.find?_cons]
      by_cases hg : n ∈ g.names
      · rw [mem_names_iff.mp hg]
        rcases List.mem_cons.mp hf with rfl | hf
        · rfl
        · exact absurd rfl (hnames.2.2 n hg n (List.mem_flatMap.mpr ⟨f, hf, hn⟩))
      · have hfg : f ∈ fields := (List.mem_cons.mp hf).resolve_left fun heq => hg (heq ▸ hn)
        rw [Bool.eq_false_iff.mpr (mt mem_names_iff.mpr hg)]
        exact ih hnames.2.1 hfg

end Field

/-! ## One member -/

section Run
variable {fields : List (Field α)} {unknown : Unknown α} {o : Origin} {seen seen' : List String} {a a' : α}
  {ms : List (Name × Document)}

open Decoder (recordMembers)

/-- A member is a field that was not seen before, or unknown. -/
theorem recordMembers_cons_iff {name : Name} {doc : Document} {r : List String × α} :
    recordMembers fields unknown o seen a ((name, doc) :: ms) = .ok r ↔ ∃ n, name = .ok n ∧
      ((∃ f change, Field.find? fields n = some f ∧ f.name ∉ seen ∧ f.read o doc = .ok change ∧
          recordMembers fields unknown o (f.name :: seen) (change a) ms = .ok r) ∨
        (∃ change, Field.find? fields n = none ∧ unknown o n doc = .ok change ∧
          recordMembers fields unknown o seen (change a) ms = .ok r)) := by
  rw [recordMembers, bind_eq_ok_iff]
  simp only [nameText_eq_ok_iff]
  refine exists_congr fun n => and_congr_right fun _ => ?_
  cases hf : Field.find? fields n with
  | none => simp [bind_eq_ok_iff]
  | some f =>
    by_cases hseen : f.name ∈ seen
    · simp [hseen, throw, throwThe, MonadExceptOf.throw]
    · simp [hseen, bind_eq_ok_iff]

/-- How the members of a document make a record: each is read by its field, or is unknown. -/
inductive RecordRun (fields : List (Field α)) (unknown : Unknown α) (o : Origin) :
    List String → α → List (Name × Document) → α → Prop where
  | nil {seen : List String} {a : α} : RecordRun fields unknown o seen a [] a
  | known {seen : List String} {a a' : α} {n : String} {doc : Document} {ms : List (Name × Document)} {f : Field α}
    {change : α → α} (hf : Field.find? fields n = some f) (hnew : f.name ∉ seen) (hread : f.read o doc = .ok change)
    (hrest : RecordRun fields unknown o (f.name :: seen) (change a) ms a') :
    RecordRun fields unknown o seen a ((.ok n, doc) :: ms) a'
  | unknown {seen : List String} {a a' : α} {n : String} {doc : Document} {ms : List (Name × Document)}
    {change : α → α} (hf : Field.find? fields n = none) (hread : unknown o n doc = .ok change)
    (hrest : RecordRun fields unknown o seen (change a) ms a') :
    RecordRun fields unknown o seen a ((.ok n, doc) :: ms) a'

theorem recordRun_of_recordMembers (h : recordMembers fields unknown o seen a ms = .ok (seen', a')) :
    RecordRun fields unknown o seen a ms a' := by
  induction ms generalizing seen a with
  | nil =>
    cases h
    exact .nil
  | cons m ms ih =>
    obtain ⟨name, doc⟩ := m
    obtain ⟨n, rfl, ⟨f, change, hf, hnew, hread, hrest⟩ | ⟨change, hf, hread, hrest⟩⟩ := recordMembers_cons_iff.mp h
    · exact .known hf hnew hread (ih hrest)
    · exact .unknown hf hread (ih hrest)

/-- Every known member of a record that is read is read by its field. -/
theorem RecordRun.exists_read {n : String} {doc : Document} {f : Field α} (h : RecordRun fields unknown o seen a ms a')
    (hmem : (.ok n, doc) ∈ ms) (hf : Field.find? fields n = some f) : ∃ change, f.read o doc = .ok change := by
  induction h with
  | nil => cases hmem
  | known hf' _ hread _ ih =>
    rcases List.mem_cons.mp hmem with heq | hmem
    · cases heq
      cases hf.symm.trans hf'
      exact ⟨_, hread⟩
    · exact ih hmem
  | unknown hf' _ _ ih =>
    rcases List.mem_cons.mp hmem with heq | hmem
    · cases heq
      rw [hf] at hf'
      cases hf'
    · exact ih hmem

/-- The fields that are seen in the end are those seen before and those of the members. -/
theorem mem_seen_iff (h : recordMembers fields unknown o seen a ms = .ok (seen', a')) {k : String} :
    k ∈ seen' ↔ k ∈ seen ∨ ∃ n doc f, (.ok n, doc) ∈ ms ∧ Field.find? fields n = some f ∧ f.name = k := by
  induction ms generalizing seen a with
  | nil =>
    cases h
    simp
  | cons m ms ih =>
    obtain ⟨name, doc⟩ := m
    obtain ⟨n, rfl, ⟨f, change, hf, -, -, hrest⟩ | ⟨change, hf, -, hrest⟩⟩ := recordMembers_cons_iff.mp h
    · rw [ih hrest, List.mem_cons]
      constructor
      · rintro ((rfl | hk) | ⟨n', doc', f', hmem, hf', hk⟩)
        · exact Or.inr ⟨n, doc, f, List.mem_cons_self, hf, rfl⟩
        · exact Or.inl hk
        · exact Or.inr ⟨n', doc', f', List.mem_cons_of_mem _ hmem, hf', hk⟩
      · rintro (hk | ⟨n', doc', f', hmem, hf', rfl⟩)
        · exact Or.inl (Or.inr hk)
        · rcases List.mem_cons.mp hmem with heq | hmem
          · cases heq
            cases hf.symm.trans hf'
            exact Or.inl (Or.inl rfl)
          · exact Or.inr ⟨n', doc', f', hmem, hf', rfl⟩
    · rw [ih hrest]
      refine or_congr_right ?_
      constructor
      · rintro ⟨n', doc', f', hmem, hf', hk⟩
        exact ⟨n', doc', f', List.mem_cons_of_mem _ hmem, hf', hk⟩
      · rintro ⟨n', doc', f', hmem, hf', hk⟩
        rcases List.mem_cons.mp hmem with heq | hmem
        · cases heq
          rw [hf] at hf'
          cases hf'
        · exact ⟨n', doc', f', hmem, hf', hk⟩

/-! ## The part of a field -/

/-- How a field acts on a part of the record: the field of these names sets it to what it reads, any other leaves it. -/
def Field.Acts (own : List String) (d : Decoder β) (get : α → β) (f : Field α) : Prop :=
  ∀ o doc change, f.read o doc = .ok change → ∀ a,
    if f.names = own then d o doc = .ok (get (change a)) else get (change a) = get a

/-- The part of a record that only the field of these names changes. -/
structure Owns (fields : List (Field α)) (unknown : Unknown α) (own : List String) (d : Decoder β) (get : α → β) :
    Prop where
  names : (fields.flatMap Field.names).Nodup
  mem : own ∈ fields.map Field.names
  acts : ∀ f ∈ fields, f.Acts own d get
  rest : ∀ o n doc change, unknown o n doc = .ok change → ∀ a, get (change a) = get a

@[simp] theorem Field.names_of {γ : Type} {n : String} {e : Decoder γ} {set : α → γ → α} :
    (Field.of n e set).names = [n] := rfl

@[simp] theorem Field.acts_of {γ : Type} {n : String} {e : Decoder γ} {set : α → γ → α} {own : List String}
    {d : Decoder β} {get : α → β} :
    (Field.of n e set).Acts own d get ↔ ∀ o doc a c, e o doc = .ok c →
      if [n] = own then d o doc = .ok (get (set a c)) else get (set a c) = get a := by
  constructor
  · intro h o doc a c hc
    exact h o doc _ (map_eq_ok_iff.mpr ⟨c, hc, rfl⟩) a
  · intro h o doc change hchange a
    obtain ⟨c, hc, rfl⟩ := map_eq_ok_iff.mp hchange
    exact h o doc a c hc

section Owned
variable {own : List String} {d : Decoder β} {get : α → β}

theorem Owns.mem_iff (h : Owns fields unknown own d get) {f : Field α} {n : String}
    (hf : Field.find? fields n = some f) : n ∈ own ↔ f.names = own := by
  obtain ⟨hmem, hn⟩ := (Field.find?_eq_some_iff h.names).mp hf
  constructor
  · intro hown
    obtain ⟨g, hg, rfl⟩ := List.mem_map.mp h.mem
    have hfind := (Field.find?_eq_some_iff h.names).mpr ⟨hg, hown⟩
    rw [hf] at hfind
    cases hfind
    rfl
  · rintro rfl
    exact hn

theorem Owns.not_mem (h : Owns fields unknown own d get) {n : String} (hf : Field.find? fields n = none) :
    n ∉ own := by
  intro hn
  obtain ⟨g, hg, rfl⟩ := List.mem_map.mp h.mem
  have hnone := Field.find?_eq_none_iff.mp hf
  exact hnone (List.mem_flatMap.mpr ⟨g, hg, hn⟩)

/-- A known member under another name changes nothing of the part. -/
theorem Owns.get_of_ne (h : Owns fields unknown own d get) {f : Field α} {n : String} {doc : Document}
    {change : α → α} (hf : Field.find? fields n = some f) (hne : f.names ≠ own) (hread : f.read o doc = .ok change)
    (a : α) : get (change a) = get a := by
  have hact := h.acts f (List.mem_of_find?_eq_some hf) o doc change hread a
  rw [if_neg hne] at hact
  exact hact

/-- The member of the part is read as the part. -/
theorem Owns.get_of_eq (h : Owns fields unknown own d get) {f : Field α} {n : String} {doc : Document}
    {change : α → α} (hf : Field.find? fields n = some f) (heq : f.names = own) (hread : f.read o doc = .ok change)
    (a : α) : d o doc = .ok (get (change a)) := by
  have hact := h.acts f (List.mem_of_find?_eq_some hf) o doc change hread a
  rw [if_pos heq] at hact
  exact hact

/-- A field that was seen is not read again. -/
theorem Owns.read_seen (h : Owns fields unknown own d get) {name : String} (hname : own.head? = some name)
    (hseen : name ∈ seen) (hrun : RecordRun fields unknown o seen a ms a') :
    membersNamed own ms = [] ∧ get a' = get a := by
  induction hrun with
  | nil => exact ⟨rfl, rfl⟩
  | @known seen a a' n doc ms f change hf hnew hread _ ih =>
    have hne : f.names ≠ own := by
      rintro rfl
      cases hname
      exact hnew hseen
    have hn : n ∉ own := mt (h.mem_iff hf).mp hne
    obtain ⟨hdocs, hget⟩ := ih (List.mem_cons_of_mem _ hseen)
    rw [membersNamed_cons, if_neg hn, hget]
    exact ⟨hdocs, h.get_of_ne hf hne hread a⟩
  | @unknown seen a a' n doc ms change hf hread _ ih =>
    obtain ⟨hdocs, hget⟩ := ih hseen
    rw [membersNamed_cons, if_neg (h.not_mem hf), hget]
    exact ⟨hdocs, h.rest o n doc change hread a⟩

/-- **A part of a record comes from the one member of its field**, or stays what it was. -/
theorem Owns.read (h : Owns fields unknown own d get)
    (hrun : RecordRun fields unknown o seen a ms a') :
    membersNamed own ms = [] ∧ get a' = get a ∨ ∃ doc, membersNamed own ms = [doc] ∧ d o doc = .ok (get a') := by
  induction hrun with
  | nil => exact Or.inl ⟨rfl, rfl⟩
  | @known seen a a' n doc ms f change hf hnew hread hrest ih =>
    by_cases hown : f.names = own
    · have hhead : own.head? = some f.name := by
        rw [← hown]
        rfl
      have hn : n ∈ own := (h.mem_iff hf).mpr hown
      obtain ⟨hdocs, hget⟩ := h.read_seen hhead List.mem_cons_self hrest
      rw [membersNamed_cons, if_pos hn, hdocs, hget]
      exact Or.inr ⟨doc, rfl, h.get_of_eq hf hown hread a⟩
    · have hn : n ∉ own := mt (h.mem_iff hf).mp hown
      rw [membersNamed_cons, if_neg hn, ← h.get_of_ne hf hown hread a]
      exact ih
  | @unknown seen a a' n doc ms change hf hread _ ih =>
    rw [membersNamed_cons, if_neg (h.not_mem hf), ← h.rest o n doc change hread a]
    exact ih

end Owned

/-! ## Unknown members -/

/-- The part of a record in which it keeps what it does not know. -/
structure KeepsOthers (fields : List (Field α)) (put : α → String → Value → α) (others : α → Members) : Prop where
  fields : ∀ f ∈ fields, ∀ o doc change, f.read o doc = .ok change → ∀ a, others (change a) = others a
  put : ∀ a n v, others (put a n v) = (others a).insert n v

/-- **What a record does not know is kept as the members of any object are.** -/
theorem KeepsOthers.read {put : α → String → Value → α} {others : α → Members} (h : KeepsOthers fields put others)
    (hrun : RecordRun fields (Decoder.keep put) o seen a ms a') :
    Decoder.anyMembers o (others a) (membersBeside (fields.flatMap Field.names) ms) = .ok (others a') := by
  induction hrun with
  | nil => rfl
  | @known seen a a' n doc ms f change hf hnew hread _ ih =>
    have hn : n ∈ fields.flatMap Field.names := by
      by_contra hn
      rw [Field.find?_eq_none_iff.mpr hn] at hf
      cases hf
    have hsame := h.fields f (List.mem_of_find?_eq_some hf) o doc change hread a
    rw [membersBeside_cons, if_pos hn, ← hsame]
    exact ih
  | @unknown seen a a' n doc ms change hf hread _ ih =>
    have hn : n ∉ fields.flatMap Field.names := Field.find?_eq_none_iff.mp hf
    obtain ⟨v, hv, hchange⟩ := bind_eq_ok_iff.mp hread
    cases hchange
    rw [membersBeside_cons, if_neg hn, Decoder.anyMembers, bind_eq_ok_iff]
    refine ⟨n, rfl, bind_eq_ok_iff.mpr ⟨v, hv, ?_⟩⟩
    rw [← h.put a n v]
    exact ih

/-! ## Records -/

theorem missing?_eq_none_iff :
    Field.missing? fields seen = none ↔ ∀ f ∈ fields, f.required = true → f.name ∈ seen := by
  unfold Field.missing?
  rw [Option.map_eq_none_iff, List.find?_eq_none]
  simp only [Bool.and_eq_true, Bool.not_eq_true', List.contains_eq_mem, decide_eq_false_iff_not, not_and, not_not]

theorem missing?_eq_none (h : ∀ f ∈ fields, f.required = false) : Field.missing? fields seen = none := by
  refine missing?_eq_none_iff.mpr ?_
  intro f hf hrequired
  rw [h f hf] at hrequired
  cases hrequired

theorem recordObject_eq_ok_iff {absent : α} {stop : Option Flaw} :
    Decoder.recordObject fields unknown absent o ms stop = .ok a ↔ ∃ inner seen, o.enter = .ok inner ∧ stop = none ∧
      recordMembers fields unknown inner [] absent ms = .ok (seen, a) ∧ Field.missing? fields seen = none := by
  unfold Decoder.recordObject
  simp only [bind_eq_ok_iff, finish_eq_ok_iff]
  constructor
  · rintro ⟨inner, hinner, ⟨seen, a''⟩, hrun, -, hstop, hmissing⟩
    dsimp only at hmissing
    split at hmissing
    · cases hmissing
    · next hnone =>
      cases hmissing
      exact ⟨inner, seen, hinner, hstop, hrun, hnone⟩
  · rintro ⟨inner, seen, hinner, hstop, hrun, hnone⟩
    refine ⟨inner, hinner, (seen, a), hrun, (), hstop, ?_⟩
    dsimp only
    rw [hnone]
    rfl

/-- **A record that is read is an object**, and what its members make of the record without members. -/
theorem openRecord_eq_ok_iff {title : String} {put : α → String → Value → α} {absent : α} {doc : Document} :
    Decoder.openRecord title fields put absent o doc = .ok a ↔ ∃ inner ms seen, o.enter = .ok inner ∧
      doc = .object ms none ∧ recordMembers fields (Decoder.keep put) inner [] absent ms = .ok (seen, a) ∧
      Field.missing? fields seen = none := by
  cases doc with
  | object ms stop =>
    rw [Decoder.openRecord, recordObject_eq_ok_iff]
    constructor
    · rintro ⟨inner, seen, hinner, rfl, hrun, hmissing⟩
      exact ⟨inner, ms, seen, hinner, rfl, hrun, hmissing⟩
    · rintro ⟨inner, ms', seen, hinner, heq, hrun, hmissing⟩
      cases heq
      exact ⟨inner, seen, hinner, rfl, hrun, hmissing⟩
  | _ =>
    apply iff_of_false not_mistyped
    rintro ⟨inner, ms, seen, -, heq, -⟩
    cases heq

/-- A text is read as its document is, where nothing but blanks stands behind it. -/
theorem read_eq_ok_iff {d : Decoder α} {text : String} :
    d.read text = .ok a ↔ d .ofText (Document.scan .document text).1 = .ok a ∧
      (Document.scan .document text).2 = false := by
  unfold Decoder.read
  dsimp only
  rw [bind_eq_ok_iff]
  constructor
  · rintro ⟨a', ha', h⟩
    split at h
    · cases h
    · next hmore =>
      cases h
      exact ⟨ha', Bool.eq_false_iff.mpr hmore⟩
  · rintro ⟨ha, hmore⟩
    refine ⟨a, ha, ?_⟩
    rw [hmore]
    rfl

end Run

/-! ## The parts of a record -/

section Parts
variable {fields : List (Field α)} {put : α → String → Value → α} {o : Origin} {seen : List String} {absent a : α}
  {ms : List (Name × Document)} {own : List String} {d : Decoder β} {get : α → β}

/-- A part of a record that is read from the one member of its names, or is the absent one. -/
def ReadOnce (o : Origin) (ms : List (Name × Document)) (own : List String) (d : Decoder β) (absent b : β) : Prop :=
  membersNamed own ms = [] ∧ b = absent ∨ ∃ doc, membersNamed own ms = [doc] ∧ d o doc = .ok b

/-- A part of a record that is always there: it is read from what its name has, or is the absent one. -/
def PartRead (o : Origin) (ms : List (Name × Document)) (own : List String) (d : Decoder β) (absent b : β) : Prop :=
  given own ms = none ∧ b = absent ∨ ∃ doc, given own ms = some doc ∧ d o doc = .ok b

/-- A part of a record that may be absent: it is there exactly when its name has something, and is read from that. -/
inductive OptionRead (o : Origin) (ms : List (Name × Document)) (own : List String) (d : Decoder β) :
    Option β → Prop where
  | absent (h : given own ms = none) : OptionRead o ms own d none
  | present {doc : Document} {b : β} (h : given own ms = some doc) (hread : d o doc = .ok b) :
    OptionRead o ms own d (some b)

/-- The members that a record keeps besides those it knows. -/
def OthersRead (o : Origin) (ms : List (Name × Document)) (known : List String) (others : Members) : Prop :=
  Decoder.anyMembers o [] (membersBeside known ms) = .ok others

/-- Keeping an unknown member changes no part that `put` leaves. -/
theorem Owns.of_keep (hnames : (fields.flatMap Field.names).Nodup) (hmem : own ∈ fields.map Field.names)
    (hacts : ∀ f ∈ fields, f.Acts own d get) (hput : ∀ a n v, get (put a n v) = get a) :
    Owns fields (Decoder.keep put) own d get := by
  refine ⟨hnames, hmem, hacts, ?_⟩
  intro o n doc change hread a
  obtain ⟨v, -, hchange⟩ := bind_eq_ok_iff.mp hread
  cases hchange
  exact hput a n v

/-- Nor does passing over it. -/
theorem Owns.of_passOver (hnames : (fields.flatMap Field.names).Nodup) (hmem : own ∈ fields.map Field.names)
    (hacts : ∀ f ∈ fields, f.Acts own d get) : Owns fields Decoder.passOver own d get := by
  refine ⟨hnames, hmem, hacts, ?_⟩
  intro o n doc change hread a
  obtain ⟨-, -, hid⟩ := bind_eq_ok_iff.mp hread
  cases hid
  rfl

theorem mem_membersNamed_of_given {names : List String} {doc : Document} (h : given names ms = some doc)
    (hnames : names ⊆ own) : doc ∈ membersNamed own ms := by
  have hmem : doc ∈ membersNamed names ms := by
    unfold given at h
    split at h
    · cases h
    · cases h
    · next heq =>
      cases h
      rw [heq]
      exact List.mem_cons_self
  obtain ⟨m, hm, rfl⟩ := List.mem_map.mp hmem
  obtain ⟨hms, hamong⟩ := List.mem_filter.mp hm
  refine List.mem_map_of_mem (List.mem_filter.mpr ⟨hms, ?_⟩)
  unfold Name.among at hamong ⊢
  split at hamong
  · simpa using hnames (by simpa using hamong)
  · cases hamong

theorem given_of_nil (h : membersNamed own ms = []) : given own ms = none := by
  rw [given, h]

theorem given_of_ne_null {doc : Document} (h : membersNamed own ms = [doc]) (hnull : doc ≠ .null) :
    given own ms = some doc := by
  unfold given
  rw [h]
  split
  · next heq => cases heq
  · next heq =>
    cases heq
    exact absurd rfl hnull
  · next heq =>
    cases heq
    rfl

theorem partRead_of_run (hrun : Decoder.recordMembers fields (Decoder.keep put) o [] absent ms = .ok (seen, a))
    (get : α → β) (h : Owns fields (Decoder.keep put) own d get) (hnull : ∀ b, d o .null ≠ .ok b) :
    PartRead o ms own d (get absent) (get a) := by
  rcases h.read (recordRun_of_recordMembers hrun) with ⟨hnil, hget⟩ | ⟨doc, hdoc, hread⟩
  · exact Or.inl ⟨given_of_nil hnil, hget⟩
  · refine Or.inr ⟨doc, given_of_ne_null hdoc ?_, hread⟩
    rintro rfl
    exact hnull _ hread

theorem ReadOnce.optionRead {b : Option β} (h : ReadOnce o ms own (Decoder.optional d) none b) :
    OptionRead o ms own d b := by
  rcases h with ⟨hnil, rfl⟩ | ⟨doc, hdoc, hread⟩
  · exact .absent (given_of_nil hnil)
  · rcases optional_eq_ok_iff.mp hread with ⟨rfl, rfl⟩ | ⟨hnull, b, hb, rfl⟩
    · exact .absent (by rw [given, hdoc])
    · exact .present (given_of_ne_null hdoc hnull) hb

/-- What stands under some of the names is what the part is read from. -/
theorem ReadOnce.of_given {unset b : β} {names : List String} {doc : Document} (h : ReadOnce o ms own d unset b)
    (hnames : names ⊆ own) (hgiven : given names ms = some doc) : d o doc = .ok b := by
  have hmem := mem_membersNamed_of_given hgiven hnames
  rcases h with ⟨hnil, -⟩ | ⟨doc', hone, hread⟩
  · rw [hnil] at hmem
    cases hmem
  · rw [hone] at hmem
    rw [List.mem_singleton.mp hmem]
    exact hread

theorem RecordRun.readOnce {unknown : Unknown α} (hrun : RecordRun fields unknown o [] absent ms a) (get : α → β)
    (h : Owns fields unknown own d get) : ReadOnce o ms own d (get absent) (get a) := h.read hrun

theorem RecordRun.optionRead {unknown : Unknown α} (hrun : RecordRun fields unknown o [] absent ms a)
    (get : α → Option β) (h : Owns fields unknown own (Decoder.optional d) get) (habsent : get absent = none) :
    OptionRead o ms own d (get a) := by
  have hread := hrun.readOnce get h
  rw [habsent] at hread
  exact hread.optionRead

theorem optionRead_of_run (hrun : Decoder.recordMembers fields (Decoder.keep put) o [] absent ms = .ok (seen, a))
    (get : α → Option β) (h : Owns fields (Decoder.keep put) own (Decoder.optional d) get)
    (habsent : get absent = none) : OptionRead o ms own d (get a) :=
  (recordRun_of_recordMembers hrun).optionRead get h habsent

theorem othersRead_of_run (hrun : Decoder.recordMembers fields (Decoder.keep put) o [] absent ms = .ok (seen, a))
    (others : α → Members) (h : KeepsOthers fields put others) (habsent : others absent = []) :
    OthersRead o ms (fields.flatMap Field.names) (others a) := by
  unfold OthersRead
  rw [← habsent]
  exact h.read (recordRun_of_recordMembers hrun)

/-- A part whose name has something is there. -/
theorem OptionRead.of_given {x : Option β} {doc : Document} (h : OptionRead o ms own d x)
    (hgiven : given own ms = some doc) : ∃ b, x = some b ∧ d o doc = .ok b := by
  cases h with
  | absent hnone =>
    rw [hgiven] at hnone
    cases hnone
  | present hsome hread =>
    rw [hgiven] at hsome
    cases hsome
    exact ⟨_, rfl, hread⟩

/-- The members that a record keeps are those it does not know, as any object keeps them. -/
theorem OthersRead.exists_pairs {known : List String} {others : Members} (h : OthersRead o ms known others) :
    ∃ ps, List.Forall₂ (Decoder.ReadsMember o) (membersBeside known ms) ps ∧ others = Members.ofPairs ps :=
  anyMembers_eq_ok_iff.mp h

theorem OthersRead.nodup {known : List String} {others : Members} (h : OthersRead o ms known others) :
    others.names.Nodup := by
  obtain ⟨ps, -, rfl⟩ := h.exists_pairs
  exact Members.nodup_ofPairs ps

theorem OthersRead.not_mem {known : List String} {others : Members} (h : OthersRead o ms known others) {n : String}
    (hn : n ∈ others.names) : n ∉ known := by
  obtain ⟨ps, hps, rfl⟩ := h.exists_pairs
  obtain ⟨p, hp, rfl⟩ := List.mem_map.mp hn
  -- the member of the object comes from one of the document that has a name beside the known ones
  obtain ⟨m, hm, hname, -⟩ := exists_of_mem_right hps (Members.mem_of_mem_ofPairs hp)
  have hbeside := (List.mem_filter.mp hm).2
  rw [hname] at hbeside
  simpa [Name.among] using hbeside

/-- The items of a list are each read from a document. -/
theorem OptionRead.exists_of_mem {xs : Option (List β)} {x : β} (h : OptionRead o ms own (Decoder.list d) xs)
    (hx : x ∈ xs.getD []) : ∃ inner doc, d inner doc = .ok x := by
  cases h with
  | absent => cases hx
  | present _ hread =>
    obtain ⟨inner, ds, -, -, hitems⟩ := list_eq_ok_iff.mp hread
    obtain ⟨doc, -, hdoc⟩ := exists_of_mem_right hitems hx
    exact ⟨inner, doc, hdoc⟩

end Parts

/-! ## The members of a value -/

section OfMembers
variable {fields : List (Field α)} {o : Origin} {seen : List String} {a : α} {ms : Members} {name : String}

/-- What stands under a name is what the members have there, unless that is null. -/
theorem given_ofMembers {doc : Document} :
    given [name] (Document.ofMembers ms) = some doc ↔ ∃ v, ms.get? name = some v ∧ v ≠ .null ∧ doc = .ofValue v := by
  induction ms with
  | nil => simp [Document.ofMembers, given, membersNamed, Members.get?]
  | cons m ms ih =>
    obtain ⟨k, w⟩ := m
    rw [Document.ofMembers, given, membersNamed_cons, Members.get?, List.lookup_cons]
    by_cases hname : k = name
    · rw [if_pos (List.mem_singleton.mpr hname), hname, beq_self_eq_true]
      cases w <;> simp [Document.ofValue, eq_comm]
    · rw [if_neg (mt List.mem_singleton.mp hname), beq_eq_false_iff_ne.mpr (Ne.symm hname)]
      exact ih

/-- The documents of members under a name are those of the first of them and of any others. -/
theorem membersNamed_ofMembers_cons {m : String × Value} :
    membersNamed [name] (Document.ofMembers (m :: ms)) =
      if m.1 = name then .ofValue m.2 :: membersNamed [name] (Document.ofMembers ms)
      else membersNamed [name] (Document.ofMembers ms) := by
  rw [Document.ofMembers, membersNamed_cons]
  simp only [List.mem_singleton]

/-- A part of a record is read from what the members have under its name, or is the absent one. -/
theorem ReadOnce.of_members {d : Decoder β} {unset b : β} (h : ReadOnce o (Document.ofMembers ms) [name] d unset b) :
    (ms.get? name = none ∧ b = unset) ∨ ∃ v, ms.get? name = some v ∧ d o (.ofValue v) = .ok b := by
  induction ms with
  | nil =>
    rcases h with ⟨-, rfl⟩ | ⟨doc, ⟨⟩, -⟩
    exact Or.inl ⟨rfl, rfl⟩
  | cons m ms ih =>
    unfold ReadOnce at h ih
    rw [membersNamed_ofMembers_cons] at h
    rw [Members.get?, List.lookup_cons]
    split_ifs at h with hname
    · rcases h with ⟨⟨⟩, -⟩ | ⟨doc, hdoc, hread⟩
      rw [hname, beq_self_eq_true]
      refine Or.inr ⟨m.2, rfl, ?_⟩
      rw [(List.cons.inj hdoc).1]
      exact hread
    · rw [beq_eq_false_iff_ne.mpr (Ne.symm hname)]
      exact ih h

/-- **A record is read from members of distinct names** if each of its fields reads the member of its name. -/
theorem exists_recordMembers_of_members (hother : ∀ f ∈ fields, f.otherName = none) (hms : ms.names.Nodup)
    (hseen : ∀ n ∈ seen, n ∉ ms.names)
    (hread : ∀ f ∈ fields, ∀ v, (f.name, v) ∈ ms → ∃ change, f.read o (.ofValue v) = .ok change) :
    ∃ r, Decoder.recordMembers fields Decoder.passOver o seen a (Document.ofMembers ms) = .ok r := by
  induction ms generalizing seen a with
  | nil => exact ⟨_, rfl⟩
  | cons m ms ih =>
    obtain ⟨n, v⟩ := m
    rw [Members.names_cons, List.nodup_cons] at hms
    have hrest (f) (hf : f ∈ fields) (w) (hw : (f.name, w) ∈ ms) := hread f hf w (List.mem_cons_of_mem _ hw)
    have hseen' : ∀ k ∈ seen, k ∉ Members.names ms := fun k hk hmem => hseen k hk (List.mem_cons_of_mem _ hmem)
    simp only [Document.ofMembers, recordMembers_cons_iff]
    cases hf : Field.find? fields n with
    | none =>
      obtain ⟨r, hr⟩ := ih (a := a) hms.2 hseen' hrest
      have hpass : (Decoder.passOver o n (.ofValue v) : Except ReadError (α → α)) = .ok id := by
        rw [Decoder.passOver, Document.stop_ofValue]
        rfl
      exact ⟨r, n, rfl, Or.inr ⟨id, hf, hpass, hr⟩⟩
    | some f =>
      have hmem := List.mem_of_find?_eq_some hf
      have hname := Field.name_of_find? hother hf
      obtain ⟨change, hchange⟩ := hread f hmem v (by rw [hname]; exact List.mem_cons_self)
      have hnew : f.name ∉ seen := fun hmem => hseen _ hmem (hname ▸ List.mem_cons_self)
      have hseen'' : ∀ k ∈ f.name :: seen, k ∉ Members.names ms := by
        rw [hname]
        exact List.forall_mem_cons.mpr ⟨hms.1, hseen'⟩
      obtain ⟨r, hr⟩ := ih (a := change a) hms.2 hseen'' hrest
      exact ⟨r, n, rfl, Or.inl ⟨f, change, hf, hnew, hchange, hr⟩⟩

end OfMembers

/-! ## Closed records -/

section Closed
variable {fields all : List (Field α)} {o : Origin} {a a' : α}

/-- The members of a closed record: those of an object, or the items of an array under the names of the fields. -/
inductive ClosedForm (names : List String) : Document → List (Name × Document) → Prop where
  | object (ms : List (Name × Document)) : ClosedForm names (.object ms none) ms
  | array (ds : List Document) (h : ds.length ≤ names.length) :
    ClosedForm names (.array ds none) ((names.map .ok).zip ds)

/-- The items of an array are read as the members that have the names of the fields. -/
theorem recordRun_of_recordItems {title : String} {size position : Nat} {stop : Option Flaw} {seen : List String}
    {ds : List Document} (hall : (all.flatMap Field.names).Nodup) (hfields : fields ⊆ all)
    (hnames : (fields.map Field.name).Nodup) (hseen : ∀ n ∈ fields.map Field.name, n ∉ seen)
    (hrun : Decoder.recordItems title size o stop a position fields ds = .ok (a', [])) :
    ds.length ≤ fields.length ∧
      RecordRun all Decoder.passOver o seen a (((fields.map Field.name).map .ok).zip ds) a' := by
  induction fields generalizing seen a position ds with
  | nil =>
    rw [Decoder.recordItems] at hrun
    cases hrun
    exact ⟨le_rfl, .nil⟩
  | cons f fields ih =>
    obtain ⟨hf, hfields⟩ := List.cons_subset.mp hfields
    obtain ⟨hfresh, hnames⟩ := List.nodup_cons.mp hnames
    cases ds with
    | nil =>
      rw [Decoder.recordItems] at hrun
      obtain ⟨-, -, hrun⟩ := bind_eq_ok_iff.mp hrun
      split at hrun
      · cases hrun
      · -- behind the end of the array no field is read
        have hrest := (ih hfields hnames (fun n hn => hseen n (List.mem_cons_of_mem _ hn)) hrun).2
        rw [List.zip_nil_right] at hrest ⊢
        exact ⟨Nat.zero_le _, hrest⟩
    | cons doc ds =>
      rw [Decoder.recordItems] at hrun
      obtain ⟨change, hread, hrun⟩ := bind_eq_ok_iff.mp hrun
      have hfind : Field.find? all f.name = some f :=
        (Field.find?_eq_some_iff hall).mpr ⟨hf, List.mem_cons_self⟩
      have hseen' : ∀ n ∈ fields.map Field.name, n ∉ f.name :: seen := by
        intro n hn hmem
        rcases List.mem_cons.mp hmem with rfl | hmem
        · exact hfresh hn
        · exact hseen n (List.mem_cons_of_mem _ hn) hmem
      obtain ⟨hlength, hrest⟩ := ih hfields hnames hseen' hrun
      exact ⟨Nat.succ_le_succ hlength, .known hfind (hseen _ List.mem_cons_self) hread hrest⟩

/-- An array is read as a closed record where its fields leave no item over. -/
theorem closedRecord_array_eq_ok_iff {title : String} {absent : α} {ds : List Document} {stop : Option Flaw} :
    Decoder.closedRecord title fields absent o (.array ds stop) = .ok a ↔ ∃ inner, o.enter = .ok inner ∧ stop = none ∧
      Decoder.recordItems title fields.length inner stop absent 0 fields ds = .ok (a, []) := by
  rw [Decoder.closedRecord, bind_eq_ok_iff]
  constructor
  · rintro ⟨inner, hinner, h⟩
    obtain ⟨⟨a', rest⟩, hrun, h⟩ := bind_eq_ok_iff.mp h
    dsimp only at h
    split at h
    · next hempty =>
      rw [List.isEmpty_iff.mp hempty] at hrun
      obtain ⟨_, hstop, h⟩ := bind_eq_ok_iff.mp h
      cases h
      exact ⟨inner, hinner, finish_eq_ok_iff.mp hstop, hrun⟩
    · unfold Decoder.surplus at h
      split at h
      · cases h
      · cases h
  · rintro ⟨inner, hinner, rfl, hrun⟩
    exact ⟨inner, hinner, bind_eq_ok_iff.mpr ⟨(a, []), hrun, rfl⟩⟩

/-- **A closed record that is read is an object or an array**, and what its members make of the absent record. -/
theorem recordRun_of_closedRecord {title : String} {absent : α} {doc : Document}
    (hnames : (fields.flatMap Field.names).Nodup)
    (h : Decoder.closedRecord title fields absent o doc = .ok a) :
    ∃ inner ms, ClosedForm (fields.map Field.name) doc ms ∧
      RecordRun fields Decoder.passOver inner [] absent ms a := by
  cases doc with
  | object ms stop =>
    rw [Decoder.closedRecord] at h
    obtain ⟨inner, seen, -, rfl, hrun, -⟩ := recordObject_eq_ok_iff.mp h
    exact ⟨inner, ms, .object ms, recordRun_of_recordMembers hrun⟩
  | array ds stop =>
    obtain ⟨inner, -, rfl, hrun⟩ := closedRecord_array_eq_ok_iff.mp h
    obtain ⟨hlength, hrest⟩ := recordRun_of_recordItems hnames (List.Subset.refl _)
      (hnames.sublist (Field.name_sublist_names _)) (fun _ _ => List.not_mem_nil) hrun
    exact ⟨inner, _, .array ds (by simpa using hlength), hrest⟩
  | _ => exact absurd h not_mistyped

/-- The members of a closed record in a value: those of an object, or the items of an array under the names of the
fields. -/
theorem exists_members_of_closedForm {names : List String} {v : Value} {docs : List (Name × Document)}
    (h : ClosedForm names (.ofValue v) docs) :
    ∃ ms, docs = Document.ofMembers ms ∧
      (v = .object ms ∨ ∃ items, v = .array items ∧ items.length ≤ names.length ∧ ms = names.zip items) := by
  cases v with
  | object ms =>
    cases h
    exact ⟨ms, rfl, Or.inl rfl⟩
  | array items =>
    obtain ⟨⟩ | ⟨-, hlength⟩ := h
    rw [Document.ofItems_eq_map, List.length_map] at hlength
    refine ⟨names.zip items, ?_, Or.inr ⟨items, rfl, hlength, rfl⟩⟩
    rw [Document.ofItems_eq_map, Document.ofMembers_eq_map, List.zip_map]
    rfl
  | _ => cases h

/-- A closed record is read from members of distinct names if each of its fields reads the member of its name, and those
that it needs are there. -/
theorem exists_closedRecord_of_members {title : String} {absent : α} {ms : Members}
    (hother : ∀ f ∈ fields, f.otherName = none) (hneeded : ∀ f ∈ fields, f.required = true → f.name ∈ ms.names)
    (hms : ms.names.Nodup)
    (hread : ∀ f ∈ fields, ∀ v, (f.name, v) ∈ ms → ∃ change, f.read .value (.ofValue v) = .ok change) :
    ∃ a, (Decoder.closedRecord title fields absent).ofValue (.object ms) = .ok a := by
  have hrun : ∃ r, Decoder.recordMembers fields Decoder.passOver .value [] absent (Document.ofMembers ms) = .ok r :=
    exists_recordMembers_of_members hother hms (by simp) hread
  obtain ⟨⟨seen, a⟩, hrun⟩ := hrun
  have hseen : Field.missing? fields seen = none := by
    refine missing?_eq_none_iff.mpr ?_
    intro f hf hrequired
    obtain ⟨⟨_, v⟩, hv, rfl⟩ := List.mem_map.mp (hneeded f hf hrequired)
    obtain ⟨g, hg⟩ := Field.exists_find?_name hf
    have hmem := Document.mem_ofMembers_iff.mpr ⟨v, hv, rfl⟩
    exact (mem_seen_iff hrun).mpr (Or.inr ⟨f.name, _, g, hmem, hg, Field.name_of_find? hother hg⟩)
  exact ⟨a, recordObject_eq_ok_iff.mpr ⟨.value, seen, rfl, rfl, hrun, hseen⟩⟩

end Closed

/-! ## Tables -/

section Tables
variable {d : Decoder α} {o : Origin} {done t : Table α} {ms : List (Name × Document)}

theorem ordered_of_tableEntries (h : Decoder.tableEntries d o done ms = .ok t) (hdone : done.Ordered) : t.Ordered := by
  induction ms generalizing done with
  | nil =>
    rw [Decoder.tableEntries] at h
    cases h
    exact hdone
  | cons m ms ih =>
    rw [Decoder.tableEntries, bind_eq_ok_iff] at h
    obtain ⟨name, -, h⟩ := h
    obtain ⟨a, -, h⟩ := bind_eq_ok_iff.mp h
    exact ih h (Table.ordered_insert hdone)

/-- The entry of a name comes from the last member of that name, or was there before. -/
theorem get?_of_tableEntries (h : Decoder.tableEntries d o done ms = .ok t) (name : String) :
    (∃ doc a, (membersNamed [name] ms).getLast? = some doc ∧ d o doc = .ok a ∧ t.get? name = some a) ∨
      (membersNamed [name] ms = [] ∧ t.get? name = done.get? name) := by
  induction ms generalizing done with
  | nil =>
    rw [Decoder.tableEntries] at h
    cases h
    exact Or.inr ⟨rfl, rfl⟩
  | cons m ms ih =>
    obtain ⟨n, doc⟩ := m
    rw [Decoder.tableEntries, bind_eq_ok_iff] at h
    obtain ⟨n, hn, h⟩ := h
    obtain ⟨a, ha, h⟩ := bind_eq_ok_iff.mp h
    cases nameText_eq_ok_iff.mp hn
    rw [membersNamed_cons]
    rcases ih h with ⟨doc', a', hlast, ha', hget⟩ | ⟨hnil, hget⟩
    · refine Or.inl ⟨doc', a', ?_, ha', hget⟩
      split_ifs
      · rw [List.getLast?_cons, hlast]
        rfl
      · exact hlast
    · rw [hnil, hget]
      by_cases hname : n = name
      · subst hname
        exact Or.inl ⟨doc, a, by simp, ha, Table.get?_insert_self⟩
      · exact Or.inr ⟨by simp [hname], Table.get?_insert_of_ne (Ne.symm hname)⟩

/-- A table of an object with members has entries. -/
theorem ne_nil_of_tableEntries (h : Decoder.tableEntries d o [] ms = .ok t) (hms : ms ≠ []) : t ≠ [] := by
  obtain ⟨⟨n, doc⟩, ms, rfl⟩ := List.exists_cons_of_ne_nil hms
  have hfirst := h
  rw [Decoder.tableEntries, bind_eq_ok_iff] at hfirst
  obtain ⟨name, hname, -⟩ := hfirst
  cases nameText_eq_ok_iff.mp hname
  rintro rfl
  rcases get?_of_tableEntries h name with ⟨doc', a, -, -, hget⟩ | ⟨hnil, -⟩
  · cases hget
  · rw [membersNamed_cons, if_pos (List.mem_singleton.mpr rfl)] at hnil
    cases hnil

theorem table_eq_ok_iff {doc : Document} : Decoder.table d o doc = .ok t ↔
    ∃ inner ms, o.enter = .ok inner ∧ doc = .object ms none ∧ Decoder.tableEntries d inner [] ms = .ok t := by
  cases doc with
  | object ms stop =>
    simp only [Decoder.table, bind_eq_ok_iff, finish_eq_ok_iff, pure_eq_ok_iff, Document.object.injEq]
    constructor
    · rintro ⟨inner, hinner, _, ht, -, rfl, rfl⟩
      exact ⟨inner, ms, hinner, ⟨rfl, rfl⟩, ht⟩
    · rintro ⟨inner, _, hinner, ⟨rfl, rfl⟩, ht⟩
      exact ⟨inner, hinner, t, ht, (), rfl, rfl⟩
  | _ =>
    apply iff_of_false not_mistyped
    rintro ⟨inner, ms, -, heq, -⟩
    cases heq

/-- A table that is read is in order, however its entries stand in the document. -/
theorem ordered_of_table {doc : Document} (h : Decoder.table d o doc = .ok t) : t.Ordered := by
  obtain ⟨inner, ms, -, -, hentries⟩ := table_eq_ok_iff.mp h
  exact ordered_of_tableEntries hentries List.Pairwise.nil

end Tables

end BidAdapter.Json
