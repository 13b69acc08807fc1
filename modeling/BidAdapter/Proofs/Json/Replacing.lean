import BidAdapter.Proofs.Json.RecordReading

/-!
# One member replaced

* `Document.AtMember`, `Document.AtItem` : two documents that differ at one place, in a member of an object or in an item
  of an array; what replaces it may be a leaf at which the scan stops;
* `AtMember.sound_iff`, `AtItem.sound_iff` : the document is sound exactly when what replaces the place is;
* `Forgets` : what a record is besides the part of one field; `openRecord_replaced` : a record whose member is replaced by
  one that can be read is read, and differs in that part only;
* `list_replaced` : a list whose item is replaced.
-/

namespace BidAdapter.Json

set_option autoImplicit false

variable {α : Type}

/-! ## Places -/

/-- The member of a name, if there is one. -/
def memberOf (name : String) (x : Option Document) : List (Name × Document) := x.toList.map fun d => (.ok name, d)

namespace Document

/-- What stands behind a place that was scanned: nothing where the scan stopped in it. -/
def behind {β : Type} (stop : Option Flaw) (rest : List β) : List β := if stop.isNone then rest else []

/-- Two objects that differ in one member at most: `R` relates what the name has in the one and in the other. -/
def AtMember (name : String) (R : Option Document → Option Document → Prop) (doc doc' : Document) : Prop :=
  ∃ before old new rest, membersNamed [name] (before ++ rest) = [] ∧ R old new ∧
    doc = .object (before ++ memberOf name old ++ rest) none ∧
    doc' = .object (before ++ memberOf name new ++ behind (new.bind stop) rest) (new.bind stop)

/-- Two arrays that differ in the item of one place at most. -/
def AtItem (place : Nat) (R : Document → Document → Prop) (doc doc' : Document) : Prop :=
  ∃ before old new rest, before.length = place ∧ R old new ∧ doc = .array (before ++ old :: rest) none ∧
    doc' = .array (before ++ new :: behind new.stop rest) new.stop

/-- The same, for members that have a value in both objects. -/
def Both (R : Document → Document → Prop) (old new : Option Document) : Prop :=
  ∃ d d', old = some d ∧ new = some d' ∧ R d d'

/-! ## Soundness -/

theorem stop_of_sound {doc : Document} (h : doc.sound = true) : doc.stop = none := by
  cases doc with
  | array ds stop =>
    rw [sound, Bool.and_eq_true, Option.isNone_iff_eq_none] at h
    exact h.1
  | object ms stop =>
    rw [sound, Bool.and_eq_true, Option.isNone_iff_eq_none] at h
    exact h.1
  | flawed => cases h
  | _ => rfl

theorem soundItems_append (ds es : List Document) : soundItems (ds ++ es) = (soundItems ds && soundItems es) := by
  induction ds with
  | nil => rfl
  | cons d ds ih => rw [List.cons_append, soundItems, soundItems, ih, Bool.and_assoc]

theorem soundMembers_append (ms ns : List (Name × Document)) :
    soundMembers (ms ++ ns) = (soundMembers ms && soundMembers ns) := by
  induction ms with
  | nil => rfl
  | cons m ms ih =>
    obtain ⟨name, d⟩ := m
    rw [List.cons_append, soundMembers, soundMembers, ih, Bool.and_assoc, Bool.and_assoc, Bool.and_assoc]

theorem soundMembers_memberOf (name : String) (x : Option Document) :
    soundMembers (memberOf name x) = x.all sound := by
  cases x with
  | none => rfl
  | some d =>
    change (true && d.sound && true) = d.sound
    rw [Bool.true_and, Bool.and_true]

/-- An object whose other members are sound is sound exactly when the member is. -/
theorem AtMember.sound_iff {name : String} {R : Option Document → Option Document → Prop} {doc doc' : Document}
    (h : AtMember name R doc doc') (hdoc : doc.sound = true) :
    ∃ old new, R old new ∧ old.all sound = true ∧ (doc'.sound = true ↔ new.all sound = true) := by
  obtain ⟨before, old, new, rest, -, hR, rfl, rfl⟩ := h
  simp only [sound, soundMembers_append, soundMembers_memberOf, Option.isNone_none, Bool.true_and,
    Bool.and_eq_true] at hdoc
  refine ⟨old, new, hR, hdoc.1.2, ?_⟩
  cases new with
  | none =>
    simp only [sound, soundMembers_append, soundMembers_memberOf, Option.bind_none, behind, Option.isNone_none,
      if_true, Option.all_none, Bool.and_true, Bool.true_and, iff_true, Bool.and_eq_true]
    exact ⟨hdoc.1.1, hdoc.2⟩
  | some d =>
    simp only [sound, soundMembers_append, soundMembers_memberOf, Option.bind_some, Option.all_some, Bool.and_eq_true]
    constructor
    · rintro ⟨-, ⟨-, hd⟩, -⟩
      exact hd
    · intro hd
      rw [stop_of_sound hd]
      exact ⟨rfl, ⟨hdoc.1.1, hd⟩, hdoc.2⟩

theorem AtItem.sound_iff {place : Nat} {R : Document → Document → Prop} {doc doc' : Document}
    (h : AtItem place R doc doc') (hdoc : doc.sound = true) :
    ∃ old new, R old new ∧ old.sound = true ∧ (doc'.sound = true ↔ new.sound = true) := by
  obtain ⟨before, old, new, rest, -, hR, rfl, rfl⟩ := h
  simp only [sound, soundItems_append, soundItems, Option.isNone_none, Bool.true_and, Bool.and_eq_true] at hdoc
  refine ⟨old, new, hR, hdoc.2.1, ?_⟩
  simp only [sound, soundItems_append, soundItems, Bool.and_eq_true]
  constructor
  · rintro ⟨-, -, hd, -⟩
    exact hd
  · intro hd
    rw [stop_of_sound hd]
    exact ⟨rfl, hdoc.1, hd, hdoc.2.2⟩

end Document

/-! ## Records -/

section Records
variable {fields : List (Field α)} {unknown : Unknown α} {put : α → String → Value → α} {absent : α} {title : String}
  {o : Origin} {seen seen' : List String} {a b a' : α} {before rest ms : List (Name × Document)} {own : String}
  {forget : α → α} {old new : Option Document} {doc doc' : Document}

theorem recordMembers_of_recordRun (h : RecordRun fields unknown o seen a ms a') :
    ∃ seen', Decoder.recordMembers fields unknown o seen a ms = .ok (seen', a') := by
  induction h with
  | nil => exact ⟨_, rfl⟩
  | @known seen a a' n doc ms f change hf hnew hread _ ih =>
    obtain ⟨seen', hrest⟩ := ih
    exact ⟨seen', recordMembers_cons_iff.mpr ⟨n, rfl, Or.inl ⟨f, change, hf, hnew, hread, hrest⟩⟩⟩
  | @unknown seen a a' n doc ms change hf hread _ ih =>
    obtain ⟨seen', hrest⟩ := ih
    exact ⟨seen', recordMembers_cons_iff.mpr ⟨n, rfl, Or.inr ⟨change, hf, hread, hrest⟩⟩⟩

/-- `forget` leaves out the part of one field, and nothing but that field looks at the part. -/
structure Forgets (fields : List (Field α)) (unknown : Unknown α) (field : Field α) (forget : α → α) : Prop where
  mem : Field.find? fields field.name = some field
  names : ∀ f ∈ fields, f.otherName = none
  own : ∀ o doc change, field.read o doc = .ok change → ∀ a, forget (change a) = forget a
  fields : ∀ f ∈ fields, f.name ≠ field.name → ∀ o doc change, f.read o doc = .ok change →
    ∀ a, forget (change a) = change (forget a)
  unknown : ∀ o n doc change, unknown o n doc = .ok change → ∀ a, forget (change a) = change (forget a)

namespace Forgets

variable {field : Field α} (h : Forgets fields unknown field forget)
include h

theorem name_eq {f : Field α} {n : String} (hf : Field.find? fields n = some f) : f.name = n := by
  have hn := List.find?_some hf
  rw [h.names f (List.mem_of_find?_eq_some hf)] at hn
  simpa using hn

/-- Members under other names make the same of two records that differ in the part only. -/
theorem run_of_eq (hrun : RecordRun fields unknown o seen a ms a') (hnone : membersNamed [field.name] ms = [])
    (hsame : forget a = forget b) (hseen : ∀ n ∈ seen', n ∈ seen ∨ n = field.name) :
    ∃ b', RecordRun fields unknown o seen' b ms b' ∧ forget a' = forget b' := by
  induction hrun generalizing b seen' with
  | nil => exact ⟨b, .nil, hsame⟩
  | @known seen a a' n doc ms f change hf hnew hread _ ih =>
    have hname := h.name_eq hf
    rw [membersNamed_cons] at hnone
    split_ifs at hnone with hn
    rw [List.mem_singleton, ← hname] at hn
    have hchange : forget (change a) = forget (change b) := by
      have hacts := h.fields f (List.mem_of_find?_eq_some hf) hn o doc change hread
      rw [hacts, hacts, hsame]
    have hseen' : ∀ m ∈ f.name :: seen', m ∈ f.name :: seen ∨ m = field.name := by
      intro m hm
      rcases List.mem_cons.mp hm with rfl | hm
      · exact Or.inl List.mem_cons_self
      · exact (hseen m hm).imp_left (List.mem_cons_of_mem _)
    obtain ⟨b', hb', heq⟩ := ih hnone hchange hseen'
    have hfresh : f.name ∉ seen' := by
      intro hmem
      rcases hseen f.name hmem with hmem | hmem
      · exact hnew hmem
      · exact hn hmem
    exact ⟨b', .known hf hfresh hread hb', heq⟩
  | @unknown seen a a' n doc ms change hf hread _ ih =>
    rw [membersNamed_cons] at hnone
    split_ifs at hnone
    have hchange : forget (change a) = forget (change b) := by
      have hacts := h.unknown o n doc change hread
      rw [hacts, hacts, hsame]
    obtain ⟨b', hb', heq⟩ := ih hnone hchange hseen
    exact ⟨b', .unknown hf hread hb', heq⟩

/-- **A member is replaced** by one that can be read, or left out, or put in: the record differs in its part only. -/
theorem run_replaced (hrun : RecordRun fields unknown o seen a (before ++ memberOf field.name old ++ rest) a')
    (hnone : membersNamed [field.name] (before ++ rest) = []) (hfresh : field.name ∉ seen)
    (hnew : ∀ d, new = some d → ∃ change, field.read o d = .ok change) :
    ∃ b', RecordRun fields unknown o seen a (before ++ memberOf field.name new ++ rest) b' ∧ forget a' = forget b' := by
  induction before generalizing seen a with
  | nil =>
    rw [List.nil_append] at hrun hnone ⊢
    -- behind the place, the two runs go on from records that differ in the part only
    obtain ⟨seenOld, mid, hseen, hmid, hrest⟩ : ∃ seenOld mid,
        (∀ n ∈ seen, n ∈ seenOld) ∧ forget mid = forget a ∧ RecordRun fields unknown o seenOld mid rest a' := by
      cases old with
      | none => exact ⟨seen, a, fun _ hn => hn, rfl, hrun⟩
      | some d =>
        cases hrun with
        | @known _ _ _ _ _ _ f change hf _ hread hrest =>
          rw [h.mem] at hf
          cases hf
          exact ⟨_, _, fun _ hn => List.mem_cons_of_mem _ hn, h.own o d change hread a, hrest⟩
        | unknown hf =>
          rw [h.mem] at hf
          cases hf
    cases new with
    | none => exact h.run_of_eq hrest hnone hmid fun n hn => Or.inl (hseen n hn)
    | some d =>
      obtain ⟨change, hread⟩ := hnew d rfl
      have hsame : forget mid = forget (change a) := by rw [hmid, h.own o d change hread a]
      have hseenNew : ∀ n ∈ field.name :: seen, n ∈ seenOld ∨ n = field.name := by
        intro n hn
        rcases List.mem_cons.mp hn with rfl | hn
        · exact Or.inr rfl
        · exact Or.inl (hseen n hn)
      obtain ⟨b', hb', heq⟩ := h.run_of_eq hrest hnone hsame hseenNew
      exact ⟨b', .known h.mem hfresh hread hb', heq⟩
  | cons m before ih =>
    rw [List.cons_append, List.cons_append] at hrun ⊢
    cases hrun with
    | @known _ _ _ n doc _ f change hf hunseen hread hrest =>
      rw [List.cons_append, membersNamed_cons] at hnone
      split_ifs at hnone with hn
      rw [List.mem_singleton, ← h.name_eq hf] at hn
      have hstill : field.name ∉ f.name :: seen := by
        intro hmem
        rcases List.mem_cons.mp hmem with heq | hmem
        · exact hn heq.symm
        · exact hfresh hmem
      obtain ⟨b', hb', heq⟩ := ih hrest hnone hstill
      exact ⟨b', .known hf hunseen hread hb', heq⟩
    | @unknown _ _ _ n doc _ change hf hread hrest =>
      rw [List.cons_append, membersNamed_cons] at hnone
      split_ifs at hnone
      obtain ⟨b', hb', heq⟩ := ih hrest hnone hfresh
      exact ⟨b', .unknown hf hread hb', heq⟩

end Forgets

/-- Keeping an unknown member changes no part that `put` leaves. -/
theorem Forgets.of_keep {field : Field α} (hmem : Field.find? fields field.name = some field)
    (hnames : ∀ f ∈ fields, f.otherName = none)
    (hown : ∀ o doc change, field.read o doc = .ok change → ∀ a, forget (change a) = forget a)
    (hfields : ∀ f ∈ fields, f.name ≠ field.name → ∀ o doc change, f.read o doc = .ok change →
      ∀ a, forget (change a) = change (forget a))
    (hput : ∀ a n v, forget (put a n v) = put (forget a) n v) :
    Forgets fields (Decoder.keep put) field forget := by
  refine ⟨hmem, hnames, hown, hfields, ?_⟩
  intro o n doc change hread a
  obtain ⟨v, -, hchange⟩ := bind_eq_ok_iff.mp hread
  cases hchange
  exact hput a n v

theorem membersNamed_append (names : List String) (ms ns : List (Name × Document)) :
    membersNamed names (ms ++ ns) = membersNamed names ms ++ membersNamed names ns := by
  unfold membersNamed
  rw [List.filter_append, List.map_append]

theorem membersNamed_memberOf {name : String} (x : Option Document)
    (hnone : membersNamed [name] (before ++ rest) = []) :
    membersNamed [name] (before ++ memberOf name x ++ rest) = x.toList := by
  rw [membersNamed_append, List.append_eq_nil_iff] at hnone
  rw [membersNamed_append, membersNamed_append, hnone.1, hnone.2, List.nil_append, List.append_nil]
  cases x with
  | none => rfl
  | some d =>
    change membersNamed [name] ((.ok name, d) :: []) = [d]
    rw [membersNamed_cons, if_pos (List.mem_singleton.mpr rfl)]
    rfl

section Parts
variable {β γ : Type} {dec : Decoder β} {get : α → β} {set : α → β → α} {name : String}
  {R : Option Document → Option Document → Prop}

/-- A part is read from what its name has, or is the absent one. -/
def PartFrom (dec : Decoder β) (absent : β) (x : Option Document) (c : β) : Prop :=
  x = none ∧ c = absent ∨ ∃ d, x = some d ∧ dec .value d = .ok c

theorem PartFrom.unique {absent c c' : β} {x : Option Document} (h : PartFrom dec absent x c)
    (h' : PartFrom dec absent x c') : c = c' := by
  rcases h with ⟨rfl, rfl⟩ | ⟨d, rfl, hd⟩
  · rcases h' with ⟨-, rfl⟩ | ⟨d, heq, -⟩
    · rfl
    · cases heq
  · rcases h' with ⟨heq, -⟩ | ⟨d', heq, hd'⟩
    · cases heq
    · cases heq
      rw [hd] at hd'
      cases hd'
      rfl

theorem partFrom_of_read (howns : Owns fields (Decoder.keep put) [name] dec get)
    (hnone : membersNamed [name] (before ++ rest) = []) {x : Option Document} {stop : Option Flaw}
    (hread : Decoder.openRecord title fields put absent .value (.object (before ++ memberOf name x ++ rest) stop) =
      .ok a) : PartFrom dec (get absent) x (get a) := by
  obtain ⟨inner, ms, seen, hinner, heq, hrun, -⟩ := openRecord_eq_ok_iff.mp hread
  cases hinner
  cases heq
  have hpart := howns.read (recordRun_of_recordMembers hrun)
  rw [membersNamed_memberOf x hnone] at hpart
  cases x with
  | none =>
    rcases hpart with ⟨-, hget⟩ | ⟨d, heq, -⟩
    · exact Or.inl ⟨rfl, hget⟩
    · cases heq
  | some d =>
    rcases hpart with ⟨heq, -⟩ | ⟨d', heq, hd⟩
    · cases heq
    · cases heq
      exact Or.inr ⟨d, rfl, hd⟩

/-- **A record whose member is replaced** is read when the new member can be read, and differs in the part of that member
only. -/
theorem openRecord_replaced (hat : Document.AtMember name R doc doc')
    (hread : Decoder.openRecord title fields put absent .value doc = .ok a) (set : α → β → α) (get : α → β)
    (forget : α → α) (h : Forgets fields (Decoder.keep put) (Field.of name dec set) forget)
    (howns : Owns fields (Decoder.keep put) [name] dec get) (hrequired : ∀ f ∈ fields, f.required = false) :
    ∃ old new, R old new ∧ PartFrom dec (get absent) old (get a) ∧ doc'.stop = new.bind Document.stop ∧
      (∀ b, Decoder.openRecord title fields put absent .value doc' = .ok b → ∃ c, PartFrom dec (get absent) new c) ∧
      ∀ c, new.bind Document.stop = none → PartFrom dec (get absent) new c →
        ∃ b, Decoder.openRecord title fields put absent .value doc' = .ok b ∧ forget a = forget b ∧ get b = c := by
  obtain ⟨before, old, new, rest, hnone, hR, rfl, rfl⟩ := hat
  refine ⟨old, new, hR, partFrom_of_read howns hnone hread, rfl, ?_, ?_⟩
  · intro b hb
    obtain ⟨-, ms, -, -, heq, -, -⟩ := openRecord_eq_ok_iff.mp hb
    have hstop : new.bind Document.stop = none := (Document.object.inj heq).2
    rw [hstop] at hb
    exact ⟨get b, partFrom_of_read howns hnone hb⟩
  · intro c hstop hc
    rw [hstop]
    obtain ⟨inner, ms, seen, hinner, heq, hrun, -⟩ := openRecord_eq_ok_iff.mp hread
    cases hinner
    cases heq
    have hnew : ∀ d, new = some d → ∃ change, (Field.of name dec set).read .value d = .ok change := by
      rintro d rfl
      rcases hc with ⟨heq, -⟩ | ⟨d', heq, hd⟩
      · cases heq
      · cases heq
        exact ⟨_, map_eq_ok_iff.mpr ⟨c, hd, rfl⟩⟩
    obtain ⟨b, hb, hsame⟩ := h.run_replaced (recordRun_of_recordMembers hrun) hnone List.not_mem_nil hnew
    obtain ⟨seen', hseen'⟩ := recordMembers_of_recordRun hb
    have hdoc : Decoder.openRecord title fields put absent .value
        (.object (before ++ memberOf name new ++ rest) none) = .ok b :=
      openRecord_eq_ok_iff.mpr ⟨.value, _, seen', rfl, rfl, hseen', missing?_eq_none hrequired⟩
    exact ⟨b, hdoc, hsame, (partFrom_of_read howns hnone hdoc).unique hc⟩

end Parts

/-! ## Lists -/

section Lists
variable {γ : Type} {dec : Decoder γ} {place : Nat} {R : Document → Document → Prop}

/-- **A list whose item is replaced** by one that can be read is read, with another item at that place. -/
theorem list_replaced {xs : List γ} (hat : Document.AtItem place R doc doc')
    (hread : Decoder.list dec .value doc = .ok xs) :
    ∃ old new xs₁ x xs₂, R old new ∧ dec .value old = .ok x ∧ xs = xs₁ ++ x :: xs₂ ∧ xs₁.length = place ∧
      doc'.stop = new.stop ∧
      (∀ ys, Decoder.list dec .value doc' = .ok ys → ∃ y, dec .value new = .ok y) ∧
      ∀ y, new.stop = none → dec .value new = .ok y → Decoder.list dec .value doc' = .ok (xs₁ ++ y :: xs₂) := by
  obtain ⟨before, old, new, rest, hplace, hR, rfl, rfl⟩ := hat
  obtain ⟨inner, ds, hinner, heq, hall⟩ := list_eq_ok_iff.mp hread
  cases hinner
  cases heq
  obtain ⟨xs₁, x, xs₂, rfl, hbefore, hold, hrest⟩ := forall₂_split hall
  have hlength : xs₁.length = place := by rw [← hbefore.length_eq, hplace]
  refine ⟨old, new, xs₁, x, xs₂, hR, hold, rfl, hlength, rfl, ?_, ?_⟩
  · intro ys hys
    obtain ⟨inner, ds, hinner, heq, hall⟩ := list_eq_ok_iff.mp hys
    cases hinner
    obtain ⟨rfl, -⟩ := Document.array.inj heq
    obtain ⟨-, y, -, -, -, hy, -⟩ := forall₂_split hall
    exact ⟨y, hy⟩
  · intro y hstop hy
    rw [hstop]
    exact list_eq_ok_iff.mpr ⟨.value, _, rfl, rfl, List.rel_append hbefore (.cons hy hrest)⟩

theorem optional_array {xs : Option (List γ)} {d : Document} (hd : ∃ items stop, d = .array items stop) :
    Decoder.optional (Decoder.list dec) .value d = .ok xs ↔ ∃ ys, Decoder.list dec .value d = .ok ys ∧ some ys = xs := by
  obtain ⟨items, stop, rfl⟩ := hd
  rw [Decoder.optional]
  · exact map_eq_ok_iff
  · intro heq
    cases heq

/-- **A record that has a list, of which one item is replaced.** -/
theorem openRecord_item_replaced {name : String}
    (hat : Document.AtMember name (Document.Both (Document.AtItem place R)) doc doc')
    (hread : Decoder.openRecord title fields put absent .value doc = .ok a) (set : α → Option (List γ) → α)
    (get : α → Option (List γ)) (forget : α → α)
    (h : Forgets fields (Decoder.keep put) (Field.of name (Decoder.optional (Decoder.list dec)) set) forget)
    (howns : Owns fields (Decoder.keep put) [name] (Decoder.optional (Decoder.list dec)) get)
    (hrequired : ∀ f ∈ fields, f.required = false) :
    ∃ old new xs₁ x xs₂, R old new ∧ dec .value old = .ok x ∧ get a = some (xs₁ ++ x :: xs₂) ∧ xs₁.length = place ∧
      doc'.stop = new.stop ∧
      (∀ b, Decoder.openRecord title fields put absent .value doc' = .ok b → ∃ y, dec .value new = .ok y) ∧
      ∀ y, new.stop = none → dec .value new = .ok y →
        ∃ b, Decoder.openRecord title fields put absent .value doc' = .ok b ∧ forget a = forget b ∧
          get b = some (xs₁ ++ y :: xs₂) := by
  obtain ⟨-, -, ⟨d, d', rfl, rfl, hitem⟩, hpart, hstop, hback, hforth⟩ :=
    openRecord_replaced hat hread set get forget h howns hrequired
  have harrays : (∃ items stop, d = .array items stop) ∧ ∃ items stop, d' = .array items stop := by
    obtain ⟨before, old, new, rest, -, -, rfl, rfl⟩ := hitem
    exact ⟨⟨_, _, rfl⟩, _, _, rfl⟩
  obtain ⟨xs, hxs, hget⟩ : ∃ xs, Decoder.list dec .value d = .ok xs ∧ some xs = get a := by
    rcases hpart with ⟨heq, -⟩ | ⟨_, heq, hd⟩
    · cases heq
    · cases heq
      exact (optional_array harrays.1).mp hd
  obtain ⟨old, new, xs₁, x, xs₂, hR, hx, rfl, hlength, hitemstop, hlistback, hlistforth⟩ := list_replaced hitem hxs
  refine ⟨old, new, xs₁, x, xs₂, hR, hx, hget.symm, hlength, hstop.trans hitemstop, ?_, ?_⟩
  · intro b hb
    obtain ⟨c, hc⟩ := hback b hb
    rcases hc with ⟨heq, -⟩ | ⟨_, heq, hd⟩
    · cases heq
    · cases heq
      obtain ⟨ys, hys, -⟩ := (optional_array harrays.2).mp hd
      exact hlistback ys hys
  · intro y hnew hy
    apply hforth (some (xs₁ ++ y :: xs₂)) (hitemstop.trans hnew)
    exact Or.inr ⟨d', rfl, (optional_array harrays.2).mpr ⟨_, hlistforth y hnew hy, rfl⟩⟩

end Lists

end Records

end BidAdapter.Json
