import BidAdapter.Proofs.Json.Members
import BidAdapter.Proofs.Traversal

/-!
# Reading any value

* `Document.nested` : the induction on documents; `Document.numbers` : the numbers that stand in a document;
* `any_array_iff`, `any_object_iff` : what an array and an object are read as; `string_eq_ok_iff`, `bool_eq_ok_iff`,
  `int32_eq_ok_iff`, `list_eq_ok_iff`, `members_eq_ok_iff` : the same for typed data;
* `any_value_of_any` : what a text is read as does not depend on how deep it may nest;
* `Plain` : a value whose objects have distinct names, that nests no deeper than its origin allows, and whose numbers
  are of some kind; `plain_of_any` : every value that is read is plain; `any_ofValue` : a plain value is read as itself;
  `Plain.mono` : so it is where more may nest; `Plain.member`, `Plain.item` : so is what stands in it;
  `Plain.of_numbers`, `Plain.value_of_numbers` : its numbers are of any kind that those of its document are of.
-/

namespace BidAdapter.Json

set_option autoImplicit false

/-! ## Documents -/

namespace Document

/-- Induction on documents: a container has a hypothesis for everything in it. -/
@[elab_as_elim]
theorem nested {P : Document → Prop} (null : P .null) (bool : ∀ b, P (.bool b)) (number : ∀ n, P (.number n))
    (string : ∀ s, P (.string s)) (array : ∀ ds stop, (∀ d ∈ ds, P d) → P (.array ds stop))
    (object : ∀ ms stop, (∀ m ∈ ms, P m.2) → P (.object ms stop))
    (flawed : ∀ kept skipped, P (.flawed kept skipped)) (doc : Document) : P doc := by
  refine @Document.rec P (fun ds => ∀ d ∈ ds, P d) (fun ms => ∀ m ∈ ms, P m.2) (fun m => P m.2) null bool number
    string array object flawed ?_ ?_ ?_ ?_ ?_ doc
  · intro d hd
    cases hd
  · intro d ds hd hds d' hd'
    rcases List.mem_cons.mp hd' with rfl | hd'
    · exact hd
    · exact hds d' hd'
  · intro m hm
    cases hm
  · intro m ms hm hms m' hm'
    rcases List.mem_cons.mp hm' with rfl | hm'
    · exact hm
    · exact hms m' hm'
  · intro name d hd
    exact hd

mutual

/-- The numbers in a document, in order. -/
def numbers : Document → List Number
  | .number n => [n]
  | .array items _ => itemNumbers items
  | .object members _ => memberNumbers members
  | _ => []

def itemNumbers : List Document → List Number
  | [] => []
  | d :: ds => d.numbers ++ itemNumbers ds

def memberNumbers : List (Name × Document) → List Number
  | [] => []
  | (_, d) :: ms => d.numbers ++ memberNumbers ms

end

theorem mem_numbers_array {n : Number} {ds : List Document} {stop : Option Flaw} :
    n ∈ (array ds stop).numbers ↔ ∃ d ∈ ds, n ∈ d.numbers := by
  simp only [numbers]
  induction ds with
  | nil => simp [itemNumbers]
  | cons d ds ih => simp [itemNumbers, ih]

theorem mem_numbers_object {n : Number} {ms : List (Name × Document)} {stop : Option Flaw} :
    n ∈ (object ms stop).numbers ↔ ∃ m ∈ ms, n ∈ m.2.numbers := by
  simp only [numbers]
  induction ms with
  | nil => simp [memberNumbers]
  | cons m ms ih => simp [memberNumbers, ih]

theorem ofItems_eq_map (vs : List Value) : ofItems vs = vs.map ofValue := by
  induction vs with
  | nil => rfl
  | cons v vs ih => rw [ofItems, ih, List.map_cons]

theorem ofMembers_eq_map (ms : Members) : ofMembers ms = ms.map fun m => (.ok m.1, ofValue m.2) := by
  induction ms with
  | nil => rfl
  | cons m ms ih => rw [ofMembers, ih, List.map_cons]

theorem mem_ofMembers_iff {ms : Members} {n : String} {doc : Document} :
    ((.ok n, doc) : Name × Document) ∈ ofMembers ms ↔ ∃ v, (n, v) ∈ ms ∧ doc = ofValue v := by
  rw [ofMembers_eq_map, List.mem_map]
  constructor
  · rintro ⟨⟨k, v⟩, hmem, heq⟩
    cases heq
    exact ⟨v, hmem, rfl⟩
  · rintro ⟨v, hmem, rfl⟩
    exact ⟨(n, v), hmem, rfl⟩

theorem ofValue_eq_null_iff {v : Value} : ofValue v = .null ↔ v = .null := by
  cases v <;> simp [ofValue]

theorem ofValue_eq_bool_iff {v : Value} {b : Bool} : ofValue v = .bool b ↔ v = .bool b := by
  cases v <;> simp [ofValue]

theorem ofValue_eq_string_iff {v : Value} {s : String} : ofValue v = .string s ↔ v = .string s := by
  cases v <;> simp [ofValue]

theorem ofValue_eq_number_iff {v : Value} {n : Number} : ofValue v = .number n ↔ v = .number n := by
  cases v <;> simp [ofValue]

theorem stop_ofValue (v : Value) : (ofValue v).stop = none := by
  cases v <;> rfl

mutual

/-- The tree of a value has no flaw. -/
theorem sound_ofValue : ∀ v, (ofValue v).sound = true
  | .null | .bool _ | .number _ | .string _ => rfl
  | .array items => by
    rw [ofValue, sound, soundItems_ofItems items]
    rfl
  | .object members => by
    rw [ofValue, sound, soundMembers_ofMembers members]
    rfl

theorem soundItems_ofItems : ∀ vs, soundItems (ofItems vs) = true
  | [] => rfl
  | v :: vs => by
    rw [ofItems, soundItems, sound_ofValue v, soundItems_ofItems vs]
    rfl

theorem soundMembers_ofMembers : ∀ ms, soundMembers (ofMembers ms) = true
  | [] => rfl
  | (k, v) :: ms => by
    rw [ofMembers, soundMembers, sound_ofValue v, soundMembers_ofMembers ms]
    rfl

end

end Document

/-! ## Containers -/

section Containers
variable {o inner : Origin} {v : Value} {stop : Option Flaw}

@[simp] theorem finish_eq_ok_iff {u : Unit} : finish stop = .ok u ↔ stop = none := by
  cases stop with
  | none => simp [finish]
  | some f => simp [finish]

theorem nameText_eq_ok_iff {name : Name} {s : String} : nameText name = .ok s ↔ name = .ok s := mapError_eq_ok_iff

theorem not_mistyped {α : Type} {expected : String} {doc : Document} {a : α} : mistyped expected doc ≠ .ok a := by
  unfold mistyped
  rw [Ne, bind_eq_ok_iff]
  rintro ⟨found, -, h⟩
  cases h

theorem string_eq_ok_iff {doc : Document} {s : String} : Decoder.string o doc = .ok s ↔ doc = .string s := by
  cases doc with
  | string t => simp [Decoder.string]
  | _ => exact iff_of_false not_mistyped (by simp)

theorem bool_eq_ok_iff {doc : Document} {b : Bool} : Decoder.bool o doc = .ok b ↔ doc = .bool b := by
  cases doc with
  | bool c => simp [Decoder.bool]
  | _ => exact iff_of_false not_mistyped (by simp)

/-- An integer is that of 32 bits where it is in range. -/
theorem int_eq_ofInt32_iff {k : Int} {fits : -2 ^ 63 ≤ k ∧ k < 2 ^ 64} {n : Int32} :
    Number.int k fits = .ofInt32 n ↔ k = n.toInt := by
  simp only [Number.ofInt32, Number.int.injEq]

theorem int32_eq_ok_iff {doc : Document} {n : Int32} : Decoder.int32 o doc = .ok n ↔ doc = .number (.ofInt32 n) := by
  cases doc with
  | number k =>
    cases k with
    | int k fits =>
      rw [Document.number.injEq, int_eq_ofInt32_iff, Decoder.int32]
      split_ifs with hrange
      · rw [Except.ok.injEq]
        constructor
        · rintro rfl
          exact (Int32.toInt_ofInt_of_le hrange.1 hrange.2).symm
        · rintro rfl
          exact Int32.ofInt_toInt n
      · refine iff_of_false (by simp) ?_
        rintro rfl
        exact hrange ⟨n.le_toInt, n.toInt_lt⟩
    | real x finite => exact iff_of_false not_mistyped (by simp [Number.ofInt32])
  | _ => exact iff_of_false not_mistyped (by simp)

/-- A member of a document and the member it is read as. -/
def Decoder.ReadsMember (o : Origin) (m : Name × Document) (p : String × Value) : Prop :=
  m.1 = .ok p.1 ∧ Decoder.any o m.2 = .ok p.2

theorem anyItems_eq_mapM (ds : List Document) : Decoder.anyItems o ds = ds.mapM (Decoder.any o) := by
  induction ds with
  | nil => rfl
  | cons d ds ih => rw [Decoder.anyItems, ih, List.mapM_cons]

/-- Members are read one after the other: a repeated name keeps its first place and its last value. -/
theorem anyMembers_eq_ok_iff {done out : Members} {ms : List (Name × Document)} :
    Decoder.anyMembers o done ms = .ok out ↔ ∃ ps, List.Forall₂ (Decoder.ReadsMember o) ms ps ∧
      out = ps.foldl (fun done p => done.insert p.1 p.2) done := by
  induction ms generalizing done with
  | nil =>
    rw [Decoder.anyMembers]
    simp only [Except.ok.injEq, List.forall₂_nil_left_iff, exists_eq_left, List.foldl_nil]
    exact eq_comm
  | cons m ms ih =>
    rw [Decoder.anyMembers, bind_eq_ok_iff]
    simp only [nameText_eq_ok_iff, bind_eq_ok_iff, List.forall₂_cons_left_iff, ih]
    constructor
    · rintro ⟨name, hname, v, hv, ps, hps, rfl⟩
      exact ⟨(name, v) :: ps, ⟨(name, v), ps, ⟨hname, hv⟩, hps, rfl⟩, rfl⟩
    · rintro ⟨_, ⟨p, ps, ⟨hname, hv⟩, hps, rfl⟩, rfl⟩
      exact ⟨p.1, hname, p.2, hv, ps, hps, rfl⟩

theorem any_array_iff {ds : List Document} :
    Decoder.any o (.array ds stop) = .ok v ↔ ∃ inner vs, o.enter = .ok inner ∧ stop = none ∧
      List.Forall₂ (fun d v => Decoder.any inner d = .ok v) ds vs ∧ v = .array vs := by
  rw [Decoder.any]
  simp only [bind_eq_ok_iff, anyItems_eq_mapM, mapM_eq_ok_iff, finish_eq_ok_iff, pure_eq_ok_iff]
  constructor
  · rintro ⟨inner, hinner, vs, hvs, -, hstop, rfl⟩
    exact ⟨inner, vs, hinner, hstop, hvs, rfl⟩
  · rintro ⟨inner, vs, hinner, hstop, hvs, rfl⟩
    exact ⟨inner, hinner, vs, hvs, (), hstop, rfl⟩

theorem any_object_iff {ms : List (Name × Document)} :
    Decoder.any o (.object ms stop) = .ok v ↔ ∃ inner ps, o.enter = .ok inner ∧ stop = none ∧
      List.Forall₂ (Decoder.ReadsMember inner) ms ps ∧ v = .object (Members.ofPairs ps) := by
  rw [Decoder.any]
  simp only [bind_eq_ok_iff, anyMembers_eq_ok_iff, finish_eq_ok_iff, pure_eq_ok_iff]
  constructor
  · rintro ⟨inner, hinner, _, ⟨ps, hps, rfl⟩, -, hstop, rfl⟩
    exact ⟨inner, ps, hinner, hstop, hps, rfl⟩
  · rintro ⟨inner, ps, hinner, hstop, hps, rfl⟩
    exact ⟨inner, hinner, _, ⟨ps, hps, rfl⟩, (), hstop, rfl⟩

/-- A value that may be null is either that or read as what else it may be. -/
theorem optional_eq_ok_iff {α : Type} {d : Decoder α} {x : Option α} {doc : Document} :
    Decoder.optional d o doc = .ok x ↔
      doc = .null ∧ x = none ∨ doc ≠ .null ∧ ∃ a, d o doc = .ok a ∧ x = some a := by
  by_cases hnull : doc = .null
  · subst hnull
    simp [Decoder.optional, eq_comm]
  · have hmap : Decoder.optional d o doc = (d o doc).map some := by
      cases doc with
      | null => exact absurd rfl hnull
      | _ => rfl
    rw [hmap, map_eq_ok_iff, or_iff_right (mt And.left hnull), and_iff_right hnull]
    exact exists_congr fun a => and_congr_right fun _ => eq_comm

/-- A list is an array without a flaw, read item by item. -/
theorem list_eq_ok_iff {α : Type} {d : Decoder α} {xs : List α} {doc : Document} :
    Decoder.list d o doc = .ok xs ↔ ∃ inner ds, o.enter = .ok inner ∧ doc = .array ds none ∧
      List.Forall₂ (fun doc x => d inner doc = .ok x) ds xs := by
  cases doc with
  | array ds stop =>
    simp only [Decoder.list, bind_eq_ok_iff, mapM_eq_ok_iff, finish_eq_ok_iff, pure_eq_ok_iff, Document.array.injEq]
    constructor
    · rintro ⟨inner, hinner, _, hxs, -, rfl, rfl⟩
      exact ⟨inner, ds, hinner, ⟨rfl, rfl⟩, hxs⟩
    · rintro ⟨inner, _, hinner, ⟨rfl, rfl⟩, hxs⟩
      exact ⟨inner, hinner, xs, hxs, (), rfl, rfl⟩
  | _ =>
    apply iff_of_false not_mistyped
    rintro ⟨inner, ds, -, heq, -⟩
    cases heq

/-- The members of an object are those it is read with as a value. -/
theorem members_eq_ok_iff {doc : Document} {ms : Members} :
    Decoder.members o doc = .ok ms ↔ Decoder.any o doc = .ok (.object ms) := by
  cases doc with
  | object ds stop =>
    rw [any_object_iff]
    simp only [Decoder.members, bind_eq_ok_iff, anyMembers_eq_ok_iff, finish_eq_ok_iff, pure_eq_ok_iff,
      Value.object.injEq]
    constructor
    · rintro ⟨inner, hinner, _, ⟨ps, hps, rfl⟩, -, hstop, rfl⟩
      exact ⟨inner, ps, hinner, hstop, hps, rfl⟩
    · rintro ⟨inner, ps, hinner, hstop, hps, rfl⟩
      exact ⟨inner, hinner, _, ⟨ps, hps, rfl⟩, (), hstop, rfl⟩
  | array ds stop =>
    apply iff_of_false not_mistyped
    intro h
    obtain ⟨inner, vs, -, -, -, heq⟩ := any_array_iff.mp h
    cases heq
  | _ => exact iff_of_false not_mistyped (by simp [Decoder.any])

end Containers

/-! ## Nesting -/

/-- What is read with a limit to its nesting is read the same without one. -/
theorem any_value_of_any {doc : Document} {o : Origin} {v : Value} (h : Decoder.any o doc = .ok v) :
    Decoder.any .value doc = .ok v := by
  induction doc using Document.nested generalizing o v with
  | null | bool | number | string | flawed => exact h
  | array ds stop ih =>
    obtain ⟨inner, vs, -, hstop, hvs, rfl⟩ := any_array_iff.mp h
    refine any_array_iff.mpr ⟨.value, vs, rfl, hstop, ?_, rfl⟩
    apply ((List.forall₂_and_left _ _).mpr ⟨ih, hvs⟩).imp
    rintro d v ⟨hvalue, hv⟩
    exact hvalue hv
  | object ms stop ih =>
    obtain ⟨inner, ps, -, hstop, hps, rfl⟩ := any_object_iff.mp h
    refine any_object_iff.mpr ⟨.value, ps, rfl, hstop, ?_, rfl⟩
    apply ((List.forall₂_and_left _ _).mpr ⟨ih, hps⟩).imp
    rintro m p ⟨hvalue, hname, hp⟩
    exact ⟨hname, hvalue hp⟩

/-! ## Plain values -/

/-- A value as it is read: its numbers are all of a kind, its objects have distinct names, and it nests no deeper than
its origin allows. -/
inductive Value.Plain (kind : Number → Prop) : Origin → Value → Prop where
  | null {o : Origin} : Plain kind o .null
  | bool {o : Origin} (b : Bool) : Plain kind o (.bool b)
  | number {o : Origin} {n : Number} (h : kind n) : Plain kind o (.number n)
  | string {o : Origin} (s : String) : Plain kind o (.string s)
  | array {o inner : Origin} {vs : List Value} (hinner : o.enter = .ok inner) (h : ∀ v ∈ vs, Plain kind inner v) :
    Plain kind o (.array vs)
  | object {o inner : Origin} {ms : Members} (hinner : o.enter = .ok inner) (hnames : ms.names.Nodup)
    (h : ∀ m ∈ ms, Plain kind inner m.2) : Plain kind o (.object ms)

section Plain
variable {kind : Number → Prop} {o inner : Origin} {v : Value} {ms : Members}

theorem Value.Plain.imp {kind' : Number → Prop} (h : v.Plain kind o) (himp : ∀ n, kind n → kind' n) :
    v.Plain kind' o := by
  induction h with
  | null => exact .null
  | bool b => exact .bool b
  | number hn => exact .number (himp _ hn)
  | string s => exact .string s
  | array hinner _ ih => exact .array hinner ih
  | object hinner hnames _ ih => exact .object hinner hnames ih

/-- **Every value that is read is plain.** -/
theorem plain_of_any {doc : Document} (h : Decoder.any o doc = .ok v) (hkind : ∀ n ∈ doc.numbers, kind n) :
    v.Plain kind o := by
  induction doc using Document.nested generalizing o v with
  | null =>
    cases h
    exact .null
  | bool b =>
    cases h
    exact .bool b
  | number n =>
    cases h
    exact .number (hkind n List.mem_cons_self)
  | string s =>
    cases h
    exact .string s
  | flawed => cases h
  | array ds stop ih =>
    obtain ⟨inner, vs, hinner, -, hvs, rfl⟩ := any_array_iff.mp h
    refine .array hinner ?_
    intro v hv
    obtain ⟨d, hd, hdv⟩ := exists_of_mem_right hvs hv
    apply ih d hd hdv
    intro n hn
    exact hkind n (Document.mem_numbers_array.mpr ⟨d, hd, hn⟩)
  | object ms stop ih =>
    obtain ⟨inner, ps, hinner, -, hps, rfl⟩ := any_object_iff.mp h
    refine .object hinner (Members.nodup_ofPairs ps) ?_
    intro p hp
    obtain ⟨m, hm, hmp⟩ := exists_of_mem_right hps (Members.mem_of_mem_ofPairs hp)
    apply ih m hm hmp.2
    intro n hn
    exact hkind n (Document.mem_numbers_object.mpr ⟨m, hm, hn⟩)

theorem plain_of_members {doc : Document} (h : Decoder.members o doc = .ok ms) (hkind : ∀ n ∈ doc.numbers, kind n) :
    (Value.object ms).Plain kind o := plain_of_any (members_eq_ok_iff.mp h) hkind

/-- Members whose values are read as themselves. -/
theorem forall₂_ofMembers (h : ∀ m ∈ ms, Decoder.any o (.ofValue m.2) = .ok m.2) :
    List.Forall₂ (Decoder.ReadsMember o) (Document.ofMembers ms) ms := by
  rw [Document.ofMembers_eq_map, List.forall₂_map_left_iff, List.forall₂_same]
  intro m hm
  exact ⟨rfl, h m hm⟩

/-- **A plain value is read as itself.** -/
theorem any_ofValue (h : v.Plain kind o) : Decoder.any o (.ofValue v) = .ok v := by
  induction h with
  | null | bool | number | string => rfl
  | @array o inner vs hinner _ ih =>
    refine any_array_iff.mpr ⟨inner, vs, hinner, rfl, ?_, rfl⟩
    rw [Document.ofItems_eq_map, List.forall₂_map_left_iff, List.forall₂_same]
    exact ih
  | @object o inner ms hinner hnames _ ih =>
    refine any_object_iff.mpr ⟨inner, ms, hinner, rfl, forall₂_ofMembers ih, ?_⟩
    rw [Members.ofPairs_of_nodup hnames]

theorem enter_text_iff {room : Nat} : (Origin.text room).enter = .ok o ↔ ∃ n, room = n + 1 ∧ o = .text n := by
  cases room with
  | zero => simp [Origin.enter]
  | succ n => simp [Origin.enter, eq_comm]

/-- What fits in a text fits where there is more room. -/
theorem Value.Plain.mono {room room' : Nat} (h : v.Plain kind (.text room)) (hle : room ≤ room') :
    v.Plain kind (.text room') := by
  generalize ho : Origin.text room = o at h
  induction h generalizing room room' with
  | null => exact .null
  | bool b => exact .bool b
  | number hn => exact .number hn
  | string s => exact .string s
  | array hinner _ ih =>
    subst ho
    obtain ⟨n, rfl, rfl⟩ := enter_text_iff.mp hinner
    have hinner' : (Origin.text room').enter = .ok (.text (room' - 1)) :=
      enter_text_iff.mpr ⟨room' - 1, by omega, rfl⟩
    exact .array hinner' fun v hv => ih v hv (by omega) rfl
  | object hinner hnames _ ih =>
    subst ho
    obtain ⟨n, rfl, rfl⟩ := enter_text_iff.mp hinner
    have hinner' : (Origin.text room').enter = .ok (.text (room' - 1)) :=
      enter_text_iff.mpr ⟨room' - 1, by omega, rfl⟩
    exact .object hinner' hnames fun m hm => ih m hm (by omega) rfl

theorem Value.Plain.names (h : (Value.object ms).Plain kind o) : ms.names.Nodup := by
  cases h with
  | object _ hnames _ => exact hnames

/-- What stands in a plain value is plain. -/
theorem Value.Plain.member {name : String} (h : (Value.object ms).Plain kind .value) (hget : ms.get? name = some v) :
    v.Plain kind .value := by
  cases h with
  | object hinner _ hall =>
    cases hinner
    exact hall _ (Members.mem_of_get? hget)

theorem Value.Plain.item {vs : List Value} (h : (Value.array vs).Plain kind .value) (hv : v ∈ vs) :
    v.Plain kind .value := by
  cases h with
  | array hinner hall =>
    cases hinner
    exact hall v hv

/-- A plain value is not read as any other. -/
theorem Value.Plain.eq_of_any {w : Value} (h : v.Plain kind .value) (hread : Decoder.any o (.ofValue v) = .ok w) :
    w = v := by
  have hself := (any_ofValue h).symm.trans (any_value_of_any hread)
  cases hself
  rfl

/-- The numbers of a plain value are those of its document. -/
theorem Value.Plain.of_numbers {kind' : Number → Prop} (h : v.Plain kind o)
    (hkind : ∀ n ∈ (Document.ofValue v).numbers, kind' n) : v.Plain kind' o := plain_of_any (any_ofValue h) hkind

/-- What is plain under a limit to its nesting is plain without one. -/
theorem Value.Plain.value_of_numbers {kind' : Number → Prop} (h : v.Plain kind o)
    (hkind : ∀ n ∈ (Document.ofValue v).numbers, kind' n) : v.Plain kind' .value :=
  plain_of_any (any_value_of_any (any_ofValue h)) hkind

end Plain

end BidAdapter.Json
