import BidAdapter.Proofs.Json.RecordReading

/-!
# What passes through a record

What a document holds beside the value that is written for it, member by member.

* `Holds` : what a document holds as a value; `Carried` : the members of an object that are not known by name go out in
  their order and with their values, and nothing else goes out under an unknown name;
* `Under`, `Objects`, `Arrays`, `TextPassed` : what is known by name, and containers;
* `holds_of_string`, …, `holds_of_members`, `arrays_of_list` : what is read as typed data is what the document holds;
* `Written` : a record that is written with the members that it was read with besides those it knows; `Written.carried`,
  `Written.under`, `Written.text` : these pass through, and what it knows is written under its name.
-/

namespace BidAdapter

set_option autoImplicit false

open Json
open Json.Decoder (string int32 list members)

/-! ## Members -/

/-- What a document holds; a repeated name has its first place and its last value, at any depth. -/
def Holds (doc : Document) (v : Value) : Prop := Decoder.any .value doc = .ok v

/-- The members beside the known ones are those of the document, in order: a repeated name has its first place and its
last value. No name stands twice. -/
def Carried (known : List String) (ms : List (Name × Document)) (out : Members) : Prop :=
  out.names.Nodup ∧ ∃ ps, List.Forall₂ (fun m p => m.1 = .ok p.1 ∧ Holds m.2 p.2) (membersBeside known ms) ps ∧
    out.filter (fun m => !known.contains m.1) = Members.ofPairs ps

/-- What one name has in the document and in the body; null in the document is as good as nothing. -/
def Under (R : Document → Value → Prop) (name : String) (ms : List (Name × Document)) (out : Members) : Prop :=
  Option.Rel R (given [name] ms) (out.get? name)

/-- Two objects. -/
inductive Objects (R : List (Name × Document) → Members → Prop) : Document → Value → Prop where
  | mk {ms : List (Name × Document)} {stop : Option Flaw} {out : Members} (h : R ms out) :
    Objects R (.object ms stop) (.object out)

/-- Two arrays of as many items. -/
inductive Arrays (R : Document → Value → Prop) : Document → Value → Prop where
  | mk {ds : List Document} {stop : Option Flaw} {vs : List Value} (h : List.Forall₂ R ds vs) :
    Arrays R (.array ds stop) (.array vs)

/-- A text that is always written, empty where the document has none. -/
def TextPassed (name : String) (ms : List (Name × Document)) (out : Members) : Prop :=
  ∃ v, out.get? name = some v ∧ (given [name] ms).elim (v = .string "") fun doc => Holds doc v

/-! ## Scalars -/

section Scalars
variable {o : Origin} {doc : Document}

theorem holds_of_any {v : Value} (h : Decoder.any o doc = .ok v) : Holds doc v := any_value_of_any h

theorem holds_of_string {s : String} (h : string o doc = .ok s) : Holds doc (.string s) := by
  unfold string at h
  split at h
  · cases h
    rfl
  · exact absurd h not_mistyped

theorem holds_of_bool {b : Bool} (h : Decoder.bool o doc = .ok b) : Holds doc (.bool b) := by
  unfold Decoder.bool at h
  split at h
  · cases h
    rfl
  · exact absurd h not_mistyped

theorem holds_of_int32 {n : Int32} (h : int32 o doc = .ok n) : Holds doc (.ofInt32 n) := by
  unfold int32 at h
  split at h
  · next k fits =>
    split_ifs at h with hrange
    cases h
    have hk : (Int32.ofInt k).toInt = k := Int32.toInt_ofInt_of_le hrange.1 hrange.2
    simp only [Holds, Decoder.any, Value.ofInt32, Number.ofInt32, hk]
  · exact absurd h not_mistyped

/-- Lists that are read item by item. -/
theorem arrays_of_list {α : Type} {d : Decoder α} {enc : α → Value} {R : Document → Value → Prop} {xs : List α}
    (hitem : ∀ inner doc x, d inner doc = .ok x → R doc (enc x)) (h : list d o doc = .ok xs) :
    Arrays R doc (.array (xs.map enc)) := by
  obtain ⟨inner, ds, -, rfl, hxs⟩ := list_eq_ok_iff.mp h
  refine .mk ?_
  rw [List.forall₂_map_right_iff]
  apply hxs.imp
  intro doc x hx
  exact hitem inner doc x hx

theorem holds_of_strings {ss : List String} (h : list string o doc = .ok ss) : Holds doc (.ofStrings ss) := by
  obtain ⟨inner, ds, -, rfl, hss⟩ := list_eq_ok_iff.mp h
  refine any_array_iff.mpr ⟨.value, _, rfl, rfl, ?_, rfl⟩
  rw [List.forall₂_map_right_iff]
  apply hss.imp
  intro doc s hs
  exact holds_of_string hs

theorem holds_of_members {ms : Members} (h : members o doc = .ok ms) : Holds doc (.object ms) :=
  holds_of_any (members_eq_ok_iff.mp h)

end Scalars

/-! ## Parts -/

section Parts
variable {o : Origin} {ms : List (Name × Document)} {others : Members} {ts : List (String × Option Value)}
  {name : String}

/-- A record that is written with the members it knows, and behind them those it was read with besides. -/
structure Written (o : Origin) (ms : List (Name × Document)) (ts : List (String × Option Value)) (others : Members) :
    Prop where
  others : OthersRead o ms (ts.map Prod.fst) others
  names : (ts.map Prod.fst).Nodup

/-- A part that is written under its name as it was read. -/
theorem under_of_get? {α : Type} {d : Decoder α} {x : Option α} {enc : α → Value} {R : Document → Value → Prop}
    {out : Members} (hget : out.get? name = x.map enc) (hread : OptionRead o ms [name] d x)
    (hR : ∀ doc a, d o doc = .ok a → R doc (enc a)) : Under R name ms out := by
  unfold Under
  rw [hget]
  cases hread with
  | absent hgiven =>
    rw [hgiven]
    exact .none
  | present hgiven hread =>
    rw [hgiven]
    exact .some (hR _ _ hread)

namespace Written

theorem carried (h : Written o ms ts others) : Carried (ts.map Prod.fst) ms (Members.typed ts ++ others) := by
  have hbeside : ∀ n ∈ others.names, n ∉ ts.map Prod.fst := fun n hn => h.others.not_mem hn
  refine ⟨Members.nodup_typed h.names h.others.nodup hbeside, ?_⟩
  obtain ⟨ps, hps, heq⟩ := h.others.exists_pairs
  refine ⟨ps, ?_, ?_⟩
  · apply hps.imp
    rintro m p ⟨hname, hread⟩
    exact ⟨hname, any_value_of_any hread⟩
  · rw [← heq]
    exact Members.filter_typed (fun t ht => List.mem_map_of_mem ht) hbeside

/-- What stands under a name that the record knows. -/
theorem get? (h : Written o ms ts others) {x : Option Value} (hmem : (name, x) ∈ ts) :
    (Members.typed ts ++ others).get? name = x := by
  have hknown : name ∈ ts.map Prod.fst := List.mem_map.mpr ⟨_, hmem, rfl⟩
  apply Members.get?_typed h.names hmem
  intro hname
  exact h.others.not_mem hname hknown

theorem under {α : Type} {d : Decoder α} {x : Option α} {enc : α → Value} {R : Document → Value → Prop}
    (h : Written o ms ts others) (hmem : (name, x.map enc) ∈ ts) (hread : OptionRead o ms [name] d x)
    (hR : ∀ doc a, d o doc = .ok a → R doc (enc a)) : Under R name ms (Members.typed ts ++ others) :=
  under_of_get? (h.get? hmem) hread hR

theorem text {s : String} (h : Written o ms ts others) (hmem : (name, some (.string s)) ∈ ts)
    (hread : PartRead o ms [name] string "" s) : TextPassed name ms (Members.typed ts ++ others) := by
  refine ⟨.string s, h.get? hmem, ?_⟩
  rcases hread with ⟨hgiven, rfl⟩ | ⟨doc, hgiven, hread⟩
  · rw [hgiven]
    rfl
  · rw [hgiven]
    exact holds_of_string hread

end Written

end Parts

end BidAdapter
