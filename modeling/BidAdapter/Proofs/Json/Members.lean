import BidAdapter.Json.Decoder
import Mathlib.Data.List.Induction
import Mathlib.Data.List.Nodup
import Mathlib.Data.String.Basic

/-!
# Members and tables

* `names_insert` : inserting under a name that is present keeps all places, any other name goes to the end;
  `getElem?_insert` : the members of other names stay where they are;
* `nodup_insert`, `nodup_ofPairs` : no object has a name twice;
* `ofPairs_of_nodup` : members without a repeated name are left as they are; `get?_ofPairs` : of pairs with one name the
  last counts; `insert_ofPairs`, `erase_ofPairs` : what is put in and then replaced, or left out;
* `typed` : the members of a record under the names it knows; `get?_typed`, `nodup_typed` : what stands under such a
  name;
* `Value.at?` : what stands in a value behind names, one inside the other; `member?_typed` : one name of a record;
* `Table.ordered_insert`, `Table.insert_of_lt` : a table stays in the order of its names; `Table.get?_insert_self`,
  `Table.get?_insert_of_ne` : what stands in it under a name.
-/

namespace BidAdapter.Json

set_option autoImplicit false

namespace Members

variable {ms ns : Members} {name n : String} {v w : Value}

/-- The names of members in order. -/
def names (ms : Members) : List String := ms.map Prod.fst

@[simp] theorem names_cons (m : String × Value) (ms : Members) : names (m :: ms) = m.1 :: names ms := rfl

@[simp] theorem names_append : names (ms ++ ns) = names ms ++ names ns := List.map_append

theorem mem_names_of_mem {m : String × Value} (h : m ∈ ms) : m.1 ∈ names ms := List.mem_map_of_mem h

/-! ## Insertion -/

theorem insert_of_not_mem (h : name ∉ names ms) : ms.insert name v = ms ++ [(name, v)] := by
  induction ms with
  | nil => rfl
  | cons m ms ih =>
    rw [names_cons, List.mem_cons, not_or] at h
    unfold insert
    rw [if_neg (Ne.symm h.1), ih h.2]
    rfl

/-- A name that is present keeps its place, any other goes to the end. -/
theorem names_insert : names (ms.insert name v) = if name ∈ names ms then names ms else names ms ++ [name] := by
  induction ms with
  | nil => rfl
  | cons m ms ih =>
    unfold insert
    by_cases hm : m.1 = name
    · simp [hm]
    · rw [if_neg hm, names_cons, ih, names_cons]
      simp only [List.mem_cons, Ne.symm hm, false_or]
      split_ifs
      · rfl
      · rfl

theorem mem_names_insert : n ∈ names (ms.insert name v) ↔ n ∈ names ms ∨ n = name := by
  rw [names_insert]
  split_ifs with h
  · constructor
    · exact Or.inl
    · rintro (hn | rfl)
      · exact hn
      · exact h
  · rw [List.mem_append, List.mem_singleton]

theorem mem_of_mem_insert {m : String × Value} (h : m ∈ ms.insert name v) : m ∈ ms ∨ m = (name, v) := by
  induction ms with
  | nil => exact Or.inr (List.mem_singleton.mp h)
  | cons k ms ih =>
    unfold insert at h
    split_ifs at h with hk
    · rcases List.mem_cons.mp h with rfl | h
      · exact Or.inr (by rw [hk])
      · exact Or.inl (List.mem_cons_of_mem _ h)
    · rcases List.mem_cons.mp h with rfl | h
      · exact Or.inl List.mem_cons_self
      · exact (ih h).imp_left (List.mem_cons_of_mem _)

theorem nodup_insert (h : (names ms).Nodup) : (names (ms.insert name v)).Nodup := by
  rw [names_insert]
  split_ifs with hname
  · exact h
  · refine List.nodup_append.mpr ⟨h, List.nodup_singleton _, ?_⟩
    intro a ha b hb hab
    rw [List.mem_singleton] at hb
    rw [hab, hb] at ha
    exact hname ha

theorem insert_ne_nil : ms.insert name v ≠ [] := by
  intro h
  have hname : name ∈ names (ms.insert name v) := mem_names_insert.mpr (Or.inr rfl)
  rw [h] at hname
  cases hname

/-- The members of other names stay in their places. -/
theorem getElem?_insert {i : Nat} {m : String × Value} (hm : ms[i]? = some m) (h : m.1 ≠ name) :
    (ms.insert name v)[i]? = some m := by
  induction ms generalizing i with
  | nil => simp at hm
  | cons k ms ih =>
    unfold insert
    cases i with
    | zero =>
      rw [List.getElem?_cons_zero, Option.some_inj] at hm
      subst hm
      rw [if_neg h]
      rfl
    | succ i =>
      rw [List.getElem?_cons_succ] at hm
      split_ifs
      · exact hm
      · exact ih hm

/-- The members of other names stay. -/
theorem filter_insert {known : List String} (h : name ∈ known) :
    (ms.insert name v).filter (fun m => !known.contains m.1) = ms.filter fun m => !known.contains m.1 := by
  induction ms with
  | nil => simp [insert, h]
  | cons m ms ih =>
    unfold insert
    by_cases hm : m.1 = name
    · have hknown : m.1 ∈ known := hm ▸ h
      rw [if_pos hm, List.filter_cons_of_neg (by simpa using hknown), List.filter_cons_of_neg (by simpa using hknown)]
    · rw [if_neg hm, List.filter_cons, List.filter_cons, ih]

/-- A member that stays can be put in before the others are left out. -/
theorem filter_insert_of_not_mem {known : List String} (h : name ∉ known) :
    (ms.insert name v).filter (fun m => !known.contains m.1) =
      insert (ms.filter fun m => !known.contains m.1) name v := by
  induction ms with
  | nil => simp [insert, h]
  | cons m ms ih =>
    by_cases hm : m.1 = name
    · simp [insert, hm, h]
    · rw [insert, if_neg hm, List.filter_cons, List.filter_cons, ih]
      split_ifs
      · rw [insert, if_neg hm]
      · rfl

/-- Members that stand behind are not touched where the name stands before them. -/
theorem insert_append_of_mem (h : name ∈ names ms) : (ms ++ ns).insert name v = ms.insert name v ++ ns := by
  induction ms with
  | nil => cases h
  | cons m ms ih =>
    by_cases hm : m.1 = name
    · simp [insert, hm]
    · have hrest : name ∈ names ms := (List.mem_cons.mp h).resolve_left (Ne.symm hm)
      simp [insert, hm, ih hrest]

/-- Nor where the name does not stand among them, except that a new member goes behind them. -/
theorem insert_append_perm (h : name ∉ names ns) : ((ms ++ ns).insert name v).Perm (ms.insert name v ++ ns) := by
  by_cases hms : name ∈ names ms
  · rw [insert_append_of_mem hms]
  · have hall : name ∉ names (ms ++ ns) := by
      rw [names_append, List.mem_append, not_or]
      exact ⟨hms, h⟩
    rw [insert_of_not_mem hall, insert_of_not_mem hms, List.append_assoc, List.append_assoc]
    exact List.perm_append_comm.append_left ms

theorem insert_insert_self : (ms.insert name v).insert name w = ms.insert name w := by
  induction ms with
  | nil => simp [insert]
  | cons m ms ih =>
    unfold insert
    by_cases hm : m.1 = name
    · simp [hm, insert]
    · simp [hm, insert, ih]

/-- A member that is there is replaced before or behind an insertion under another name. -/
theorem insert_comm (hname : name ∈ names ms) (h : n ≠ name) :
    (ms.insert n v).insert name w = (ms.insert name w).insert n v := by
  induction ms with
  | nil => cases hname
  | cons m ms ih =>
    by_cases hm : m.1 = name
    · simp [insert, hm, Ne.symm h]
    · have hrest : name ∈ names ms := (List.mem_cons.mp hname).resolve_left (Ne.symm hm)
      by_cases hn : m.1 = n
      · simp [insert, hn, h]
      · simp [insert, hm, hn, ih hrest]

/-! ## Leaving out -/

theorem erase_cons (m : String × Value) (ms : Members) (name : String) :
    erase (m :: ms) name = if m.1 = name then erase ms name else m :: erase ms name := by
  by_cases hm : m.1 = name
  · simp [erase, hm]
  · simp [erase, hm]

theorem erase_insert_self : (ms.insert name v).erase name = ms.erase name := by
  induction ms with
  | nil => simp [insert, erase]
  | cons m ms ih =>
    by_cases hm : m.1 = name
    · simp [insert, erase_cons, hm]
    · simp [insert, erase_cons, hm, ih]

theorem erase_insert_of_ne (h : name ≠ n) : (ms.insert name v).erase n = (ms.erase n).insert name v := by
  induction ms with
  | nil => simp [insert, erase, h]
  | cons m ms ih =>
    by_cases hm : m.1 = name
    · simp [insert, erase_cons, hm, h]
    · by_cases hn : m.1 = n
      · simp [insert, erase_cons, hn, h.symm, ih]
      · simp [insert, erase_cons, hm, hn, ih]

theorem nodup_filter (p : String × Value → Bool) (h : (names ms).Nodup) : (names (ms.filter p)).Nodup :=
  h.sublist (List.filter_sublist.map Prod.fst)

/-! ## Pairs -/

/-- The members read so far with more of them behind. -/
theorem foldl_insert_of_nodup (h : (names (ms ++ ns)).Nodup) :
    ns.foldl (fun done m => done.insert m.1 m.2) ms = ms ++ ns := by
  induction ns generalizing ms with
  | nil => exact (List.append_nil ms).symm
  | cons m ns ih =>
    have hm : m.1 ∉ names ms := by
      intro hm
      rw [names_append, names_cons] at h
      exact (List.nodup_append.mp h).2.2 _ hm _ List.mem_cons_self rfl
    rw [List.foldl_cons, insert_of_not_mem hm, ih (by rwa [List.append_assoc]), List.append_assoc]
    rfl

/-- Members without a repeated name are left as they are. -/
theorem ofPairs_of_nodup (h : (names ms).Nodup) : ofPairs ms = ms := foldl_insert_of_nodup h

theorem nodup_foldl_insert (h : (names ms).Nodup) :
    (names (ns.foldl (fun done m => done.insert m.1 m.2) ms)).Nodup := by
  induction ns generalizing ms with
  | nil => exact h
  | cons m ns ih =>
    rw [List.foldl_cons]
    exact ih (nodup_insert h)

theorem nodup_ofPairs (ps : List (String × Value)) : (names (ofPairs ps)).Nodup := nodup_foldl_insert List.nodup_nil

/-- Each name stands where it stood first, behind those that were there. -/
theorem names_foldl_insert : names (ns.foldl (fun done m => done.insert m.1 m.2) ms) =
    names ms ++ ((names ns).filter fun n => n ∉ names ms).eraseDups := by
  induction ns generalizing ms with
  | nil => simp [names]
  | cons m ns ih =>
    rw [List.foldl_cons, ih, names_insert, names_cons, List.filter_cons]
    by_cases hm : m.1 ∈ names ms
    · simp [hm]
    · have hfilter : ((names ns).filter fun n => n ∉ names ms ++ [m.1]) =
          ((names ns).filter fun n => n ∉ names ms).filter fun n => !n == m.1 := by
        rw [List.filter_filter]
        congr 1
        funext n
        rw [beq_eq_decide]
        simp [not_or, and_comm]
      rw [if_neg hm, if_pos (by simpa using hm), List.eraseDups_cons, ← hfilter, List.append_assoc]
      rfl

/-- The names of pairs, each where it stands first. -/
theorem names_ofPairs (ps : List (String × Value)) : names (ofPairs ps) = (ps.map Prod.fst).eraseDups := by
  unfold ofPairs
  rw [names_foldl_insert, show names [] = [] from rfl, List.nil_append, List.filter_eq_self.mpr (by simp)]
  rfl

theorem ofPairs_concat (ps : List (String × Value)) (p : String × Value) :
    ofPairs (ps ++ [p]) = (ofPairs ps).insert p.1 p.2 := List.foldl_concat ..

/-- What is left out need not be put in. -/
theorem erase_ofPairs (ps : List (String × Value)) (name : String) :
    (ofPairs ps).erase name = ofPairs (ps.filter fun p => p.1 ≠ name) := by
  induction ps using List.reverseRecOn with
  | nil => rfl
  | append_singleton ps p ih =>
    rw [ofPairs_concat, List.filter_append]
    by_cases hp : p.1 = name
    · rw [List.filter_cons_of_neg (by simpa using hp), List.filter_nil, List.append_nil, ← ih, hp, erase_insert_self]
    · rw [List.filter_cons_of_pos (by simpa using hp), List.filter_nil, ofPairs_concat, ← ih, erase_insert_of_ne hp]

/-- What is put in under a name is replaced in its place. -/
theorem insert_ofPairs {ps qs : List (String × Value)} (h : name ∉ names qs) :
    (ofPairs (ps ++ (name, v) :: qs)).insert name w = ofPairs (ps ++ (name, w) :: qs) := by
  induction qs using List.reverseRecOn with
  | nil => rw [ofPairs_concat, ofPairs_concat, insert_insert_self]
  | append_singleton qs q ih =>
    rw [names_append, List.mem_append, not_or] at h
    have hq : q.1 ≠ name := fun hq => h.2 (List.mem_singleton.mpr hq.symm)
    have hname : name ∈ names (ofPairs (ps ++ (name, v) :: qs)) := by
      rw [names_ofPairs, List.mem_eraseDups]
      simp
    have hassoc : ∀ x, ps ++ (name, x) :: (qs ++ [q]) = (ps ++ (name, x) :: qs) ++ [q] := by simp
    rw [hassoc, hassoc, ofPairs_concat, ofPairs_concat, insert_comm hname hq, ih h.1]

theorem mem_of_mem_foldl_insert {m : String × Value}
    (h : m ∈ ns.foldl (fun done m => done.insert m.1 m.2) ms) : m ∈ ms ∨ m ∈ ns := by
  induction ns generalizing ms with
  | nil => exact Or.inl h
  | cons k ns ih =>
    rcases ih h with h | h
    · rcases mem_of_mem_insert h with h | rfl
      · exact Or.inl h
      · exact Or.inr List.mem_cons_self
    · exact Or.inr (List.mem_cons_of_mem _ h)

theorem mem_of_mem_ofPairs {ps : List (String × Value)} {m : String × Value} (h : m ∈ ofPairs ps) : m ∈ ps :=
  (mem_of_mem_foldl_insert h).resolve_left List.not_mem_nil

/-! ## Looking up -/

theorem get?_append : (ms ++ ns).get? name = (ms.get? name).or (ns.get? name) := List.lookup_append

theorem get?_of_not_mem (h : name ∉ names ms) : ms.get? name = none := by
  induction ms with
  | nil => rfl
  | cons m ms ih =>
    rw [names_cons, List.mem_cons, not_or] at h
    rw [get?, List.lookup_cons, beq_eq_false_iff_ne.mpr h.1]
    exact ih h.2

theorem get?_insert_self : (ms.insert name v).get? name = some v := by
  induction ms with
  | nil => simp [insert, get?]
  | cons m ms ih =>
    unfold insert
    by_cases hm : m.1 = name
    · simp [hm, get?]
    · rw [if_neg hm, get?, List.lookup_cons, beq_eq_false_iff_ne.mpr (Ne.symm hm)]
      exact ih

theorem get?_insert_of_ne (h : n ≠ name) : (ms.insert name v).get? n = ms.get? n := by
  induction ms with
  | nil => simp [insert, get?, h]
  | cons m ms ih =>
    unfold insert
    split_ifs with hm
    · have hne : n ≠ m.1 := by rwa [hm]
      rw [get?, get?, List.lookup_cons, List.lookup_cons, beq_eq_false_iff_ne.mpr hne]
    · rw [get?, get?, List.lookup_cons, List.lookup_cons]
      split
      · rfl
      · exact ih

theorem mem_of_get? (h : ms.get? name = some v) : (name, v) ∈ ms := by
  obtain ⟨before, behind, rfl, -⟩ := List.lookup_eq_some_iff.mp h
  simp

/-- Where no name stands twice, every member is the one of its name. -/
theorem get?_of_mem (hms : (names ms).Nodup) (h : (name, v) ∈ ms) : ms.get? name = some v := by
  induction ms with
  | nil => cases h
  | cons m ms ih =>
    rw [names_cons, List.nodup_cons] at hms
    rw [get?, List.lookup_cons]
    rcases List.mem_cons.mp h with rfl | h
    · simp
    · have hne : name ≠ m.1 := fun heq => hms.1 (heq ▸ mem_names_of_mem h)
      rw [beq_eq_false_iff_ne.mpr hne]
      exact ih hms.2 h

theorem get?_erase_self : (ms.erase name).get? name = none := by
  apply get?_of_not_mem
  intro hname
  obtain ⟨m, hm, heq⟩ := List.mem_map.mp hname
  simp [erase, heq] at hm

theorem get?_erase_of_ne (h : n ≠ name) : (ms.erase name).get? n = ms.get? n := by
  induction ms with
  | nil => rfl
  | cons m ms ih =>
    rw [erase_cons]
    split_ifs with hm
    · have hne : n ≠ m.1 := by rwa [hm]
      rw [ih, get?, get?, List.lookup_cons, beq_eq_false_iff_ne.mpr hne]
    · rw [get?, get?, List.lookup_cons, List.lookup_cons]
      split
      · rfl
      · exact ih

/-- The last pair of a name is the one that counts. -/
theorem get?_ofPairs (ps : List (String × Value)) (name : String) :
    (ofPairs ps).get? name = (ps.filter fun p => p.1 = name).getLast?.map Prod.snd := by
  induction ps using List.reverseRecOn with
  | nil => rfl
  | append_singleton ps p ih =>
    rw [ofPairs_concat, List.filter_append]
    by_cases hp : p.1 = name
    · rw [List.filter_cons_of_pos (by simpa using hp), List.filter_nil, List.getLast?_concat, hp, get?_insert_self]
      rfl
    · rw [List.filter_cons_of_neg (by simpa using hp), List.filter_nil, List.append_nil, ← ih,
        get?_insert_of_ne (Ne.symm hp)]

/-- Pairs that are put in behind others count before them. -/
theorem get?_ofPairs_append (ps qs : List (String × Value)) (name : String) :
    (ofPairs (ps ++ qs)).get? name = ((ofPairs qs).get? name).or ((ofPairs ps).get? name) := by
  rw [get?_ofPairs, get?_ofPairs, get?_ofPairs, List.filter_append, List.getLast?_append, Option.map_or]

/-! ## Typed members -/

section Typed
variable {ts : List (String × Option Value)} {x : Option Value}

/-- The members of a record under the names that it knows: each is there when it has a value. -/
def typed (ts : List (String × Option Value)) : Members := ts.flatMap fun t => optional t.1 t.2

theorem typed_cons (t : String × Option Value) (ts : List (String × Option Value)) :
    typed (t :: ts) = optional t.1 t.2 ++ typed ts := List.flatMap_cons

theorem names_optional (name : String) (x : Option Value) : (names (optional name x)).Sublist [name] := by
  cases x with
  | none => exact List.nil_sublist _
  | some v => exact List.Sublist.refl _

theorem names_typed (ts : List (String × Option Value)) : (names (typed ts)).Sublist (ts.map Prod.fst) := by
  induction ts with
  | nil => exact List.nil_sublist _
  | cons t ts ih =>
    rw [typed_cons, names_append]
    exact (names_optional t.1 t.2).append ih

/-- The names under which there is a value. -/
theorem names_typed_eq (ts : List (String × Option Value)) :
    names (typed ts) = (ts.filter fun t => t.2.isSome).map Prod.fst := by
  induction ts with
  | nil => rfl
  | cons t ts ih =>
    obtain ⟨name, x⟩ := t
    rw [typed_cons, names_append, ih]
    cases x with
    | none => rfl
    | some v => rfl

theorem mem_typed_iff : (name, v) ∈ typed ts ↔ (name, some v) ∈ ts := by
  unfold typed
  rw [List.mem_flatMap]
  constructor
  · rintro ⟨⟨n, x⟩, ht, hmem⟩
    cases x with
    | none => cases hmem
    | some w =>
      cases List.mem_singleton.mp hmem
      exact ht
  · intro h
    exact ⟨_, h, List.mem_singleton.mpr rfl⟩

theorem nodup_typed (hts : (ts.map Prod.fst).Nodup) (hms : (names ms).Nodup)
    (h : ∀ n ∈ names ms, n ∉ ts.map Prod.fst) : (names (typed ts ++ ms)).Nodup := by
  rw [names_append, List.nodup_append]
  refine ⟨hts.sublist (names_typed ts), hms, ?_⟩
  intro a ha b hb hab
  apply h b hb
  rw [← hab]
  exact (names_typed ts).subset ha

theorem get?_optional_of_ne (h : n ≠ name) : (optional n x).get? name = none := by
  apply get?_of_not_mem
  intro hname
  have hsame := List.mem_singleton.mp ((names_optional n x).subset hname)
  exact h hsame.symm

/-- What stands under a name that the record knows. -/
theorem get?_typed (hts : (ts.map Prod.fst).Nodup) (hmem : (name, x) ∈ ts) (hms : name ∉ names ms) :
    (typed ts ++ ms).get? name = x := by
  induction ts with
  | nil => cases hmem
  | cons t ts ih =>
    obtain ⟨hfresh, hnodup⟩ := List.nodup_cons.mp (List.map_cons ▸ hts)
    rw [typed_cons, List.append_assoc, get?_append]
    rcases List.mem_cons.mp hmem with rfl | hmem
    · have hrest : (typed ts ++ ms).get? name = none := by
        apply get?_of_not_mem
        rw [names_append, List.mem_append, not_or]
        refine ⟨?_, hms⟩
        intro hname
        exact hfresh ((names_typed ts).subset hname)
      rw [hrest]
      cases x with
      | none => rfl
      | some v => simp [optional, get?]
    · have hne : t.1 ≠ name := by
        rintro rfl
        exact hfresh (List.mem_map.mpr ⟨_, hmem, rfl⟩)
      rw [get?_optional_of_ne hne, Option.none_or]
      exact ih hnodup hmem

/-- The same in a record that has no other members. -/
theorem get?_typed_only (hts : (ts.map Prod.fst).Nodup) (hmem : (name, x) ∈ ts) : (typed ts).get? name = x := by
  rw [← List.append_nil (typed ts)]
  exact get?_typed hts hmem List.not_mem_nil

theorem filter_typed {known : List String} (hts : ∀ t ∈ ts, t.1 ∈ known) (hms : ∀ n ∈ names ms, n ∉ known) :
    (typed ts ++ ms).filter (fun m => !known.contains m.1) = ms := by
  rw [List.filter_append, List.filter_eq_nil_iff.mpr, List.filter_eq_self.mpr, List.nil_append]
  · intro m hm
    simpa using hms m.1 (mem_names_of_mem hm)
  · intro m hm
    obtain ⟨t, ht, heq⟩ := List.mem_map.mp ((names_typed ts).subset (mem_names_of_mem hm))
    have hknown : m.1 ∈ known := heq ▸ hts t ht
    simpa using hknown

end Typed

end Members

/-! ## Views -/

theorem Value.string?_eq_some_iff {v : Value} {s : String} : v.string? = some s ↔ v = .string s := by
  cases v <;> simp [Value.string?]

theorem Value.members?_eq_some_iff {v : Value} {ms : Members} : v.members? = some ms ↔ v = .object ms := by
  cases v <;> simp [Value.members?]

/-! ## Paths -/

/-- What stands in a value behind names, one inside the other. -/
def Value.at? : Value → List String → Option Value
  | v, [] => some v
  | v, n :: ns => (v.member? n).bind fun w => w.at? ns

theorem Value.at?_cons (v : Value) (n : String) (ns : List String) :
    v.at? (n :: ns) = (v.member? n).bind fun w => w.at? ns := rfl

theorem Value.at?_singleton (v : Value) (n : String) : v.at? [n] = v.member? n := Option.bind_fun_some _

/-- What stands under a name that a record knows. -/
theorem member?_typed {r : Value} {ts : List (String × Option Value)} {ms : Members} {name : String}
    {x : Option Value} (h : r = .object (Members.typed ts ++ ms)) (hts : (ts.map Prod.fst).Nodup)
    (hmem : (name, x) ∈ ts) (hms : name ∉ ms.names) : r.member? name = x := by
  rw [h]
  exact Members.get?_typed hts hmem hms

/-! ## Tables -/

namespace Table

variable {α : Type} {t : Table α} {name : String} {a : α}

/-- A table is in order when every name comes before those behind it. -/
def Ordered (t : Table α) : Prop := (t.map Prod.fst).Pairwise (· < ·)

theorem mem_of_mem_insert {e : String × α} (h : e ∈ t.insert name a) : e ∈ t ∨ e = (name, a) := by
  induction t with
  | nil => exact Or.inr (List.mem_singleton.mp h)
  | cons k t ih =>
    unfold insert at h
    split_ifs at h with hlt heq
    · rcases List.mem_cons.mp h with rfl | h
      · exact Or.inr rfl
      · exact Or.inl h
    · rcases List.mem_cons.mp h with rfl | h
      · exact Or.inr (by rw [heq])
      · exact Or.inl (List.mem_cons_of_mem _ h)
    · rcases List.mem_cons.mp h with rfl | h
      · exact Or.inl List.mem_cons_self
      · exact (ih h).imp_left (List.mem_cons_of_mem _)

theorem ordered_insert (h : t.Ordered) : (t.insert name a).Ordered := by
  unfold Ordered at h ⊢
  induction t with
  | nil => exact List.pairwise_singleton _ _
  | cons k t ih =>
    unfold insert
    obtain ⟨hk, ht⟩ := List.pairwise_cons.mp h
    split_ifs with hlt heq
    · refine List.pairwise_cons.mpr ⟨?_, h⟩
      intro n hn
      rcases List.mem_cons.mp hn with rfl | hn
      · exact hlt
      · exact hlt.trans (hk n hn)
    · exact h
    · refine List.pairwise_cons.mpr ⟨?_, ih ht⟩
      intro n hn
      obtain ⟨e, he, rfl⟩ := List.mem_map.mp hn
      rcases mem_of_mem_insert he with he | rfl
      · exact hk e.1 (List.mem_map_of_mem he)
      · exact lt_of_le_of_ne (not_lt.mp hlt) heq

/-- A name behind all others goes to the end. -/
theorem insert_of_lt (h : ∀ e ∈ t, e.1 < name) : t.insert name a = t ++ [(name, a)] := by
  induction t with
  | nil => rfl
  | cons k t ih =>
    have hk := h k List.mem_cons_self
    have hrest : ∀ e ∈ t, e.1 < name := fun e he => h e (List.mem_cons_of_mem _ he)
    unfold insert
    rw [if_neg (lt_asymm hk), if_neg hk.ne, ih hrest]
    rfl

theorem get?_insert_self : (t.insert name a).get? name = some a := by
  induction t with
  | nil => simp [insert, get?]
  | cons k t ih =>
    unfold insert
    split_ifs with hlt heq
    · simp [get?]
    · simp [get?, heq]
    · rw [get?, List.lookup_cons, beq_eq_false_iff_ne.mpr (Ne.symm heq)]
      exact ih

theorem get?_insert_of_ne {n : String} (h : n ≠ name) : (t.insert name a).get? n = t.get? n := by
  induction t with
  | nil => simp [insert, get?, h]
  | cons k t ih =>
    unfold insert
    split_ifs with hlt heq
    · rw [get?, get?, List.lookup_cons, beq_eq_false_iff_ne.mpr h]
    · have hne : n ≠ k.1 := by rwa [heq]
      rw [get?, get?, List.lookup_cons, List.lookup_cons, beq_eq_false_iff_ne.mpr hne]
    · rw [get?, get?, List.lookup_cons, List.lookup_cons]
      split
      · rfl
      · exact ih

/-- The entry of a name in a table that is written. -/
theorem get?_map (enc : α → Value) : Members.get? (t.map fun e => (e.1, enc e.2)) name = (t.get? name).map enc := by
  induction t with
  | nil => rfl
  | cons k t ih =>
    rw [List.map_cons, Members.get?, get?, List.lookup_cons, List.lookup_cons]
    split
    · rfl
    · exact ih

end Table

end BidAdapter.Json
