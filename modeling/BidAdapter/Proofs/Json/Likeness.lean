import BidAdapter.Proofs.Json.Reading

/-!
# Values that differ in their numbers

* `Value.Like` : values that are the same but for their numbers, each of which is related to the other;
* `Value.Fixed` : a value that is like no other; `fixed_of_plain` : one whose numbers are related to themselves only;
* `like_typed` : a record of which all parts but one are fixed is like another one that differs in this part.
-/

namespace BidAdapter.Json

set_option autoImplicit false

variable {R : Number → Number → Prop} {o : Origin} {kind : Number → Prop} {v w : Value} {ms ns : Members}

/-- Values that differ in their numbers only. -/
inductive Value.Like (R : Number → Number → Prop) : Value → Value → Prop where
  | null : Like R .null .null
  | bool (b : Bool) : Like R (.bool b) (.bool b)
  | number {n m : Number} (h : R n m) : Like R (.number n) (.number m)
  | string (s : String) : Like R (.string s) (.string s)
  | array {vs ws : List Value} (h : List.Forall₂ (Like R) vs ws) : Like R (.array vs) (.array ws)
  | object {ms ns : Members} (hnames : ms.map Prod.fst = ns.map Prod.fst)
    (h : List.Forall₂ (Like R) (ms.map Prod.snd) (ns.map Prod.snd)) : Like R (.object ms) (.object ns)

/-- Members of the same names whose values differ in their numbers only. -/
def LikeMembers (R : Number → Number → Prop) (ms ns : Members) : Prop :=
  List.Forall₂ (fun m n => m.1 = n.1 ∧ Value.Like R m.2 n.2) ms ns

theorem like_array_iff {vs : List Value} :
    Value.Like R (.array vs) w ↔ ∃ ws, List.Forall₂ (Value.Like R) vs ws ∧ w = .array ws := by
  constructor
  · rintro (_ | _ | _ | _ | ⟨h⟩ | _)
    exact ⟨_, h, rfl⟩
  · rintro ⟨ws, h, rfl⟩
    exact .array h

theorem like_object_iff : Value.Like R (.object ms) w ↔ ∃ ns, LikeMembers R ms ns ∧ w = .object ns := by
  unfold LikeMembers
  constructor
  · rintro (_ | _ | _ | _ | _ | ⟨hnames, h⟩)
    exact ⟨_, forall₂_pairs_iff.mpr ⟨hnames, h⟩, rfl⟩
  · rintro ⟨ns, h, rfl⟩
    obtain ⟨hnames, h⟩ := forall₂_pairs_iff.mp h
    exact .object hnames h

/-! ## Fixed values -/

/-- A value that is like no other. -/
def Value.Fixed (R : Number → Number → Prop) (v : Value) : Prop := ∀ w, Value.Like R v w → v = w

/-- Members that are like no others. -/
def Members.Fixed (R : Number → Number → Prop) (ms : Members) : Prop := ∀ m ∈ ms, m.2.Fixed R

theorem Members.Fixed.eq (h : ms.Fixed R) (hlike : LikeMembers R ms ns) : ms = ns := by
  unfold LikeMembers at hlike
  have heq := ((List.forall₂_and_left _ _).mpr ⟨h, hlike⟩).imp (S := Eq) fun m n hmn =>
    Prod.ext hmn.2.1 (hmn.1 n.2 hmn.2.2)
  rwa [List.forall₂_eq_eq_eq] at heq

/-- Where the numbers have to be the same, so are the values. -/
theorem fixed_of_plain (hv : v.Plain kind o) (hsame : ∀ n m, kind n → R n m → n = m) : v.Fixed R := by
  induction hv with
  | null =>
    rintro w ⟨⟩
    rfl
  | bool b =>
    rintro w ⟨⟩
    rfl
  | number hn =>
    rintro w (_ | _ | hR)
    rw [hsame _ _ hn hR]
  | string s =>
    rintro w ⟨⟩
    rfl
  | array hinner _ ih =>
    intro w h
    obtain ⟨ws, hitems, rfl⟩ := like_array_iff.mp h
    have heq := ((List.forall₂_and_left _ _).mpr ⟨ih, hitems⟩).imp (S := Eq) fun v w hvw => hvw.1 w hvw.2
    rw [List.forall₂_eq_eq_eq] at heq
    rw [heq]
  | object hinner _ _ ih =>
    intro w h
    obtain ⟨ns, hmembers, rfl⟩ := like_object_iff.mp h
    rw [Members.Fixed.eq ih hmembers]

theorem Members.Fixed.append (hms : ms.Fixed R) (hns : ns.Fixed R) : (ms ++ ns).Fixed R := by
  intro m hm
  rcases List.mem_append.mp hm with hm | hm
  · exact hms m hm
  · exact hns m hm

theorem Members.fixed_nil : (Members.typed []).Fixed R := fun _ hm => absurd hm List.not_mem_nil

/-- The members of a record are fixed when each of its parts is. -/
theorem Members.fixed_cons {name : String} {x : Option Value} {ts : List (String × Option Value)}
    (hx : ∀ v ∈ x, v.Fixed R) (hts : (Members.typed ts).Fixed R) : (Members.typed ((name, x) :: ts)).Fixed R := by
  apply Members.Fixed.append _ hts
  cases x with
  | none => exact fun _ hm => absurd hm List.not_mem_nil
  | some v =>
    intro m hm
    rw [List.mem_singleton.mp hm]
    exact hx v rfl

/-! ## Records -/

/-- Only one part of a record is not fixed: what is like the record differs in this part. -/
theorem like_typed {ts₁ ts₂ : List (String × Option Value)} {name : String} {x : Option Value}
    (h₁ : (Members.typed ts₁).Fixed R) (h₂ : (Members.typed ts₂).Fixed R) (hms : ms.Fixed R)
    (h : Value.Like R (.object (Members.typed (ts₁ ++ (name, x) :: ts₂) ++ ms)) w) :
    ∃ x', Option.Rel (Value.Like R) x x' ∧
      w = .object (Members.typed (ts₁ ++ (name, x') :: ts₂) ++ ms) := by
  have htyped : ∀ x, Members.typed (ts₁ ++ (name, x) :: ts₂) ++ ms =
      Members.typed ts₁ ++ (Members.optional name x ++ (Members.typed ts₂ ++ ms)) := by
    intro x
    simp only [Members.typed, List.flatMap_append, List.flatMap_cons, List.append_assoc]
  simp only [htyped] at h ⊢
  obtain ⟨ns, hlike, rfl⟩ := like_object_iff.mp h
  cases x with
  | none =>
    have hfixed := h₁.append (h₂.append hms)
    exact ⟨none, .none, by rw [← hfixed.eq hlike]; rfl⟩
  | some v =>
    obtain ⟨ns₁, ⟨name', v'⟩, ns₂, rfl, hbefore, ⟨rfl, hv⟩, hbehind⟩ := forall₂_split hlike
    refine ⟨some v', .some hv, ?_⟩
    rw [h₁.eq hbefore, (h₂.append hms).eq hbehind]
    rfl

end BidAdapter.Json
