import Mathlib.Data.List.Forall2

/-!
# Computations that may fail, one after the other

* `bind_eq_ok_iff`, `bind_eq_error_iff` : a computation of two steps, read backwards;
* `mapM_eq_ok_iff` : a traversal succeeds exactly when every element does, each with its own result;
* `mapM_eq_error_iff` : a traversal fails exactly with the failure of the first element that fails.
-/

namespace BidAdapter

set_option autoImplicit false

variable {ε ε' α β γ : Type}

/-! ## Two steps -/

theorem bind_eq_ok_iff {x : Except ε α} {f : α → Except ε β} {b : β} :
    (x >>= f) = .ok b ↔ ∃ a, x = .ok a ∧ f a = .ok b := by
  cases x with
  | error e => simp [bind, Except.bind]
  | ok a => simp [bind, Except.bind]

theorem bind_eq_error_iff {x : Except ε α} {f : α → Except ε β} {e : ε} :
    (x >>= f) = .error e ↔ x = .error e ∨ ∃ a, x = .ok a ∧ f a = .error e := by
  cases x with
  | error e => simp [bind, Except.bind]
  | ok a => simp [bind, Except.bind]

@[simp] theorem ok_bind (a : α) (f : α → Except ε β) : ((Except.ok a : Except ε α) >>= f) = f a := rfl

@[simp] theorem error_bind (e : ε) (f : α → Except ε β) : ((Except.error e : Except ε α) >>= f) = .error e := rfl

theorem pure_eq_ok_iff {a b : α} : (pure a : Except ε α) = .ok b ↔ a = b := by
  simp [pure, Except.pure]

theorem map_eq_ok_iff {x : Except ε α} {f : α → β} {b : β} : x.map f = .ok b ↔ ∃ a, x = .ok a ∧ f a = b := by
  cases x with
  | error e => simp [Except.map]
  | ok a => simp [Except.map]

theorem mapError_eq_ok_iff {x : Except ε α} {f : ε → ε'} {a : α} : x.mapError f = .ok a ↔ x = .ok a := by
  cases x with
  | error e => simp [Except.mapError]
  | ok a => simp [Except.mapError]

theorem mapError_eq_error_iff {x : Except ε α} {f : ε → ε'} {e' : ε'} :
    x.mapError f = .error e' ↔ ∃ e, x = .error e ∧ f e = e' := by
  cases x with
  | error e => simp [Except.mapError]
  | ok a => simp [Except.mapError]

theorem toOption_eq_some_iff {x : Except ε α} {a : α} : x.toOption = some a ↔ x = .ok a := by
  cases x with
  | error e => simp [Except.toOption]
  | ok a => simp [Except.toOption]

/-- A computation without an error has a value. -/
theorem exists_eq_ok_of_not_error {x : Except ε α} (h : ∀ e, x ≠ .error e) : ∃ a, x = .ok a := by
  cases x with
  | error e => exact absurd rfl (h e)
  | ok a => exact ⟨a, rfl⟩

/-! ## Lists -/

/-- What stands on the left of a relation of two lists has its partner on the right. -/
theorem exists_of_mem_left {R : α → β → Prop} {xs : List α} {ys : List β} (h : List.Forall₂ R xs ys) {x : α}
    (hx : x ∈ xs) : ∃ y ∈ ys, R x y := by
  induction h with
  | nil => cases hx
  | cons hhead _ ih =>
    rcases List.mem_cons.mp hx with rfl | hx
    · exact ⟨_, List.mem_cons_self, hhead⟩
    · obtain ⟨y, hy, hxy⟩ := ih hx
      exact ⟨y, List.mem_cons_of_mem _ hy, hxy⟩

/-- What stands on the right of a relation of two lists has its partner on the left. -/
theorem exists_of_mem_right {R : α → β → Prop} {xs : List α} {ys : List β} (h : List.Forall₂ R xs ys) {y : β}
    (hy : y ∈ ys) : ∃ x ∈ xs, R x y := by
  induction h with
  | nil => cases hy
  | cons hhead _ ih =>
    rcases List.mem_cons.mp hy with rfl | hy
    · exact ⟨_, List.mem_cons_self, hhead⟩
    · obtain ⟨x, hx, hxy⟩ := ih hy
      exact ⟨x, List.mem_cons_of_mem _ hx, hxy⟩

/-- A list is related to some list where each of its elements is related to something. -/
theorem exists_forall₂_iff {R : α → β → Prop} {xs : List α} :
    (∃ ys, List.Forall₂ R xs ys) ↔ ∀ x ∈ xs, ∃ y, R x y := by
  constructor
  · rintro ⟨ys, h⟩ x hx
    obtain ⟨y, -, hxy⟩ := exists_of_mem_left h hx
    exact ⟨y, hxy⟩
  · intro h
    induction xs with
    | nil => exact ⟨[], .nil⟩
    | cons x xs ih =>
      obtain ⟨y, hy⟩ := h x List.mem_cons_self
      obtain ⟨ys, hys⟩ := ih fun x hx => h x (List.mem_cons_of_mem _ hx)
      exact ⟨y :: ys, .cons hy hys⟩

/-- What stands at a place on the left has its partner at the same place on the right. -/
theorem forall₂_split {R : α → β → Prop} {xs₁ xs₂ : List α} {x : α} {ys : List β}
    (h : List.Forall₂ R (xs₁ ++ x :: xs₂) ys) :
    ∃ ys₁ y ys₂, ys = ys₁ ++ y :: ys₂ ∧ List.Forall₂ R xs₁ ys₁ ∧ R x y ∧ List.Forall₂ R xs₂ ys₂ := by
  induction xs₁ generalizing ys with
  | nil =>
    cases h with
    | @cons _ y _ ys hhead htail => exact ⟨[], y, ys, rfl, .nil, hhead, htail⟩
  | cons x' xs₁ ih =>
    cases h with
    | @cons _ y' _ ys hhead htail =>
      obtain ⟨ys₁, y, ys₂, rfl, hbefore, hxy, hbehind⟩ := ih htail
      exact ⟨y' :: ys₁, y, ys₂, rfl, .cons hhead hbefore, hxy, hbehind⟩

/-- Pairs that agree in their first parts. -/
theorem forall₂_pairs_iff {R : β → γ → Prop} {ms : List (α × β)} {ns : List (α × γ)} :
    List.Forall₂ (fun m n => m.1 = n.1 ∧ R m.2 n.2) ms ns ↔
      ms.map Prod.fst = ns.map Prod.fst ∧ List.Forall₂ R (ms.map Prod.snd) (ns.map Prod.snd) := by
  induction ms generalizing ns with
  | nil => cases ns <;> simp
  | cons m ms ih =>
    cases ns with
    | nil => simp
    | cons n ns =>
      simp only [List.forall₂_cons, ih, List.map_cons, List.cons.injEq]
      exact and_and_and_comm

/-- A list of which each element is an image of a related one is the image of a related list. -/
theorem exists_of_forall₂_map {R : α → β → Prop} {f : β → γ} {xs : List α} {zs : List γ}
    (h : List.Forall₂ (fun x z => ∃ y, R x y ∧ z = f y) xs zs) : ∃ ys, List.Forall₂ R xs ys ∧ zs = ys.map f := by
  induction h with
  | nil => exact ⟨[], .nil, rfl⟩
  | cons hhead _ ih =>
    obtain ⟨y, hy, rfl⟩ := hhead
    obtain ⟨ys, hys, rfl⟩ := ih
    exact ⟨y :: ys, .cons hy hys, rfl⟩

/-- What is made of each element and its place stands at that place. -/
theorem forall₂_mapIdx (f : Nat → α → β) (xs : List α) : List.Forall₂ (fun x y => ∃ n, y = f n x) xs (xs.mapIdx f) := by
  induction xs generalizing f with
  | nil => exact .nil
  | cons x xs ih =>
    rw [List.mapIdx_cons]
    apply List.Forall₂.cons ⟨0, rfl⟩
    apply (ih fun n => f (n + 1)).imp
    rintro x y ⟨n, rfl⟩
    exact ⟨n + 1, rfl⟩

/-- The parts of two related lists that are chosen alike. -/
theorem map_filter_eq {R : α → β → Prop} {p : α → Bool} {q : β → Bool} {f : α → γ} {g : β → γ} {xs : List α}
    {ys : List β} (h : List.Forall₂ R xs ys) (hchoice : ∀ x y, R x y → p x = q y) (heq : ∀ x y, R x y → f x = g y) :
    (xs.filter p).map f = (ys.filter q).map g := by
  induction h with
  | nil => rfl
  | cons hhead _ ih =>
    rw [List.filter_cons, List.filter_cons, hchoice _ _ hhead]
    split_ifs
    · rw [List.map_cons, List.map_cons, heq _ _ hhead, ih]
    · exact ih

/-- Two relations of lists, one after the other. -/
theorem forall₂_trans {R : α → β → Prop} {S : β → γ → Prop} {T : α → γ → Prop} {xs : List α} {ys : List β}
    {zs : List γ} (hRS : ∀ x y z, R x y → S y z → T x z) (hR : List.Forall₂ R xs ys) (hS : List.Forall₂ S ys zs) :
    List.Forall₂ T xs zs := by
  induction hR generalizing zs with
  | nil =>
    cases hS
    exact .nil
  | cons hhead _ ih =>
    cases hS with
    | cons hhead' htail => exact .cons (hRS _ _ _ hhead hhead') (ih htail)

/-- A traversal succeeds exactly when every element does, each with its own result. -/
theorem mapM_eq_ok_iff {f : α → Except ε β} {xs : List α} {ys : List β} :
    xs.mapM f = .ok ys ↔ List.Forall₂ (fun x y => f x = .ok y) xs ys := by
  induction xs generalizing ys with
  | nil =>
    rw [List.mapM_nil, pure_eq_ok_iff, List.forall₂_nil_left_iff]
    exact eq_comm
  | cons x xs ih =>
    rw [List.mapM_cons, bind_eq_ok_iff]
    simp only [bind_eq_ok_iff, pure_eq_ok_iff, List.forall₂_cons_left_iff, ih]
    constructor
    · rintro ⟨y, hy, ys, hys, rfl⟩
      exact ⟨y, ys, hy, hys, rfl⟩
    · rintro ⟨y, ys, hy, hys, rfl⟩
      exact ⟨y, hy, ys, hys, rfl⟩

/-- A traversal fails exactly with the failure of the first element that fails; what comes behind it plays no part. -/
theorem mapM_eq_error_iff {f : α → Except ε β} {xs : List α} {e : ε} :
    xs.mapM f = .error e ↔
      ∃ k, ∃ hk : k < xs.length, (∀ j (hj : j < k), ∃ y, f xs[j] = .ok y) ∧ f xs[k] = .error e := by
  induction xs with
  | nil => simp [pure, Except.pure]
  | cons x xs ih =>
    rw [List.mapM_cons, bind_eq_error_iff]
    constructor
    · rintro (hx | ⟨y, hx, hrest⟩)
      · refine ⟨0, by simp, ?_, hx⟩
        intro j hj
        omega
      · rw [bind_eq_error_iff] at hrest
        rcases hrest with hrest | ⟨ys, -, hpure⟩
        · obtain ⟨k, hk, hbefore, he⟩ := ih.mp hrest
          refine ⟨k + 1, Nat.succ_lt_succ hk, ?_, he⟩
          intro j hj
          cases j with
          | zero => exact ⟨y, hx⟩
          | succ j => exact hbefore j (by omega)
        · cases hpure
    · rintro ⟨k, hk, hbefore, he⟩
      cases k with
      | zero => exact Or.inl he
      | succ k =>
        obtain ⟨y, hy⟩ := hbefore 0 (by omega)
        have hrest : xs.mapM f = .error e := by
          refine ih.mpr ⟨k, Nat.lt_of_succ_lt_succ hk, ?_, he⟩
          intro j hj
          exact hbefore (j + 1) (by omega)
        refine Or.inr ⟨y, hy, ?_⟩
        rw [bind_eq_error_iff]
        exact Or.inl hrest

end BidAdapter
