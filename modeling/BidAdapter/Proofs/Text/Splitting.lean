import BidAdapter.Text.Split
import Mathlib.Data.List.Basic

/-!
# The parts of a text

* `splitOn_intercalate` : the parts of joined texts are those of each;
* `SplitsInto` : parts without separators, the last of them not empty unless it is the only one, which spell the text
  with a separator between two of them and any number of separators behind the last;
* `split_eq_iff` : these are the parts that `split` gives; `parts_unique` : every text has them, and one list only;
* `Halves`, `split_eq_pair_iff` : the texts of two parts.
-/

namespace BidAdapter.Text

set_option autoImplicit false

variable {sep : Char} {cs a b : List Char} {ps : List (List Char)} {k : Nat}

/-! ## Between separators -/

theorem splitOn_eq (sep : Char) (cs : List Char) : splitOn sep cs = cs.splitOn sep := by
  induction cs with
  | nil => simp [splitOn]
  | cons c cs ih =>
    rw [splitOn, ih, List.splitOn, List.splitOn, List.splitOnP_cons_eq_if_modifyHead]
    by_cases hc : c = sep
    · simp [hc]
    · rw [if_neg hc, if_neg (by simpa using hc)]
      cases h : cs.splitOnP (· == sep) with
      | nil => exact absurd h (List.splitOn_ne_nil sep cs)
      | cons p ps => rfl

theorem not_mem_of_mem_splitOn {p : List Char} (h : p ∈ splitOn sep cs) : sep ∉ p := by
  induction cs generalizing p with
  | nil => simp_all [splitOn]
  | cons c cs ih =>
    unfold splitOn at h
    split_ifs at h with hc
    · rcases List.mem_cons.mp h with rfl | h
      · exact List.not_mem_nil
      · exact ih h
    · cases hps : splitOn sep cs with
      | nil => simp_all [Ne.symm hc]
      | cons q qs =>
        rw [hps] at h ih
        rcases List.mem_cons.mp h with rfl | h
        · have hq := ih List.mem_cons_self
          simp [Ne.symm hc, hq]
        · exact ih (List.mem_cons_of_mem _ h)

/-! ## Empty parts at the end -/

theorem exists_trailing (ps : List (List Char)) : ∃ k, ps = dropTrailingEmpty ps ++ List.replicate k [] := by
  induction ps with
  | nil => exact ⟨0, rfl⟩
  | cons p ps ih =>
    obtain ⟨k, hk⟩ := ih
    unfold dropTrailingEmpty
    split
    · next hnil =>
      rw [hnil] at hk
      exact ⟨k + 1, by rw [hk]; rfl⟩
    · exact ⟨k, by rw [List.cons_append, ← hk]⟩

theorem getLast?_dropTrailingEmpty (ps : List (List Char)) : (dropTrailingEmpty ps).getLast? ≠ some [] := by
  induction ps with
  | nil => simp [dropTrailingEmpty]
  | cons p ps ih =>
    unfold dropTrailingEmpty
    split
    · simp
    · next hne =>
      cases hqs : dropTrailingEmpty ps with
      | nil =>
        intro h
        rw [List.getLast?_singleton, Option.some_inj] at h
        exact hne h hqs
      | cons q qs =>
        rw [List.getLast?_cons_cons, ← hqs]
        exact ih

theorem dropTrailingEmpty_replicate (k : Nat) : dropTrailingEmpty (List.replicate k []) = [] := by
  induction k with
  | zero => rfl
  | succ k ih =>
    rw [List.replicate_succ]
    unfold dropTrailingEmpty
    rw [ih]

theorem dropTrailingEmpty_append (h : ps.getLast? ≠ some []) :
    dropTrailingEmpty (ps ++ List.replicate k []) = ps := by
  induction ps with
  | nil => exact dropTrailingEmpty_replicate k
  | cons p ps ih =>
    rw [List.cons_append]
    unfold dropTrailingEmpty
    cases ps with
    | nil =>
      have hp : p ≠ [] := by simpa using h
      rw [List.nil_append, dropTrailingEmpty_replicate]
      split
      · exact absurd rfl hp
      · rfl
    | cons q qs =>
      rw [List.getLast?_cons_cons] at h
      rw [ih h]
      cases p <;> rfl

/-! ## Joined parts -/

theorem intercalate_concat_nil (h : ps ≠ []) : [sep].intercalate (ps ++ [[]]) = [sep].intercalate ps ++ [sep] := by
  induction ps with
  | nil => exact absurd rfl h
  | cons p ps ih =>
    cases ps with
    | nil => simp
    | cons q qs =>
      have htail := ih (List.cons_ne_nil q qs)
      rw [List.cons_append, List.cons_append, List.intercalate_cons_cons, ← List.cons_append, htail,
        List.intercalate_cons_cons, List.append_assoc, List.append_assoc, List.append_assoc]

theorem intercalate_trailing (h : ps ≠ []) :
    [sep].intercalate (ps ++ List.replicate k []) = [sep].intercalate ps ++ List.replicate k sep := by
  induction k generalizing ps with
  | zero => simp
  | succ k ih =>
    have hne : ps ++ [[]] ≠ [] := by simp
    rw [List.replicate_succ, List.append_cons, ih hne, intercalate_concat_nil h, List.replicate_succ, ← List.append_cons]

theorem splitOn_append_cons (a b : List Char) :
    (a ++ sep :: b).splitOn sep = a.splitOn sep ++ b.splitOn sep := by
  rw [List.splitOn_eq_splitOnP, List.splitOn_eq_splitOnP, List.splitOn_eq_splitOnP]
  exact List.splitOnP_append_cons a b (beq_self_eq_true sep)

/-- Joined texts split where each of them does, and between two of them. -/
theorem splitOn_intercalate (h : ps ≠ []) : ([sep].intercalate ps).splitOn sep = ps.flatMap (List.splitOn sep) := by
  induction ps with
  | nil => exact absurd rfl h
  | cons p ps ih =>
    cases ps with
    | nil => simp
    | cons q qs =>
      rw [List.intercalate_cons_cons, List.append_assoc, List.singleton_append, splitOn_append_cons,
        ih (List.cons_ne_nil q qs), ← List.flatMap_cons]

/-! ## The parts of a text -/

/-- Parts without separators, which spell the text with a separator between two of them and any number of them behind
the last. Only a text of separators has an empty last part. -/
structure SplitsInto (sep : Char) (cs : List Char) (ps : List (List Char)) : Prop where
  ne_nil : ps ≠ []
  free : ∀ p ∈ ps, sep ∉ p
  last : ps.getLast? = some [] → ps = [[]]
  text : ∃ k, cs = [sep].intercalate ps ++ List.replicate k sep

theorem splitsInto_split (sep : Char) (cs : List Char) : SplitsInto sep cs (split sep cs) := by
  obtain ⟨k, hk⟩ := exists_trailing (splitOn sep cs)
  have hcs : cs = [sep].intercalate (splitOn sep cs) := by rw [splitOn_eq, List.intercalate_splitOn]
  have hlast := getLast?_dropTrailingEmpty (splitOn sep cs)
  unfold split
  split
  · next hnil =>
    rw [hnil, List.nil_append] at hk
    cases k with
    | zero =>
      have hne : splitOn sep cs ≠ [] := splitOn_eq sep cs ▸ List.splitOn_ne_nil sep cs
      exact absurd hk hne
    | succ k =>
      have hempty : List.replicate (k + 1) ([] : List Char) = [[]] ++ List.replicate k [] := rfl
      rw [hk, hempty, intercalate_trailing (List.cons_ne_nil _ _)] at hcs
      exact ⟨List.cons_ne_nil _ _, by simp, fun _ => rfl, k, hcs⟩
  · next hne =>
    refine ⟨hne, ?_, fun h => absurd h hlast, k, ?_⟩
    · intro p hp
      have hmem : p ∈ splitOn sep cs := by
        rw [hk]
        exact List.mem_append_left _ hp
      exact not_mem_of_mem_splitOn hmem
    · rw [← intercalate_trailing hne, ← hk]
      exact hcs

theorem SplitsInto.split_eq (h : SplitsInto sep cs ps) : split sep cs = ps := by
  obtain ⟨k, hk⟩ := h.text
  have hne : ps ++ List.replicate k [] ≠ [] := by simp [h.ne_nil]
  have hfree : ∀ p ∈ ps ++ List.replicate k [], sep ∉ p := by
    intro p hp
    rcases List.mem_append.mp hp with hp | hp
    · exact h.free p hp
    · rw [List.eq_of_mem_replicate hp]
      exact List.not_mem_nil
  have hparts : splitOn sep cs = ps ++ List.replicate k [] := by
    rw [splitOn_eq, hk, ← intercalate_trailing h.ne_nil, List.splitOn_intercalate sep hfree hne]
  unfold split
  rw [hparts]
  by_cases hlast : ps.getLast? = some []
  · rw [h.last hlast, ← List.replicate_one, List.replicate_append_replicate, dropTrailingEmpty_replicate]
  · rw [dropTrailingEmpty_append hlast]
    split
    · exact absurd rfl h.ne_nil
    · rfl

/-- **The parts of a text are those that spell it.** -/
theorem split_eq_iff : split sep cs = ps ↔ SplitsInto sep cs ps := by
  constructor
  · rintro rfl
    exact splitsInto_split sep cs
  · exact SplitsInto.split_eq

/-- **A text has one list of parts.** Whatever the text and the separator, its parts are without separators and spell
it, empty ones in front and in the middle included, with any number of separators behind the last, which is empty only
where it is the only one; and no other list of parts does this. -/
theorem parts_unique (sep : Char) (cs : List Char) :
    SplitsInto sep cs (split sep cs) ∧ ∀ ps, SplitsInto sep cs ps → ps = split sep cs := by
  refine ⟨splitsInto_split sep cs, ?_⟩
  intro ps h
  exact h.split_eq.symm

example : split ',' [',', 'a', ',', ',', 'b', ',', ','] = [[], ['a'], [], ['b']] := by decide

/-! ## Two parts -/

/-- Two texts without separators, one between them, and any number behind them. -/
structure Halves (sep : Char) (cs a b : List Char) : Prop where
  left : sep ∉ a
  right : sep ∉ b
  text : ∃ k, cs = a ++ sep :: b ++ List.replicate k sep

theorem split_eq_pair_iff : split sep cs = [a, b] ↔ Halves sep cs a b ∧ b ≠ [] := by
  have hjoin : [sep].intercalate [a, b] = a ++ sep :: b := by simp
  rw [split_eq_iff]
  constructor
  · rintro ⟨-, hfree, hlast, htext⟩
    rw [hjoin] at htext
    refine ⟨⟨hfree a (by simp), hfree b (by simp), htext⟩, ?_⟩
    rintro rfl
    have hone := hlast rfl
    simp at hone
  · rintro ⟨⟨ha, hb, htext⟩, hne⟩
    refine ⟨by simp, by simp [ha, hb], ?_, by rwa [hjoin]⟩
    intro hlast
    exact absurd (by simpa using hlast) hne

end BidAdapter.Text
