import BidAdapter.Text.Blank
import Mathlib.Data.List.DropRight
import Mathlib.Data.List.TakeWhile

/-!
# Texts without blanks around them

* `trimChars_eq_nil_iff` : nothing is left of a text that is all blank, and of no other;
* `mem_trimChars_of_not_blank` : a character that is no blank stays;
* `trimChars_of_not_blank` : a text without blanks stays;
* `trimChars_append_cons` : the blanks behind a character that is none are those at the end of what follows it.
-/

namespace BidAdapter.Text

set_option autoImplicit false

variable {a b cs : List Char} {c : Char}

theorem trimChars_eq (cs : List Char) : trimChars cs = (cs.dropWhile isBlank).rdropWhile isBlank := rfl

/-- Nothing is left of characters that are all blank, and of no others. -/
theorem trimChars_eq_nil_iff : trimChars cs = [] ↔ ∀ c ∈ cs, isBlank c = true := by
  rw [trimChars_eq, List.rdropWhile_eq_nil_iff, ← List.dropWhile_eq_nil_iff (l := cs)]
  -- what is left at the front begins with a character that is not blank
  have hhead := List.head?_dropWhile_not isBlank cs
  cases hdrop : cs.dropWhile isBlank with
  | nil => simp
  | cons c rest =>
    rw [hdrop] at hhead
    simp only [List.head?_cons] at hhead
    simp [hhead]

theorem trimChars_ne_nil_iff : trimChars cs ≠ [] ↔ ∃ c ∈ cs, isBlank c = false := by
  simp [trimChars_eq_nil_iff]

theorem mem_dropWhile_of_not_blank (h : isBlank c = false) : c ∈ cs.dropWhile isBlank ↔ c ∈ cs := by
  refine ⟨fun hc => (List.dropWhile_suffix isBlank).subset hc, fun hc => ?_⟩
  rw [← List.takeWhile_append_dropWhile (p := isBlank) (l := cs)] at hc
  refine (List.mem_append.mp hc).resolve_left fun hfront => ?_
  rw [List.mem_takeWhile_imp hfront] at h
  cases h

theorem mem_trimChars_of_not_blank (h : isBlank c = false) : c ∈ trimChars cs ↔ c ∈ cs := by
  rw [trimChars, List.mem_reverse, mem_dropWhile_of_not_blank h, List.mem_reverse, mem_dropWhile_of_not_blank h]

theorem dropWhile_of_not_blank (h : ∀ c ∈ cs, isBlank c = false) : cs.dropWhile isBlank = cs := by
  cases cs with
  | nil => rfl
  | cons c cs => exact List.dropWhile_cons_of_neg (by simp [h c])

theorem trimChars_of_not_blank (h : ∀ c ∈ cs, isBlank c = false) : trimChars cs = cs := by
  rw [trimChars_eq, dropWhile_of_not_blank h, List.rdropWhile_eq_self_iff]
  intro hne
  simp [h _ (List.getLast_mem hne)]

/-- A trimmed text has no blank in front. -/
theorem dropWhile_of_trimmed (h : trimChars cs = cs) : cs.dropWhile isBlank = cs := by
  have hpre : trimChars cs <+: cs.dropWhile isBlank := List.rdropWhile_prefix isBlank _
  rw [h] at hpre
  have hlength : (cs.dropWhile isBlank).length ≤ cs.length := (List.dropWhile_suffix isBlank).length_le
  exact (hpre.eq_of_length_le hlength).symm

theorem trimChars_append_cons (ha : a.dropWhile isBlank = a) (hc : isBlank c = false) :
    trimChars (a ++ c :: b) = a ++ c :: b.rdropWhile isBlank := by
  have hc' : ¬isBlank c = true := by simp [hc]
  have hfront : (a ++ c :: b).dropWhile isBlank = a ++ c :: b := by
    rw [List.dropWhile_append, ha]
    split_ifs with hempty
    · rw [List.isEmpty_iff.mp hempty, List.dropWhile_cons_of_neg hc']
      rfl
    · rfl
  have hend : (b.reverse ++ c :: a.reverse).dropWhile isBlank = b.reverse.dropWhile isBlank ++ c :: a.reverse := by
    rw [List.dropWhile_append, List.dropWhile_cons_of_neg hc']
    split_ifs with hempty
    · rw [List.isEmpty_iff.mp hempty]
      rfl
    · rfl
  have hreverse : (a ++ c :: b).reverse = b.reverse ++ c :: a.reverse := by simp
  rw [trimChars_eq, hfront, List.rdropWhile, hreverse, hend, List.rdropWhile]
  simp

end BidAdapter.Text
