/-
# Sorting and removing repetitions

`sort` followed by `dedup` brings a list into a form that depends on its members only: the
ascending list of them (`sortDedup_eq_iff`).
-/
import Mathlib.Data.List.Destutter
import Mathlib.Data.List.Sort

namespace List

variable {α : Type*} [LinearOrder α]

/-- Sort, each element once. -/
def sortDedup (l : List α) : List α := (l.insertionSort (· ≤ ·)).destutter (· ≠ ·)

omit [LinearOrder α] in
theorem mem_destutter'_ne [DecidableEq α] {a x : α} {l : List α} :
    x ∈ l.destutter' (· ≠ ·) a ↔ x = a ∨ x ∈ l := by
  induction l generalizing a with
  | nil => simp
  | cons b l ih =>
    by_cases hab : a = b
    · subst hab
      rw [destutter'_cons_neg l (by simp), ih, mem_cons]
      tauto
    · rw [destutter'_cons_pos l hab, mem_cons, ih, mem_cons]

theorem mem_sortDedup {x : α} {l : List α} : x ∈ l.sortDedup ↔ x ∈ l := by
  rw [sortDedup, ← mem_insertionSort (· ≤ ·) (l := l)]
  cases l.insertionSort (· ≤ ·) with
  | nil => simp
  | cons a l => rw [destutter_cons', mem_destutter'_ne, mem_cons]

theorem isChain_lt_of_ne {l : List α} (hle : l.IsChain (· ≤ ·)) (hne : l.IsChain (· ≠ ·)) :
    l.IsChain (· < ·) := by
  induction hle with
  | nil => exact .nil
  | singleton a => exact .singleton a
  | cons_cons hab _ ih =>
    rw [isChain_cons_cons] at hne
    exact .cons_cons (lt_of_le_of_ne hab hne.1) (ih hne.2)

theorem pairwise_sortDedup (l : List α) : l.sortDedup.Pairwise (· < ·) := by
  have hle : l.sortDedup.Pairwise (· ≤ ·) :=
    (pairwise_insertionSort (· ≤ ·) l).sublist (destutter_sublist _ _)
  have hne : l.sortDedup.IsChain (· ≠ ·) := isChain_destutter _ _
  exact isChain_iff_pairwise.1 (isChain_lt_of_ne hle.isChain hne)

theorem sortDedup_eq_iff {l m : List α} : l.sortDedup = m.sortDedup ↔ ∀ x, x ∈ l ↔ x ∈ m := by
  constructor
  · intro h x
    rw [← mem_sortDedup, h, mem_sortDedup]
  · intro h
    have hl := pairwise_sortDedup l
    have hm := pairwise_sortDedup m
    refine Perm.eq_of_pairwise' (hl.imp le_of_lt) (hm.imp le_of_lt) ?_
    refine (perm_ext_iff_of_nodup (hl.imp ne_of_lt) (hm.imp ne_of_lt)).2 (fun x => ?_)
    rw [mem_sortDedup, mem_sortDedup, h]

end List
