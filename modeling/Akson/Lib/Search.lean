/-
# Searching for a sequence

The first occurrence of a sequence cuts a list in two.
-/
import Mathlib.Data.List.Basic
import Mathlib.Data.List.Infix

namespace List

variable {α : Type*} [DecidableEq α]

/-- Split at the first occurrence. -/
def splitFirst (pat : List α) : List α → Option (List α × List α)
  | [] => none
  | a :: l =>
    if pat.isPrefixOf (a :: l) then some ([], (a :: l).drop pat.length)
    else (splitFirst pat l).map (fun cut => (a :: cut.1, cut.2))

theorem eq_append_of_splitFirst {pat l before after : List α}
    (h : splitFirst pat l = some (before, after)) : l = before ++ pat ++ after := by
  induction l generalizing before with
  | nil => cases h
  | cons a l ih =>
    rw [splitFirst] at h
    split at h
    case isTrue hpat =>
      obtain ⟨rfl, rfl⟩ := Prod.mk.inj (Option.some.inj h)
      obtain ⟨tail, htail⟩ := isPrefixOf_iff_prefix.1 hpat
      rw [← htail, drop_left, nil_append]
    case isFalse =>
      obtain ⟨⟨before', after'⟩, hcut, heq⟩ := Option.map_eq_some_iff.1 h
      cases heq
      rw [ih hcut, cons_append, cons_append]

theorem splitFirst_append {x : α} {pat before : List α} (hx : x ∉ before) (after : List α) :
    splitFirst (x :: pat) (before ++ x :: pat ++ after) = some (before, after) := by
  induction before with
  | nil =>
    have hpat : (x :: pat).isPrefixOf (x :: (pat ++ after)) = true :=
      isPrefixOf_iff_prefix.2 ⟨after, rfl⟩
    rw [nil_append, cons_append, splitFirst, if_pos hpat, ← cons_append, drop_left]
  | cons a before ih =>
    rw [mem_cons, not_or] at hx
    have hpat : ¬ (x :: pat).isPrefixOf (a :: (before ++ x :: pat ++ after)) = true := by
      intro hpat
      obtain ⟨tail, htail⟩ := isPrefixOf_iff_prefix.1 hpat
      exact hx.1 (cons.inj htail).1
    rw [cons_append, cons_append, splitFirst, if_neg hpat, ih hx.2, Option.map_some]

theorem splitFirst_eq_none_of_shorter {x : α} {pat before l : List α} (hx : x ∉ before)
    (hl : l <+: before ++ x :: pat) (hlt : l.length < before.length + (x :: pat).length) :
    splitFirst (x :: pat) l = none := by
  rw [Option.eq_none_iff_forall_ne_some]
  rintro ⟨before', after⟩ hcut
  have heq := eq_append_of_splitFirst hcut
  -- the element stands at the end of `before'`, so `before'` is not shorter than `before`
  have hshort : before'.length < before.length := by
    rw [heq] at hlt
    simp only [length_append, length_cons] at hlt ⊢
    omega
  obtain ⟨tail, htail⟩ := hl
  rw [heq, append_assoc, append_assoc] at htail
  have hget := congrArg (fun m => m[before'.length]?) htail
  simp only [getElem?_append_right le_rfl, Nat.sub_self, cons_append, getElem?_cons_zero,
    getElem?_append_left hshort] at hget
  exact hx (mem_of_getElem? hget.symm)

end List
