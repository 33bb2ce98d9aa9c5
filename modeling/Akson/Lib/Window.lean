/-
# Fixed windows

Events are counted in windows of a fixed length: a window opens with an event, and the next one of
the same source opens no sooner than the length after it.
-/
import Mathlib.Data.List.Basic
import Mathlib.Data.Int.Order.Basic
import Mathlib.Tactic.Common

namespace FixedWindow

open Option List

variable {α : Type*} (time : α → ℤ) (window : α → Option ℤ) (len : ℤ)

/-- Each element lies in its window, and windows do not overlap. -/
structure Windowed (l : List α) : Prop where
  within : ∀ a ∈ l, ∃ w, window a = some w ∧ w ≤ time a ∧ time a < w + len
  apart : ∀ a ∈ l, ∀ b ∈ l, ∀ v w, window a = some v → window b = some w →
    v = w ∨ v + len ≤ w ∨ w + len ≤ v

variable {time window len} {l : List α} {bound : ℕ}

theorem countP_le_of_close (h : Windowed time window len l)
    (hbound : ∀ w, l.countP (fun a => window a = some w) ≤ bound) {p : α → Bool}
    (hclose : ∀ a ∈ l, ∀ b ∈ l, p a = true → p b = true → ∀ v w, window a = some v →
      window b = some w → v < w + len) : l.countP p ≤ bound := by
  by_cases hsome : ∃ a ∈ l, p a = true
  · obtain ⟨a, ha, hpa⟩ := hsome
    obtain ⟨w, hw, -⟩ := h.within a ha
    refine Nat.le_trans (countP_mono_left ?_) (hbound w)
    intro b hb hpb
    obtain ⟨v, hv, -⟩ := h.within b hb
    have hvw := hclose b hb a ha hpb hpa v w hv hw
    have hwv := hclose a ha b hb hpa hpb w v hw hv
    have hsame : v = w := by
      rcases h.apart b hb a ha v w hv hw with hsame | hlt | hlt
      · exact hsame
      · omega
      · omega
    rw [decide_eq_true_eq, hv, hsame]
  · rw [countP_eq_zero.2 (fun a ha hpa => hsome ⟨a, ha, hpa⟩)]
    exact Nat.zero_le bound

theorem countP_interval_le (h : Windowed time window len l)
    (hbound : ∀ w, l.countP (fun a => window a = some w) ≤ bound) (t : ℤ) :
    l.countP (fun a => t ≤ time a ∧ time a ≤ t + len) ≤ 2 * bound := by
  -- the windows that are open at the start of the interval, and those that open inside it
  rw [countP_eq_countP_filter_add l _ (fun a => (window a).any (fun w => w ≤ t)),
    countP_filter, countP_filter, Nat.two_mul]
  refine Nat.add_le_add (countP_le_of_close h hbound ?_) (countP_le_of_close h hbound ?_)
  · intro a ha b hb hpa hpb v w hv hw
    obtain ⟨u, hu, -, htime⟩ := h.within b hb
    rw [hw, some.injEq] at hu
    simp only [hv, hw, any_some, Bool.and_eq_true, decide_eq_true_eq] at hpa hpb
    omega
  · intro a ha b hb hpa hpb v w hv hw
    obtain ⟨u, hu, htime, -⟩ := h.within a ha
    rw [hv, some.injEq] at hu
    simp only [hv, hw, any_some, Bool.and_eq_true, Bool.not_eq_true', decide_eq_true_eq,
      decide_eq_false_iff_not] at hpa hpb
    omega

end FixedWindow
