/-
# Runs of a labelled transition system

A system is a relation `step s l s'`: from state `s`, under the label `l`, to `s'`.
-/
import Mathlib.Data.List.Basic
import Mathlib.Order.Defs.PartialOrder
import Mathlib.Tactic.Common

variable {σ τ ι κ : Type*}

/-- A run: the labels of its steps, one after the other. -/
inductive Trace (step : σ → ι → σ → Prop) : σ → List ι → σ → Prop
  | nil (s : σ) : Trace step s [] s
  | cons {s s₁ s' : σ} {l : ι} {ls : List ι} :
      step s l s₁ → Trace step s₁ ls s' → Trace step s (l :: ls) s'

namespace Trace

open List

variable {step : σ → ι → σ → Prop} {s s' : σ} {l : ι} {ls : List ι}

theorem nil_iff : Trace step s [] s' ↔ s' = s := by
  constructor
  · rintro ⟨⟩
    rfl
  · rintro rfl
    exact Trace.nil _

theorem cons_iff : Trace step s (l :: ls) s' ↔ ∃ s₁, step s l s₁ ∧ Trace step s₁ ls s' := by
  constructor
  · rintro (_ | ⟨h, ht⟩)
    exact ⟨_, h, ht⟩
  · rintro ⟨s₁, h, ht⟩
    exact Trace.cons h ht

theorem append_iff {ls₁ ls₂ : List ι} :
    Trace step s (ls₁ ++ ls₂) s' ↔ ∃ s₁, Trace step s ls₁ s₁ ∧ Trace step s₁ ls₂ s' := by
  induction ls₁ generalizing s with
  | nil => simp [nil_iff]
  | cons l ls₁ ih =>
    simp only [cons_append, cons_iff, ih]
    constructor
    · rintro ⟨s₁, h, s₂, h₁, h₂⟩
      exact ⟨s₂, ⟨s₁, h, h₁⟩, h₂⟩
    · rintro ⟨s₂, ⟨s₁, h, h₁⟩, h₂⟩
      exact ⟨s₁, h, s₂, h₁, h₂⟩

variable {step' : σ → ι → σ → Prop} {I P : σ → Prop}

theorem mono (hstep : ∀ s l s', step s l s' → step' s l s') (ht : Trace step s ls s') :
    Trace step' s ls s' := by
  induction ht with
  | nil => exact Trace.nil _
  | cons h _ ih => exact Trace.cons (hstep _ _ _ h) ih

theorem invariant (hstep : ∀ s l s', I s → step s l s' → I s') (ht : Trace step s ls s')
    (hs : I s) : I s' := by
  induction ht with
  | nil => exact hs
  | cons h _ ih => exact ih (hstep _ _ _ hs h)

theorem stable (hinv : ∀ s l s', I s → step s l s' → I s')
    (hP : ∀ s l s', I s → P s → step s l s' → P s') (ht : Trace step s ls s') (hs : I s)
    (hp : P s) : P s' := by
  have hboth : I s' ∧ P s' :=
    invariant (I := fun s => I s ∧ P s)
      (fun s l s' h hl => ⟨hinv s l s' h.1 hl, hP s l s' h.1 h.2 hl⟩) ht ⟨hs, hp⟩
  exact hboth.2

theorem forall_mem_of_stable {Q : ι → Prop} (hinv : ∀ s l s', I s → step s l s' → I s')
    (hP : ∀ s l s', I s → P s → step s l s' → P s') (hQ : ∀ s l s', I s → P s → step s l s' → Q l)
    (ht : Trace step s ls s') (hs : I s) (hp : P s) : ∀ l ∈ ls, Q l := by
  induction ht with
  | nil => simp
  | cons h _ ih =>
    rw [forall_mem_cons]
    exact ⟨hQ _ _ _ hs hp h, ih (hinv _ _ _ hs h) (hP _ _ _ hs hp h)⟩

theorem countP_le_one {fires : ι → Bool} (hinv : ∀ s l s', I s → step s l s' → I s')
    (hP : ∀ s l s', I s → P s → step s l s' → P s')
    (hon : ∀ s l s', I s → step s l s' → fires l = true → P s')
    (hoff : ∀ s l s', I s → P s → step s l s' → fires l = false) (ht : Trace step s ls s')
    (hs : I s) : ls.countP fires ≤ 1 := by
  induction ht with
  | nil => simp
  | @cons s s₁ s' l ls h hrest ih =>
    have hs₁ := hinv _ _ _ hs h
    rw [countP_cons]
    by_cases hl : fires l = true
    · -- after a firing step the rest of the run is silent
      have hsilent := hrest.forall_mem_of_stable hinv hP hoff hs₁ (hon _ _ _ hs h hl)
      rw [countP_eq_zero.2 (fun l hm => by simp [hsilent l hm])]
      split <;> omega
    · simpa [hl] using ih hs₁

theorem reports_ascend {α : Type*} [Preorder α] {f : σ → α} {report : ι → Option α}
    (hstep : ∀ s l s', I s → step s l s' → I s' ∧ f s ≤ f s' ∧ ∀ v, report l = some v → v = f s')
    (h : Trace step s ls s') (hs : I s) :
    f s ≤ f s' ∧ (∀ v ∈ ls.filterMap report, f s ≤ v) ∧ (ls.filterMap report).Pairwise (· ≤ ·) := by
  induction h with
  | nil s => exact ⟨le_rfl, by simp, List.Pairwise.nil⟩
  | cons h₁ _ ih =>
    obtain ⟨hI, hle, hreport⟩ := hstep _ _ _ hs h₁
    obtain ⟨hfinal, hlater, hpairs⟩ := ih hI
    refine ⟨le_trans hle hfinal, fun v hv => ?_, ?_⟩
    · rw [filterMap_cons] at hv
      split at hv
      · exact le_trans hle (hlater v hv)
      · rename_i w hw
        rcases mem_cons.1 hv with rfl | hv
        · rw [hreport v hw]
          exact hle
        · exact le_trans hle (hlater v hv)
    · rw [filterMap_cons]
      split
      · exact hpairs
      · rename_i w hw
        refine pairwise_cons.2 ⟨fun v hv => ?_, hpairs⟩
        rw [hreport w hw]
        exact hlater v hv

theorem refines {astep : τ → κ → τ → Prop} (abs : σ → τ) (view : ι → Option κ)
    (hinv : ∀ s l s', I s → step s l s' → I s')
    (hvis : ∀ s l s' k, I s → step s l s' → view l = some k → astep (abs s) k (abs s'))
    (hinvis : ∀ s l s', I s → step s l s' → view l = none → abs s' = abs s)
    (ht : Trace step s ls s') (hs : I s) : Trace astep (abs s) (ls.filterMap view) (abs s') := by
  induction ht with
  | nil => exact Trace.nil _
  | @cons s s₁ s' l ls h _ ih =>
    have hrest := ih (hinv _ _ _ hs h)
    cases hv : view l with
    | none =>
      rw [filterMap_cons_none hv, ← hinvis _ _ _ hs h hv]
      exact hrest
    | some k =>
      rw [filterMap_cons_some hv]
      exact Trace.cons (hvis _ _ _ _ hs h hv) hrest

end Trace
