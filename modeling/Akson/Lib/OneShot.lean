/-
# One-shot grants

The abstract machine behind "authority that can be used once".
-/
import Akson.Lib.Trace
import Mathlib.Data.Set.Insert
import Mathlib.Logic.Function.Basic

/-- Grants, each spent at most once. -/
@[ext]
structure OneShot (ρ κ : Type*) where
  granted : Set ρ
  spentBy : ρ → Option κ

namespace OneShot

variable {ρ κ : Type*} [DecidableEq ρ]

/-- A grant, or its spending. -/
inductive Move (ρ κ : Type*) where
  | grant (r : ρ)
  | spend (r : ρ) (k : κ)

/-- A grant that is new, or one spent for the first time. -/
inductive Step : OneShot ρ κ → Move ρ κ → OneShot ρ κ → Prop
  | grant {g : OneShot ρ κ} {r : ρ} (fresh : r ∉ g.granted) :
      Step g (.grant r) { g with granted := Set.insert r g.granted }
  | spend {g : OneShot ρ κ} {r : ρ} {k : κ} (issued : r ∈ g.granted)
      (unspent : g.spentBy r = none) (unused : ∀ r', g.spentBy r' ≠ some k) :
      Step g (.spend r k) { g with spentBy := Function.update g.spentBy r (some k) }

def Move.spends (r : ρ) : Move ρ κ → Bool
  | .grant _ => false
  | .spend r' _ => r' = r

theorem Step.spentBy_stable {g g' : OneShot ρ κ} {m : Move ρ κ} (h : Step g m g') {r : ρ} {k : κ}
    (hr : g.spentBy r = some k) : g'.spentBy r = some k := by
  cases h with
  | grant => exact hr
  | @spend r₀ k₀ _ unspent _ =>
    have hne : r ≠ r₀ := by
      rintro rfl
      rw [unspent] at hr
      cases hr
    show Function.update g.spentBy r₀ (some k₀) r = some k
    rw [Function.update_of_ne hne]
    exact hr

theorem spend_grant_once {g g' : OneShot ρ κ} {ms : List (Move ρ κ)}
    (ht : Trace Step g ms g') (r : ρ) : ms.countP (Move.spends r) ≤ 1 := by
  refine ht.countP_le_one (I := fun _ => True) (P := fun g => ∃ k, g.spentBy r = some k)
    (fun _ _ _ _ _ => trivial) ?_ ?_ ?_ trivial
  · rintro s m s' - ⟨k, hk⟩ h
    exact ⟨k, h.spentBy_stable hk⟩
  · rintro s m s' - h hm
    cases h with
    | grant => simp [Move.spends] at hm
    | @spend r₀ k₀ issued unspent unused =>
      obtain rfl : r₀ = r := by simpa [Move.spends] using hm
      exact ⟨k₀, Function.update_self _ _ _⟩
  · rintro s m s' - ⟨k, hk⟩ h
    cases h with
    | grant => rfl
    | @spend r₀ k₀ issued unspent unused =>
      simp only [Move.spends, decide_eq_false_iff_not]
      rintro rfl
      rw [unspent] at hk
      cases hk

end OneShot
