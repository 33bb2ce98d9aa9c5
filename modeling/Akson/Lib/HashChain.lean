/-
# Hash chains

A list of records in which each one carries its own hash and the hash of the record before it.
-/
import Mathlib.Algebra.Ring.Nat
import Mathlib.Data.List.Basic
import Mathlib.Data.List.Induction
import Mathlib.Tactic.Common

namespace HashChain

variable {ρ β : Type*} {prev hash : ρ → β} {g : β} {r : ρ} {l l' : List ρ}

/-- Each record names the hash of the one before. -/
def Linked (prev hash : ρ → β) : β → List ρ → Prop
  | _, [] => True
  | g, r :: rs => prev r = g ∧ Linked prev hash (hash r) rs

def lastHash (hash : ρ → β) : β → List ρ → β
  | g, [] => g
  | _, r :: rs => lastHash hash (hash r) rs

theorem lastHash_concat : lastHash hash g (l ++ [r]) = hash r := by
  induction l generalizing g with
  | nil => rfl
  | cons a l ih => exact ih

theorem linked_concat :
    Linked prev hash g (l ++ [r]) ↔ Linked prev hash g l ∧ prev r = lastHash hash g l := by
  induction l generalizing g with
  | nil => simp [Linked, lastHash]
  | cons a l ih =>
    rw [List.cons_append, Linked, Linked, lastHash, ih, and_assoc]

theorem Linked.of_append (h : Linked prev hash g (l ++ l')) : Linked prev hash g l := by
  induction l generalizing g with
  | nil => trivial
  | cons a l ih => exact ⟨h.1, ih h.2⟩

theorem eq_of_lastHash_eq (hl : Linked prev hash g l) (hl' : Linked prev hash g l')
    (hinj : ∀ a ∈ l, ∀ b ∈ l', hash a = hash b → a = b)
    (hstart : ∀ a ∈ l, hash a ≠ g) (hstart' : ∀ a ∈ l', hash a ≠ g)
    (h : lastHash hash g l = lastHash hash g l') : l = l' := by
  -- from the back: the last records are equal, so the chains before them end in one hash
  induction l using List.reverseRecOn generalizing l' with
  | nil =>
    rcases List.eq_nil_or_concat' l' with rfl | ⟨m, b, rfl⟩
    · rfl
    · rw [lastHash_concat] at h
      exact absurd h.symm (hstart' b (by simp))
  | append_singleton l a ih =>
    rcases List.eq_nil_or_concat' l' with rfl | ⟨m, b, rfl⟩
    · rw [lastHash_concat] at h
      exact absurd h (hstart a (by simp))
    · rw [lastHash_concat, lastHash_concat] at h
      rw [linked_concat] at hl hl'
      have hab : a = b := hinj a (by simp) b (by simp) h
      have hprev : lastHash hash g l = lastHash hash g m := by
        rw [← hl.2, ← hl'.2, hab]
      have hrest : l = m := by
        refine ih hl.1 hl'.1 (fun x hx y hy => hinj x ?_ y ?_) (fun x hx => hstart x ?_)
          (fun y hy => hstart' y ?_) hprev
        all_goals simp [*]
      rw [hab, hrest]

end HashChain

/-! ## Numbers as bytes -/

def beBytes : ℕ → ℕ → List UInt8
  | 0, _ => []
  | w + 1, n => beBytes w (n / 256) ++ [UInt8.ofNat n]

@[simp]
theorem length_beBytes (w n : ℕ) : (beBytes w n).length = w := by
  induction w generalizing n with
  | zero => rfl
  | succ w ih => rw [beBytes, List.length_append, ih, List.length_singleton]

theorem beBytes_inj {w m n : ℕ} (hm : m < 256 ^ w) (hn : n < 256 ^ w) (h : beBytes w m = beBytes w n) :
    m = n := by
  induction w generalizing m n with
  | zero => omega
  | succ w ih =>
    rw [beBytes, beBytes] at h
    obtain ⟨hhigh, hlow⟩ := List.append_inj h (by rw [length_beBytes, length_beBytes])
    have hbyte : m % 256 = n % 256 := by
      have := congrArg UInt8.toNat (List.singleton_inj.1 hlow)
      rwa [UInt8.toNat_ofNat', UInt8.toNat_ofNat'] at this
    have hrest : m / 256 = n / 256 := by
      refine ih ?_ ?_ hhigh
      · rw [Nat.div_lt_iff_lt_mul (by decide), ← pow_succ]
        exact hm
      · rw [Nat.div_lt_iff_lt_mul (by decide), ← pow_succ]
        exact hn
    omega
