/-
# Fallible computations

Small steps of a computation in `Except`, and how a successful run of a sequence of them is
taken apart: each step succeeded, and the result is the last one's.
-/
import Mathlib.Tactic.Common

namespace Except

variable {ε α β σ : Type}

variable {x : Except ε α} {f : α → Except ε β} {e : ε} {a : α} {δ : Type} {p : Prop} {o : Option α}

theorem bind_eq_ok {b : β} : (x >>= f) = .ok b ↔ ∃ a, x = .ok a ∧ f a = .ok b := by
  cases x with
  | error e => simp [bind, Except.bind]
  | ok a => simp [bind, Except.bind]

theorem bind_eq_error : (x >>= f) = .error e ↔ x = .error e ∨ ∃ a, x = .ok a ∧ f a = .error e := by
  cases x with
  | error e => simp [bind, Except.bind]
  | ok a => simp [bind, Except.bind]

@[simp] theorem mapError_eq_ok {f : ε → δ} : x.mapError f = .ok a ↔ x = .ok a := by
  cases x <;> simp [Except.mapError]

theorem mapError_eq_error {f : ε → δ} {d : δ} :
    x.mapError f = .error d ↔ ∃ e, x = .error e ∧ f e = d := by
  cases x <;> simp [Except.mapError]

theorem snd_eq_of_ok {b : α} {s t : σ} (h : (Except.ok (a, s) : Except ε (α × σ)) = .ok (b, t)) :
    s = t := by
  simp only [Except.ok.injEq, Prod.mk.injEq] at h
  exact h.2

theorem toOption_eq_some_iff : x.toOption = some a ↔ x = .ok a := by
  cases x <;> simp [Except.toOption]

/-- Fail with `e` unless `p`. -/
def ensure (p : Prop) [Decidable p] (e : ε) : Except ε Unit :=
  if p then .ok () else .error e

@[simp] theorem ensure_eq_ok [Decidable p] {u : Unit} : ensure p e = .ok u ↔ p := by
  unfold ensure
  split <;> simp [*]

theorem ensure_eq_error [Decidable p] {e' : ε} : ensure p e = .error e' ↔ ¬ p ∧ e = e' := by
  unfold ensure
  split <;> simp [*]

theorem ensure_of [Decidable p] (h : p) (e : ε) : ensure p e = .ok () := if_pos h

/-- The value, or `e`. -/
def okOr (o : Option α) (e : ε) : Except ε α :=
  match o with
  | some a => .ok a
  | none => .error e

@[simp] theorem okOr_eq_ok : okOr o e = .ok a ↔ o = some a := by
  cases o <;> simp [okOr]

theorem okOr_eq_error {e' : ε} : okOr o e = .error e' ↔ o = none ∧ e = e' := by
  cases o <;> simp [okOr]

end Except
