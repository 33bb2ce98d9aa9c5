/-
# Operations on a state

An operation runs a few transactions on a state, one after the other, and answers or fails.
-/
import Akson.Lib.Fallible

/-- An answer, and the states of the transactions. -/
def Operation (σ ε α : Type) := σ → Except ε α × List σ

namespace Operation

open List

variable {σ ε δ α β : Type}

/-- The states after each transaction. -/
def commits (x : Operation σ ε α) (s : σ) : List σ := (x s).2

/-- The answer and the last state. -/
def exec (x : Operation σ ε α) (s : σ) : Except ε α × σ := ((x s).1, (x s).2.getLastD s)

instance : Monad (Operation σ ε) where
  pure a := fun _ => (.ok a, [])
  bind x f := fun s =>
    match exec x s with
    | (.ok a, s₁) => ((f a s₁).1, commits x s ++ commits (f a) s₁)
    | (.error e, _) => (.error e, commits x s)

/-- Read the state. -/
def ask (f : σ → Except ε α) : Operation σ ε α := fun s => (f s, [])

/-- Fail, or go on. -/
def demand (x : Except ε α) : Operation σ ε α := ask (fun _ => x)

/-- One transaction. -/
def commit (op : σ → Except δ (α × σ)) (fail : δ → ε) : Operation σ ε α := fun s =>
  match op s with
  | .ok (a, s') => (.ok a, [s'])
  | .error e => (.error (fail e), [])

/-- One transaction for each element. -/
def commitEach (f : α → σ → σ) (fail : δ → ε) : List α → Operation σ ε Unit
  | [] => pure ()
  | a :: l => do
    commit (fun s => .ok ((), f a s)) fail
    commitEach f fail l

/-- Go on after a failure. -/
def attempt (x : Operation σ ε α) : Operation σ δ (Except ε α) := fun s => (.ok (x s).1, (x s).2)

@[simp] theorem exec_pure (a : α) (s : σ) : exec (pure a : Operation σ ε α) s = (.ok a, s) := rfl

@[simp] theorem exec_ask (f : σ → Except ε α) (s : σ) : exec (ask f) s = (f s, s) := rfl

@[simp] theorem commits_pure (a : α) (s : σ) : commits (pure a : Operation σ ε α) s = [] := rfl

@[simp] theorem commits_ask (f : σ → Except ε α) (s : σ) : commits (ask f) s = [] := rfl

variable {op : σ → Except δ (α × σ)} {s s' : σ} {fail : δ → ε} {a : α} {f : α → Operation σ ε β}
  {x : Operation σ ε α} {e : ε} {states : List σ} {q : σ → Except ε α} {r : Except ε β}

theorem exec_commit_of_ok (h : op s = .ok (a, s')) : exec (commit op fail) s = (.ok a, s') := by
  simp only [exec, commit, h]
  rfl

theorem exec_commit_of_error {e : δ} (h : op s = .error e) :
    exec (commit op fail) s = (.error (fail e), s) := by
  simp only [exec, commit, h]
  rfl

theorem commits_commit_of_ok (h : op s = .ok (a, s')) : commits (commit op fail) s = [s'] := by
  simp only [commits, commit, h]

theorem commits_commit_of_error {e : δ} (h : op s = .error e) :
    commits (commit op fail) s = [] := by
  simp only [commits, commit, h]

theorem commits_bind_of_ok (h : exec x s = (.ok a, s')) :
    commits (x >>= f) s = commits x s ++ commits (f a) s' := by
  simp only [commits, bind, h]

theorem commits_bind_of_error (h : exec x s = (.error e, s')) :
    commits (x >>= f) s = commits x s := by
  simp only [commits, bind, h]

theorem exec_bind_of_ok (h : exec x s = (.ok a, s')) : exec (x >>= f) s = exec (f a) s' := by
  have hlast : (commits x s).getLastD s = s' := congrArg Prod.snd h
  have hrun : (x >>= f) s = ((f a s').1, commits x s ++ commits (f a) s') := by
    simp only [bind, h]
  rw [exec, hrun, exec, ← hlast]
  simp [commits, getLastD_eq_getLast?, getLast?_append, Option.getD_or]

theorem exec_bind_of_error (h : exec x s = (.error e, s')) : exec (x >>= f) s = (.error e, s') := by
  have hlast : (commits x s).getLastD s = s' := congrArg Prod.snd h
  have hrun : (x >>= f) s = (.error e, commits x s) := by
    simp only [bind, h]
  rw [exec, hrun, ← hlast]

theorem exec_commitEach (f : α → σ → σ) (fail : δ → ε) (l : List α) (s : σ) :
    exec (commitEach f fail l) s = (.ok (), l.foldl (fun s a => f a s) s) := by
  induction l generalizing s with
  | nil => rfl
  | cons a l ih =>
    rw [commitEach, exec_bind_of_ok (exec_commit_of_ok rfl), ih]
    rfl

theorem mem_commits_commitEach {f : α → σ → σ} {l : List α}
    (h : s' ∈ commits (commitEach f fail l) s) :
    ∃ n, s' = (l.take n).foldl (fun s a => f a s) s := by
  induction l generalizing s with
  | nil => cases h
  | cons a l ih =>
    rw [commitEach, commits_bind_of_ok (exec_commit_of_ok rfl), commits_commit_of_ok rfl] at h
    rcases mem_append.1 h with hfirst | hrest
    · exact ⟨1, mem_singleton.1 hfirst⟩
    · obtain ⟨n, hn⟩ := ih hrest
      exact ⟨n + 1, hn⟩

/-! A run that is known whole: its answer and its commits. -/

theorem bind_apply_of_ok (h : x s = (.ok a, states)) :
    (x >>= f) s = ((f a (states.getLastD s)).1, states ++ (f a (states.getLastD s)).2) := by
  have hexec : exec x s = (.ok a, states.getLastD s) := by
    rw [exec, h]
  simp only [bind, hexec, commits, h]

theorem bind_apply_of_error (h : x s = (.error e, states)) : (x >>= f) s = (.error e, states) := by
  have hexec : exec x s = (.error e, states.getLastD s) := by
    rw [exec, h]
  simp only [bind, hexec, commits, h]

theorem ask_bind_apply_of_ok (h : q s = .ok a) : (ask q >>= f) s = f a s := by
  have hask : ask q s = (.ok a, []) := by
    rw [ask, h]
  exact bind_apply_of_ok hask

theorem ask_bind_apply_of_error (h : q s = .error e) : (ask q >>= f) s = (.error e, []) := by
  have hask : ask q s = (.error e, []) := by
    rw [ask, h]
  exact bind_apply_of_error hask

theorem demand_bind_apply_of_ok {x : Except ε α} (h : x = .ok a) : (demand x >>= f) s = f a s :=
  ask_bind_apply_of_ok h

theorem demand_bind_apply_of_error {x : Except ε α} (h : x = .error e) :
    (demand x >>= f) s = (.error e, []) :=
  ask_bind_apply_of_error h

theorem commit_bind_apply_of_ok (h : op s = .ok (a, s')) :
    (commit op fail >>= f) s = ((f a s').1, s' :: (f a s').2) := by
  have hcommit : commit op fail s = (.ok a, [s']) := by
    rw [commit, h]
  exact bind_apply_of_ok hcommit

theorem exec_of_apply_cons {y : Operation σ ε α} {s₁ : σ} (h : x s = ((y s₁).1, s₁ :: (y s₁).2)) :
    exec x s = exec y s₁ := by
  rw [exec, h, exec, getLastD_cons]

theorem exec_attempt {r : Except ε α} (h : exec x s = (r, s')) :
    exec (attempt x : Operation σ δ (Except ε α)) s = (.ok r, s') := by
  obtain ⟨hr, hs⟩ := Prod.mk.inj h
  rw [← hr, ← hs]
  rfl

theorem mem_of_exec {r : Except ε α} (h : exec x s = (r, s')) : s' ∈ s :: commits x s := by
  obtain rfl : (exec x s).2 = s' := congrArg Prod.snd h
  simp only [exec, commits, getLastD_eq_getLast?]
  cases h : (x s).2.getLast? with
  | none => simp
  | some s' => exact mem_cons_of_mem _ (mem_of_getLast? h)

theorem exec_ask_bind_of_ok (h : q s = .ok a) : exec (ask q >>= f) s = exec (f a) s :=
  exec_bind_of_ok (by rw [exec_ask, h])

theorem exec_read_bind (g : σ → α) (f : α → Operation σ ε β) (s : σ) :
    exec (ask (fun s => .ok (g s)) >>= f) s = exec (f (g s)) s :=
  exec_ask_bind_of_ok rfl

theorem exec_demand_bind_of_ok {x : Except ε α} (h : x = .ok a) :
    exec (demand x >>= f) s = exec (f a) s :=
  exec_bind_of_ok (by rw [demand, exec_ask, h])

theorem exec_demand_bind_of_error {x : Except ε α} (h : x = .error e) :
    exec (demand x >>= f) s = (.error e, s) :=
  exec_bind_of_error (by rw [demand, exec_ask, h])

theorem exec_commit_eq_ok : exec (commit op fail) s = (.ok a, s') ↔ op s = .ok (a, s') := by
  cases h : op s with
  | error e => simp [exec_commit_of_error h]
  | ok r => simp [exec_commit_of_ok (show op s = .ok (r.1, r.2) from h), Prod.ext_iff]

theorem exec_commit_eq_error :
    exec (commit op fail) s = (.error e, s') ↔ ∃ d, op s = .error d ∧ fail d = e ∧ s' = s := by
  cases h : op s with
  | error d => simp [exec_commit_of_error h, eq_comm]
  | ok r => simp [exec_commit_of_ok (show op s = .ok (r.1, r.2) from h)]

theorem exec_bind_cases (h : exec (x >>= f) s = (r, s')) :
    (∃ e, exec x s = (.error e, s') ∧ r = .error e) ∨
      ∃ a s₁, exec x s = (.ok a, s₁) ∧ exec (f a) s₁ = (r, s') := by
  rcases hx : exec x s with ⟨q, s₁⟩
  cases q with
  | error e =>
    rw [exec_bind_of_error hx, Prod.mk.injEq] at h
    exact .inl ⟨e, by rw [h.2], h.1.symm⟩
  | ok a =>
    rw [exec_bind_of_ok hx] at h
    exact .inr ⟨a, s₁, rfl, h⟩

theorem exec_ask_cases (h : exec (ask q >>= f) s = (r, s')) :
    (∃ e, q s = .error e ∧ r = .error e ∧ s' = s) ∨ ∃ a, q s = .ok a ∧ exec (f a) s = (r, s') := by
  obtain ⟨e, hq, hr⟩ | ⟨a, s₁, hq, hf⟩ := exec_bind_cases h
  · rw [exec_ask, Prod.mk.injEq] at hq
    exact .inl ⟨e, hq.1, hr, hq.2.symm⟩
  · rw [exec_ask, Prod.mk.injEq] at hq
    obtain ⟨hq, rfl⟩ := hq
    exact .inr ⟨a, hq, hf⟩

theorem exec_demand_cases {x : Except ε α} (h : exec (demand x >>= f) s = (r, s')) :
    (∃ e, x = .error e ∧ r = .error e ∧ s' = s) ∨ ∃ a, x = .ok a ∧ exec (f a) s = (r, s') :=
  exec_ask_cases h

theorem exec_commit_cases (h : exec (commit op fail >>= f) s = (r, s')) :
    (∃ d, op s = .error d ∧ r = .error (fail d) ∧ s' = s) ∨
      ∃ a s₁, op s = .ok (a, s₁) ∧ exec (f a) s₁ = (r, s') := by
  obtain ⟨e, hop, hr⟩ | ⟨a, s₁, hop, hf⟩ := exec_bind_cases h
  · obtain ⟨d, hd, hfail, hs⟩ := exec_commit_eq_error.1 hop
    exact .inl ⟨d, hd, hr.trans (congrArg _ hfail.symm), hs⟩
  · exact .inr ⟨a, s₁, exec_commit_eq_ok.1 hop, hf⟩

theorem mem_commits_bind (h : s' ∈ commits (x >>= f) s) :
    s' ∈ commits x s ∨ ∃ a s₁, exec x s = (.ok a, s₁) ∧ s' ∈ commits (f a) s₁ := by
  rcases hx : exec x s with ⟨q, s₁⟩
  cases q with
  | error e =>
    rw [commits_bind_of_error hx] at h
    exact .inl h
  | ok a =>
    rw [commits_bind_of_ok hx, mem_append] at h
    exact h.imp_right (fun hf => ⟨a, s₁, rfl, hf⟩)

theorem exists_of_mem_commits_commit (h : s' ∈ commits (commit op fail) s) :
    ∃ a, op s = .ok (a, s') := by
  cases hop : op s with
  | error e =>
    rw [commits_commit_of_error hop] at h
    cases h
  | ok out =>
    rw [commits_commit_of_ok hop, mem_singleton] at h
    exact ⟨out.1, by rw [h]⟩

theorem mem_commits_ask_bind (h : s' ∈ commits (ask q >>= f) s) :
    ∃ a, q s = .ok a ∧ s' ∈ commits (f a) s := by
  obtain h | ⟨a, s₁, hrun, h⟩ := mem_commits_bind h
  · cases h
  · rw [exec_ask, Prod.mk.injEq] at hrun
    obtain ⟨hq, rfl⟩ := hrun
    exact ⟨a, hq, h⟩

/-- The state if only `n` transactions were made. -/
def after (n : ℕ) (x : Operation σ ε α) (s : σ) : σ := ((commits x s).take n).getLastD s

theorem after_mem (n : ℕ) (x : Operation σ ε α) (s : σ) : after n x s ∈ s :: commits x s := by
  unfold after
  rw [getLastD_eq_getLast?]
  cases h : ((commits x s).take n).getLast? with
  | none => simp
  | some s' => exact mem_cons_of_mem _ (mem_of_mem_take (mem_of_getLast? h))

theorem after_congr {y : Operation σ ε β} (h : commits x s = commits y s) (n : ℕ) :
    after n x s = after n y s := by
  rw [after, h, after]

theorem commits_ask_bind_of_ok (h : q s = .ok a) : commits (ask q >>= f) s = commits (f a) s := by
  rw [commits, ask_bind_apply_of_ok h, commits]

theorem after_mem_dropLast {n : ℕ} (h : n < (commits x s).length) :
    after n x s ∈ s :: (commits x s).dropLast := by
  have hle : n ≤ (commits x s).length - 1 := by omega
  have htake : (commits x s).take n = (commits x s).dropLast.take n := by
    rw [dropLast_eq_take, take_take, Nat.min_eq_left hle]
  rw [after, htake, getLastD_eq_getLast?]
  cases hlast : ((commits x s).dropLast.take n).getLast? with
  | none => simp
  | some s' => exact mem_cons_of_mem _ (mem_of_mem_take (mem_of_getLast? hlast))

/-! ## What an operation does to the state -/

/-- Every transaction stays in `R`. -/
def Moves (R : σ → σ → Prop) (x : Operation σ ε α) : Prop :=
  ∀ s, ∀ s' ∈ s :: commits x s, R s s'

variable {R : σ → σ → Prop}

theorem Moves.exec (h : Moves R x) {r : Except ε α} (hrun : exec x s = (r, s')) : R s s' :=
  h s s' (mem_of_exec hrun)

theorem Moves.of_commits_eq_nil (hrefl : ∀ s, R s s) (h : ∀ s, commits x s = []) : Moves R x := by
  intro s s' hs'
  rw [h, mem_singleton] at hs'
  rw [hs']
  exact hrefl s

theorem Moves.pure (hrefl : ∀ s, R s s) (a : α) : Moves R (pure a : Operation σ ε α) :=
  Moves.of_commits_eq_nil hrefl (commits_pure a)

theorem Moves.ask (hrefl : ∀ s, R s s) (f : σ → Except ε α) : Moves R (ask f) :=
  Moves.of_commits_eq_nil hrefl (commits_ask f)

theorem Moves.commit (hrefl : ∀ s, R s s) (hop : ∀ s a s', op s = .ok (a, s') → R s s') :
    Moves R (commit op fail) := by
  intro s s' hs'
  rcases mem_cons.1 hs' with rfl | hs'
  · exact hrefl s'
  · cases h : op s with
    | error e =>
      rw [commits_commit_of_error h] at hs'
      cases hs'
    | ok r =>
      rw [commits_commit_of_ok (show op s = .ok (r.1, r.2) from h), mem_singleton] at hs'
      rw [hs']
      exact hop s _ _ h

theorem Moves.attempt (h : Moves R x) : Moves R (attempt x : Operation σ δ (Except ε α)) :=
  h

theorem Moves.bind (htrans : ∀ s₁ s₂ s₃, R s₁ s₂ → R s₂ s₃ → R s₁ s₃) (hx : Moves R x)
    (hf : ∀ a, Moves R (f a)) : Moves R (x >>= f) := by
  intro s s' hs'
  rcases mem_cons.1 hs' with rfl | hs'
  · exact hx s' s' (by simp)
  · obtain hs' | ⟨a, s₁, hrun, hs'⟩ := mem_commits_bind hs'
    · exact hx s s' (mem_cons_of_mem _ hs')
    · exact htrans _ _ _ (hx.exec hrun) (hf a s₁ s' (mem_cons_of_mem _ hs'))

theorem Moves.commitEach {f : α → σ → σ} (hrefl : ∀ s, R s s)
    (htrans : ∀ s₁ s₂ s₃, R s₁ s₂ → R s₂ s₃ → R s₁ s₃) (hf : ∀ a s, R s (f a s)) (l : List α) :
    Moves R (commitEach f fail l) := by
  induction l with
  | nil => exact Moves.pure hrefl ()
  | cons a l ih =>
    refine Moves.bind htrans (Moves.commit hrefl ?_) (fun _ => ih)
    intro s _ s' h
    cases h
    exact hf a s

theorem Moves.ask_bind (hrefl : ∀ s, R s s) (hf : ∀ a, (∃ s, q s = .ok a) → Moves R (f a)) :
    Moves R (Operation.ask q >>= f) := by
  intro s s' hs'
  rcases mem_cons.1 hs' with rfl | hs'
  · exact hrefl s'
  · obtain ⟨a, hq, hs'⟩ := mem_commits_ask_bind hs'
    exact hf a ⟨s, hq⟩ s s' (mem_cons_of_mem _ hs')

theorem Moves.demand_bind {x : Except ε α} (hrefl : ∀ s, R s s)
    (hf : ∀ a, x = .ok a → Moves R (f a)) : Moves R (Operation.demand x >>= f) :=
  Moves.ask_bind hrefl (fun a ⟨_, hx⟩ => hf a hx)

end Operation
