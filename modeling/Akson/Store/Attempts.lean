/-
# Attempts

A work order is claimed by inserting its attempt: the one row consumes the one-use nonce and
reserves the budget.
-/
import Akson.Store.Schema
import Akson.Lib.Trace

namespace Akson

open Except Option List Table

variable {s s' : Store} {workOrderId w : String} {state new : AttemptState} {env : Env}
  {call : AttemptCall} {now : Time} {row : AttemptRow}

/-! ## Lookups -/

namespace Store

def attemptRow (s : Store) (workOrderId : String) : Option AttemptRow :=
  s.attempts.find (fun r => r.workOrderId = workOrderId)

def attemptState (s : Store) (workOrderId : String) : Option AttemptState :=
  (s.attemptRow workOrderId).map AttemptRow.state

def attemptForTask (s : Store) (taskId : String) : Option String :=
  (s.attempts.find (fun r => r.taskId = taskId)).map AttemptRow.workOrderId

def resultRow (s : Store) (workOrderId : String) : Option ResultRow :=
  s.results.find (fun r => r.workOrderId = workOrderId)

def resultManifest (s : Store) (workOrderId : String) : Option (String × Bytes) :=
  (s.resultRow workOrderId).map (fun r => (r.bundleDigest, r.manifest))

def getWorkOrder (s : Store) (workOrderId : String) : Except StoreError (Option IssuedWorkOrder) :=
  match s.workOrders.find (fun r => r.workOrderId = workOrderId) with
  | none => .ok none
  | some row =>
    match row.order with
    | none => .error .seal
    | some issued => .ok (some issued)

end Store

theorem Store.attemptRow_eq_some_iff :
    s.attemptRow workOrderId = some row ↔ row ∈ s.attempts ∧ row.workOrderId = workOrderId := by
  rw [Store.attemptRow, find_eq_some_iff (onKey AttemptRow.workOrderId workOrderId fun _ _ => .inl), decide_eq_true_iff]

theorem Store.resultRow_eq_some_iff {row : ResultRow} :
    s.resultRow workOrderId = some row ↔ row ∈ s.results ∧ row.workOrderId = workOrderId := by
  rw [Store.resultRow, find_eq_some_iff (onKey ResultRow.workOrderId workOrderId), decide_eq_true_iff]

def AttemptState.active (state : AttemptState) : Prop := state = .claimed ∨ state = .running

instance (state : AttemptState) : Decidable state.active := inferInstanceAs (Decidable (_ ∨ _))

/-! ## The operations -/

/-- What became of a claim. -/
inductive ClaimOutcome where
  | claimed
  | alreadyClaimed (state : AttemptState)
  | nonceReused

def WorkOrder.claimRow (env : Env) (order : WorkOrder) (now : Time) : AttemptRow :=
  { workOrderId := order.workOrderId, nonce := order.nonce, taskId := order.taskId,
    workOrderDigest := order.digest env, state := .claimed,
    maxCostMicrousd := order.budgets.maxCostMicrousd, maxBytes := order.budgets.maxBytes,
    maxOperations := order.budgets.maxOperations, claimedAt := now, deadline := order.deadline }

/-- Claim an attempt under an order. -/
def claimAttempt (env : Env) (order : WorkOrder) (now : Time) (s : Store) :
    Except StoreError (ClaimOutcome × Store) :=
  match s.attemptState order.workOrderId with
  | some state => .ok (.alreadyClaimed state, s)
  | none =>
    if (s.attempts.find (fun r => r.nonce = order.nonce)).isSome then .ok (.nonceReused, s)
    else do
      let attempts ← insertRow s.attempts (order.claimRow env now)
      .ok (.claimed, ({ s with attempts := attempts } : Store).auditAppend now "attempt.claimed"
        order.workOrderId)

def AttemptRow.withState (state : AttemptState) (r : AttemptRow) : AttemptRow := { r with state }

def AttemptRow.isAt (workOrderId : String) (state : AttemptState) (r : AttemptRow) : Bool :=
  r.workOrderId = workOrderId ∧ r.state = state

theorem AttemptRow.isAt_iff {r : AttemptRow} :
    r.isAt workOrderId state = true ↔ r.workOrderId = workOrderId ∧ r.state = state := by
  simp [AttemptRow.isAt]

def casAttempt (workOrderId : String) (state new : AttemptState) (message : String) (s : Store) :
    Except StoreError Store :=
  if s.attempts.count (AttemptRow.isAt workOrderId state) ≠ 1 then .error (.corrupt message)
  else .ok { s with
    attempts := s.attempts.updateWhere (AttemptRow.isAt workOrderId state)
      (AttemptRow.withState new) }

def advanceAttempt (workOrderId : String) (event : AttemptEvent) (now : Time) (s : Store) :
    Except StoreError (Except TransitionError AttemptState × Store) := do
  let state ← okOr (s.attemptState workOrderId) (.unknownAttempt workOrderId)
  match state.next event with
  | .error e => .ok (.error e, s)
  | .ok new =>
    let s ← casAttempt workOrderId state new
      s!"attempt {workOrderId} changed state concurrently (expected {state.asStr})" s
    .ok (.ok new, s.auditAppend now "attempt.transition" s!"{workOrderId}:{new.asStr}")

def markAmbiguous (now : Time) (s : Store) (workOrderId : String) : Store :=
  ({ s with
    attempts := s.attempts.updateWhere (fun r => r.workOrderId = workOrderId)
      (AttemptRow.withState .ambiguous) } :
    Store).auditAppend now "attempt.transition" s!"{workOrderId}:ambiguous"

def AttemptRow.unsettled (r : AttemptRow) : Bool := r.state = .claimed ∨ r.state = .running

def resolveCrashedAttempts (now : Time) (s : Store) : ℕ × Store :=
  let ids := (s.attempts.select AttemptRow.unsettled).map AttemptRow.workOrderId
  (ids.length, ids.foldl (markAmbiguous now) s)

def putWorkOrder (issued : IssuedWorkOrder) (now : Time) (s : Store) : Store :=
  match s.workOrders.insert
    ⟨issued.order.workOrderId, issued.order.taskId, issued.digest, some issued, now⟩ with
  | none => s
  | some orders => ({ s with workOrders := orders } : Store).auditAppend now "work_order.issued"
      issued.order.workOrderId

/-- What became of a completion. -/
inductive CompletionOutcome where
  | completed
  | alreadyCompleted
  | notRunnable (state : AttemptState)

def stageResult (workOrderId taskId bundleDigest : String) (manifest : Bytes) (state : AttemptState)
    (now : Time) (s : Store) : Except StoreError (CompletionOutcome × Store) := do
  let s ← casAttempt workOrderId state .succeeded
    s!"attempt {workOrderId} changed state under completion" s
  let results ← insertRow s.results ⟨workOrderId, taskId, bundleDigest, manifest, now⟩
  let s := ({ s with results := results } : Store).auditAppend now "attempt.transition"
    s!"{workOrderId}:succeeded"
  .ok (.completed, s.auditAppend now "result.completed" bundleDigest)

def completeAttemptWithResult (workOrderId taskId bundleDigest : String) (manifest : Bytes)
    (now : Time) (s : Store) : Except StoreError (CompletionOutcome × Store) := do
  let state ← okOr (s.attemptState workOrderId) (.unknownAttempt workOrderId)
  match state with
  | .succeeded => .ok (.alreadyCompleted, s)
  | .claimed | .running => stageResult workOrderId taskId bundleDigest manifest state now s
  | other => .ok (.notRunnable other, s)

/-! ## What each operation does -/

theorem claimAttempt_cases {order : WorkOrder}
    {outcome : ClaimOutcome} (h : claimAttempt env order now s = .ok (outcome, s')) :
    (∃ state, outcome = .alreadyClaimed state ∧ s.attemptState order.workOrderId = some state ∧
        s' = s) ∨
      (outcome = .nonceReused ∧ s.attemptRow order.workOrderId = none ∧
        (∃ r ∈ s.attempts, r.nonce = order.nonce) ∧ s' = s) ∨
      (outcome = .claimed ∧ s.attemptRow order.workOrderId = none ∧
        ∃ attempts, s.attempts.insert (order.claimRow env now) = some attempts ∧
          s' = ({ s with attempts := attempts } : Store).auditAppend now "attempt.claimed"
            order.workOrderId) := by
  unfold claimAttempt at h
  split at h
  case h_1 state hstate =>
    cases h
    exact .inl ⟨state, rfl, hstate, rfl⟩
  case h_2 hstate =>
    rw [Store.attemptState, map_eq_none_iff] at hstate
    split at h
    case isTrue hnonce =>
      cases h
      obtain ⟨r, hr⟩ := isSome_iff_exists.1 hnonce
      exact .inr (.inl ⟨rfl, hstate, ⟨r, mem_of_find hr,
        by simpa using pred_of_find hr⟩, rfl⟩)
    case isFalse =>
      obtain ⟨attempts, hins, hout⟩ := bind_eq_ok.1 h
      cases hout
      exact .inr (.inr ⟨rfl, hstate, attempts, insertRow_eq_ok.1 hins, rfl⟩)

theorem claimAttempt_total (env : Env) (order : WorkOrder) (now : Time) (s : Store) :
    ∃ outcome s', claimAttempt env order now s = .ok (outcome, s') := by
  unfold claimAttempt
  split
  case h_1 => exact ⟨_, _, rfl⟩
  case h_2 hstate =>
    rw [Store.attemptState, map_eq_none_iff] at hstate
    split
    case isTrue => exact ⟨_, _, rfl⟩
    case isFalse hnonce =>
      rw [not_isSome_iff_eq_none] at hnonce
      cases hins : s.attempts.insert (order.claimRow env now) with
      | some attempts =>
        refine ⟨.claimed, _, bind_eq_ok.2 ⟨attempts, insertRow_eq_ok.2 hins, rfl⟩⟩
      | none =>
        obtain ⟨a, ha, hclash⟩ := insert_eq_none_iff.1 hins
        rcases hclash with hid | hn
        · exact absurd hid (of_decide_eq_false (find_eq_none_iff.1 hstate a ha))
        · exact absurd hn (of_decide_eq_false (find_eq_none_iff.1 hnonce a ha))

theorem putWorkOrder_of_fresh (issued : IssuedWorkOrder) (now : Time)
    (h : ∀ row ∈ s.workOrders, row.workOrderId ≠ issued.order.workOrderId) :
    ∃ orders audit, s.workOrders.insert ⟨issued.order.workOrderId, issued.order.taskId,
        issued.digest, some issued, now⟩ = some orders ∧
      putWorkOrder issued now s = { s with workOrders := orders, audit := audit } := by
  cases hins : s.workOrders.insert ⟨issued.order.workOrderId, issued.order.taskId, issued.digest,
      some issued, now⟩ with
  | none =>
    obtain ⟨row, hrow, hclash⟩ := insert_eq_none_iff.1 hins
    exact absurd hclash (h row hrow)
  | some orders =>
    refine ⟨orders, (s.auditAppend now "work_order.issued" issued.order.workOrderId).audit, rfl, ?_⟩
    rw [putWorkOrder, hins]
    rfl

theorem putWorkOrder_eq (issued : IssuedWorkOrder) (now : Time) (s : Store) :
    ∃ orders audit, putWorkOrder issued now s = { s with workOrders := orders, audit := audit } := by
  unfold putWorkOrder
  split
  · exact ⟨s.workOrders, s.audit, rfl⟩
  · exact ⟨_, _, rfl⟩

theorem Store.getWorkOrder_eq_some_iff {issued : IssuedWorkOrder} :
    s.getWorkOrder workOrderId = .ok (some issued) ↔
      ∃ row ∈ s.workOrders, row.workOrderId = workOrderId ∧ row.order = some issued := by
  rw [Store.getWorkOrder]
  constructor
  · intro h
    split at h
    case h_1 => cases h
    case h_2 row hrow =>
      split at h
      case h_1 => cases h
      case h_2 found horder =>
        obtain rfl := some.inj (ok.inj h)
        obtain ⟨hmem, hid⟩ := (find_eq_some_iff (onKey WorkOrderRow.workOrderId workOrderId)).1 hrow
        rw [decide_eq_true_eq] at hid
        exact ⟨row, hmem, hid, horder⟩
  · rintro ⟨row, hmem, hid, horder⟩
    rw [(find_eq_some_iff (onKey WorkOrderRow.workOrderId workOrderId)).2 ⟨hmem, decide_eq_true hid⟩]
    simp [horder]

variable {message bundleDigest taskId : String} {event : AttemptEvent} {outcome : CompletionOutcome}
  {manifest : Bytes}

theorem casAttempt_cases (h : casAttempt workOrderId state new message s = .ok s') :
    ∃ row attempts, s.attemptRow workOrderId = some row ∧ row.state = state ∧
      s' = { s with attempts := attempts } ∧
      s'.attemptRow workOrderId = some (row.withState new) ∧
      ∀ u, u ≠ workOrderId → s'.attemptRow u = s.attemptRow u := by
  unfold casAttempt at h
  split at h
  case isTrue => cases h
  case isFalse hcount =>
    cases h
    obtain ⟨row, hfind, hmatch, hself⟩ := find_updateWhere_of_count_eq_one
      (f := AttemptRow.withState new) (not_not.1 hcount)
      (onKey AttemptRow.workOrderId workOrderId fun _ _ => .inl)
      (fun r hr => decide_eq_true (AttemptRow.isAt_iff.1 hr).1) (fun _ => rfl)
    refine ⟨row, _, hfind, (AttemptRow.isAt_iff.1 hmatch).2, rfl, hself, fun u hu => ?_⟩
    refine find_updateWhere_of_not (f := AttemptRow.withState new)
      (fun _ => rfl) (fun other hother => ?_)
    exact decide_eq_false (fun hidu => hu (hidu.symm.trans (AttemptRow.isAt_iff.1 hother).1))

theorem casAttempt_attemptForTask (h : casAttempt workOrderId state new message s = .ok s')
    (taskId : String) : s'.attemptForTask taskId = s.attemptForTask taskId := by
  unfold casAttempt at h
  split at h
  case isTrue => cases h
  case isFalse =>
    cases h
    rw [Store.attemptForTask, find_updateWhere (f := AttemptRow.withState new) (fun _ => rfl),
      Option.map_map, Store.attemptForTask]
    refine congrArg (fun f => Option.map f _) (funext fun r => ?_)
    simp only [Function.comp_apply]
    split <;> rfl

theorem casAttempt_total
    (h : s.attemptState workOrderId = some state) (new : AttemptState) (message : String) :
    ∃ s', casAttempt workOrderId state new message s = .ok s' := by
  obtain ⟨row, hrow, rfl⟩ := map_eq_some_iff.1 h
  obtain ⟨hmem, hid⟩ := Store.attemptRow_eq_some_iff.1 hrow
  have hcount : s.attempts.count (AttemptRow.isAt workOrderId row.state) = 1 :=
    count_eq_one (fun a b ha hb => Or.inl
      ((AttemptRow.isAt_iff.1 ha).1.trans (AttemptRow.isAt_iff.1 hb).1.symm)) hmem
      (AttemptRow.isAt_iff.2 ⟨hid, rfl⟩)
  rw [casAttempt, if_neg (not_not.2 hcount)]
  exact ⟨_, rfl⟩

theorem advanceAttempt_cases {answer : Except TransitionError AttemptState}
    (h : advanceAttempt workOrderId event now s = .ok (answer, s')) :
    ∃ row, s.attemptRow workOrderId = some row ∧ answer = row.state.next event ∧
      ((∃ e, answer = .error e ∧ s' = s) ∨
        ∃ new attempts, answer = .ok new ∧
          s' = ({ s with attempts := attempts } : Store).auditAppend now "attempt.transition"
            s!"{workOrderId}:{new.asStr}" ∧
          s'.attemptRow workOrderId = some (row.withState new) ∧
          ∀ u, u ≠ workOrderId → s'.attemptRow u = s.attemptRow u) := by
  obtain ⟨state, hstate, h⟩ := bind_eq_ok.1 h
  obtain ⟨row, hrow, rfl⟩ := map_eq_some_iff.1 (okOr_eq_ok.1 hstate)
  cases hnext : row.state.next event with
  | error e =>
    rw [hnext] at h
    cases h
    exact ⟨row, hrow, hnext.symm, .inl ⟨e, rfl, rfl⟩⟩
  | ok new =>
    rw [hnext] at h
    obtain ⟨s₁, hcas, hout⟩ := bind_eq_ok.1 h
    cases hout
    obtain ⟨row', attempts, hrow', -, rfl, hself, hother⟩ := casAttempt_cases hcas
    rw [hrow, some.injEq] at hrow'
    subst hrow'
    exact ⟨row, hrow, hnext.symm, .inr ⟨new, attempts, rfl, rfl, hself, hother⟩⟩

theorem advanceAttempt_of_next
    (event : AttemptEvent) (hstate : s.attemptState workOrderId = some state)
    (hnext : state.next event = .ok new) (now : Time) :
    ∃ s', advanceAttempt workOrderId event now s = .ok (.ok new, s') ∧
      s'.attemptState workOrderId = some new ∧
      ∃ attempts audit, s' = { s with attempts := attempts, audit := audit } := by
  obtain ⟨s₁, hcas⟩ := casAttempt_total hstate new
    s!"attempt {workOrderId} changed state concurrently (expected {state.asStr})"
  obtain ⟨row, attempts, -, -, rfl, hself, -⟩ := casAttempt_cases hcas
  refine ⟨({ s with attempts := attempts } : Store).auditAppend now "attempt.transition"
    s!"{workOrderId}:{new.asStr}", ?_, congrArg (Option.map AttemptRow.state) hself, attempts, _, rfl⟩
  refine bind_eq_ok.2 ⟨state, okOr_eq_ok.2 hstate, ?_⟩
  rw [hnext]
  exact bind_eq_ok.2 ⟨_, hcas, rfl⟩

theorem stageResult_cases
    (h : stageResult workOrderId taskId bundleDigest manifest state now s = .ok (outcome, s')) :
    outcome = .completed ∧ ∃ row attempts results audit,
      s.attemptRow workOrderId = some row ∧
      s.results.insert ⟨workOrderId, taskId, bundleDigest, manifest, now⟩ = some results ∧
      s' = { s with attempts := attempts, results := results, audit := audit } ∧
      s'.attemptRow workOrderId = some (row.withState .succeeded) ∧
      ∀ u, u ≠ workOrderId → s'.attemptRow u = s.attemptRow u := by
  obtain ⟨s₁, hcas, h⟩ := bind_eq_ok.1 h
  obtain ⟨results, hins, hout⟩ := bind_eq_ok.1 h
  cases hout
  obtain ⟨row, attempts, hrow, -, rfl, hself, hother⟩ := casAttempt_cases hcas
  exact ⟨rfl, row, attempts, results, _, hrow, insertRow_eq_ok.1 hins, rfl, hself, hother⟩

theorem stageResult_total
    (hstate : s.attemptState workOrderId = some state) (hfree : s.resultRow workOrderId = none)
    (taskId digest : String) (manifest : Bytes) (now : Time) :
    ∃ s', stageResult workOrderId taskId digest manifest state now s = .ok (.completed, s') := by
  obtain ⟨s₁, hcas⟩ := casAttempt_total hstate .succeeded
    s!"attempt {workOrderId} changed state under completion"
  obtain ⟨row, attempts, -, -, hs₁, -⟩ := casAttempt_cases hcas
  have hinsert : ∃ results, s₁.results.insert ⟨workOrderId, taskId, digest, manifest, now⟩ =
      some results := by
    rw [hs₁]
    refine ne_none_iff_exists'.1 (fun hnone => ?_)
    obtain ⟨r, hr, hclash⟩ := insert_eq_none_iff.1 hnone
    exact of_decide_eq_false (find_eq_none_iff.1 hfree r hr) hclash
  obtain ⟨results, hinsert⟩ := hinsert
  exact ⟨_, bind_eq_ok.2 ⟨s₁, hcas, bind_eq_ok.2 ⟨results, insertRow_eq_ok.2 hinsert,
    rfl⟩⟩⟩

theorem completeAttemptWithResult_cases
    (h : completeAttemptWithResult workOrderId taskId bundleDigest manifest now s =
      .ok (outcome, s')) : ∃ row, s.attemptRow workOrderId = some row ∧
      ((outcome ≠ .completed ∧ s' = s) ∨ (row.unsettled = true ∧
        stageResult workOrderId taskId bundleDigest manifest row.state now s =
          .ok (outcome, s'))) := by
  obtain ⟨state, hstate, h⟩ := bind_eq_ok.1 h
  obtain ⟨row, hrow, rfl⟩ := map_eq_some_iff.1 (okOr_eq_ok.1 hstate)
  refine ⟨row, hrow, ?_⟩
  cases hst : row.state with
  | claimed | running =>
    rw [hst] at h
    exact .inr ⟨by simp [AttemptRow.unsettled, hst], h⟩
  | pending | succeeded | failed | ambiguous | cancelled =>
    rw [hst] at h
    cases h
    exact .inl ⟨by simp, rfl⟩

theorem markAmbiguous_attemptRow (now : Time) (s : Store) (workOrderId u : String) :
    (markAmbiguous now s workOrderId).attemptRow u =
      if u = workOrderId then (s.attemptRow u).map (AttemptRow.withState .ambiguous)
      else s.attemptRow u := by
  refine (find_updateWhere (f := AttemptRow.withState .ambiguous)
    (fun _ => rfl) s.attempts).trans ?_
  cases hrow : s.attemptRow u with
  | none =>
    rw [Store.attemptRow] at hrow
    simp [hrow]
  | some row =>
    have hid := (Store.attemptRow_eq_some_iff.1 hrow).2
    rw [Store.attemptRow] at hrow
    rw [hrow, map_some, hid]
    by_cases hu : u = workOrderId
    · simp [hu]
    · simp [hu]

theorem foldl_markAmbiguous_eq (now : Time) (ids : List String) (s : Store) :
    ∃ attempts audit, ids.foldl (markAmbiguous now) s =
      { s with attempts := attempts, audit := audit } := by
  induction ids generalizing s with
  | nil => exact ⟨s.attempts, s.audit, rfl⟩
  | cons id ids ih =>
    obtain ⟨attempts, audit, h⟩ := ih (markAmbiguous now s id)
    exact ⟨attempts, audit, h⟩

theorem foldl_markAmbiguous_attemptRow (now : Time) (ids : List String) (s : Store) (u : String) :
    (ids.foldl (markAmbiguous now) s).attemptRow u =
      if u ∈ ids then (s.attemptRow u).map (AttemptRow.withState .ambiguous)
      else s.attemptRow u := by
  induction ids generalizing s with
  | nil => rfl
  | cons id ids ih =>
    rw [foldl_cons, ih, markAmbiguous_attemptRow]
    by_cases hid : u = id
    · cases hrow : s.attemptRow u <;> simp [hid, AttemptRow.withState]
    · simp [hid]

theorem resolveCrashedAttempts_attemptRow (now : Time) (s : Store) (u : String) :
    (resolveCrashedAttempts now s).2.attemptRow u =
      (s.attemptRow u).map (fun r => if r.unsettled then r.withState .ambiguous else r) := by
  rw [resolveCrashedAttempts, foldl_markAmbiguous_attemptRow]
  cases hrow : s.attemptRow u with
  | none => simp
  | some row =>
    obtain ⟨hmem, hid⟩ := Store.attemptRow_eq_some_iff.1 hrow
    have hiff : u ∈ (s.attempts.select AttemptRow.unsettled).map AttemptRow.workOrderId ↔
        row.unsettled = true := by
      rw [List.mem_map]
      constructor
      · rintro ⟨other, hother, hidu⟩
        obtain ⟨hmem', hunsettled⟩ := mem_filter.1 hother
        rwa [s.attempts.eq_of_clash hmem hmem' (.inl (hid.trans hidu.symm))]
      · intro hunsettled
        exact ⟨row, mem_filter.2 ⟨hmem, hunsettled⟩, hid⟩
    by_cases hunsettled : row.unsettled = true
    · rw [if_pos (hiff.2 hunsettled), map_some, map_some, if_pos hunsettled]
    · rw [if_neg (hiff.not.2 hunsettled), map_some, if_neg hunsettled]

/-! ## Runs -/

/-- The operations on attempts, with their answers. -/
inductive AttemptCall where
  | claim (order : WorkOrder) (now : Time) (answer : Except StoreError ClaimOutcome)
  | advance (workOrderId : String) (event : AttemptEvent) (now : Time)
      (answer : Except StoreError (Except TransitionError AttemptState))
  | complete (workOrderId taskId bundleDigest : String) (manifest : Bytes) (now : Time)
      (answer : Except StoreError CompletionOutcome)
  | resolveCrashed (now : Time) (resolved : ℕ)
  | crash

def AttemptStep (env : Env) (s : Store) (call : AttemptCall) (s' : Store) : Prop :=
  match call with
  | .claim order now answer => transact (claimAttempt env order now) s = (answer, s')
  | .advance workOrderId event now answer => (event = .start ∨ event = .fail) ∧
      transact (advanceAttempt workOrderId event now) s = (answer, s')
  | .complete workOrderId taskId bundleDigest manifest now answer =>
    transact (completeAttemptWithResult workOrderId taskId bundleDigest manifest now) s =
      (answer, s')
  | .resolveCrashed now resolved => resolveCrashedAttempts now s = (resolved, s')
  | .crash => s' = s

/-- How one order's attempt and result can move. -/
inductive AttemptMove : Option AttemptRow → Option ResultRow → Option AttemptRow →
    Option ResultRow → Prop
  | stay (a r) : AttemptMove a r a r
  | claim (row r) : row.state = .claimed → AttemptMove none r (some row) r
  | move (row new r) : row.state.isTerminal = false → new ≠ .succeeded →
      AttemptMove (some row) r (some (row.withState new)) r
  | complete (row result) : row.state.isTerminal = false →
      AttemptMove (some row) none (some (row.withState .succeeded)) (some result)

theorem AttemptRow.isTerminal_of_unsettled (h : row.unsettled = true) :
    row.state.isTerminal = false := by
  simp only [AttemptRow.unsettled, decide_eq_true_eq] at h
  rcases h with h | h
  · rw [h]
    rfl
  · rw [h]
    rfl

theorem AttemptState.next_ne_succeeded (hevent : event = .start ∨ event = .fail)
    (h : state.next event = .ok new) : new ≠ .succeeded := by
  rcases hevent with rfl | rfl
  · revert h
    cases state <;> cases new <;> decide
  · revert h
    cases state <;> cases new <;> decide

theorem attemptStep_move (h : AttemptStep env s call s') (w : String) :
    AttemptMove (s.attemptRow w) (s.resultRow w) (s'.attemptRow w) (s'.resultRow w) := by
  cases call with
  | claim order now answer =>
    rcases transact_cases h with ⟨e, -, rfl⟩ | ⟨outcome, -, hop⟩
    · exact .stay _ _
    rcases claimAttempt_cases hop with
      ⟨-, -, -, rfl⟩ | ⟨-, -, -, rfl⟩ | ⟨-, hnone, attempts, hins, rfl⟩
    · exact .stay _ _
    · exact .stay _ _
    · by_cases hw : order.workOrderId = w
      · subst hw
        have hrow : Store.attemptRow { s with attempts := attempts } order.workOrderId =
            some (order.claimRow env now) :=
          Store.attemptRow_eq_some_iff.2 ⟨(mem_insert hins).2 (.inr rfl), rfl⟩
        rw [hnone]
        exact hrow ▸ .claim _ _ rfl
      · have hrow : Store.attemptRow { s with attempts := attempts } w = s.attemptRow w :=
          find_insert_of_not hins (decide_eq_false hw)
        exact hrow ▸ .stay _ _
  | advance workOrderId event now answer =>
    obtain ⟨hevent, h⟩ := h
    rcases transact_cases h with ⟨e, -, rfl⟩ | ⟨outcome, -, hop⟩
    · exact .stay _ _
    obtain ⟨row, hrow, hnext, ⟨e, -, rfl⟩ | ⟨new, attempts, rfl, hs', hself, hother⟩⟩ :=
      advanceAttempt_cases hop
    · exact .stay _ _
    · have hresult : s'.resultRow w = s.resultRow w := by rw [hs']; rfl
      rw [hresult]
      by_cases hw : w = workOrderId
      · subst hw
        rw [hrow, hself]
        exact .move row new _ (AttemptState.isTerminal_eq_false_of_next hnext.symm)
          (AttemptState.next_ne_succeeded hevent hnext.symm)
      · rw [hother w hw]
        exact .stay _ _
  | complete workOrderId taskId bundleDigest manifest now answer =>
    rcases transact_cases h with ⟨e, -, rfl⟩ | ⟨outcome, -, hop⟩
    · exact .stay _ _
    obtain ⟨row, hrow, ⟨-, rfl⟩ | ⟨hunsettled, hstage⟩⟩ := completeAttemptWithResult_cases hop
    · exact .stay _ _
    · obtain ⟨-, row', attempts, results, audit, hrow', hins, hs', hself, hother⟩ :=
        stageResult_cases hstage
      rw [hrow, some.injEq] at hrow'
      subst hrow'
      have hresults : s'.results = results := by rw [hs']
      by_cases hw : w = workOrderId
      · subst hw
        have hnone : s.resultRow w = none :=
          find_eq_none_iff.2 (fun r hr => decide_eq_false
            ((insert_eq_some_iff.1 hins).1 r hr))
        have hsome : s'.resultRow w = some ⟨w, taskId, bundleDigest, manifest, now⟩ := by
          rw [Store.resultRow_eq_some_iff, hresults]
          exact ⟨(mem_insert hins).2 (.inr rfl), rfl⟩
        rw [hrow, hself, hnone, hsome]
        exact .complete row _ (AttemptRow.isTerminal_of_unsettled hunsettled)
      · have hresult : s'.resultRow w = s.resultRow w := by
          rw [Store.resultRow, hresults]
          exact find_insert_of_not hins (decide_eq_false (Ne.symm hw))
        rw [hother w hw, hresult]
        exact .stay _ _
  | resolveCrashed now resolved =>
    have hs' : s' = (resolveCrashedAttempts now s).2 := (congrArg Prod.snd h).symm
    obtain ⟨attempts, audit, hfold⟩ := foldl_markAmbiguous_eq now
      ((s.attempts.select AttemptRow.unsettled).map AttemptRow.workOrderId) s
    have hresult : s'.resultRow w = s.resultRow w := by
      rw [hs', resolveCrashedAttempts, hfold]
      rfl
    rw [hresult, hs', resolveCrashedAttempts_attemptRow]
    cases s.attemptRow w with
    | none => exact .stay _ _
    | some row =>
      rw [map_some]
      split
      case isTrue hunsettled =>
        exact .move row .ambiguous _ (AttemptRow.isTerminal_of_unsettled hunsettled) (by decide)
      case isFalse => exact .stay _ _
  | crash =>
    rw [show s' = s from h]
    exact .stay _ _

theorem attemptStep_eq (h : AttemptStep env s call s') :
    ∃ attempts results audit, s' = { s with attempts := attempts, results := results, audit := audit } := by
  cases call with
  | claim order now answer =>
    rcases transact_cases h with ⟨e, -, rfl⟩ | ⟨outcome, -, hop⟩
    · exact ⟨_, _, _, rfl⟩
    rcases claimAttempt_cases hop with ⟨-, -, -, rfl⟩ | ⟨-, -, -, rfl⟩ | ⟨-, -, attempts, -, rfl⟩ <;>
      exact ⟨_, _, _, rfl⟩
  | advance workOrderId event now answer =>
    rcases transact_cases h.2 with ⟨e, -, rfl⟩ | ⟨outcome, -, hop⟩
    · exact ⟨_, _, _, rfl⟩
    obtain ⟨row, -, -, ⟨e, -, rfl⟩ | ⟨new, attempts, -, rfl, -⟩⟩ := advanceAttempt_cases hop <;>
      exact ⟨_, _, _, rfl⟩
  | complete workOrderId taskId bundleDigest manifest now answer =>
    rcases transact_cases h with ⟨e, -, rfl⟩ | ⟨outcome, -, hop⟩
    · exact ⟨_, _, _, rfl⟩
    obtain ⟨row, -, ⟨-, rfl⟩ | ⟨-, hstage⟩⟩ := completeAttemptWithResult_cases hop
    · exact ⟨_, _, _, rfl⟩
    · obtain ⟨-, row', attempts, results, audit, -, -, rfl, -⟩ := stageResult_cases hstage
      exact ⟨_, _, _, rfl⟩
  | resolveCrashed now resolved =>
    have hs' : s' = (resolveCrashedAttempts now s).2 := (congrArg Prod.snd h).symm
    obtain ⟨attempts, audit, hfold⟩ := foldl_markAmbiguous_eq now
      ((s.attempts.select AttemptRow.unsettled).map AttemptRow.workOrderId) s
    rw [hs', resolveCrashedAttempts, hfold]
    exact ⟨attempts, s.results, audit, rfl⟩
  | crash => exact ⟨s.attempts, s.results, s.audit, h⟩

def AttemptCall.claims : AttemptCall → Bool
  | .claim .. => true
  | .advance .. | .complete .. | .resolveCrashed .. | .crash => false

theorem attemptStep_of_not_claims
    (h : AttemptStep env s call s') (hclaims : call.claims = false) (w : String) :
    (s'.attemptRow w).map (AttemptRow.withState .claimed) =
      (s.attemptRow w).map (AttemptRow.withState .claimed) := by
  -- the row that a call moves is the one it read, in another state
  have hmoved : ∀ {id : String} {row : AttemptRow} {new : AttemptState},
      s.attemptRow id = some row → s'.attemptRow id = some (row.withState new) →
      (∀ u, u ≠ id → s'.attemptRow u = s.attemptRow u) →
      (s'.attemptRow w).map (AttemptRow.withState .claimed) =
        (s.attemptRow w).map (AttemptRow.withState .claimed) := by
    intro id row new hrow hself hother
    by_cases hw : w = id
    · subst hw
      rw [hrow, hself]
      rfl
    · rw [hother w hw]
  cases call with
  | claim order now answer => cases hclaims
  | advance workOrderId event now answer =>
    rcases transact_cases h.2 with ⟨e, -, rfl⟩ | ⟨outcome, -, hop⟩
    · rfl
    obtain ⟨row, hrow, -, ⟨e, -, rfl⟩ | ⟨new, attempts, -, -, hself, hother⟩⟩ :=
      advanceAttempt_cases hop
    · rfl
    · exact hmoved hrow hself hother
  | complete workOrderId taskId bundleDigest manifest now answer =>
    rcases transact_cases h with ⟨e, -, rfl⟩ | ⟨outcome, -, hop⟩
    · rfl
    obtain ⟨row, -, ⟨-, rfl⟩ | ⟨-, hstage⟩⟩ := completeAttemptWithResult_cases hop
    · rfl
    · obtain ⟨-, row', attempts, results, audit, hrow', -, -, hself, hother⟩ :=
        stageResult_cases hstage
      exact hmoved hrow' hself hother
  | resolveCrashed now resolved =>
    have hs' : s' = (resolveCrashedAttempts now s).2 := (congrArg Prod.snd h).symm
    rw [hs', resolveCrashedAttempts_attemptRow]
    cases s.attemptRow w with
    | none => rfl
    | some row =>
      rw [map_some, map_some, map_some]
      split <;> rfl
  | crash => rw [show s' = s from h]

/-! ## What every run keeps -/

def Settled (s : Store) (w : String) : Prop :=
  s.attemptState w = some .succeeded ↔ (s.resultRow w).isSome

theorem settled_of_empty (hattempts : s.attempts = ∅) (hresults : s.results = ∅)
    (w : String) : Settled s w := by
  simp [Settled, Store.attemptState, Store.attemptRow, Store.resultRow, hattempts, hresults,
    find_empty]

theorem attemptStep_settled (h : AttemptStep env s call s') (hs : Settled s w) : Settled s' w := by
  have hmove := attemptStep_move h w
  unfold Settled Store.attemptState at hs ⊢
  generalize s.attemptRow w = a, s.resultRow w = r, s'.attemptRow w = a',
    s'.resultRow w = r' at hs hmove
  cases hmove with
  | stay => exact hs
  | claim row r hclaimed =>
    -- no attempt, so no result either
    have hnone : ¬ r.isSome = true := fun hr => by simpa using hs.2 hr
    simp [hclaimed, hnone]
  | move row new r hterm hnew =>
    have hstate : row.state ≠ .succeeded := fun hsucc => by simp [hsucc, AttemptState.isTerminal] at hterm
    have hnone : ¬ r.isSome = true := fun hr => hstate (by simpa using hs.2 hr)
    simp [AttemptRow.withState, hnew, hnone]
  | complete row result hterm => simp [AttemptRow.withState]

theorem attemptStep_terminal (h : AttemptStep env s call s') (hterm : state.isTerminal = true)
    (hs : s.attemptState w = some state) : s'.attemptState w = some state := by
  have hmove := attemptStep_move h w
  unfold Store.attemptState at hs ⊢
  generalize s.attemptRow w = a, s.resultRow w = r, s'.attemptRow w = a',
    s'.resultRow w = r' at hs hmove
  cases hmove with
  | stay => exact hs
  | claim => cases hs
  | move row new r hopen hnew =>
    rw [map_some, some.injEq] at hs
    simp [hs, hterm] at hopen
  | complete row result hopen =>
    rw [map_some, some.injEq] at hs
    simp [hs, hterm] at hopen

theorem attemptStep_result
    {result : ResultRow} (h : AttemptStep env s call s') (hs : s.resultRow w = some result) :
    s'.resultRow w = some result := by
  have hmove := attemptStep_move h w
  generalize s.attemptRow w = a, s.resultRow w = r, s'.attemptRow w = a',
    s'.resultRow w = r' at hs hmove
  cases hmove with
  | stay | claim | move => exact hs
  | complete => cases hs

theorem attemptStep_row (h : AttemptStep env s call s')
    (hs : ∃ state, s.attemptRow w = some (row.withState state)) :
    ∃ state, s'.attemptRow w = some (row.withState state) := by
  have hmove := attemptStep_move h w
  obtain ⟨state, hs⟩ := hs
  generalize s.attemptRow w = a, s.resultRow w = r, s'.attemptRow w = a',
    s'.resultRow w = r' at hs hmove
  cases hmove with
  | stay => exact ⟨state, hs⟩
  | claim => cases hs
  | move row' new r hopen hnew =>
    rw [some.inj hs]
    exact ⟨new, rfl⟩
  | complete row' result hopen =>
    rw [some.inj hs]
    exact ⟨.succeeded, rfl⟩

/-- **One attempt, one result.**  In every run of the attempts of a new store: a nonce and a work
order have at most one attempt, which keeps its nonce; a settled state is final; an attempt has
succeeded exactly when there is one result for its work order; and that result stays as it was
written. -/
theorem attempts_and_results_agree (env : Env) {s₀ s₁ s₂ : Store} {calls₁ calls₂ : List AttemptCall}
    (hattempts : s₀.attempts = ∅) (hresults : s₀.results = ∅)
    (run₁ : Trace (AttemptStep env) s₀ calls₁ s₁) (run₂ : Trace (AttemptStep env) s₁ calls₂ s₂) :
    (∀ nonce, s₁.attempts.count (fun r => r.nonce = nonce) ≤ 1) ∧
    (∀ w, s₁.attempts.count (fun r => r.workOrderId = w) ≤ 1) ∧
    (∀ w row, s₁.attemptRow w = some row →
      ∃ row', s₂.attemptRow w = some row' ∧ row'.nonce = row.nonce) ∧
    (∀ w state, state ∈ [.succeeded, .failed, .cancelled, .ambiguous] →
      s₁.attemptState w = some state → s₂.attemptState w = some state) ∧
    (∀ w, s₁.attemptState w = some .succeeded ↔
      s₁.results.count (fun r => r.workOrderId = w) = 1) ∧
    (∀ w result, s₁.resultRow w = some result → s₂.resultRow w = some result) := by
  refine ⟨fun nonce => s₁.attempts.count_le_one (onKey AttemptRow.nonce nonce fun _ _ => .inr),
    fun w => s₁.attempts.count_le_one (onKey AttemptRow.workOrderId w fun _ _ => .inl), fun w row hrow => ?_,
    fun w state hmem hstate => ?_, fun w => ?_, fun w result hresult => ?_⟩
  · obtain ⟨state, hrow'⟩ := run₂.invariant
      (I := fun s => ∃ state, s.attemptRow w = some (row.withState state))
      (fun _ _ _ hs h => attemptStep_row h hs) ⟨row.state, hrow⟩
    exact ⟨_, hrow', rfl⟩
  · have hterm : state.isTerminal = true := by
      revert hmem
      cases state <;> decide
    exact run₂.invariant (I := fun s => s.attemptState w = some state)
      (fun _ _ _ hs h => attemptStep_terminal h hterm hs) hstate
  · have hsettled := run₁.invariant (I := fun s => Settled s w)
      (fun _ _ _ hs h => attemptStep_settled h hs) (settled_of_empty hattempts hresults w)
    refine hsettled.trans ⟨fun hsome => ?_, fun hone => ?_⟩
    · obtain ⟨result, hresult⟩ := isSome_iff_exists.1 hsome
      obtain ⟨hmem, hw⟩ := Store.resultRow_eq_some_iff.1 hresult
      exact count_eq_one (onKey ResultRow.workOrderId w) hmem (decide_eq_true hw)
    · obtain ⟨result, hmem, hw⟩ := exists_of_count_eq_one hone
      exact isSome_iff_exists.2
        ⟨result, Store.resultRow_eq_some_iff.2 ⟨hmem, of_decide_eq_true hw⟩⟩
  · exact run₂.invariant (I := fun s => s.resultRow w = some result)
      (fun _ _ _ hs h => attemptStep_result h hs) hresult

/-- A claim, its start and its completion; then a crash and the recovery. -/
theorem attempts_and_results_agree_sample : ∃ s₁ s₂ calls₁ calls₂,
    Trace (AttemptStep Env.inert) {} calls₁ s₁ ∧ Trace (AttemptStep Env.inert) s₁ calls₂ s₂ ∧
    s₁.attemptState "wo" = some .succeeded ∧ s₂.attemptState "wo" = some .succeeded ∧
    s₁.results.count (fun r => r.workOrderId = "wo") = 1 := by
  have run₁ : Trace (AttemptStep Env.inert) {} [.claim (.sample "wo" "nonce") 1 _,
      .advance "wo" .start 2 _, .complete "wo" "task-1" "bundle" [1] 3 _] _ :=
    .cons rfl (.cons ⟨.inl rfl, rfl⟩ (.cons rfl (.nil _)))
  have run₂ (s : Store) : Trace (AttemptStep Env.inert) s
      [.crash, .resolveCrashed 4 (resolveCrashedAttempts 4 s).1] (resolveCrashedAttempts 4 s).2 :=
    Trace.cons (show AttemptStep Env.inert s .crash s from rfl) (Trace.cons rfl (Trace.nil _))
  obtain ⟨-, -, -, hterm, hiff, -⟩ := attempts_and_results_agree Env.inert rfl rfl run₁ (run₂ _)
  refine ⟨_, _, _, _, run₁, run₂ _, by decide, ?_, ?_⟩
  · exact hterm "wo" .succeeded (by decide) (by decide)
  · exact (hiff "wo").1 (by decide)

end Akson
