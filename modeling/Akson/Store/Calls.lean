/-
# Processor calls

The record of a call is written before it is dispatched, and once for each idempotency key; the
number of records of a work order is bounded by its budget in the same transaction.
-/
import Akson.Store.Schema

namespace Akson

open Except Option Table

variable {s s' : Store} {key : String} {state new a b : SubAttemptState} {now : Time}
  {call : ProcessorCall} {event : SubAttemptEvent}

/-! ## Lookups -/

namespace Store

def callRow (s : Store) (key : String) : Option CallRow :=
  s.processorCalls.find (fun r => r.idempotencyKey = key)

def callState (s : Store) (key : String) : Option SubAttemptState :=
  (s.callRow key).map CallRow.state

def callCount (s : Store) (workOrderId : String) : ℕ :=
  s.processorCalls.count (fun r => r.workOrderId = workOrderId)

end Store

theorem Store.callRow_eq_some_iff {row : CallRow} :
    s.callRow key = some row ↔ row ∈ s.processorCalls ∧ row.idempotencyKey = key := by
  rw [Store.callRow, find_eq_some_iff (onKey CallRow.idempotencyKey key), decide_eq_true_iff]

/-! ## The operations -/

/-- What became of a prepared call. -/
inductive PrepareOutcome where
  | prepared
  | alreadyPrepared (state : SubAttemptState)
  | budgetExhausted (maxOperations : ℕ)

def ProcessorCall.row (call : ProcessorCall) (now : Time) : CallRow where
  idempotencyKey := call.idempotencyKey
  workOrderId := call.workOrderId
  taskId := call.taskId
  processorId := call.processorId
  provider := call.provider
  configDigest := call.configDigest
  requestDigest := call.requestDigest
  origin := call.origin
  state := .prepared
  maxCostMicrousd := call.maxCostMicrousd
  maxResponseBytes := call.maxResponseBytes
  deadline := call.deadline
  preparedAt := now

def prepareCall (call : ProcessorCall) (maxOperations : ℕ) (now : Time) (s : Store) :
    Except StoreError (PrepareOutcome × Store) :=
  match s.callState call.idempotencyKey with
  | some state => .ok (.alreadyPrepared state, s)
  | none =>
    if maxOperations ≤ s.callCount call.workOrderId then
      .ok (.budgetExhausted maxOperations, s)
    else do
      let calls ← insertRow s.processorCalls (call.row now)
      .ok (.prepared, ({ s with processorCalls := calls } : Store).auditAppend now
        "processor.prepared" call.idempotencyKey)

def CallRow.withState (state : SubAttemptState) (r : CallRow) : CallRow := { r with state }

def CallRow.isAt (key : String) (state : SubAttemptState) (r : CallRow) : Bool :=
  r.idempotencyKey = key ∧ r.state = state

theorem CallRow.isAt_iff {r : CallRow} :
    r.isAt key state = true ↔ r.idempotencyKey = key ∧ r.state = state := by
  simp [CallRow.isAt]

def casCall (key : String) (state new : SubAttemptState) (s : Store) : Except StoreError Store :=
  if s.processorCalls.count (CallRow.isAt key state) ≠ 1 then
    .error (.corrupt s!"processor call {key} changed state concurrently")
  else .ok { s with
    processorCalls := s.processorCalls.updateWhere (CallRow.isAt key state)
      (CallRow.withState new) }

def advanceCall (key : String) (event : SubAttemptEvent) (now : Time) (s : Store) :
    Except StoreError (Except SubTransitionError SubAttemptState × Store) := do
  let state ← okOr (s.callState key) (.unknownProcessorCall key)
  match state.next event with
  | .error e => .ok (.error e, s)
  | .ok new =>
    let s ← casCall key state new s
    .ok (.ok new, s.auditAppend now "processor.transition" s!"{key}:{new.asStr}")

def settleCall (now : Time) (s : Store) (key : String) : Store :=
  ({ s with
    processorCalls := s.processorCalls.updateWhere (CallRow.isAt key .dispatching)
      (CallRow.withState .ambiguous) } :
    Store).auditAppend now "processor.transition" s!"{key}:ambiguous"

def resolveCrashedCalls (now : Time) (s : Store) : ℕ × Store :=
  let keys := (s.processorCalls.select (fun r => r.state = .dispatching)).map CallRow.idempotencyKey
  (keys.length, keys.foldl (settleCall now) s)

/-! ## What each operation does -/

theorem prepareCall_cases {maxOperations : ℕ}
    {outcome : PrepareOutcome} (h : prepareCall call maxOperations now s = .ok (outcome, s')) :
    (∃ state, outcome = .alreadyPrepared state ∧ s.callState call.idempotencyKey = some state ∧
        s' = s) ∨
      (outcome = .budgetExhausted maxOperations ∧ s.callRow call.idempotencyKey = none ∧
        maxOperations ≤ s.callCount call.workOrderId ∧ s' = s) ∨
      (outcome = .prepared ∧ s.callRow call.idempotencyKey = none ∧
        s.callCount call.workOrderId < maxOperations ∧
        ∃ calls, s.processorCalls.insert (call.row now) = some calls ∧
          s' = ({ s with processorCalls := calls } : Store).auditAppend now "processor.prepared"
            call.idempotencyKey) := by
  unfold prepareCall at h
  split at h
  case h_1 state hstate =>
    cases h
    exact .inl ⟨state, rfl, hstate, rfl⟩
  case h_2 hstate =>
    rw [Store.callState, map_eq_none_iff] at hstate
    split at h
    case isTrue hfull =>
      cases h
      exact .inr (.inl ⟨rfl, hstate, hfull, rfl⟩)
    case isFalse hroom =>
      obtain ⟨calls, hins, hout⟩ := bind_eq_ok.1 h
      cases hout
      exact .inr (.inr ⟨rfl, hstate, not_le.1 hroom, calls, insertRow_eq_ok.1 hins, rfl⟩)

theorem prepareCall_total (call : ProcessorCall) (maxOperations : ℕ) (now : Time) (s : Store) :
    ∃ outcome s', prepareCall call maxOperations now s = .ok (outcome, s') := by
  unfold prepareCall
  split
  case h_1 => exact ⟨_, _, rfl⟩
  case h_2 hstate =>
    rw [Store.callState, map_eq_none_iff] at hstate
    split
    case isTrue => exact ⟨_, _, rfl⟩
    case isFalse =>
      obtain ⟨calls, hins⟩ := insert_of_find_eq_none (r := call.row now)
        (fun _ hclash => decide_eq_true hclash) hstate
      exact ⟨_, _, bind_eq_ok.2 ⟨calls, insertRow_eq_ok.2 hins, rfl⟩⟩

theorem casCall_cases (h : casCall key state new s = .ok s') :
    ∃ row calls, s.callRow key = some row ∧ row.state = state ∧
      calls = s.processorCalls.updateWhere (CallRow.isAt key state) (CallRow.withState new) ∧
      s' = { s with processorCalls := calls } ∧
      s'.callRow key = some (row.withState new) ∧
      ∀ k, k ≠ key → s'.callRow k = s.callRow k := by
  unfold casCall at h
  split at h
  case isTrue => cases h
  case isFalse hcount =>
    cases h
    obtain ⟨row, hfind, hmatch, hself⟩ := find_updateWhere_of_count_eq_one
      (f := CallRow.withState new) (not_not.1 hcount) (onKey CallRow.idempotencyKey key)
      (fun r hr => decide_eq_true (CallRow.isAt_iff.1 hr).1) (fun _ => rfl)
    refine ⟨row, _, hfind, (CallRow.isAt_iff.1 hmatch).2, rfl, rfl, hself, fun k hk => ?_⟩
    refine find_updateWhere_of_not (f := CallRow.withState new)
      (fun _ => rfl) (fun other hother => ?_)
    exact decide_eq_false (fun hkey => hk (hkey.symm.trans (CallRow.isAt_iff.1 hother).1))

theorem casCall_total (h : s.callState key = some state) (new : SubAttemptState) :
    ∃ s', casCall key state new s = .ok s' := by
  obtain ⟨row, hrow, rfl⟩ := map_eq_some_iff.1 h
  obtain ⟨hmem, hkey⟩ := Store.callRow_eq_some_iff.1 hrow
  have hcount : s.processorCalls.count (CallRow.isAt key row.state) = 1 :=
    count_eq_one (fun a b ha hb =>
      (CallRow.isAt_iff.1 ha).1.trans (CallRow.isAt_iff.1 hb).1.symm) hmem
      (CallRow.isAt_iff.2 ⟨hkey, rfl⟩)
  rw [casCall, if_neg (not_not.2 hcount)]
  exact ⟨_, rfl⟩

def SubAttemptState.stage : SubAttemptState → ℕ
  | .prepared => 0
  | .dispatching => 1
  | .completed | .failed | .ambiguous | .cancelled => 2

def SubAttemptState.Later (state state' : SubAttemptState) : Prop :=
  state' = state ∨ state.stage < state'.stage

theorem SubAttemptState.Later.refl (state : SubAttemptState) : state.Later state := .inl rfl

theorem SubAttemptState.Later.trans {c : SubAttemptState} (h : a.Later b) (h' : b.Later c) :
    a.Later c := by
  obtain rfl | h := h
  · exact h'
  · obtain rfl | h' := h'
    · exact .inr h
    · exact .inr (h.trans h')

theorem SubAttemptState.Later.stage_le (h : a.Later b) :
    a.stage ≤ b.stage := by
  obtain rfl | h := h
  · exact le_rfl
  · exact h.le

theorem SubAttemptState.Later.eq_of_isTerminal (h : a.Later b) (ha : a.isTerminal = true) : b = a := by
  obtain h | h := h
  · exact h
  · revert h ha
    cases a <;> cases b <;> decide

theorem SubAttemptState.stage_lt_next (h : state.next event = .ok new) : state.stage < new.stage := by
  revert h
  cases state <;> cases event <;> cases new <;> decide

theorem SubAttemptState.next_ne_dispatching
    (hevent : event ≠ .dispatch) (h : state.next event = .ok new) : new ≠ .dispatching := by
  revert hevent h
  cases state <;> cases event <;> cases new <;> decide

/-- No call goes back, and none is new. -/
structure CallsKept (s s' : Store) : Prop where
  kept : ∀ key row, s.callRow key = some row → ∃ state, s'.callRow key = some (row.withState state) ∧
    row.state.Later state
  fresh : ∀ key, s.callRow key = none → s'.callRow key = none
  count : ∀ w, s'.callCount w = s.callCount w

theorem CallsKept.of_eq (h : s'.processorCalls = s.processorCalls) :
    CallsKept s s' where
  kept key row hrow := by
    refine ⟨row.state, ?_, .refl _⟩
    rw [Store.callRow, h]
    exact hrow
  fresh key hnone := by rwa [Store.callRow, h]
  count w := by rw [Store.callCount, h, Store.callCount]

theorem CallsKept.trans {s₁ s₂ s₃ : Store} (h : CallsKept s₁ s₂) (h' : CallsKept s₂ s₃) :
    CallsKept s₁ s₃ where
  kept key row hrow := by
    obtain ⟨state, hrow₂, hlater⟩ := h.kept key row hrow
    obtain ⟨state', hrow₃, hlater'⟩ := h'.kept key _ hrow₂
    exact ⟨state', hrow₃, hlater.trans hlater'⟩
  fresh key hnone := h'.fresh key (h.fresh key hnone)
  count w := (h'.count w).trans (h.count w)

theorem callsKept_updateWhere {p : CallRow → Bool}
    (hnew : ∀ row, p row = true → row.state.stage < new.stage)
    (h : s'.processorCalls = s.processorCalls.updateWhere p (CallRow.withState new)) :
    CallsKept s s' := by
  have hfind : ∀ key, s'.callRow key =
      (s.callRow key).map (fun r => if p r then r.withState new else r) := by
    intro key
    rw [Store.callRow, h]
    exact find_updateWhere (f := CallRow.withState new) (fun _ => rfl) s.processorCalls
  constructor
  · intro key row hrow
    rw [hfind, hrow, map_some]
    by_cases hp : p row = true
    · rw [if_pos hp]
      exact ⟨new, rfl, .inr (hnew row hp)⟩
    · rw [if_neg hp]
      exact ⟨row.state, rfl, .refl _⟩
  · intro key hnone
    rw [hfind, hnone, map_none]
  · intro w
    rw [Store.callCount, h]
    exact count_updateWhere (f := CallRow.withState new) (fun _ => rfl) s.processorCalls

theorem advanceCall_cases {answer : Except SubTransitionError SubAttemptState}
    (h : advanceCall key event now s = .ok (answer, s')) :
    ∃ row, s.callRow key = some row ∧ answer = row.state.next event ∧
      ((∃ e, answer = .error e ∧ s' = s) ∨
        ∃ new calls, answer = .ok new ∧ CallsKept s s' ∧
          s' = ({ s with processorCalls := calls } : Store).auditAppend now "processor.transition"
            s!"{key}:{new.asStr}" ∧
          s'.callRow key = some (row.withState new) ∧
          ∀ k, k ≠ key → s'.callRow k = s.callRow k) := by
  obtain ⟨state, hstate, h⟩ := bind_eq_ok.1 h
  obtain ⟨row, hrow, rfl⟩ := map_eq_some_iff.1 (okOr_eq_ok.1 hstate)
  cases hnext : row.state.next event with
  | error e =>
    rw [hnext] at h
    cases h
    exact ⟨row, hrow, hnext.symm, .inl ⟨e, rfl, rfl⟩⟩
  | ok new =>
    rw [hnext] at h
    obtain ⟨s₁, hcas, hout⟩ := bind_eq_ok.1 h
    cases hout
    obtain ⟨row', calls, hrow', -, hcalls, rfl, hself, hother⟩ := casCall_cases hcas
    rw [hrow, some.injEq] at hrow'
    subst hrow'
    have hfurther : ∀ r, CallRow.isAt key row.state r = true → r.state.stage < new.stage := by
      intro r hr
      rw [(CallRow.isAt_iff.1 hr).2]
      exact SubAttemptState.stage_lt_next hnext
    exact ⟨row, hrow, hnext.symm, .inr ⟨new, calls, rfl,
      callsKept_updateWhere hfurther hcalls, rfl, hself, hother⟩⟩

theorem advanceCall_total {row : CallRow}
    (h : s.callRow key = some row) (event : SubAttemptEvent) (now : Time) :
    ∃ s', advanceCall key event now s = .ok (row.state.next event, s') := by
  have hstate : s.callState key = some row.state := by
    rw [Store.callState, h, map_some]
  cases hnext : row.state.next event with
  | error e =>
    refine ⟨s, bind_eq_ok.2 ⟨row.state, okOr_eq_ok.2 hstate, ?_⟩⟩
    rw [hnext]
  | ok new =>
    obtain ⟨s₁, hcas⟩ := casCall_total hstate new
    refine ⟨s₁.auditAppend now "processor.transition" s!"{key}:{new.asStr}",
      bind_eq_ok.2 ⟨row.state, okOr_eq_ok.2 hstate, ?_⟩⟩
    rw [hnext]
    exact bind_eq_ok.2 ⟨s₁, hcas, rfl⟩

theorem foldl_settleCall_eq (now : Time) (keys : List String) (s : Store) :
    ∃ calls audit, keys.foldl (settleCall now) s =
      { s with processorCalls := calls, audit := audit } := by
  induction keys generalizing s with
  | nil => exact ⟨s.processorCalls, s.audit, rfl⟩
  | cons key keys ih =>
    obtain ⟨calls, audit, heq⟩ := ih (settleCall now s key)
    exact ⟨calls, audit, heq⟩

theorem callsKept_foldl_settleCall (now : Time) (keys : List String) (s : Store) :
    CallsKept s (keys.foldl (settleCall now) s) := by
  induction keys generalizing s with
  | nil => exact .of_eq rfl
  | cons key keys ih =>
    exact .trans (callsKept_updateWhere (fun _ h => by rw [(CallRow.isAt_iff.1 h).2]; decide) rfl)
      (ih (settleCall now s key))

theorem settleCall_callState {k : String}
    (h : (settleCall now s k).callState key = some .dispatching) :
    s.callState key = some .dispatching := by
  obtain ⟨row', hrow', hstate⟩ := map_eq_some_iff.1 h
  have hfind : (settleCall now s k).callRow key = (s.callRow key).map (fun r =>
      if CallRow.isAt k .dispatching r then r.withState .ambiguous else r) :=
    find_updateWhere (f := CallRow.withState .ambiguous) (fun _ => rfl)
      s.processorCalls
  rw [hfind, map_eq_some_iff] at hrow'
  obtain ⟨row, hrow, rfl⟩ := hrow'
  rw [Store.callState, hrow, map_some]
  split at hstate
  · cases hstate
  · rw [hstate]

theorem foldl_settleCall_callState {keys : List String}
    (h : (keys.foldl (settleCall now) s).callState key = some .dispatching) :
    s.callState key = some .dispatching := by
  induction keys generalizing s with
  | nil => exact h
  | cons k keys ih => exact settleCall_callState (ih h)

/-- No call goes back, and new ones stay within the budget. -/
structure CallsGrow (w : String) (limit : ℕ) (s s' : Store) : Prop where
  kept : ∀ key row, s.callRow key = some row → ∃ state, s'.callRow key = some (row.withState state) ∧
    row.state.Later state
  count : ∀ u, s'.callCount u = s.callCount u ∨ (u = w ∧ s'.callCount u ≤ limit)

theorem CallsKept.grow (h : CallsKept s s') (w : String) (limit : ℕ) :
    CallsGrow w limit s s' :=
  ⟨h.kept, fun u => .inl (h.count u)⟩

theorem CallsGrow.trans_kept {w : String} {limit : ℕ} {s₁ s₂ s₃ : Store}
    (h : CallsGrow w limit s₁ s₂) (h' : CallsKept s₂ s₃) : CallsGrow w limit s₁ s₃ where
  kept key row hrow := by
    obtain ⟨state, hrow₂, hlater⟩ := h.kept key row hrow
    obtain ⟨state', hrow₃, hlater'⟩ := h'.kept key _ hrow₂
    exact ⟨state', hrow₃, hlater.trans hlater'⟩
  count u := by
    rw [h'.count u]
    exact h.count u

theorem callsGrow_prepareCall {maxOperations : ℕ} {outcome : PrepareOutcome}
    (h : prepareCall call maxOperations now s = .ok (outcome, s')) :
    CallsGrow call.workOrderId maxOperations s s' ∧
      (∃ calls audit, s' = { s with processorCalls := calls, audit := audit }) ∧
      ∀ key, key ≠ call.idempotencyKey → s'.callRow key = s.callRow key := by
  obtain ⟨-, -, -, rfl⟩ | ⟨-, -, -, rfl⟩ | ⟨-, -, hroom, calls, hins, rfl⟩ := prepareCall_cases h
  · exact ⟨(CallsKept.of_eq rfl).grow _ _, ⟨_, _, rfl⟩, fun _ _ => rfl⟩
  · exact ⟨(CallsKept.of_eq rfl).grow _ _, ⟨_, _, rfl⟩, fun _ _ => rfl⟩
  · refine ⟨⟨fun key row hrow => ⟨row.state, ?_, .refl _⟩, fun u => ?_⟩, ⟨_, _, rfl⟩,
      fun key hkey => ?_⟩
    · exact find_insert_of_some hins hrow
    · have hcount := count_insert hins (fun r => r.workOrderId = u)
      change calls.count _ = _ ∨ u = _ ∧ calls.count _ ≤ _
      rw [hcount]
      split
      case isTrue hu =>
        obtain rfl : call.workOrderId = u := of_decide_eq_true hu
        exact .inr ⟨rfl, hroom⟩
      case isFalse => exact .inl (Nat.add_zero _)
    · exact find_insert_of_not hins (decide_eq_false (Ne.symm hkey))

end Akson
