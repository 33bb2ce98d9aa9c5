/-
# The calls a daemon is making

Several processor calls may be under way at once.  Each takes the store twice, to be authorized and
to begin, and releases it in between and while it is sent.
-/
import Akson.Broker.Dispatch
import Akson.Task.Approve

namespace Akson

open Operation Option List Table

/-- How far a call in flight has come. -/
inductive CallStage where
  | authorized (q : CallRequest) (ticket : CallTicket)
  /-- Recorded, and about to be sent. -/
  | dispatching (q : CallRequest) (out : Outbound)
  | sent (q : CallRequest) (out : Outbound)

def CallStage.key : CallStage → Option String
  | .authorized _ _ => none
  | .dispatching _ out | .sent _ out => some out.call.idempotencyKey

def Begun.stage (q : CallRequest) : Begun → Option CallStage
  | .replayed _ => none
  | .dispatching out => some (.dispatching q out)

/-- The store, and the calls in flight. -/
structure BrokerState where
  store : Store
  up : Bool
  flights : ℕ → Option CallStage
  issuedFrom : String → Option Store

/-- What happens at the broker. -/
inductive CallEvent where
  | authorize (i : ℕ) (q : CallRequest) (answer : Except Problem CallTicket)
  | start (i : ℕ) (q : CallRequest) (answer : Except Problem Begun)
  /-- The process died while a call was beginning. -/
  | cutStart (i : ℕ) (q : CallRequest)
  | abandon (i : ℕ) (out : Outbound) (problem : Problem)
  | send (i : ℕ) (out : Outbound) (addr : IpAddr)
  | settle (i : ℕ) (out : Outbound) (result : TransportResult) (answer : Except Problem Json)
  | attempt (call : AttemptCall)
  | approve (a : Approval) (answer : Except Problem Json)
  | cutApprove (a : Approval)
  | configure (config : ProcessorConfig) (now : Time) (answer : Except StoreError Unit)
  | elsewhere
  | crash
  /-- The process died during recovery. -/
  | cutRestart (now : Time)
  | restart (now : Time)

def AttemptCall.serving : AttemptCall → Bool
  | .advance .. | .complete .. => true
  | .claim .. | .resolveCrashed .. | .crash => false

def noteIssued (s s' : Store) (issuedFrom : String → Option Store) : String → Option Store :=
  fun w =>
    if (s.workOrders.find (fun r => r.workOrderId = w)).isSome then issuedFrom w
    else if (s'.workOrders.find (fun r => r.workOrderId = w)).isSome then some s
    else issuedFrom w

/-- A step of another part of the daemon. -/
structure CallsElsewhere (s s' : Store) : Prop where
  workOrders : s'.workOrders = s.workOrders
  attempts : s'.attempts = s.attempts
  processors : s'.processors = s.processors
  processorCalls : s'.processorCalls = s.processorCalls

/-- One step of the broker. -/
inductive CallStep (env : Env) (me : LocalAuthority) : BrokerState → CallEvent → BrokerState → Prop
  | authorize {s fl g i q answer} (hidle : fl i = none) (hrun : authorizeCall q s = answer) :
      CallStep env me ⟨s, true, fl, g⟩ (.authorize i q answer)
        ⟨s, true, Function.update fl i (answer.toOption.map (.authorized q)), g⟩
  | start {s s' fl g i q ticket answer} (hstage : fl i = some (.authorized q ticket))
      (hrun : exec (beginDispatch env q ticket) s = (answer, s')) :
      CallStep env me ⟨s, true, fl, g⟩ (.start i q answer)
        ⟨s', true, Function.update fl i (answer.toOption.bind (Begun.stage q)), g⟩
  | cutStart {s s' fl g i q ticket} (hstage : fl i = some (.authorized q ticket))
      (hrun : s' ∈ commits (beginDispatch env q ticket) s) :
      CallStep env me ⟨s, true, fl, g⟩ (.cutStart i q) ⟨s', false, fun _ => none, g⟩
  | abandon {s s' fl g i q out addr problem answer} (hstage : fl i = some (.dispatching q out))
      (haddr : addressProblem env out.policy addr = some problem)
      (hrun : exec (abandonCall q out problem) s = (answer, s')) :
      CallStep env me ⟨s, true, fl, g⟩ (.abandon i out problem)
        ⟨s', true, Function.update fl i none, g⟩
  | send {s fl g i q out addr} (hstage : fl i = some (.dispatching q out))
      (haddr : addressProblem env out.policy (some addr) = none) :
      CallStep env me ⟨s, true, fl, g⟩ (.send i out addr)
        ⟨s, true, Function.update fl i (some (.sent q out)), g⟩
  | settle {s s' fl g i q out result answer} (hstage : fl i = some (.sent q out))
      (hrun : exec (finishCall q out result) s = (answer, s')) :
      CallStep env me ⟨s, true, fl, g⟩ (.settle i out result answer)
        ⟨s', true, Function.update fl i none, g⟩
  | attempt {s s' fl g call} (hserving : call.serving = true) (hrun : AttemptStep env s call s') :
      CallStep env me ⟨s, true, fl, g⟩ (.attempt call) ⟨s', true, fl, g⟩
  | approve {s s' fl g a answer} (hrun : exec (approveAndIssue env me a) s = (answer, s')) :
      CallStep env me ⟨s, true, fl, g⟩ (.approve a answer) ⟨s', true, fl, noteIssued s s' g⟩
  | cutApprove {s s' fl g a} (hrun : s' ∈ commits (approveAndIssue env me a) s) :
      CallStep env me ⟨s, true, fl, g⟩ (.cutApprove a) ⟨s', false, fun _ => none, noteIssued s s' g⟩
  | configure {s s' fl g config now answer}
      (hrun : transact (putProcessor config now) s = (answer, s')) :
      CallStep env me ⟨s, true, fl, g⟩ (.configure config now answer) ⟨s', true, fl, g⟩
  | elsewhere {s s' fl g} (hrun : CallsElsewhere s s') :
      CallStep env me ⟨s, true, fl, g⟩ .elsewhere ⟨s', true, fl, g⟩
  | crash {s up fl g} : CallStep env me ⟨s, up, fl, g⟩ .crash ⟨s, false, fun _ => none, g⟩
  | cutRestart {s fl g now} :
      CallStep env me ⟨s, false, fl, g⟩ (.cutRestart now)
        ⟨(resolveCrashedAttempts now s).2, false, fl, g⟩
  | restart {s fl g now} :
      CallStep env me ⟨s, false, fl, g⟩ (.restart now)
        ⟨(resolveCrashedCalls now (resolveCrashedAttempts now s).2).2, true, fl, g⟩

/-- No call and no order yet. -/
structure BrokerState.Fresh (e : BrokerState) : Prop where
  idle : ∀ i, e.flights i = none
  noCalls : ∀ row, ¬ row ∈ e.store.processorCalls
  noOrders : ∀ row, ¬ row ∈ e.store.workOrders

/-! ## What the steps do to the store -/

/-- The order is drafted from the contract that is open. -/
structure Drafted (env : Env) (a : Approval) (s : Store) (order : WorkOrder) (c : Contract) :
    Prop where
  opened : ∃ revision, s.contractHead a.taskId = .opened ⟨revision, order.contractDigest⟩
  loaded : s.loadContract env order.contractDigest = .ok c
  processor : ∀ scope, order.capabilities.grant .processorUse = some (.processorUse scope) →
    a.processor = some scope.processorId ∧ scope = c.processorScope scope.processorId ∧
      ∃ config, s.getProcessor scope.processorId = some config

/-- What an approval writes, as far as calls go. -/
structure ApprovalWrites (env : Env) (a : Approval) (s s' : Store) : Prop where
  processors : s'.processors = s.processors
  processorCalls : s'.processorCalls = s.processorCalls
  attempts : ∀ w row, s.attemptRow w = some row → s'.attemptRow w = some row
  kept : ∀ row ∈ s.workOrders, row ∈ s'.workOrders
  issued : ∀ row ∈ s'.workOrders, row ∈ s.workOrders ∨
    ∃ issued c, row.order = some issued ∧ Drafted env a s issued.order c

variable {w key : String} {j : ℕ} {q : CallRequest}

section Approvals

variable {env : Env} {me : LocalAuthority} {a : Approval} {s s' : Store}

theorem Contract.processorUse_mem_grants {c : Contract} {taskId digest deadline : String}
    {config : IssueConfig} {scope : ProcessorUseScope}
    (h : .processorUse scope ∈ c.grants taskId digest deadline config) :
    config.processorGrant = some scope.processorId ∧
      scope = c.processorScope scope.processorId := by
  obtain ⟨capability, -, hgrant⟩ | ⟨id, hid, hscope⟩ | ⟨-, hscope⟩ := Contract.mem_grants.1 h
  · cases capability <;> cases hgrant
  · obtain rfl := Grant.processorUse.inj hscope
    exact ⟨hid, rfl⟩
  · cases hscope

variable {order : WorkOrder}

theorem drafted_of_draftOrder {head : Head} {tls decisionId : String} {heads : Table HeadRow}
    {audit : List AuditEntry} (hopened : s.contractHead a.taskId = .opened head)
    (hlocked : ({ s with contractHeads := heads, audit := audit } : Store).contractHead a.taskId =
      .locked head) (h : draftOrder env a.taskId (a.config me tls decisionId) a.now
      { s with contractHeads := heads, audit := audit } = .ok order) :
    ∃ c, Drafted env a s order c := by
  obtain ⟨head', c, deadline, v, hhead', hload, hdraft, -, hv, rfl⟩ := draftOrder_eq_ok_iff.1 h
  rw [hlocked, HeadState.locked.injEq] at hhead'
  subst hhead'
  refine ⟨c, ⟨head.revision, hopened⟩, hload, fun scope hscope => ?_⟩
  have hmem : Grant.processorUse scope ∈ v.grants := mem_of_find?_eq_some hscope
  rw [hv] at hmem
  obtain ⟨hgrant, hscope⟩ := Contract.processorUse_mem_grants hmem
  obtain ⟨-, hsome⟩ := hdraft.processor _ hgrant
  exact ⟨hgrant, hscope, isSome_iff_exists.1 hsome⟩

theorem ApprovalWrites.refl (env : Env) (a : Approval) (s : Store) : ApprovalWrites env a s s :=
  ⟨rfl, rfl, fun _ _ => id, fun _ => id, fun _ => .inl⟩

theorem claimAttempt_attemptRow {now : Time} {outcome : ClaimOutcome}
    (h : claimAttempt env order now s = .ok (outcome, s')) {row : AttemptRow}
    (hrow : s.attemptRow w = some row) : s'.attemptRow w = some row := by
  obtain ⟨-, -, -, rfl⟩ | ⟨-, -, -, rfl⟩ | ⟨-, -, attempts, hins, rfl⟩ := claimAttempt_cases h
  · exact hrow
  · exact hrow
  · exact find_insert_of_some hins hrow

theorem approval_writes (h : s' ∈ s :: commits (approveAndIssue env me a) s) :
    ApprovalWrites env a s s' := by
  obtain rfl | h := mem_cons.1 h
  · exact ApprovalWrites.refl env a s'
  obtain ⟨head, c, tls, decisionId, s₁, happ, haccept, hrest⟩ := mem_commits_approveAndIssue h
  obtain ⟨hlocked, -, heads, audit, rfl⟩ := acceptContract_locks happ.opened haccept
  obtain rfl | ⟨order, outcome, s₂, hdraft, hclaim, hrest⟩ := hrest
  · exact ⟨rfl, rfl, fun _ _ => id, fun _ => id, fun _ => .inl⟩
  have hattempts : ∀ w row, s.attemptRow w = some row → s₂.attemptRow w = some row :=
    fun w row hrow => claimAttempt_attemptRow hclaim hrow
  have hframe : s₂.processors = s.processors ∧ s₂.processorCalls = s.processorCalls ∧
      s₂.workOrders = s.workOrders := by
    obtain ⟨-, -, -, rfl⟩ | ⟨-, -, -, rfl⟩ | ⟨-, -, attempts, -, rfl⟩ := claimAttempt_cases hclaim <;>
      exact ⟨rfl, rfl, rfl⟩
  obtain ⟨hprocessors, hcalls, horders⟩ := hframe
  obtain rfl | rfl := hrest
  · exact ⟨hprocessors, hcalls, hattempts, fun row hrow => horders ▸ hrow,
      fun row hrow => .inl (horders ▸ hrow)⟩
  -- the order is kept: it is the drafted one, unless its id is taken
  unfold putWorkOrder
  split
  case h_1 =>
    exact ⟨hprocessors, hcalls, hattempts, fun row hrow => horders ▸ hrow,
      fun row hrow => .inl (horders ▸ hrow)⟩
  case h_2 orders hins =>
    refine ⟨hprocessors, hcalls, hattempts, fun row hrow => ?_, fun row hrow => ?_⟩
    · exact (mem_insert hins).2 (.inl (horders ▸ hrow))
    · obtain hrow | rfl := (mem_insert hins).1 hrow
      · exact .inl (horders ▸ hrow)
      · obtain ⟨c', hdrafted⟩ := drafted_of_draftOrder happ.opened hlocked hdraft
        exact .inr ⟨_, c', rfl, hdrafted⟩

end Approvals

def CallEvent.begins : CallEvent → Option CallRequest
  | .start _ q _ | .cutStart _ q => some q
  | _ => none

def CallEvent.approval : CallEvent → Option Approval
  | .approve a _ | .cutApprove a => some a
  | _ => none

section Steps

variable {env : Env} {me : LocalAuthority} {e e' : BrokerState} {l : CallEvent}

theorem resolveCrashedAttempts_eq (now : Time) (s : Store) :
    ∃ attempts audit, (resolveCrashedAttempts now s).2 =
      { s with attempts := attempts, audit := audit } :=
  foldl_markAmbiguous_eq now _ s

theorem resolveCrashedCalls_eq (now : Time) (s : Store) :
    ∃ calls audit, (resolveCrashedCalls now s).2 =
      { s with processorCalls := calls, audit := audit } :=
  foldl_settleCall_eq now _ s

theorem callStep_calls (h : CallStep env me e l e') :
    (∃ i q ticket, l.begins = some q ∧ e.flights i = some (.authorized q ticket) ∧
      e'.store ∈ e.store :: commits (beginDispatch env q ticket) e.store) ∨
    (CallsKept e.store e'.store ∧
      ∀ k, e'.store.callState k = some .dispatching → e.store.callState k = some .dispatching) := by
  have hsame : ∀ {s s' : Store}, s'.processorCalls = s.processorCalls → CallsKept s s' ∧
      ∀ k, s'.callState k = some .dispatching → s.callState k = some .dispatching := by
    intro s s' hcalls
    refine ⟨.of_eq hcalls, fun k hk => ?_⟩
    rwa [Store.callState, Store.callRow, ← hcalls]
  cases h with
  | authorize | send | crash => exact .inr (hsame rfl)
  | start hstage hrun => exact .inl ⟨_, _, _, rfl, hstage, mem_of_exec hrun⟩
  | cutStart hstage hrun => exact .inl ⟨_, _, _, rfl, hstage, mem_cons_of_mem _ hrun⟩
  | abandon hstage haddr hrun =>
    have hended := (moves_abandonCall _).exec hrun
    exact .inr ⟨hended.kept, hended.ended⟩
  | settle hstage hrun =>
    have hended := (moves_finishCall _).exec hrun
    exact .inr ⟨hended.kept, hended.ended⟩
  | attempt hserving hrun =>
    obtain ⟨attempts, results, audit, rfl⟩ := attemptStep_eq hrun
    exact .inr (hsame rfl)
  | approve hrun => exact .inr (hsame (approval_writes (mem_of_exec hrun)).processorCalls)
  | cutApprove hrun =>
    exact .inr (hsame (approval_writes (mem_cons_of_mem _ hrun)).processorCalls)
  | configure hrun =>
    obtain ⟨e, -, rfl⟩ | ⟨u, -, hop⟩ := transact_cases hrun
    · exact .inr (hsame rfl)
    · obtain ⟨rows, -, rfl⟩ := putProcessor_eq hop
      exact .inr (hsame rfl)
  | elsewhere hrun => exact .inr (hsame hrun.processorCalls)
  | @cutRestart s fl g now =>
    obtain ⟨attempts, audit, heq⟩ := resolveCrashedAttempts_eq now s
    change _ ∨ (CallsKept s (resolveCrashedAttempts now s).2 ∧
      ∀ k, (resolveCrashedAttempts now s).2.callState k = _ → s.callState k = _)
    rw [heq]
    exact .inr (hsame rfl)
  | @restart s fl g now =>
    obtain ⟨attempts, audit, heq⟩ := resolveCrashedAttempts_eq now s
    have hcalls : (resolveCrashedAttempts now s).2.processorCalls = s.processorCalls := by rw [heq]
    have hattempts := hsame hcalls
    exact .inr ⟨hattempts.1.trans (callsKept_foldl_settleCall now _ _),
      fun k hk => hattempts.2 k (foldl_settleCall_callState hk)⟩

/-- What a step can do to the store. -/
inductive Touches (env : Env) (l : CallEvent) : Store → Store → Prop
  | calls {s : Store} (calls : Table CallRow) (audit : List AuditEntry) :
      Touches env l s { s with processorCalls := calls, audit := audit }
  | attempt {s s' : Store} {call : AttemptCall} (hl : l = .attempt call)
      (hserving : call.serving = true) (hrun : AttemptStep env s call s') : Touches env l s s'
  | recover {s : Store} (hl : ∃ now, l = .cutRestart now ∨ l = .restart now)
      (attempts : Table AttemptRow) (calls : Table CallRow) (audit : List AuditEntry) :
      Touches env l s { s with attempts := attempts, processorCalls := calls, audit := audit }
  | approve {s s' : Store} {a : Approval} (hl : l.approval = some a)
      (hwrites : ApprovalWrites env a s s') : Touches env l s s'
  | configure {s : Store} {config : ProcessorConfig} {now : Time} {answer : Except StoreError Unit}
      {rows : Table ProcessorRow} (hl : l = .configure config now answer)
      (hrows : s.processors.upsert (fun r => r.processorId = config.processorId)
        (ProcessorRow.reconfigured (config.row now)) (config.row now) = some rows) :
      Touches env l s (({ s with processors := rows } : Store).auditAppend now
        "processor.configured" config.processorId)
  | elsewhere {s s' : Store} (hrun : CallsElsewhere s s') : Touches env l s s'

theorem callStep_touches (h : CallStep env me e l e') : Touches env l e.store e'.store := by
  cases h with
  | authorize | send | crash => exact .calls _ _
  | start hstage hrun =>
    obtain ⟨-, calls, audit, rfl⟩ := beginDispatch_writes (mem_of_exec hrun)
    exact .calls calls audit
  | cutStart hstage hrun =>
    obtain ⟨-, calls, audit, rfl⟩ := beginDispatch_writes (mem_cons_of_mem _ hrun)
    exact .calls calls audit
  | abandon hstage haddr hrun =>
    obtain ⟨calls, audit, rfl⟩ := ((moves_abandonCall _).exec hrun).frame
    exact .calls calls audit
  | settle hstage hrun =>
    obtain ⟨calls, audit, rfl⟩ := ((moves_finishCall _).exec hrun).frame
    exact .calls calls audit
  | attempt hserving hrun => exact .attempt rfl hserving hrun
  | approve hrun => exact .approve rfl (approval_writes (mem_of_exec hrun))
  | cutApprove hrun => exact .approve rfl (approval_writes (mem_cons_of_mem _ hrun))
  | @configure s s' fl g config now answer hrun =>
    obtain ⟨e, -, rfl⟩ | ⟨u, -, hop⟩ := transact_cases hrun
    · exact .calls _ _
    · obtain ⟨rows, hrows, rfl⟩ := putProcessor_eq hop
      exact .configure rfl hrows
  | elsewhere hrun => exact .elsewhere hrun
  | @cutRestart s fl g now =>
    obtain ⟨attempts, audit, heq⟩ := resolveCrashedAttempts_eq now s
    change Touches env _ s (resolveCrashedAttempts now s).2
    rw [heq]
    exact .recover ⟨now, .inl rfl⟩ attempts _ audit
  | @restart s fl g now =>
    obtain ⟨attempts, audit, heq⟩ := resolveCrashedAttempts_eq now s
    obtain ⟨calls, audit', hcalls⟩ := resolveCrashedCalls_eq now (resolveCrashedAttempts now s).2
    change Touches env _ s (resolveCrashedCalls now (resolveCrashedAttempts now s).2).2
    rw [hcalls, heq]
    exact .recover ⟨now, .inr rfl⟩ attempts calls audit'

theorem callStep_orders (h : CallStep env me e l e') :
    ∀ row ∈ e.store.workOrders, row ∈ e'.store.workOrders := by
  have htouches := callStep_touches h
  generalize e.store = s at htouches ⊢
  generalize e'.store = s' at htouches ⊢
  cases htouches with
  | calls | recover | configure => exact fun _ => id
  | attempt hl hserving hrun =>
    obtain ⟨attempts, results, audit, rfl⟩ := attemptStep_eq hrun
    exact fun _ => id
  | approve hl hwrites => exact hwrites.kept
  | elsewhere hrun => exact fun row hrow => hrun.workOrders ▸ hrow

theorem callStep_getWorkOrder (h : CallStep env me e l e') {issued : IssuedWorkOrder}
    (hstored : e.store.getWorkOrder w = .ok (some issued)) :
    e'.store.getWorkOrder w = .ok (some issued) := by
  obtain ⟨row, hrow, hid, horder⟩ := Store.getWorkOrder_eq_some_iff.1 hstored
  exact Store.getWorkOrder_eq_some_iff.2 ⟨row, callStep_orders h row hrow, hid, horder⟩

end Steps

/-! ## Sent at most once -/

/-- Each call in flight holds its row in `dispatching`, alone. -/
structure Flying (s : Store) (up : Bool) (fl : ℕ → Option CallStage) : Prop where
  /-- A call that has begun is recorded as dispatching, -/
  held : ∀ i stage key, fl i = some stage → stage.key = some key →
    s.callState key = some .dispatching
  /-- by one flight only. -/
  single : ∀ i j stage stage' key, fl i = some stage → fl j = some stage' →
    stage.key = some key → stage'.key = some key → i = j
  /-- A process that is down makes no call. -/
  down : up = false → ∀ i, fl i = none

def BrokerState.Flying (e : BrokerState) : Prop := Akson.Flying e.store e.up e.flights

def CallEvent.sends (key : String) : CallEvent → Bool
  | .send _ out _ => out.call.idempotencyKey = key
  | _ => false

section Flying

variable {env : Env} {me : LocalAuthority} {e e' : BrokerState} {l : CallEvent} {s s' : Store}
  {fl : ℕ → Option CallStage} {i : ℕ}

theorem Flying.grounded (s : Store) (up : Bool) : Flying s up (fun _ => none) where
  held _ _ _ hstage := by cases hstage
  single _ _ _ _ _ hstage := by cases hstage
  down _ _ := rfl

theorem Flying.update (h : Flying s true fl) (stage' : Option CallStage)
    (hself : ∀ stage key, stage' = some stage → stage.key = some key →
      s'.callState key = some .dispatching ∧
        ∀ j other, j ≠ i → fl j = some other → other.key ≠ some key)
    (hother : ∀ j other key, j ≠ i → fl j = some other → other.key = some key →
      s'.callState key = some .dispatching) :
    Flying s' true (Function.update fl i stage') where
  held j stage key hj hkey := by
    by_cases hji : j = i
    · subst hji
      rw [Function.update_self] at hj
      exact (hself stage key hj hkey).1
    · rw [Function.update_of_ne hji] at hj
      exact hother j stage key hji hj hkey
  single j k stage stage'' key hj hk hkey hkey' := by
    by_cases hji : j = i
    · by_cases hki : k = i
      · rw [hji, hki]
      · subst hji
        rw [Function.update_self] at hj
        rw [Function.update_of_ne hki] at hk
        exact absurd hkey' ((hself stage key hj hkey).2 k stage'' hki hk)
    · rw [Function.update_of_ne hji] at hj
      by_cases hki : k = i
      · subst hki
        rw [Function.update_self] at hk
        exact absurd hkey ((hself stage'' key hk hkey').2 j stage hji hj)
      · rw [Function.update_of_ne hki] at hk
        exact h.single j k stage stage'' key hj hk hkey hkey'
  down hup := absurd hup (by decide)

theorem Flying.of_eq (h : Flying s true fl)
    (hcalls : s'.processorCalls = s.processorCalls) : Flying s' true fl where
  held j stage key hj hkey := by
    rw [Store.callState, Store.callRow, hcalls]
    exact h.held j stage key hj hkey
  single := h.single
  down hup := absurd hup (by decide)

theorem Flying.ended (h : Flying s true fl) {stage : CallStage} (hstage : fl i = some stage)
    (hkey : stage.key = some key) (hended : Ended key s s') :
    Flying s' true (Function.update fl i none) := by
  refine h.update none (fun _ _ hstage => by cases hstage) (fun j other key' hji hj hkey' => ?_)
  have hne : key' ≠ key := by
    rintro rfl
    exact hji (h.single j i other stage key' hj hstage hkey' hkey)
  rw [Store.callState, hended.other key' hne]
  exact h.held j other key' hj hkey'

theorem flying_step (h : e.Flying) (hstep : CallStep env me e l e') : e'.Flying := by
  cases hstep with
  | @authorize s fl g i q answer hidle hrun =>
    refine h.update _ (fun stage key hstage hkey => ?_) (fun j other key _ hj hkey => ?_)
    · obtain ⟨ticket, -, rfl⟩ := map_eq_some_iff.1 hstage
      cases hkey
    · exact h.held j other key hj hkey
  | @start s s' fl g i q ticket answer hstage hrun =>
    by_cases hdispatching : ∃ out, answer = .ok (.dispatching out)
    · obtain ⟨out, rfl⟩ := hdispatching
      obtain ⟨config, hbegins, rfl, hself, hother⟩ := beginDispatch_dispatches hrun
      -- a call that has not begun is held by no other flight
      have hfree : ∀ j other key, fl j = some other → other.key = some key →
          key ≠ (ticket.call env q config).idempotencyKey := by
        rintro j other key hj hkey rfl
        exact hbegins.not_dispatching (h.held j other _ hj hkey)
      refine h.update _ (fun stage key hsome hkey => ?_) (fun j other key _ hj hkey => ?_)
      · cases hsome
        cases hkey
        exact ⟨hself, fun j other _ hj hkey' => hfree j other _ hj hkey' rfl⟩
      · rw [Store.callState, hother key (hfree j other key hj hkey)]
        exact h.held j other key hj hkey
    · have hdeclined := beginDispatch_declines hrun (fun out hout => hdispatching ⟨out, hout⟩)
      subst hdeclined
      have hnone : answer.toOption.bind (Begun.stage q) = none := by
        cases answer with
        | error e => rfl
        | ok begun =>
          cases begun with
          | replayed json => rfl
          | dispatching out => exact absurd ⟨out, rfl⟩ hdispatching
      rw [hnone]
      exact h.update none (fun _ _ hstage => by cases hstage)
        (fun j other key _ hj hkey => h.held j other key hj hkey)
  | cutStart | cutApprove | crash => exact .grounded _ _
  | abandon hstage haddr hrun => exact h.ended hstage rfl ((moves_abandonCall _).exec hrun)
  | @send s fl g i q out addr hstage haddr =>
    refine h.update _ (fun stage key hsome hkey => ?_)
      (fun j other key _ hj hkey => h.held j other key hj hkey)
    cases hsome
    refine ⟨h.held i _ key hstage hkey, fun j other hji hj hkey' => ?_⟩
    exact hji (h.single j i other _ key hj hstage hkey' hkey)
  | settle hstage hrun => exact h.ended hstage rfl ((moves_finishCall _).exec hrun)
  | attempt hserving hrun =>
    obtain ⟨attempts, results, audit, rfl⟩ := attemptStep_eq hrun
    exact h.of_eq rfl
  | approve hrun => exact h.of_eq (approval_writes (mem_of_exec hrun)).processorCalls
  | configure hrun =>
    obtain ⟨e, -, rfl⟩ | ⟨u, -, hop⟩ := transact_cases hrun
    · exact h.of_eq rfl
    · obtain ⟨rows, -, rfl⟩ := putProcessor_eq hop
      exact h.of_eq rfl
  | elsewhere hrun => exact h.of_eq hrun.processorCalls
  | cutRestart | restart =>
    obtain rfl := funext (h.down rfl)
    exact .grounded _ _

theorem callStep_callRow (h : CallStep env me e l e') {row : CallRow}
    (hrow : e.store.callRow key = some row) :
    ∃ state, e'.store.callRow key = some (row.withState state) ∧ row.state.Later state := by
  obtain ⟨i, q, ticket, -, -, hmem⟩ | ⟨hkept, -⟩ := callStep_calls h
  · exact (beginDispatch_writes hmem).1.kept key row hrow
  · exact hkept.kept key row hrow

theorem update_flight {stage : Option CallStage} {stage' : CallStage}
    (h : Function.update fl i stage j = some stage') : stage = some stage' ∨ fl j = some stage' := by
  by_cases hji : j = i
  · rw [hji, Function.update_self] at h
    exact .inl h
  · rw [Function.update_of_ne hji] at h
    exact .inr h

/-- A call stands where it stood, or it has just been authorized, or begun, or sent. -/
theorem callStep_flight (h : CallStep env me e l e') {stage : CallStage}
    (hflight : e'.flights j = some stage) : e.flights j = some stage ∨
      (∃ q ticket, stage = .authorized q ticket ∧ authorizeCall q e.store = .ok ticket ∧
        e'.store = e.store) ∨
      (∃ q out ticket config, stage = .dispatching q out ∧ Begins env q ticket e.store config ∧
        out.call = ticket.call env q config) ∨ ∃ q out, stage = .sent q out := by
  cases h with
  | @authorize s fl g i q answer hidle hrun =>
    obtain hanswer | hflight := update_flight hflight
    · obtain ⟨ticket, hticket, rfl⟩ := map_eq_some_iff.1 hanswer
      cases answer with
      | error e => cases hticket
      | ok ticket' =>
        cases hticket
        exact .inr (.inl ⟨q, ticket, rfl, hrun, rfl⟩)
    · exact .inl hflight
  | @start s s' fl g i q ticket answer hstage hrun =>
    obtain hbegun | hflight := update_flight hflight
    · obtain ⟨begun, hanswer, hbegun⟩ := bind_eq_some_iff.1 hbegun
      cases begun with
      | replayed json => cases hbegun
      | dispatching out =>
        cases hbegun
        cases answer with
        | error e => cases hanswer
        | ok begun =>
          cases hanswer
          obtain ⟨config, hbegins, rfl, -⟩ := beginDispatch_dispatches hrun
          exact .inr (.inr (.inl ⟨q, _, ticket, config, rfl, hbegins, rfl⟩))
    · exact .inl hflight
  | cutStart | cutApprove | crash => cases hflight
  | abandon | settle =>
    obtain hstage | hflight := update_flight hflight
    · cases hstage
    · exact .inl hflight
  | send =>
    obtain hstage | hflight := update_flight hflight
    · exact .inr (.inr (.inr ⟨_, _, (some.inj hstage).symm⟩))
    · exact .inl hflight
  | attempt | approve | configure | elsewhere | cutRestart | restart => exact .inl hflight

/-- The call was begun, and is not about to be sent. -/
structure Spent (key : String) (e : BrokerState) : Prop where
  begun : ∃ row, e.store.callRow key = some row ∧ 1 ≤ row.state.stage
  gone : ∀ i q out, e.flights i = some (.dispatching q out) → out.call.idempotencyKey ≠ key

theorem spent_step (h : Spent key e) (hstep : CallStep env me e l e') : Spent key e' := by
  obtain ⟨row, hrow, hstage⟩ := h.begun
  obtain ⟨state, hrow', hlater⟩ := callStep_callRow hstep hrow
  refine ⟨⟨_, hrow', hstage.trans hlater.stage_le⟩, fun i q out hflight => ?_⟩
  obtain hflight | ⟨_, _, hstage, -⟩ | ⟨_, _, ticket, config, hstage, hbegins, hcall⟩ | ⟨_, _, hstage⟩ :=
    callStep_flight hstep hflight <;> try cases hstage
  · exact h.gone i q out hflight
  · -- a call that begins has no record, or one that has not left `prepared`
    rw [hcall]
    rintro rfl
    obtain hprepared | ⟨hnone, -⟩ := hbegins.room
    · rw [Store.callState, hrow, map_some, some.injEq] at hprepared
      rw [hprepared] at hstage
      exact absurd hstage (by decide)
    · rw [hrow] at hnone
      cases hnone

theorem sends_cases (h : CallStep env me e l e') (hl : l.sends key = true) :
    ∃ i q out, out.call.idempotencyKey = key ∧ e.flights i = some (.dispatching q out) ∧
      e'.flights = Function.update e.flights i (some (.sent q out)) ∧ e'.store = e.store := by
  cases h with
  | @send s fl g i q out addr hstage haddr =>
    exact ⟨i, q, out, of_decide_eq_true hl, hstage, rfl, rfl⟩
  | _ => cases hl

theorem spent_of_sends (hflying : e.Flying) (h : CallStep env me e l e') (hl : l.sends key = true) :
    Spent key e' := by
  obtain ⟨i, q, out, rfl, hstage, hflights, hstore⟩ := sends_cases h hl
  obtain ⟨row, hrow, hstate⟩ := map_eq_some_iff.1 (hflying.held i _ _ hstage rfl)
  refine ⟨⟨row, by rw [hstore, hrow], by rw [hstate]; decide⟩, fun j q' out' hj hkey => ?_⟩
  rw [hflights] at hj
  by_cases hji : j = i
  · subst hji
    rw [Function.update_self] at hj
    cases hj
  · rw [Function.update_of_ne hji] at hj
    exact hji (hflying.single j i _ _ _ hj hstage (congrArg some hkey) rfl)

end Flying

/-! ### The budget -/

/-- Tickets carry the budget of their order. -/
structure Budgeted (e : BrokerState) : Prop where
  tickets : ∀ i q ticket, e.flights i = some (.authorized q ticket) →
    ∃ issued config, e.store.getWorkOrder q.workOrderId = .ok (some issued) ∧
      (∃ scope, issued.order.capabilities.grant .processorUse = some (.processorUse scope) ∧
        scope.processorId = q.processorId) ∧
      ticket = q.ticket issued config
  counts : ∀ w, 0 < e.store.callCount w → ∃ issued, e.store.getWorkOrder w = .ok (some issued) ∧
    e.store.callCount w ≤ issued.order.budgets.maxOperations

section Budget

variable {env : Env} {me : LocalAuthority} {e e' : BrokerState} {l : CallEvent}

theorem budgeted_step (h : Budgeted e) (hstep : CallStep env me e l e') : Budgeted e' where
  tickets j q ticket hflight := by
    obtain hflight | ⟨_, _, hstage, hticket, -⟩ | ⟨_, _, _, _, hstage, -⟩ | ⟨_, _, hstage⟩ :=
      callStep_flight hstep hflight <;> try cases hstage
    · obtain ⟨issued, config, hstored, hgranted, hticket⟩ := h.tickets j q ticket hflight
      exact ⟨issued, config, callStep_getWorkOrder hstep hstored, hgranted, hticket⟩
    · obtain ⟨issued, config, hauthorized, rfl⟩ := authorizeCall_eq_ok_iff.1 hticket
      exact ⟨issued, config, callStep_getWorkOrder hstep hauthorized.stored, hauthorized.granted, rfl⟩
  counts w hpos := by
    -- the number of records is unchanged, or within the budget of the ticket
    have hcount : e'.store.callCount w = e.store.callCount w ∨
        ∃ issued, e.store.getWorkOrder w = .ok (some issued) ∧
          e'.store.callCount w ≤ issued.order.budgets.maxOperations := by
      obtain ⟨i, q, ticket, -, hflight, hmem⟩ | ⟨hkept, -⟩ := callStep_calls hstep
      · obtain ⟨issued, config, hstored, -, rfl⟩ := h.tickets i q ticket hflight
        obtain hsame | ⟨rfl, hle⟩ := (beginDispatch_writes hmem).1.count w
        · exact .inl hsame
        · exact .inr ⟨issued, hstored, hle⟩
      · exact .inl (hkept.count w)
    obtain hsame | ⟨issued, hstored, hle⟩ := hcount
    · rw [hsame] at hpos ⊢
      obtain ⟨issued, hstored, hle⟩ := h.counts w hpos
      exact ⟨issued, callStep_getWorkOrder hstep hstored, hle⟩
    · exact ⟨issued, callStep_getWorkOrder hstep hstored, hle⟩

end Budget

section Runs

variable {env : Env} {me : LocalAuthority} {e₀ e : BrokerState} {ls : List CallEvent}

theorem BrokerState.Fresh.flying (h : e.Fresh) : e.Flying := by
  rw [BrokerState.Flying, funext h.idle]
  exact .grounded _ _

theorem BrokerState.Fresh.budgeted (h : e.Fresh) : Budgeted e where
  tickets i q ticket hflight := by
    rw [h.idle i] at hflight
    cases hflight
  counts w hpos := by
    obtain ⟨row, hrow, -⟩ := countP_pos_iff.1 hpos
    exact absurd hrow (h.noCalls row)

theorem flying_of_trace (h : e₀.Fresh) (ht : Trace (CallStep env me) e₀ ls e) : e.Flying :=
  Trace.invariant (I := BrokerState.Flying) (fun _ _ _ => flying_step) ht h.flying

theorem budgeted_of_trace (h : e₀.Fresh) (ht : Trace (CallStep env me) e₀ ls e) : Budgeted e :=
  Trace.invariant (I := Budgeted) (fun _ _ _ => budgeted_step) ht h.budgeted

theorem not_sends_of_isTerminal {state : SubAttemptState} {ls' : List CallEvent} {e' : BrokerState}
    (hflying : e.Flying) (hstate : e.store.callState key = some state)
    (hterminal : state.isTerminal = true) (ht : Trace (CallStep env me) e ls' e') :
    ∀ l ∈ ls', l.sends key = false := by
  refine Trace.forall_mem_of_stable (I := BrokerState.Flying)
    (P := fun e => e.store.callState key = some state) (Q := fun l => l.sends key = false)
    (fun _ _ _ => flying_step) (fun e l e' _ hstate hstep => ?_) (fun e l e' hflying hstate hstep => ?_)
    ht hflying hstate
  · obtain ⟨row, hrow, rfl⟩ := map_eq_some_iff.1 hstate
    obtain ⟨state', hrow', hlater⟩ := callStep_callRow hstep hrow
    change Option.map CallRow.state _ = _
    rw [hrow', map_some, ← hlater.eq_of_isTerminal hterminal]
    rfl
  · by_contra hl
    rw [Bool.not_eq_false] at hl
    obtain ⟨i, q, out, rfl, hstage, -⟩ := sends_cases hstep hl
    have hdispatching := hflying.held i _ _ hstage rfl
    rw [hstate, some.injEq] at hdispatching
    rw [hdispatching] at hterminal
    cases hterminal

/-- **Sent at most once.**  In every run of the daemon, with every interleaving of the calls it is
making, with a crash at any commit and with recovery: no key is sent twice; a call that has ended
is not sent; an order has no more records than it may make operations.  And a call whose key is
recorded is never refused for the budget. -/
theorem calls_sent_at_most_once (env : Env) (me : LocalAuthority) :
    (∀ e₀ ls e, BrokerState.Fresh e₀ → Trace (CallStep env me) e₀ ls e →
      (∀ key, ls.countP (CallEvent.sends key) ≤ 1) ∧
      (∀ key state ls' e', e.store.callState key = some state → state.isTerminal = true →
        Trace (CallStep env me) e ls' e' → ∀ l ∈ ls', l.sends key = false) ∧
      ∀ w, 0 < e.store.callCount w → ∃ issued, e.store.getWorkOrder w = .ok (some issued) ∧
        e.store.callCount w ≤ issued.order.budgets.maxOperations) ∧
    ∀ (call : ProcessorCall) maxOperations now s outcome s',
      s.callState call.idempotencyKey ≠ none →
      prepareCall call maxOperations now s = .ok (outcome, s') →
        ∀ limit, outcome ≠ .budgetExhausted limit := by
  refine ⟨fun e₀ ls e hfresh ht => ⟨fun key => ?_, fun key state ls' e' hstate hterminal ht' => ?_,
    (budgeted_of_trace hfresh ht).counts⟩, ?_⟩
  · refine Trace.countP_le_one (I := BrokerState.Flying) (P := Spent key) (fun _ _ _ => flying_step)
      (fun e l e' _ hspent hstep => spent_step hspent hstep)
      (fun e l e' hflying hstep hl => spent_of_sends hflying hstep hl)
      (fun e l e' _ hspent hstep => ?_) ht hfresh.flying
    by_contra hl
    rw [Bool.not_eq_false] at hl
    obtain ⟨i, q, out, hkey, hstage, -⟩ := sends_cases hstep hl
    exact hspent.gone i q out hstage hkey
  · exact not_sends_of_isTerminal (flying_of_trace hfresh ht) hstate hterminal ht'
  · intro call maxOperations now s outcome s' hrecorded h limit
    obtain ⟨state, hstate⟩ := ne_none_iff_exists'.1 hrecorded
    rw [prepareCall, hstate, Except.ok.injEq, Prod.mk.injEq] at h
    rw [← h.1]
    exact nofun

end Runs

end Akson
