/-
# Dispatching a processor call

The worker has no network: the daemon makes its calls.
-/
import Akson.Lib.Operation
import Akson.Broker.Address
import Akson.Store.Attempts
import Akson.Store.Calls
import Akson.Store.Processors

namespace Akson

open Operation Except Option List

def problemDetail (status : ℕ) (kind title detail : String) : Problem :=
  { Problem.new status kind title with detail := some detail }

/-! ## Authorizing -/

/-- Where a processor call comes in. -/
inductive CallDoor where
  | control (processorId workOrderId request : String)
  | worker (workOrderId : String) (processorId request : String)

/-- A call as the broker takes it. -/
structure CallRequest where
  processorId : String
  workOrderId : String
  request : Bytes
  now : Time

def CallDoor.callRequest (door : CallDoor) (now : Time) : CallRequest :=
  match door with
  | .control processorId workOrderId request => ⟨processorId, workOrderId, utf8 request, now⟩
  | .worker workOrderId processorId request => ⟨processorId, workOrderId, utf8 request, now⟩

/-- What was read when the call was authorized. -/
structure CallTicket where
  binding : CallBinding
  budget : CallBudget
  policy : EgressPolicy

def configuredProcessor (processorId : String) (s : Store) : Except Problem ProcessorConfig :=
  okOr (s.getProcessor processorId)
    (Problem.new 404 "no-such-processor" "no such processor")

theorem configuredProcessor_eq_ok_iff {processorId : String} {s : Store} {config : ProcessorConfig} :
    configuredProcessor processorId s = .ok config ↔ s.getProcessor processorId = some config :=
  okOr_eq_ok

def CapabilityVector.authorizeProcessor (v : CapabilityVector) (processorId : String) :
    Except Problem Unit :=
  match v.grant .processorUse with
  | some (.processorUse scope) => ensure (scope.processorId = processorId)
      (Problem.new 403 "processor-mismatch" "the work order does not authorise this processor")
  | _ => .error (Problem.new 403 "processor-use-not-granted"
      "the work order does not authorise processor use")

def WorkOrder.callBudget (order : WorkOrder) : CallBudget :=
  ⟨order.budgets.maxCostMicrousd, order.deadline, order.budgets.maxBytes,
    order.budgets.maxOperations⟩

def CallRequest.ticket (q : CallRequest) (issued : IssuedWorkOrder) (config : ProcessorConfig) :
    CallTicket :=
  ⟨⟨q.workOrderId, issued.digest, issued.order.taskId⟩, issued.order.callBudget,
    config.egressPolicy⟩

def authorizeCall (q : CallRequest) (s : Store) : Except Problem CallTicket := do
  let found ← (s.getWorkOrder q.workOrderId).mapError (fun _ => internal)
  let issued ← okOr found (Problem.new 404 "no-work-order" "no such work order")
  issued.order.capabilities.authorizeProcessor q.processorId
  ensure (∃ state ∈ s.attemptState q.workOrderId, state.active)
    (Problem.new 409 "attempt-not-active" "the attempt is not active")
  let config ← configuredProcessor q.processorId s
  .ok (q.ticket issued config)

/-! ## Beginning -/

/-- What is sent to the processor. -/
structure Outbound where
  call : ProcessorCall
  policy : EgressPolicy
  path : String
  expectedCert : Option String
  auth : AuthScheme
  credential : Option Bytes
  headers : List (String × String)
  request : Bytes

structure CallResponse where
  status : ℕ
  body : Bytes

variable (env : Env)

def outcomeJson (call : ProcessorCall) (state : SubAttemptState)
    (response : Option CallResponse) : Json :=
  .obj ([("idempotency_key", .str call.idempotencyKey)] ++
    (response.map (fun r => ("response", Json.str (utf8Lossy r.body)))).toList ++
    [("state", .str state.asStr)] ++
    (response.map (fun r => ("status", Json.num r.status))).toList)

def Broker.advance (key : String) (event : SubAttemptEvent) (now : Time) :
    Operation Store Problem SubAttemptState := do
  match ← commit (advanceCall key event now) (fun _ => internal) with
  | .ok state => pure state
  | .error _ => demand (.error internal)

/-- The first half of a dispatch: replayed, or to be sent. -/
inductive Begun where
  /-- The call had ended before: nothing is sent. -/
  | replayed (answer : Json)
  | dispatching (out : Outbound)

def ProcessorConfig.outbound (config : ProcessorConfig) (call : ProcessorCall)
    (policy : EgressPolicy) (credential : Option Bytes) (request : Bytes) : Outbound :=
  ⟨call, policy, config.path, config.tlsCertificateSha256, config.auth, credential, config.headers,
    request⟩

def permitOrigin (origin : Origin) (policy : EgressPolicy) : Except Problem Unit :=
  (checkOrigin origin policy).mapError (fun e => problemDetail 403 "egress-refused"
    "the processor origin is not permitted" (e.message env))

def CallTicket.call (ticket : CallTicket) (q : CallRequest) (config : ProcessorConfig) :
    ProcessorCall :=
  ProcessorCall.prepare env config q.request ticket.binding ticket.budget

def enterDispatching (q : CallRequest) (ticket : CallTicket) (config : ProcessorConfig)
    (call : ProcessorCall) : Operation Store Problem Begun := do
  let _ ← Broker.advance call.idempotencyKey .dispatch q.now
  let credential ← ask (fun s => .ok (s.getCredential q.processorId))
  pure (.dispatching (config.outbound call ticket.policy credential q.request))

def dispatchPrepared (q : CallRequest) (ticket : CallTicket) (config : ProcessorConfig)
    (call : ProcessorCall) : PrepareOutcome → Operation Store Problem Begun
  | .prepared => enterDispatching q ticket config call
  | .alreadyPrepared state =>
    if state.isTerminal then pure (.replayed (outcomeJson call state none))
    else enterDispatching q ticket config call
  | .budgetExhausted _ => demand (.error (Problem.new 429 "budget-exhausted"
      "the work order's operation budget is exhausted"))

/-- Record the call before it is sent. -/
def beginDispatch (q : CallRequest) (ticket : CallTicket) :
    Operation Store Problem Begun := do
  let config ← ask (configuredProcessor q.processorId)
  demand (permitOrigin env config.origin ticket.policy)
  let call := ticket.call env q config
  let outcome ← commit (prepareCall call ticket.budget.maxOperations q.now) (fun _ => internal)
  dispatchPrepared q ticket config call outcome

/-! ## Ending -/

/-- How the transport reports a call. -/
inductive TransportResult where
  | ok (response : CallResponse)
  | clean (detail : String)
  | uncertain (detail : String)

def TransportResult.event : TransportResult → SubAttemptEvent
  | .ok _ => .complete
  | .clean _ => .fail
  | .uncertain _ => .markAmbiguous

/-- Record how the call ended. -/
def finishCall (q : CallRequest) (out : Outbound) (result : TransportResult) :
    Operation Store Problem Json := do
  let state ← Broker.advance out.call.idempotencyKey result.event q.now
  match result with
  | .ok response => pure (outcomeJson out.call state (some response))
  | .clean detail => demand (.error (problemDetail 502 "dispatch-failed"
      "the processor call failed" detail))
  | .uncertain detail => demand (.error (problemDetail 502 "dispatch-ambiguous"
      "the processor call outcome is uncertain" detail))

def addressProblem (policy : EgressPolicy) : Option IpAddr → Option Problem
  | none => some (Problem.new 502 "unresolved" "the processor origin did not resolve")
  | some addr =>
    match checkResolvedAddress addr policy with
    | .ok () => none
    | .error e => some (problemDetail 403 "egress-refused" "the resolved address is not permitted"
        (e.message env))

def abandonCall (q : CallRequest) (out : Outbound) (problem : Problem) :
    Operation Store Problem Json := do
  let _ ← Broker.advance out.call.idempotencyKey .fail q.now
  demand (.error problem)

/-! ## What each part does -/

/-- The order, the grant and the processor of a call that is let through. -/
structure Authorized (q : CallRequest) (s : Store) (issued : IssuedWorkOrder)
    (config : ProcessorConfig) : Prop where
  stored : s.getWorkOrder q.workOrderId = .ok (some issued)
  granted : ∃ scope, issued.order.capabilities.grant .processorUse = some (.processorUse scope) ∧
    scope.processorId = q.processorId
  active : ∃ state, s.attemptState q.workOrderId = some state ∧ state.active
  configured : s.getProcessor q.processorId = some config

/-- When a call enters `dispatching`. -/
structure Begins (env : Env) (q : CallRequest) (ticket : CallTicket) (s : Store)
    (config : ProcessorConfig) : Prop where
  configured : s.getProcessor q.processorId = some config
  permitted : checkOrigin config.origin ticket.policy = .ok ()
  room : s.callState (ticket.call env q config).idempotencyKey = some .prepared ∨
    (s.callRow (ticket.call env q config).idempotencyKey = none ∧
      s.callCount ticket.binding.workOrderId < ticket.budget.maxOperations)

section Runs

variable {env : Env} {q : CallRequest} {ticket : CallTicket} {config : ProcessorConfig}
  {call : ProcessorCall} {s s' : Store} {key : String} {event : SubAttemptEvent} {now : Time}

theorem CapabilityVector.authorizeProcessor_eq_ok_iff {v : CapabilityVector} {processorId : String}
    {u : Unit} : v.authorizeProcessor processorId = .ok u ↔
      ∃ scope, v.grant .processorUse = some (.processorUse scope) ∧
        scope.processorId = processorId := by
  unfold CapabilityVector.authorizeProcessor
  split
  case h_1 scope hgrant =>
    rw [hgrant, ensure_eq_ok]
    constructor
    · intro h
      exact ⟨scope, rfl, h⟩
    · rintro ⟨scope', hscope, h⟩
      obtain rfl := Grant.processorUse.inj (some.inj hscope)
      exact h
  case h_2 hnot =>
    constructor
    · intro h
      cases h
    · rintro ⟨scope, hgrant, -⟩
      exact absurd hgrant (hnot scope)

theorem permitOrigin_eq_ok_iff {origin : Origin} {policy : EgressPolicy} {u : Unit} :
    permitOrigin env origin policy = .ok u ↔ checkOrigin origin policy = .ok u :=
  mapError_eq_ok

theorem authorizeCall_eq_ok_iff :
    authorizeCall q s = .ok ticket ↔
      ∃ issued config, Authorized q s issued config ∧ q.ticket issued config = ticket := by
  simp only [authorizeCall, bind_eq_ok, mapError_eq_ok, okOr_eq_ok,
    CapabilityVector.authorizeProcessor_eq_ok_iff, ensure_eq_ok,
    configuredProcessor_eq_ok_iff, ok.injEq, exists_const, mem_def]
  constructor
  · rintro ⟨found, hfound, issued, rfl, hgranted, hactive, config, hconfig, hticket⟩
    exact ⟨issued, config, ⟨hfound, hgranted, hactive, hconfig⟩, hticket⟩
  · rintro ⟨issued, config, h, hticket⟩
    exact ⟨_, h.stored, issued, rfl, h.granted, h.active, config, h.configured, hticket⟩

theorem advance_of_ok
    {state : SubAttemptState} (h : advanceCall key event now s = .ok (.ok state, s')) :
    Broker.advance key event now s = (.ok state, [s']) := by
  rw [Broker.advance, commit_bind_apply_of_ok h]
  rfl

theorem advance_of_refused
    {e : SubTransitionError} (h : advanceCall key event now s = .ok (.error e, s')) :
    Broker.advance key event now s = (.error internal, [s']) := by
  rw [Broker.advance, commit_bind_apply_of_ok h]
  rfl

theorem enterDispatching_of_ok {state : SubAttemptState}
    (h : advanceCall call.idempotencyKey .dispatch q.now s = .ok (.ok state, s')) :
    enterDispatching q ticket config call s =
      (.ok (.dispatching (config.outbound call ticket.policy (s'.getCredential q.processorId)
        q.request)), [s']) := by
  rw [enterDispatching, bind_apply_of_ok (advance_of_ok h)]
  rfl

theorem beginDispatch_of_begins (h : Begins env q ticket s config) :
    ∃ outcome s₁ s₂,
      prepareCall (ticket.call env q config) ticket.budget.maxOperations q.now s =
        .ok (outcome, s₁) ∧
      s₁.callState (ticket.call env q config).idempotencyKey = some .prepared ∧
      advanceCall (ticket.call env q config).idempotencyKey .dispatch q.now s₁ =
        .ok (.ok .dispatching, s₂) ∧
      beginDispatch env q ticket s =
        (.ok (.dispatching (config.outbound (ticket.call env q config) ticket.policy
          (s₂.getCredential q.processorId) q.request)), [s₁, s₂]) := by
  obtain ⟨outcome, s₁, hprepare⟩ := prepareCall_total (ticket.call env q config)
    ticket.budget.maxOperations q.now s
  -- the two ways to a record that is still prepared
  have hcases : s₁.callState (ticket.call env q config).idempotencyKey = some .prepared ∧
      (outcome = .prepared ∨ outcome = .alreadyPrepared .prepared) := by
    obtain ⟨state, rfl, hstate, rfl⟩ | ⟨-, hnone, hfull, -⟩ | ⟨rfl, -, -, calls, hins, rfl⟩ :=
      prepareCall_cases hprepare
    · obtain hprepared | ⟨hnone, -⟩ := h.room
      · rw [hstate, some.injEq] at hprepared
        subst hprepared
        exact ⟨hstate, .inr rfl⟩
      · rw [Store.callState, hnone] at hstate
        cases hstate
    · obtain hprepared | ⟨-, hroom⟩ := h.room
      · rw [Store.callState, hnone] at hprepared
        cases hprepared
      · exact absurd hroom (not_lt.2 hfull)
    · refine ⟨?_, .inl rfl⟩
      have hrow : Store.callRow (({ s with processorCalls := calls } : Store).auditAppend q.now
          "processor.prepared" (ticket.call env q config).idempotencyKey)
          (ticket.call env q config).idempotencyKey =
            some ((ticket.call env q config).row q.now) :=
        Store.callRow_eq_some_iff.2 ⟨(Table.mem_insert hins).2 (.inr rfl), rfl⟩
      rw [Store.callState, hrow]
      rfl
  obtain ⟨hstate, houtcome⟩ := hcases
  obtain ⟨row, hrow, hprepared⟩ := map_eq_some_iff.1 hstate
  obtain ⟨s₂, hadvance⟩ := advanceCall_total hrow .dispatch q.now
  rw [hprepared] at hadvance
  refine ⟨outcome, s₁, s₂, hprepare, hstate, hadvance, ?_⟩
  rw [beginDispatch, ask_bind_apply_of_ok (configuredProcessor_eq_ok_iff.2 h.configured),
    demand_bind_apply_of_ok (permitOrigin_eq_ok_iff.2 h.permitted),
    commit_bind_apply_of_ok hprepare]
  have hnext : dispatchPrepared q ticket config (ticket.call env q config) outcome =
      enterDispatching q ticket config (ticket.call env q config) := by
    obtain rfl | rfl := houtcome <;> rfl
  rw [hnext, enterDispatching_of_ok hadvance]

theorem beginDispatch_of_not_begins (h : ∀ config, ¬ Begins env q ticket s config) :
    ∃ answer states, beginDispatch env q ticket s = (answer, states) ∧
      (∀ out, answer ≠ .ok (.dispatching out)) ∧ ∀ s' ∈ states, s' = s := by
  unfold beginDispatch
  cases hconfigured : configuredProcessor q.processorId s with
  | error e =>
    rw [ask_bind_apply_of_error hconfigured]
    exact ⟨_, _, rfl, nofun, nofun⟩
  | ok config =>
    have hconfig := configuredProcessor_eq_ok_iff.1 hconfigured
    rw [ask_bind_apply_of_ok hconfigured]
    cases hpermit : permitOrigin env config.origin ticket.policy with
    | error e =>
      rw [demand_bind_apply_of_error rfl]
      exact ⟨_, _, rfl, nofun, nofun⟩
    | ok u =>
      have horigin := permitOrigin_eq_ok_iff.1 hpermit
      rw [demand_bind_apply_of_ok rfl]
      obtain ⟨outcome, s₁, hprepare⟩ := prepareCall_total (ticket.call env q config)
        ticket.budget.maxOperations q.now s
      rw [commit_bind_apply_of_ok hprepare]
      obtain ⟨state, rfl, hstate, rfl⟩ | ⟨rfl, -, -, rfl⟩ | ⟨-, hnone, hroom, -⟩ :=
        prepareCall_cases hprepare
      · by_cases hterminal : state.isTerminal = true
        · rw [dispatchPrepared, if_pos hterminal]
          refine ⟨_, _, rfl, nofun, fun s' hs' => ?_⟩
          exact mem_singleton.1 hs'
        · -- the call is on its way already: the event is refused
          obtain ⟨row, hrow, rfl⟩ := map_eq_some_iff.1 hstate
          obtain ⟨s₂, hadvance⟩ := advanceCall_total hrow .dispatch q.now
          cases hrowstate : row.state with
          | prepared =>
            rw [hrowstate] at hstate
            exact absurd ⟨hconfig, horigin, .inl hstate⟩ (h config)
          | dispatching =>
            rw [hrowstate] at hadvance
            obtain ⟨-, -, -, ⟨-, -, rfl⟩ | ⟨new, -, hnew, -⟩⟩ := advanceCall_cases hadvance
            · rw [dispatchPrepared, if_neg (by decide), enterDispatching,
                bind_apply_of_error (advance_of_refused hadvance)]
              exact ⟨_, _, rfl, nofun, by simp⟩
            · cases hnew
          | completed | failed | ambiguous | cancelled =>
            rw [hrowstate] at hterminal
            exact absurd rfl hterminal
      · refine ⟨_, _, rfl, nofun, fun s' hs' => ?_⟩
        exact mem_singleton.1 hs'
      · exact absurd ⟨hconfig, horigin, .inr ⟨hnone, hroom⟩⟩ (h config)

theorem beginDispatch_writes (h : s' ∈ s :: commits (beginDispatch env q ticket) s) :
    CallsGrow ticket.binding.workOrderId ticket.budget.maxOperations s s' ∧
      ∃ calls audit, s' = { s with processorCalls := calls, audit := audit } := by
  have hsame : CallsGrow ticket.binding.workOrderId ticket.budget.maxOperations s s ∧
      ∃ calls audit, s = { s with processorCalls := calls, audit := audit } :=
    ⟨(CallsKept.of_eq rfl).grow _ _, s.processorCalls, s.audit, rfl⟩
  obtain rfl | h := mem_cons.1 h
  · exact hsame
  by_cases hbegins : ∃ config, Begins env q ticket s config
  · obtain ⟨config, hbegins⟩ := hbegins
    obtain ⟨outcome, s₁, s₂, hprepare, -, hadvance, hrun⟩ := beginDispatch_of_begins hbegins
    obtain ⟨hgrow, ⟨calls, audit, hs₁⟩, -⟩ := callsGrow_prepareCall hprepare
    rw [commits, hrun, mem_pair] at h
    obtain rfl | rfl := h
    · exact ⟨hgrow, calls, audit, hs₁⟩
    · obtain ⟨row, -, -, ⟨e, herror, -⟩ | ⟨new, calls', -, hkept, hs₂, -, -⟩⟩ :=
        advanceCall_cases hadvance
      · cases herror
      · rw [hs₁] at hs₂
        exact ⟨hgrow.trans_kept hkept, calls', _, hs₂⟩
  · obtain ⟨answer, states, hrun, -, hstates⟩ :=
      beginDispatch_of_not_begins (fun config hc => hbegins ⟨config, hc⟩)
    rw [commits, hrun] at h
    rw [hstates s' h]
    exact hsame

theorem beginDispatch_dispatches {out : Outbound}
    (h : exec (beginDispatch env q ticket) s = (.ok (.dispatching out), s')) :
    ∃ config, Begins env q ticket s config ∧
      out = config.outbound (ticket.call env q config) ticket.policy
        (s.getCredential q.processorId) q.request ∧
      s'.callState out.call.idempotencyKey = some .dispatching ∧
      ∀ k, k ≠ out.call.idempotencyKey → s'.callRow k = s.callRow k := by
  by_cases hbegins : ∃ config, Begins env q ticket s config
  · obtain ⟨config, hbegins⟩ := hbegins
    obtain ⟨outcome, s₁, s₂, hprepare, -, hadvance, hrun⟩ := beginDispatch_of_begins hbegins
    obtain ⟨-, ⟨calls, audit, hs₁⟩, hother⟩ := callsGrow_prepareCall hprepare
    rw [exec, hrun, Prod.mk.injEq, ok.injEq, Begun.dispatching.injEq] at h
    obtain ⟨hout, rfl⟩ := h
    obtain ⟨row, -, -, ⟨e, herror, -⟩ | ⟨new, calls', hnew, -, hs₂, hself, hother'⟩⟩ :=
      advanceCall_cases hadvance
    · cases herror
    cases hnew
    have hcredential : s₂.getCredential q.processorId = s.getCredential q.processorId := by
      rw [hs₂, hs₁]
      rfl
    rw [hcredential] at hout
    subst hout
    refine ⟨config, hbegins, rfl, ?_, fun k hk => (hother' k hk).trans (hother k hk)⟩
    exact congrArg (Option.map CallRow.state) hself
  · obtain ⟨answer, states, hrun, hnot, -⟩ :=
      beginDispatch_of_not_begins (fun config hc => hbegins ⟨config, hc⟩)
    rw [exec, hrun] at h
    exact absurd (Prod.mk.inj h).1 (hnot out)

theorem beginDispatch_enters (h : s' ∈ s :: commits (beginDispatch env q ticket) s)
    (hbefore : s.callState key ≠ some .dispatching)
    (hafter : s'.callState key = some .dispatching) :
    ∃ config, s.getProcessor q.processorId = some config ∧
      key = (ticket.call env q config).idempotencyKey := by
  obtain rfl | h := mem_cons.1 h
  · exact absurd hafter hbefore
  by_cases hbegins : ∃ config, Begins env q ticket s config
  · obtain ⟨config, hbegins⟩ := hbegins
    refine ⟨config, hbegins.configured, ?_⟩
    by_contra hkey
    obtain ⟨outcome, s₁, s₂, hprepare, -, hadvance, hrun⟩ := beginDispatch_of_begins hbegins
    obtain ⟨-, -, hother⟩ := callsGrow_prepareCall hprepare
    rw [commits, hrun, mem_pair] at h
    -- neither commit touches the record of another key
    have hsame : s'.callRow key = s.callRow key := by
      obtain rfl | rfl := h
      · exact hother key hkey
      · obtain ⟨row, -, -, ⟨e, herror, -⟩ | ⟨new, calls, -, -, -, -, hother'⟩⟩ :=
          advanceCall_cases hadvance
        · cases herror
        · exact (hother' key hkey).trans (hother key hkey)
    rw [Store.callState, hsame] at hafter
    exact hbefore hafter
  · obtain ⟨answer, states, hrun, -, hstates⟩ :=
      beginDispatch_of_not_begins (fun config hc => hbegins ⟨config, hc⟩)
    rw [commits, hrun] at h
    rw [hstates s' h] at hafter
    exact absurd hafter hbefore

theorem beginDispatch_declines {answer : Except Problem Begun}
    (h : exec (beginDispatch env q ticket) s = (answer, s'))
    (hnot : ∀ out, answer ≠ .ok (.dispatching out)) : s' = s := by
  by_cases hbegins : ∃ config, Begins env q ticket s config
  · obtain ⟨config, hbegins⟩ := hbegins
    obtain ⟨outcome, s₁, s₂, -, -, -, hrun⟩ := beginDispatch_of_begins hbegins
    rw [exec, hrun] at h
    exact absurd (Prod.mk.inj h).1.symm (hnot _)
  · obtain ⟨answer', states, hrun, -, hstates⟩ :=
      beginDispatch_of_not_begins (fun config hc => hbegins ⟨config, hc⟩)
    have hmem := mem_of_exec h
    rw [commits, hrun] at hmem
    obtain hs | hs := mem_cons.1 hmem
    · exact hs
    · exact hstates s' hs

end Runs

/-- A step that only ends the call under `key`. -/
structure Ended (key : String) (s s' : Store) : Prop where
  frame : ∃ calls audit, s' = { s with processorCalls := calls, audit := audit }
  kept : CallsKept s s'
  other : ∀ k, k ≠ key → s'.callRow k = s.callRow k
  ended : ∀ k, s'.callState k = some .dispatching → s.callState k = some .dispatching

section Ends

variable {env : Env} {q : CallRequest} {out : Outbound} {key : String}

theorem Ended.refl (key : String) (s : Store) : Ended key s s :=
  ⟨⟨s.processorCalls, s.audit, rfl⟩, .of_eq rfl, fun _ _ => rfl, fun _ => id⟩

theorem Ended.trans (s₁ s₂ s₃ : Store) (h : Ended key s₁ s₂) (h' : Ended key s₂ s₃) :
    Ended key s₁ s₃ where
  frame := by
    obtain ⟨calls, audit, rfl⟩ := h.frame
    obtain ⟨calls', audit', rfl⟩ := h'.frame
    exact ⟨calls', audit', rfl⟩
  kept := h.kept.trans h'.kept
  other k hk := (h'.other k hk).trans (h.other k hk)
  ended k hk := h.ended k (h'.ended k hk)

theorem ended_advanceCall {event : SubAttemptEvent} {now : Time} {s s' : Store}
    {answer : Except SubTransitionError SubAttemptState} (hevent : event ≠ .dispatch)
    (h : advanceCall key event now s = .ok (answer, s')) : Ended key s s' := by
  obtain ⟨row, hrow, hanswer, ⟨e, -, rfl⟩ | ⟨new, calls, rfl, hkept, hs', hself, hother⟩⟩ :=
    advanceCall_cases h
  · exact Ended.refl key s'
  refine ⟨⟨calls, _, hs'⟩, hkept, hother, fun k hk => ?_⟩
  by_cases hkey : k = key
  · subst hkey
    rw [Store.callState, hself, map_some, some.injEq] at hk
    exact absurd hk (SubAttemptState.next_ne_dispatching hevent hanswer.symm)
  · rwa [Store.callState, ← hother k hkey]

theorem moves_advance {event : SubAttemptEvent} (now : Time) (hevent : event ≠ .dispatch) :
    Moves (Ended key) (Broker.advance key event now) := by
  refine Moves.bind Ended.trans
    (Moves.commit (Ended.refl key) (fun s answer s' h => ended_advanceCall hevent h)) (fun answer => ?_)
  cases answer with
  | ok state => exact Moves.pure (Ended.refl key) state
  | error e => exact Moves.ask (Ended.refl key) _

theorem TransportResult.event_ne_dispatch (result : TransportResult) : result.event ≠ .dispatch := by
  intro h
  cases result <;> cases h

theorem moves_finishCall (result : TransportResult) :
    Moves (Ended out.call.idempotencyKey) (finishCall q out result) := by
  refine Moves.bind Ended.trans (moves_advance q.now result.event_ne_dispatch) (fun state => ?_)
  cases result with
  | ok response => exact Moves.pure (Ended.refl _) _
  | clean detail | uncertain detail => exact Moves.ask (Ended.refl _) _

theorem moves_abandonCall (problem : Problem) :
    Moves (Ended out.call.idempotencyKey) (abandonCall q out problem) :=
  Moves.bind Ended.trans (moves_advance q.now (by decide)) (fun _ => Moves.ask (Ended.refl _) _)

end Ends

/-! ## A call as a whole -/

def requestCall (q : CallRequest) : Operation Store Problem Begun := do
  let ticket ← ask (authorizeCall q)
  beginDispatch env q ticket

def Enters (s s' : Store) : Prop :=
  ∃ key, s.callState key ≠ some .dispatching ∧ s'.callState key = some .dispatching

def Dispatchable (q : CallRequest) (s : Store) : Prop :=
  ∃ issued config, Authorized q s issued config ∧ Begins env q (q.ticket issued config) s config

theorem Begins.not_dispatching {env : Env} {q : CallRequest} {ticket : CallTicket} {s : Store}
    {config : ProcessorConfig} (h : Begins env q ticket s config) :
    s.callState (ticket.call env q config).idempotencyKey ≠ some .dispatching := by
  intro hdispatching
  obtain hprepared | ⟨hnone, -⟩ := h.room
  · rw [hprepared] at hdispatching
    cases hdispatching
  · rw [Store.callState, hnone] at hdispatching
    cases hdispatching

theorem exec_beginDispatch_of_begins {env : Env} {q : CallRequest} {ticket : CallTicket} {s : Store}
    {config : ProcessorConfig} (h : Begins env q ticket s config) :
    ∃ out s', exec (beginDispatch env q ticket) s = (.ok (.dispatching out), s') ∧
      out.call = ticket.call env q config ∧ s' ∈ commits (beginDispatch env q ticket) s ∧
      Enters s s' := by
  obtain ⟨outcome, s₁, s₂, -, -, hadvance, hrun⟩ := beginDispatch_of_begins h
  obtain ⟨row, -, -, ⟨e, herror, -⟩ | ⟨new, calls, hnew, -, -, hself, -⟩⟩ :=
    advanceCall_cases hadvance
  · cases herror
  cases hnew
  have hexec : exec (beginDispatch env q ticket) s =
      (.ok (.dispatching (config.outbound (ticket.call env q config) ticket.policy
        (s₂.getCredential q.processorId) q.request)), s₂) := by
    rw [exec, hrun]
    rfl
  refine ⟨_, s₂, hexec, rfl, ?_, _, h.not_dispatching, congrArg (Option.map CallRow.state) hself⟩
  rw [commits, hrun]
  exact mem_cons_of_mem _ mem_cons_self

theorem requestCall_enters_iff {env : Env} {q : CallRequest} {s : Store} :
    (∃ s' ∈ commits (requestCall env q) s, Enters s s') ↔ Dispatchable env q s := by
  constructor
  · rintro ⟨s', hs', key, hbefore, hafter⟩
    obtain ⟨ticket, hticket, hs'⟩ := mem_commits_ask_bind hs'
    obtain ⟨issued, config, hauthorized, rfl⟩ := authorizeCall_eq_ok_iff.1 hticket
    by_contra hnot
    have hnone : ∀ config', ¬ Begins env q (q.ticket issued config) s config' := by
      intro config' hbegins
      have hsame := hauthorized.configured.symm.trans hbegins.configured
      rw [some.injEq] at hsame
      subst hsame
      exact hnot ⟨issued, config, hauthorized, hbegins⟩
    obtain ⟨answer, states, hrun, -, hstates⟩ := beginDispatch_of_not_begins hnone
    rw [commits, hrun] at hs'
    rw [hstates s' hs'] at hafter
    exact hbefore hafter
  · rintro ⟨issued, config, hauthorized, hbegins⟩
    have hticket : authorizeCall q s = .ok (q.ticket issued config) :=
      authorizeCall_eq_ok_iff.2 ⟨issued, config, hauthorized, rfl⟩
    obtain ⟨out, s', -, -, hs', henters⟩ := exec_beginDispatch_of_begins hbegins
    refine ⟨s', ?_, henters⟩
    rw [requestCall, commits, ask_bind_apply_of_ok hticket]
    exact hs'

end Akson
