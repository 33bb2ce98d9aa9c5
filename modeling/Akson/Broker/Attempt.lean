/-
# The attempt and the deadline of a call

A call is made for an attempt, and under an order with a deadline.
-/
import Akson.Broker.System

namespace Akson

open Operation Except Option List

/-! ## A processor to call -/

def localLlm : ProcessorConfig where
  processorId := "local-llm"
  provider := "local"
  origin := ⟨"https", "127.0.0.1", 8443⟩
  disclosure := ⟨.localHost, none, none, none, none, []⟩
  path := "/"
  auth := .bearer
  headers := []
  config := .obj [("model", .str "m")]
  tlsCertificateSha256 := none

def movedLlm : ProcessorConfig :=
  { localLlm with
    origin := ⟨"https", "api.example", 443⟩
    disclosure := ⟨.remote, some "Example", some "here", none, none, []⟩ }

/-- What the digest of the local processor's configuration is taken of. -/
def llmConfigText : String × Bytes :=
  ("\x7b\"config\":\x7b\"model\":\"m\"\x7d,\"headers\":[]," ++
    "\"origin\":\x7b\"host\":\"127.0.0.1\",\"port\":8443,\"scheme\":\"https\"\x7d," ++
    "\"path\":\"/\",\"provider\":\"local\"\x7d",
    beBytes 32 0xc4af276e63d0353c1ca04ec417ff986924bbddec6d5794defe581c66b2705fc4)

/-- What the key of a call of it is taken of. -/
def llmKeyText (configDigest workOrderId : String) (digest : Bytes) : String × Bytes :=
  ("\x7b\"config_digest\":\"" ++ configDigest ++ "\"," ++
    "\"request_digest\":\"2cf24dba5fb0a30e26e83b2ac5b9e29e1b161e5c1fa7425e73043362938b9824\"," ++
    "\"work_order_id\":\"" ++ workOrderId ++ "\"\x7d", digest)

/-- A contract that asks for a processor and allows no disclosure. -/
def brokerWire : Wire :=
  { repeatedWire with texts := repeatedWire.texts ++ [llmConfigText,
    llmKeyText "c4af276e63d0353c1ca04ec417ff986924bbddec6d5794defe581c66b2705fc4"
      "wo-5122983654bb721288862888e4dd7473"
      (beBytes 32 0xf478f09ee52f8089e9800ba3659e318f13c43a9227d09757393026bd91831703),
    ("\x7b\"config\":\x7b\"model\":\"m\"\x7d,\"headers\":[]," ++
      "\"origin\":\x7b\"host\":\"api.example\",\"port\":443,\"scheme\":\"https\"\x7d," ++
      "\"path\":\"/\",\"provider\":\"local\"\x7d",
      beBytes 32 0x9de54794bb5a15c1e80ce657ae42fd8257a5d5e5b98dd327b9e86a5cb79c471d),
    llmKeyText "9de54794bb5a15c1e80ce657ae42fd8257a5d5e5b98dd327b9e86a5cb79c471d"
      "wo-5122983654bb721288862888e4dd7473"
      (beBytes 32 0xe825977383a51e1a7be808d5b128e23020e6e0d86842f46f89dc5880db094360)] }

/-- A contract that allows a local processor, and shows it the input. -/
def localWire : Wire where
  value := slottedValue "local-only" [] 0 [helloJson 1 true]
    [.str "respond", .str "read_supplied_inputs", .str "processor_use"] [] []
  contract := { Contract.sample with
    inputs := [{ helloEntry 1 with processorVisible := true }]
    processorConstraints := ⟨.localOnly⟩
    requestedCapabilities := [.respond, .readSuppliedInputs, .processorUse] }
  digest := beBytes 32 0x53d642d7c42ee0e437fb719af298eaf14c2e63353cb4909976cb076939daa842
  signature := beBytes 32 0x2a39540e0e59495409180b2554568d09a6d11136a73c762b0871fa1d35fec4ff ++
    beBytes 32 0x823d6b60d8c9cc72f399d7b7a0ba71bdf27b732e2c53662edf1fc21978d6c106
  texts := [("hello", helloHash), llmConfigText,
    llmKeyText "c4af276e63d0353c1ca04ec417ff986924bbddec6d5794defe581c66b2705fc4"
      "wo-53d642d7c42ee0e437fb719af298eaf1"
      (beBytes 32 0x4221b6bd91df08c3db04687924f686d5a8904959d103357f399ccae1abcdfa0b)]

def Approval.withLlm : Approval := .sample (some "local-llm")

namespace Wire

variable (w : Wire)

/-- The contract is proposed and the local processor is configured. -/
def llmStore : Store :=
  { w.submitted with
    processors := ⟨[localLlm.row 1800000000], pairwise_singleton _ _⟩ }

def llmState : BrokerState := ⟨w.llmStore, true, fun _ => none, fun _ => none⟩

def orderId : String := workOrderIdOf (hex w.digest)

/-- The operator calls the processor for the task. -/
def llmCall (now : Time) : CallRequest :=
  (CallDoor.control "local-llm" w.orderId "hello").callRequest now

theorem fresh_llmState : w.llmState.Fresh where
  idle _ := rfl
  noCalls _ := not_mem_nil
  noOrders _ := not_mem_nil

/-- The contract can be approved with the local processor, and the order ends an hour later. -/
structure OffersLlm : Prop where
  paired : w.llmStore.requesterTls "task-1" w.contract = some "tls"
  grantable : ∃ capability ∈ w.contract.requestedCapabilities, capability.outward = false
  decision : validateDecision (Approval.decision .sample .withLlm "2027-01-15T08:00:00Z"
    ⟨w.contract.revision, hex w.digest⟩ w.contract w.llmStore).json = true
  window : validity w.taskEnv w.contract 1800000000 = .ok .valid
  deadline : clampDeadline w.taskEnv w.contract 1800000000 = .ok "2027-01-15T09:00:00Z"
  asked : .processorUse ∈ w.contract.requestedCapabilities
  once : (w.contract.requestedCapabilities.filter (fun capability => !capability.outward)).Nodup

end Wire

theorem offersLlm_brokerWire : brokerWire.OffersLlm where
  paired := by decide
  grantable := ⟨.respond, by decide, by decide⟩
  decision := by decide
  window := by decide
  deadline := by decide
  asked := by decide
  once := by decide

section Llm

variable {w : Wire} {s : Store} {issued : IssuedWorkOrder}

theorem Wire.OffersLlm.approvable (h : w.OffersLlm) :
    Approvable w.taskEnv .sample .withLlm w.llmStore ⟨w.contract.revision, hex w.digest⟩ w.contract :=
  w.approvable (w.contractHead_stored .opened) (w.loadContract_stored .opened) h.paired h.grantable rfl
    h.decision

theorem Wire.OffersLlm.issuable (h : w.OffersLlm) :
    Issuable w.taskEnv .withLlm w.llmStore ⟨w.contract.revision, hex w.digest⟩ w.contract where
  draftable := {
    window := h.window
    deadline := ⟨_, h.deadline⟩
    processor := by
      rintro id ⟨⟩
      exact ⟨h.asked, rfl⟩
    artifacts := nofun }
  once := h.once
  unclaimed _ hrow := absurd hrow not_mem_nil

/-- The task of the wire was approved with its processor. -/
structure LlmApproved (w : Wire) (s : Store) (issued : IssuedWorkOrder) : Prop where
  stored : s.getWorkOrder w.orderId = .ok (some issued)
  granted : issued.order.capabilities.grant .processorUse =
    some (.processorUse (w.contract.processorScope "local-llm"))
  digest : issued.order.contractDigest = hex w.digest
  deadline : issued.order.deadline = "2027-01-15T09:00:00Z"
  budget : issued.order.budgets.maxOperations = 64
  claimed : s.attemptState w.orderId = some .claimed
  frame : ∃ heads attempts orders audit, s = { w.llmStore with
    contractHeads := heads, attempts := attempts, workOrders := orders, audit := audit }

theorem Wire.OffersLlm.approve (h : w.OffersLlm) : ∃ json s issued,
    exec (approveAndIssue w.taskEnv .sample .withLlm) w.llmStore = (.ok json, s) ∧
      LlmApproved w s issued := by
  obtain ⟨json, s, contextId, deadline, tls, decisionId, v, hrun, hdeadline, hgrants, hstored,
    hclaimed, hframe⟩ := approveAndIssue_issues h.approvable h.issuable
      (fun _ hrow => absurd hrow not_mem_nil)
  obtain rfl := ok.inj (h.deadline.symm.trans hdeadline)
  refine ⟨json, s, _, hrun, hstored, ?_, rfl, rfl, rfl, hclaimed, hframe⟩
  refine CapabilityVector.grant_eq_some_iff.2 ⟨?_, rfl⟩
  change _ ∈ v.grants
  rw [hgrants]
  exact Contract.mem_grants.2 (.inr (.inl ⟨"local-llm", rfl, rfl⟩))

theorem LlmApproved.begins (h : LlmApproved w s issued) {s' : Store} {config : ProcessorConfig}
    (now : Time) (hconfig : s'.getProcessor "local-llm" = some config)
    (horigin : checkOrigin config.origin config.egressPolicy = .ok ())
    (hcalls : s'.processorCalls = ∅) :
    Begins w.taskEnv (w.llmCall now) ((w.llmCall now).ticket issued config) s' config where
  configured := hconfig
  permitted := horigin
  room := by
    refine .inr ⟨?_, ?_⟩
    · rw [Store.callRow, hcalls]
      exact Table.find_empty _
    · rw [Store.callCount, hcalls]
      change 0 < issued.order.budgets.maxOperations
      rw [h.budget]
      decide

theorem LlmApproved.authorized (h : LlmApproved w s issued) (now : Time) :
    Authorized (w.llmCall now) s issued localLlm where
  stored := h.stored
  granted := ⟨_, h.granted, rfl⟩
  active := ⟨_, h.claimed, .inl rfl⟩
  configured := by
    obtain ⟨heads, attempts, orders, audit, rfl⟩ := h.frame
    rfl

theorem LlmApproved.begins_localLlm (h : LlmApproved w s issued) (now : Time) :
    Begins w.taskEnv (w.llmCall now) ((w.llmCall now).ticket issued localLlm) s localLlm := by
  obtain ⟨heads, attempts, orders, audit, hs⟩ := h.frame
  refine h.begins now ?_ (by decide) ?_
  · rw [hs]
    rfl
  · rw [hs]
    rfl

end Llm

/-! ## A call that is made -/

/-- A call is sent once and answered, and is not sent in what comes after. -/
theorem calls_sent_at_most_once_answered : ∃ ls e key,
    Trace (CallStep brokerWire.taskEnv .sample) brokerWire.llmState ls e ∧
    ls.countP (CallEvent.sends key) = 1 ∧ e.store.callState key = some .completed ∧
    ∀ ls' e', Trace (CallStep brokerWire.taskEnv .sample) e ls' e' →
      ∀ l ∈ ls', l.sends key = false := by
  obtain ⟨json, s₁, issued, hrun, h⟩ := offersLlm_brokerWire.approve
  have hticket := authorizeCall_eq_ok_iff.2 ⟨issued, localLlm, h.authorized 1800000000, rfl⟩
  obtain ⟨out, s₂, hbegin, -⟩ := exec_beginDispatch_of_begins (h.begins_localLlm 1800000000)
  obtain ⟨config, hbegins, hout, hdispatching, -⟩ := beginDispatch_dispatches hbegin
  obtain rfl := some.inj (hbegins.configured.symm.trans (h.begins_localLlm 1800000000).configured)
  have haddr : addressProblem brokerWire.taskEnv out.policy (some (.v4 ⟨127, 0, 0, 1⟩)) = none := by
    rw [hout]
    change addressProblem brokerWire.taskEnv localLlm.egressPolicy _ = none
    decide
  obtain ⟨row, hrow, hstate⟩ := map_eq_some_iff.1 hdispatching
  obtain ⟨s₃, hadvance⟩ := advanceCall_total hrow .complete 1800000000
  rw [hstate] at hadvance
  have hadvanced : Broker.advance out.call.idempotencyKey (TransportResult.ok ⟨200, []⟩).event
      (brokerWire.llmCall 1800000000).now s₂ = (.ok .completed, [s₃]) := advance_of_ok hadvance
  have hfinish : exec (finishCall (brokerWire.llmCall 1800000000) out (.ok ⟨200, []⟩)) s₂ =
      (.ok (outcomeJson out.call .completed (some ⟨200, []⟩)), s₃) := by
    rw [finishCall, exec, bind_apply_of_ok hadvanced]
    rfl
  have hended : s₃.callState out.call.idempotencyKey = some .completed := by
    obtain ⟨row', -, -, ⟨e, herror, -⟩ | ⟨new, calls, hnew, -, -, hself, -⟩⟩ :=
      advanceCall_cases hadvance
    · cases herror
    · cases hnew
      exact congrArg (Option.map CallRow.state) hself
  have htrace : Trace (CallStep brokerWire.taskEnv .sample) brokerWire.llmState _ _ :=
    .cons (.approve hrun) (.cons (.authorize (i := 0) rfl hticket) (.cons (.start (i := 0) rfl hbegin)
      (.cons (.send (i := 0) rfl haddr) (.cons (.settle (i := 0) rfl hfinish) (.nil _)))))
  obtain ⟨honce, hover, -⟩ := (calls_sent_at_most_once brokerWire.taskEnv .sample).1 _ _ _
    brokerWire.fresh_llmState htrace
  refine ⟨_, _, out.call.idempotencyKey, htrace, (honce _).antisymm ?_, hended,
    fun ls' e' => hover _ .completed ls' e' hended rfl⟩
  simp [CallEvent.sends]

/-! ## The attempt of a call -/

def AttemptCall.ends : AttemptCall → Option String
  | .advance workOrderId .fail _ _ => some workOrderId
  | .complete workOrderId .. => some workOrderId
  | _ => none

def CallEvent.Spares (e : BrokerState) : CallEvent → Prop
  | .attempt call => ∀ i q ticket, e.flights i = some (.authorized q ticket) →
      call.ends ≠ some q.workOrderId
  | _ => True

def SparingStep (env : Env) (me : LocalAuthority) (e : BrokerState) (l : CallEvent)
    (e' : BrokerState) : Prop :=
  CallStep env me e l e' ∧ l.Spares e

def Store.Active (s : Store) (workOrderId : String) : Prop :=
  ∃ state, s.attemptState workOrderId = some state ∧ state.active

section Attempts

variable {env : Env} {me : LocalAuthority} {e e' : BrokerState} {l : CallEvent}

theorem Store.Active.of_attemptRow {s s' : Store} {w : String} (h : s.Active w)
    (hrows : ∀ row, s.attemptRow w = some row → s'.attemptRow w = some row) : s'.Active w := by
  obtain ⟨state, hstate, hactive⟩ := h
  obtain ⟨row, hrow, rfl⟩ := map_eq_some_iff.1 hstate
  exact ⟨row.state, congrArg (Option.map AttemptRow.state) (hrows row hrow), hactive⟩

theorem attemptStep_active {s s' : Store} {call : AttemptCall} {w : String}
    (h : AttemptStep env s call s') (hserving : call.serving = true) (hends : call.ends ≠ some w)
    (hactive : s.Active w) : s'.Active w := by
  cases call with
  | claim | resolveCrashed | crash => cases hserving
  | advance workOrderId event now answer =>
    obtain ⟨hevent, h⟩ := h
    obtain ⟨e, -, rfl⟩ | ⟨outcome, -, hop⟩ := transact_cases h
    · exact hactive
    obtain ⟨row, hrow, hnext, ⟨e, -, rfl⟩ | ⟨new, attempts, rfl, -, hself, hother⟩⟩ :=
      advanceAttempt_cases hop
    · exact hactive
    by_cases hw : w = workOrderId
    · subst hw
      obtain rfl | rfl := hevent
      · refine ⟨new, congrArg (Option.map AttemptRow.state) hself, ?_⟩
        obtain ⟨state, hstate, hstateActive⟩ := hactive
        rw [Store.attemptState, hrow, map_some, some.injEq] at hstate
        rw [hstate] at hnext
        obtain rfl | rfl := hstateActive
        · exact .inr (ok.inj hnext)
        · cases hnext
      · exact absurd rfl hends
    · exact hactive.of_attemptRow (fun row hrow => (hother w hw).trans hrow)
  | complete workOrderId taskId bundleDigest manifest now answer =>
    obtain ⟨e, -, rfl⟩ | ⟨outcome, -, hop⟩ := transact_cases h
    · exact hactive
    obtain ⟨row, -, ⟨-, rfl⟩ | ⟨-, hstage⟩⟩ := completeAttemptWithResult_cases hop
    · exact hactive
    obtain ⟨-, row', attempts, results, audit, -, -, -, -, hother⟩ := stageResult_cases hstage
    have hw : w ≠ workOrderId := by
      rintro rfl
      exact hends rfl
    exact hactive.of_attemptRow (fun row hrow => (hother w hw).trans hrow)

theorem recover_grounded (hflying : e.Flying) (hstep : CallStep env me e l e')
    (hl : ∃ now, l = .cutRestart now ∨ l = .restart now) (i : ℕ) : e.flights i = none := by
  obtain ⟨now, rfl | rfl⟩ := hl
  · cases hstep
    exact hflying.down rfl i
  · cases hstep
    exact hflying.down rfl i

def ActiveTickets (e : BrokerState) : Prop :=
  ∀ i q ticket, e.flights i = some (.authorized q ticket) → e.store.Active q.workOrderId

theorem activeTickets_step (hflying : e.Flying) (h : ActiveTickets e)
    (hstep : SparingStep env me e l e') : ActiveTickets e' := by
  intro j q ticket hflight
  obtain ⟨hstep, hspares⟩ := hstep
  obtain hflight | ⟨_, _, hstage, hticket, hstore⟩ | ⟨_, _, _, _, hstage, -⟩ | ⟨_, _, hstage⟩ :=
    callStep_flight hstep hflight <;> try cases hstage
  · have hactive := h j q ticket hflight
    have htouches := callStep_touches hstep
    have hgrounded := recover_grounded hflying hstep
    generalize e.store = s at htouches hactive
    generalize e'.store = s' at htouches ⊢
    cases htouches with
    | calls | configure => exact hactive
    | attempt hl hserving hrun =>
      subst hl
      exact attemptStep_active hrun hserving (hspares j q ticket hflight) hactive
    | recover hl =>
      rw [hgrounded hl j] at hflight
      cases hflight
    | approve hl hwrites => exact hactive.of_attemptRow (hwrites.attempts q.workOrderId)
    | elsewhere hrun =>
      refine hactive.of_attemptRow (fun row hrow => ?_)
      rwa [Store.attemptRow, hrun.attempts]
  · obtain ⟨issued, config, hauthorized, -⟩ := authorizeCall_eq_ok_iff.1 hticket
    rw [hstore]
    exact hauthorized.active

/-- **No call leaves for an attempt that has ended**, where no attempt is ended under a call that
has been authorized and has not begun: in every such run, a step in which the call of some key enters
`dispatching` begins the call of an authorized request, the key is the one of this call, and the
attempt of its order is active in the store that step leaves. -/
theorem dispatch_under_active_attempt (env : Env) (me : LocalAuthority) (e₀ e e' : BrokerState)
    (ls : List CallEvent) (l : CallEvent) (hfresh : e₀.Fresh)
    (ht : Trace (SparingStep env me) e₀ ls e) (hstep : SparingStep env me e l e')
    (key : String) (hbefore : e.store.callState key ≠ some .dispatching)
    (hafter : e'.store.callState key = some .dispatching) :
    ∃ i q ticket config, l.begins = some q ∧ e.flights i = some (.authorized q ticket) ∧
      e.store.getProcessor q.processorId = some config ∧
      key = (ticket.call env q config).idempotencyKey ∧ e'.store.Active q.workOrderId := by
  have hinv : e.Flying ∧ ActiveTickets e := by
    refine Trace.invariant (I := fun e => e.Flying ∧ ActiveTickets e)
      (fun e l e' h hstep => ⟨flying_step h.1 hstep.1, activeTickets_step h.1 h.2 hstep⟩) ht
      ⟨hfresh.flying, fun i q ticket hflight => ?_⟩
    rw [hfresh.idle i] at hflight
    cases hflight
  obtain ⟨hflying, hactive⟩ := hinv
  obtain ⟨i, q, ticket, hl, hflight, hmem⟩ | ⟨-, hnone⟩ := callStep_calls hstep.1
  · obtain ⟨-, calls, audit, hs'⟩ := beginDispatch_writes hmem
    obtain ⟨config, hconfig, hkey⟩ := beginDispatch_enters hmem hbefore hafter
    refine ⟨i, q, ticket, config, hl, hflight, hconfig, hkey,
      (hactive i q ticket hflight).of_attemptRow (fun row hrow => ?_)⟩
    rw [hs']
    exact hrow
  · exact absurd (hnone key hafter) hbefore

end Attempts

/-- A call that is authorized and begins under the claimed attempt. -/
theorem dispatch_under_active_attempt_llm : ∃ ls e l e',
    Trace (SparingStep brokerWire.taskEnv .sample) brokerWire.llmState ls e ∧
    SparingStep brokerWire.taskEnv .sample e l e' ∧
    ∃ key i q ticket config, e.store.callState key ≠ some .dispatching ∧
      e'.store.callState key = some .dispatching ∧
      l.begins = some q ∧ e.flights i = some (.authorized q ticket) ∧
      e.store.getProcessor q.processorId = some config ∧
      key = (ticket.call brokerWire.taskEnv q config).idempotencyKey ∧
      e'.store.Active q.workOrderId := by
  obtain ⟨json, s₁, issued, hrun, h⟩ := offersLlm_brokerWire.approve
  have hticket := authorizeCall_eq_ok_iff.2 ⟨issued, localLlm, h.authorized 1800000000, rfl⟩
  obtain ⟨out, s₂, hbegin, -, -, key, hbefore, hafter⟩ :=
    exec_beginDispatch_of_begins (h.begins_localLlm 1800000000)
  have htrace : Trace (SparingStep brokerWire.taskEnv .sample) brokerWire.llmState _ _ :=
    .cons ⟨.approve hrun, trivial⟩ (.cons ⟨.authorize (i := 0) rfl hticket, trivial⟩ (.nil _))
  obtain ⟨i, q, ticket, config, hq⟩ := dispatch_under_active_attempt _ _ _ _ _ _ _
    brokerWire.fresh_llmState htrace ⟨.start (i := 0) rfl hbegin, trivial⟩ key hbefore hafter
  exact ⟨_, _, _, _, htrace, ⟨.start (i := 0) rfl hbegin, trivial⟩, key, i, q, ticket, config, hbefore,
    hafter, hq⟩

/-- The attempt fails between the two looks at the store, and the call is dispatched all the same. -/
theorem dispatched_for_failed_attempt : ∃ ls e l e',
    brokerWire.llmState.Fresh ∧
    Trace (CallStep brokerWire.taskEnv .sample) brokerWire.llmState ls e ∧
    CallStep brokerWire.taskEnv .sample e l e' ∧ Enters e.store e'.store ∧
    ¬ ∃ q, l.begins = some q ∧ e'.store.Active q.workOrderId := by
  obtain ⟨json, s₁, issued, hrun, h⟩ := offersLlm_brokerWire.approve
  have hticket := authorizeCall_eq_ok_iff.2 ⟨issued, localLlm, h.authorized 1800000000, rfl⟩
  obtain ⟨s₂, hstart, hrunning, attempts, audit, hs₂⟩ :=
    advanceAttempt_of_next .start h.claimed rfl 1800000000
  obtain ⟨s₃, hfail, hfailed, attempts', audit', hs₃⟩ :=
    advanceAttempt_of_next .fail hrunning rfl 1800000000
  have hfirst : AttemptStep brokerWire.taskEnv s₁
      (.advance brokerWire.orderId .start 1800000000 (.ok (.ok .running))) s₂ :=
    ⟨.inl rfl, transact_of_ok hstart⟩
  have hsecond : AttemptStep brokerWire.taskEnv s₂
      (.advance brokerWire.orderId .fail 1800000000 (.ok (.ok .failed))) s₃ :=
    ⟨.inr rfl, transact_of_ok hfail⟩
  -- the processor and the calls are as they were
  have hbegins : Begins brokerWire.taskEnv (brokerWire.llmCall 1800000000)
      ((brokerWire.llmCall 1800000000).ticket issued localLlm) s₃ localLlm := by
    obtain ⟨heads, attempts'', orders, audit'', hs₁⟩ := h.frame
    rw [hs₃, hs₂, hs₁]
    exact h.begins 1800000000 rfl (by decide) rfl
  obtain ⟨out, s₄, hbegin, -, hmem, henters⟩ := exec_beginDispatch_of_begins hbegins
  refine ⟨_, _, _, _, brokerWire.fresh_llmState,
    .cons (.approve hrun) (.cons (.authorize (i := 0) rfl hticket)
      (.cons (.attempt rfl hfirst) (.cons (.attempt rfl hsecond) (.nil _)))),
    .start (i := 0) rfl hbegin, henters, ?_⟩
  rintro ⟨q, hq, state, hstate, hactive⟩
  cases hq
  obtain ⟨-, calls, audit'', hs₄⟩ := beginDispatch_writes (mem_cons_of_mem _ hmem)
  have hended : s₄.attemptState brokerWire.orderId = some .failed := by
    rw [hs₄]
    exact hfailed
  cases hended.symm.trans hstate
  exact absurd hactive (by decide)

/-! ## The deadline of a call -/

def BeforeDeadline (env : Env) (q : CallRequest) (s : Store) : Prop :=
  ∀ issued d t s', s.getWorkOrder q.workOrderId = .ok (some issued) →
    env.parseRfc3339 issued.order.deadline = some d → s.trustedNow q.now = .ok (t, s') → t < d

/-- **The deadline is not looked at.**  Through either door, a call does not enter `dispatching` at
or after the deadline of its order exactly if the trusted time is before the deadline, or if the
call cannot be dispatched for some other reason. -/
theorem call_keeps_deadline_iff (env : Env) (door : CallDoor) (wall : Time) (s : Store) :
    (∀ issued d t s', s.getWorkOrder (door.callRequest wall).workOrderId = .ok (some issued) →
        env.parseRfc3339 issued.order.deadline = some d → s.trustedNow wall = .ok (t, s') → d ≤ t →
          ¬ ∃ s' ∈ commits (requestCall env (door.callRequest wall)) s, Enters s s') ↔
      BeforeDeadline env (door.callRequest wall) s ∨
        ¬ Dispatchable env (door.callRequest wall) s := by
  have hnow : (door.callRequest wall).now = wall := by
    cases door <;> rfl
  simp only [requestCall_enters_iff, BeforeDeadline, hnow]
  constructor
  · intro h
    by_cases hdispatchable : Dispatchable env (door.callRequest wall) s
    · left
      intro issued d t s' hstored hdeadline ht
      by_contra hlate
      exact h issued d t s' hstored hdeadline ht (not_lt.1 hlate) hdispatchable
    · exact .inr hdispatchable
  · rintro (h | h) issued d t s' hstored hdeadline ht hlate
    · exact absurd hlate (not_le.2 (h issued d t s' hstored hdeadline ht))
    · exact h

/-- One hour after the approval the deadline has passed, and the operator's call is dispatched. -/
theorem call_dispatched_past_deadline : ∃ s s' issued d t,
    s.getWorkOrder brokerWire.orderId = .ok (some issued) ∧
    brokerWire.taskEnv.parseRfc3339 issued.order.deadline = some d ∧
    s.trustedNow 1800003600 = .ok (t, s') ∧ d ≤ t ∧
    ∃ s' ∈ commits (requestCall brokerWire.taskEnv (brokerWire.llmCall 1800003600)) s, Enters s s' := by
  obtain ⟨json, s, issued, -, h⟩ := offersLlm_brokerWire.approve
  obtain ⟨heads, attempts, orders, audit, hs⟩ := h.frame
  refine ⟨s, s, issued, 1800003600, 1800003600, h.stored, ?_, ?_, le_rfl, ?_⟩
  · rw [h.deadline]
    decide
  · rw [hs]
    rfl
  · exact requestCall_enters_iff.2
      ⟨issued, localLlm, h.authorized 1800003600, h.begins_localLlm 1800003600⟩

end Akson
