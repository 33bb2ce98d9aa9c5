/-
# What the operator consented to

An order that grants the use of a processor names it by its id.
-/
import Akson.Broker.Attempt

namespace Akson

open Operation Option List

variable {s : Store} {issued : IssuedWorkOrder} {order : WorkOrder}

section Lookups

variable {env : Env} {me : LocalAuthority} {e e' : BrokerState} {l : CallEvent}

theorem callStep_processor (h : CallStep env me e l e') (id : String) :
    e'.store.getProcessor id = e.store.getProcessor id ∨
      ∃ config now answer, l = .configure config now answer ∧ config.processorId = id ∧
        e'.store.getProcessor id = some config := by
  have htouches := callStep_touches h
  generalize e.store = s at htouches ⊢
  generalize e'.store = s' at htouches ⊢
  cases htouches with
  | calls | recover => exact .inl rfl
  | attempt hl hserving hrun =>
    obtain ⟨attempts, results, audit, rfl⟩ := attemptStep_eq hrun
    exact .inl rfl
  | approve hl hwrites =>
    left
    rw [Store.getProcessor, hwrites.processors]
    rfl
  | @configure config now answer rows hl hrows =>
    have hlookup := getProcessor_upsert hrows id
    by_cases hid : id = config.processorId
    · rw [if_pos hid] at hlookup
      exact .inr ⟨config, now, answer, hl, hid.symm, hlookup⟩
    · rw [if_neg hid] at hlookup
      exact .inl hlookup
  | elsewhere hrun =>
    left
    rw [Store.getProcessor, hrun.processors]
    rfl

variable {row : WorkOrderRow} {g : String → Option Store} {s' : Store}

theorem noteIssued_of_mem (h : row ∈ s.workOrders) :
    noteIssued s s' g row.workOrderId = g row.workOrderId := by
  rw [noteIssued, if_pos]
  exact find?_isSome.2 ⟨row, h, decide_eq_true rfl⟩

theorem noteIssued_of_new (h : ∀ r ∈ s.workOrders, r.workOrderId ≠ row.workOrderId)
    (h' : row ∈ s'.workOrders) : noteIssued s s' g row.workOrderId = some s := by
  rw [noteIssued, if_neg, if_pos]
  · exact find?_isSome.2 ⟨row, h', decide_eq_true rfl⟩
  · intro hsome
    obtain ⟨r, hr, hid⟩ := find?_isSome.1 hsome
    exact h r hr (of_decide_eq_true hid)

theorem callStep_issuedFrom (h : CallStep env me e l e') :
    e'.issuedFrom = if l.approval.isSome then noteIssued e.store e'.store e.issuedFrom
      else e.issuedFrom := by
  cases h <;> rfl

theorem callStep_new_order (h : CallStep env me e l e') (hrow : row ∈ e'.store.workOrders) :
    row ∈ e.store.workOrders ∨ ∃ a issued c, l.approval = some a ∧ row.order = some issued ∧
      Drafted env a e.store issued.order c := by
  have htouches := callStep_touches h
  generalize e.store = s at htouches ⊢
  generalize e'.store = s' at htouches hrow
  cases htouches with
  | calls | recover | configure => exact .inl hrow
  | attempt hl hserving hrun =>
    obtain ⟨attempts, results, audit, rfl⟩ := attemptStep_eq hrun
    exact .inl hrow
  | @approve _ a hl hwrites =>
    obtain hold | ⟨issued, c, horder, hdrafted⟩ := hwrites.issued row hrow
    · exact .inl hold
    · exact .inr ⟨a, issued, c, hl, horder, hdrafted⟩
  | elsewhere hrun => exact .inl (hrun.workOrders ▸ hrow)

theorem callStep_order_cases (h : CallStep env me e l e') {w : String}
    (hstored : e'.store.getWorkOrder w = .ok (some issued)) :
    (e.store.getWorkOrder w = .ok (some issued) ∧ e'.issuedFrom w = e.issuedFrom w) ∨
      ∃ a c, l.approval = some a ∧ Drafted env a e.store issued.order c ∧
        e'.issuedFrom w = some e.store := by
  obtain ⟨row, hrow, rfl, horder⟩ := Store.getWorkOrder_eq_some_iff.1 hstored
  by_cases hold : row ∈ e.store.workOrders
  · refine .inl ⟨Store.getWorkOrder_eq_some_iff.2 ⟨row, hold, rfl, horder⟩, ?_⟩
    rw [callStep_issuedFrom h]
    split
    · exact noteIssued_of_mem hold
    · rfl
  · obtain hrow' | ⟨a, issued', c, hl, horder', hdrafted⟩ := callStep_new_order h hrow
    · exact absurd hrow' hold
    obtain rfl := some.inj (horder'.symm.trans horder)
    refine .inr ⟨a, c, hl, hdrafted, ?_⟩
    rw [callStep_issuedFrom h, hl]
    refine noteIssued_of_new (fun r hr hid => hold ?_) hrow
    rwa [← e'.store.workOrders.eq_of_clash (callStep_orders h r hr) hrow hid]

end Lookups

/-! ## One invariant -/

def WorkOrder.processorScope (order : WorkOrder) : Option ProcessorUseScope :=
  match order.capabilities.grant .processorUse with
  | some (.processorUse scope) => some scope
  | _ => none

theorem WorkOrder.processorScope_eq_some_iff {scope : ProcessorUseScope} :
    order.processorScope = some scope ↔
      order.capabilities.grant .processorUse = some (.processorUse scope) := by
  unfold WorkOrder.processorScope
  split
  case h_1 scope' h => rw [h, some.injEq, some.injEq, Grant.processorUse.injEq]
  case h_2 h =>
    constructor
    · exact nofun
    · intro hgrant
      exact absurd hgrant (h scope)

section Invariant

variable {env : Env} {me : LocalAuthority} {e e' : BrokerState} {l : CallEvent}
  {R : Store → WorkOrder → ProcessorUseScope → ProcessorConfig → Prop}

def ConfigsKept (R : Store → WorkOrder → ProcessorUseScope → ProcessorConfig → Prop)
    (e : BrokerState) : Prop :=
  ∀ w issued scope, e.store.getWorkOrder w = .ok (some issued) →
    issued.order.processorScope = some scope →
    ∃ s₀ config, e.issuedFrom w = some s₀ ∧
      e.store.getProcessor scope.processorId = some config ∧ R s₀ issued.order scope config

/-- What an event has to respect so that `R` holds of every order and its processor. -/
structure KeepsRelation (env : Env)
    (R : Store → WorkOrder → ProcessorUseScope → ProcessorConfig → Prop) (e : BrokerState)
    (l : CallEvent) : Prop where
  approves : ∀ a order c scope config, l.approval = some a → Drafted env a e.store order c →
    order.processorScope = some scope →
    e.store.getProcessor scope.processorId = some config → R e.store order scope config
  configures : ∀ config now answer, l = .configure config now answer →
    ∀ w issued scope s₀ old, e.store.getWorkOrder w = .ok (some issued) →
      issued.order.processorScope = some scope → scope.processorId = config.processorId →
      e.issuedFrom w = some s₀ → e.store.getProcessor config.processorId = some old →
      R s₀ issued.order scope old → R s₀ issued.order scope config

theorem configsKept_step (h : ConfigsKept R e) (hkeeps : KeepsRelation env R e l)
    (hstep : CallStep env me e l e') : ConfigsKept R e' := by
  intro w issued scope hstored hscope
  obtain ⟨hstored₀, hghost⟩ | ⟨a, c, hl, hdrafted, hghost⟩ := callStep_order_cases hstep hstored
  · obtain ⟨s₀, config, hissued, hconfig, hR⟩ := h w issued scope hstored₀ hscope
    obtain hsame | ⟨new, now, answer, rfl, hid, hnew⟩ := callStep_processor hstep scope.processorId
    · exact ⟨s₀, config, hghost.trans hissued, hsame.trans hconfig, hR⟩
    · refine ⟨s₀, new, hghost.trans hissued, hnew, ?_⟩
      rw [← hid] at hconfig
      exact hkeeps.configures new now answer rfl w issued scope s₀ config hstored₀ hscope hid.symm
        hissued hconfig hR
  · obtain ⟨-, -, config, hconfig⟩ :=
      hdrafted.processor scope (WorkOrder.processorScope_eq_some_iff.1 hscope)
    have hsame : e'.store.getProcessor scope.processorId = some config := by
      obtain hsame | ⟨new, now, answer, rfl, -⟩ := callStep_processor hstep scope.processorId
      · exact hsame.trans hconfig
      · cases hl
    exact ⟨e.store, config, hghost, hsame, hkeeps.approves a _ c scope config hl hdrafted hscope hconfig⟩

variable {ls : List CallEvent} {e₀ : BrokerState}

theorem configsKept_of_trace (hfresh : e₀.Fresh)
    (ht : Trace (fun e l e' => CallStep env me e l e' ∧ KeepsRelation env R e l) e₀ ls e) :
    ConfigsKept R e := by
  refine Trace.invariant (I := ConfigsKept R)
    (fun e l e' h hstep => configsKept_step h hstep.2 hstep.1) ht (fun w issued scope hstored _ => ?_)
  obtain ⟨row, hrow, -⟩ := Store.getWorkOrder_eq_some_iff.1 hstored
  exact absurd hrow (hfresh.noOrders row)

theorem dispatch_related {i : ℕ} {q : CallRequest} {out : Outbound} (hfresh : e₀.Fresh)
    (ht : Trace (fun e l e' => CallStep env me e l e' ∧ KeepsRelation env R e l) e₀ ls e)
    (hstep : CallStep env me e (.start i q (.ok (.dispatching out))) e') : ∃ issued scope s₀ config,
      e.store.getWorkOrder q.workOrderId = .ok (some issued) ∧
      issued.order.processorScope = some scope ∧ scope.processorId = q.processorId ∧
      e.issuedFrom q.workOrderId = some s₀ ∧ R s₀ issued.order scope config ∧
      out.call.configDigest = config.configDigest env ∧
      e.store.getProcessor q.processorId = some config := by
  have hkept := configsKept_of_trace hfresh ht
  have hbudgeted := budgeted_of_trace hfresh (ht.mono (fun _ _ _ h => h.1))
  cases hstep with
  | @start s s' fl g i q ticket answer hstage hrun =>
    obtain ⟨issued, config', hstored, ⟨scope, hgrant, hid⟩, -⟩ := hbudgeted.tickets i q ticket hstage
    have hscope := WorkOrder.processorScope_eq_some_iff.2 hgrant
    obtain ⟨s₀, config, hissued, hconfig, hR⟩ := hkept q.workOrderId issued scope hstored hscope
    obtain ⟨config'', hbegins, rfl, -⟩ := beginDispatch_dispatches hrun
    rw [hid] at hconfig
    obtain rfl := some.inj (hconfig.symm.trans hbegins.configured)
    exact ⟨issued, scope, s₀, config, hstored, hscope, hid, hissued, hR, rfl, hconfig⟩

end Invariant

/-! ## The configuration that was approved -/

variable (env : Env)

def CallEvent.KeepsDigests (e : BrokerState) : CallEvent → Prop
  | .configure config _ _ => ∀ w issued scope old, e.store.getWorkOrder w = .ok (some issued) →
      issued.order.processorScope = some scope → scope.processorId = config.processorId →
      e.store.getProcessor config.processorId = some old →
      config.configDigest env = old.configDigest env
  | _ => True

def DigestStep (me : LocalAuthority) (e : BrokerState) (l : CallEvent)
    (e' : BrokerState) : Prop :=
  CallStep env me e l e' ∧ l.KeepsDigests env e

def SameDigest (s₀ : Store) (_ : WorkOrder) (scope : ProcessorUseScope)
    (config : ProcessorConfig) : Prop :=
  ∃ c₀, s₀.getProcessor scope.processorId = some c₀ ∧ config.configDigest env = c₀.configDigest env

theorem keepsRelation_digest {env : Env} {e : BrokerState} {l : CallEvent}
    (h : l.KeepsDigests env e) : KeepsRelation env (SameDigest env) e l where
  approves a order c scope config _ _ _ hconfig := ⟨config, hconfig, rfl⟩
  configures config now answer hl w issued scope s₀ old hstored hscope hid _ hold hR := by
    subst hl
    obtain ⟨c₀, hc₀, hdigest⟩ := hR
    exact ⟨c₀, hc₀, (h w issued scope old hstored hscope hid hold).trans hdigest⟩

/-- **Calls go where the operator approved them to go**, where no granted processor is configured
anew with another digest: in every such run, a call that is dispatched uses a configuration with the
digest of the one that was stored under its processor's id when its order was issued. -/
theorem dispatched_as_approved (env : Env) (me : LocalAuthority) (e₀ e e' : BrokerState)
    (ls : List CallEvent) (i : ℕ) (q : CallRequest) (out : Outbound) (hfresh : e₀.Fresh)
    (ht : Trace (DigestStep env me) e₀ ls e)
    (hstep : CallStep env me e (.start i q (.ok (.dispatching out))) e') :
    ∃ s₀ c₀, e.issuedFrom q.workOrderId = some s₀ ∧ s₀.getProcessor q.processorId = some c₀ ∧
      out.call.configDigest = c₀.configDigest env := by
  have ht' := ht.mono (fun e l e' h => And.intro h.1 (keepsRelation_digest h.2))
  obtain ⟨issued, scope, s₀, config, -, -, hid, hissued, ⟨c₀, hc₀, hdigest⟩, hout, -⟩ :=
    dispatch_related hfresh ht' hstep
  rw [hid] at hc₀
  exact ⟨s₀, c₀, hissued, hc₀, hout.trans hdigest⟩

theorem LlmApproved.reconfigured (h : LlmApproved w s issued) (config : ProcessorConfig) (now : Time)
    (hid : config.processorId = "local-llm")
    (horigin : checkOrigin config.origin config.egressPolicy = .ok ()) :
    ∃ s' out s'', transact (putProcessor config now) s = (.ok (), s') ∧
      authorizeCall (w.llmCall now) s' = .ok ((w.llmCall now).ticket issued config) ∧
      exec (beginDispatch w.taskEnv (w.llmCall now) ((w.llmCall now).ticket issued config)) s' =
        (.ok (.dispatching out), s'') ∧
      out.call.configDigest = config.configDigest w.taskEnv := by
  obtain ⟨s', hput⟩ := putProcessor_total config now s
  obtain ⟨rows, hrows, hs'⟩ := putProcessor_eq hput
  have hconfig : s'.getProcessor "local-llm" = some config := by
    rw [hs', ← hid]
    exact (getProcessor_upsert hrows config.processorId).trans (if_pos rfl)
  have hcalls : s'.processorCalls = ∅ := by
    obtain ⟨heads, attempts, orders, audit, hs⟩ := h.frame
    rw [hs', hs]
    rfl
  have hauthorized : Authorized (w.llmCall now) s' issued config := by
    refine ⟨?_, ⟨_, h.granted, rfl⟩, ⟨.claimed, ?_, .inl rfl⟩, hconfig⟩
    · rw [hs']
      exact h.stored
    · rw [hs']
      exact h.claimed
  obtain ⟨out, s'', hbegin, hcall, -⟩ :=
    exec_beginDispatch_of_begins (h.begins now hconfig horigin hcalls)
  refine ⟨s', out, s'', transact_of_ok hput,
    authorizeCall_eq_ok_iff.2 ⟨issued, config, hauthorized, rfl⟩, hbegin, ?_⟩
  rw [hcall]
  rfl

theorem LlmApproved.issuedFrom (h : LlmApproved w s issued) :
    noteIssued w.llmStore s (fun _ => none) w.orderId = some w.llmStore := by
  obtain ⟨row, hrow, hid, -⟩ := Store.getWorkOrder_eq_some_iff.1 h.stored
  rw [← hid]
  exact noteIssued_of_new (fun _ hr => absurd hr not_mem_nil) hrow

/-- After the approval the processor is moved to another host, and the call follows it there. -/
theorem dispatched_to_moved_processor : ∃ ls e i q out e' s₀ c₀,
    Trace (CallStep brokerWire.taskEnv .sample) brokerWire.llmState ls e ∧
    CallStep brokerWire.taskEnv .sample e (.start i q (.ok (.dispatching out))) e' ∧
    e.issuedFrom q.workOrderId = some s₀ ∧ s₀.getProcessor q.processorId = some c₀ ∧
    out.call.configDigest ≠ c₀.configDigest brokerWire.taskEnv := by
  obtain ⟨json, s₁, issued, hrun, h⟩ := offersLlm_brokerWire.approve
  obtain ⟨s₂, out, s₃, hput, hticket, hbegin, hdigest⟩ :=
    h.reconfigured movedLlm 1800000000 rfl (by decide)
  refine ⟨_, _, _, _, out, _, brokerWire.llmStore, localLlm,
    .cons (.approve hrun) (.cons (.configure hput) (.cons (.authorize (i := 0) rfl hticket) (.nil _))),
    .start (i := 0) rfl hbegin, h.issuedFrom, rfl, ?_⟩
  rw [hdigest]
  decide +kernel

/-- The processor is configured once more as it was, and the call goes where it was approved. -/
theorem dispatched_as_approved_llm : ∃ ls e i q out e' s₀ c₀,
    Trace (DigestStep brokerWire.taskEnv .sample) brokerWire.llmState ls e ∧
    CallStep brokerWire.taskEnv .sample e (.start i q (.ok (.dispatching out))) e' ∧
    e.issuedFrom q.workOrderId = some s₀ ∧ s₀.getProcessor q.processorId = some c₀ ∧
    out.call.configDigest = c₀.configDigest brokerWire.taskEnv := by
  obtain ⟨json, s₁, issued, hrun, h⟩ := offersLlm_brokerWire.approve
  obtain ⟨s₂, out, s₃, hput, hticket, hbegin, -⟩ :=
    h.reconfigured localLlm 1800000000 rfl (by decide)
  have hsame : (CallEvent.configure localLlm 1800000000 (.ok ())).KeepsDigests brokerWire.taskEnv
      ⟨s₁, true, fun _ => none, noteIssued brokerWire.llmStore s₁ (fun _ => none)⟩ := by
    intro w issued' scope old _ _ _ hold
    obtain ⟨heads, attempts, orders, audit, hs⟩ := h.frame
    change s₁.getProcessor "local-llm" = some old at hold
    rw [hs] at hold
    cases hold
    rfl
  have htrace : Trace (DigestStep brokerWire.taskEnv .sample) brokerWire.llmState _ _ :=
    .cons ⟨.approve hrun, trivial⟩ (.cons ⟨.configure hput, hsame⟩
      (.cons ⟨.authorize (i := 0) rfl hticket, trivial⟩ (.nil _)))
  obtain ⟨s₀, c₀, hissued, hc₀, hdigest⟩ := dispatched_as_approved brokerWire.taskEnv .sample brokerWire.llmState _ _
    _ 0 (brokerWire.llmCall 1800000000) out brokerWire.fresh_llmState htrace (.start rfl hbegin)
  exact ⟨_, _, 0, brokerWire.llmCall 1800000000, out, _, s₀, c₀, htrace, .start rfl hbegin, hissued, hc₀, hdigest⟩

/-! ## The ceiling of the contract -/

namespace Contract

def Admits (c : Contract) (config : ProcessorConfig) : Prop :=
  c.processorConstraints.disclosure ≠ .none ∧
    (c.processorConstraints.disclosure = .localOnly → config.isLocal = true)

def Shows (c : Contract) (id : String) : Prop :=
  ∃ entry ∈ c.inputs, entry.id = id ∧ entry.processorVisible = true

end Contract

def WithinCeiling (c : Contract) (s : Store) (order : WorkOrder) : Prop :=
  ∀ scope, order.processorScope = some scope →
    ∃ config, s.getProcessor scope.processorId = some config ∧ c.Admits config ∧
      ∀ id ∈ scope.inputIds, c.Shows id

def GrantWithin (c : Contract) (processorGrant : Option String) (s : Store) : Prop :=
  ∀ id config, processorGrant = some id → s.getProcessor id = some config →
    c.Admits config ∧ ∀ entry ∈ c.inputs, c.Shows entry.id

theorem withinCeiling_iff {env : Env} {taskId : String} {config : IssueConfig} {now : Time}
    {c : Contract} (hdraft : draftOrder env taskId config now s = .ok order)
    (hload : s.loadContract env order.contractDigest = .ok c) :
    WithinCeiling c s order ↔ GrantWithin c config.processorGrant s := by
  obtain ⟨head, c', deadline, v, -, hload', hdraftable, -, hv, rfl⟩ := draftOrder_eq_ok_iff.1 hdraft
  obtain rfl := Except.ok.inj (hload.symm.trans hload')
  constructor
  · intro h id conf hid hconf
    have hscope : v.grant .processorUse = some (.processorUse (c.processorScope id)) :=
      CapabilityVector.grant_eq_some_iff.2
        ⟨hv ▸ Contract.mem_grants.2 (.inr (.inl ⟨id, hid, rfl⟩)), rfl⟩
    obtain ⟨conf', hconf', hadmits, hshows⟩ := h _ (WorkOrder.processorScope_eq_some_iff.2 hscope)
    obtain rfl := some.inj (hconf.symm.trans hconf')
    exact ⟨hadmits, fun entry hentry => hshows entry.id (mem_map_of_mem hentry)⟩
  · intro h scope hscope
    have hmem : Grant.processorUse scope ∈ v.grants :=
      (CapabilityVector.grant_eq_some_iff.1 (WorkOrder.processorScope_eq_some_iff.1 hscope)).1
    rw [hv] at hmem
    obtain ⟨hgrant, hscope⟩ := Contract.processorUse_mem_grants hmem
    obtain ⟨conf, hconf⟩ := isSome_iff_exists.1 (hdraftable.processor _ hgrant).2
    obtain ⟨hadmits, hshows⟩ := h _ conf hgrant hconf
    refine ⟨conf, hconf, hadmits, fun id hid => ?_⟩
    rw [hscope] at hid
    obtain ⟨entry, hentry, rfl⟩ := mem_map.1 hid
    exact hshows entry hentry

def CallEvent.KeepsCeiling (e : BrokerState) : CallEvent → Prop
  | .approve a _ | .cutApprove a => ∀ head c, e.store.contractHead a.taskId = .opened head →
      e.store.loadContract env head.digest = .ok c → GrantWithin c a.processor e.store
  | .configure config _ _ => ∀ w issued scope s₀ c, e.store.getWorkOrder w = .ok (some issued) →
      issued.order.processorScope = some scope → scope.processorId = config.processorId →
      e.issuedFrom w = some s₀ → s₀.loadContract env issued.order.contractDigest = .ok c →
      c.Admits config
  | _ => True

def CeilingStep (me : LocalAuthority) (e : BrokerState) (l : CallEvent)
    (e' : BrokerState) : Prop :=
  CallStep env me e l e' ∧ l.KeepsCeiling env e

def UnderCeiling (s₀ : Store) (order : WorkOrder) (_ : ProcessorUseScope)
    (config : ProcessorConfig) : Prop :=
  ∃ c, s₀.loadContract env order.contractDigest = .ok c ∧ WithinCeiling c s₀ order ∧ c.Admits config

theorem keepsRelation_ceiling {env : Env} {e : BrokerState} {l : CallEvent}
    (h : l.KeepsCeiling env e) : KeepsRelation env (UnderCeiling env) e l where
  approves a order c scope config hl hdrafted hscope hconfig := by
    obtain ⟨revision, hopened⟩ := hdrafted.opened
    have hgrant : GrantWithin c a.processor e.store := by
      cases l with
      | approve a' answer =>
        cases hl
        exact h _ c hopened hdrafted.loaded
      | cutApprove a' =>
        cases hl
        exact h _ c hopened hdrafted.loaded
      | _ => cases hl
    have hwithin : WithinCeiling c e.store order := by
      intro scope' hscope'
      obtain ⟨ha, hscope'', conf, hconf⟩ :=
        hdrafted.processor scope' (WorkOrder.processorScope_eq_some_iff.1 hscope')
      obtain ⟨hadmits, hshows⟩ := hgrant _ conf ha hconf
      refine ⟨conf, hconf, hadmits, fun id hid => ?_⟩
      rw [hscope''] at hid
      obtain ⟨entry, hentry, rfl⟩ := mem_map.1 hid
      exact hshows entry hentry
    obtain ⟨conf, hconf, hadmits, -⟩ := hwithin scope hscope
    cases hconfig.symm.trans hconf
    exact ⟨c, hdrafted.loaded, hwithin, hadmits⟩
  configures config now answer hl w issued scope s₀ old hstored hscope hid hissued _ hR := by
    subst hl
    obtain ⟨c, hload, hwithin, -⟩ := hR
    exact ⟨c, hload, hwithin, h w issued scope s₀ c hstored hscope hid hissued hload⟩

/-- **The disclosure ceiling holds where the operator keeps to it.**  An order is drafted within the
ceiling of its contract exactly if the operator's grant is within it; and in every run in which all
grants are, and in which no granted processor is moved out of it, every order is within the ceiling
and so is every call that is dispatched. -/
theorem ceiling_holds_where_kept (env : Env) (me : LocalAuthority) :
    (∀ taskId config now s order c, draftOrder env taskId config now s = .ok order →
      s.loadContract env order.contractDigest = .ok c →
        (WithinCeiling c s order ↔ GrantWithin c config.processorGrant s)) ∧
    ∀ e₀ ls e, BrokerState.Fresh e₀ → Trace (CeilingStep env me) e₀ ls e →
      (∀ w issued scope, e.store.getWorkOrder w = .ok (some issued) →
        issued.order.processorScope = some scope →
        ∃ s₀ c, e.issuedFrom w = some s₀ ∧
          s₀.loadContract env issued.order.contractDigest = .ok c ∧
          WithinCeiling c s₀ issued.order) ∧
      ∀ i q out e', CallStep env me e (.start i q (.ok (.dispatching out))) e' →
        ∃ issued s₀ c config, e.store.getWorkOrder q.workOrderId = .ok (some issued) ∧
          e.issuedFrom q.workOrderId = some s₀ ∧
          s₀.loadContract env issued.order.contractDigest = .ok c ∧
          e.store.getProcessor q.processorId = some config ∧
          out.call.configDigest = config.configDigest env ∧ c.Admits config := by
  refine ⟨fun _ _ _ _ _ _ hdraft hload => withinCeiling_iff hdraft hload, fun e₀ ls e hfresh ht => ?_⟩
  have ht' := ht.mono (fun e l e' h => And.intro h.1 (keepsRelation_ceiling h.2))
  refine ⟨fun w issued scope hstored hscope => ?_, fun i q out e' hstep => ?_⟩
  · obtain ⟨s₀, config, hissued, -, c, hload, hwithin, -⟩ :=
      configsKept_of_trace hfresh ht' w issued scope hstored hscope
    exact ⟨s₀, c, hissued, hload, hwithin⟩
  · obtain ⟨issued, scope, s₀, config, hstored, -, -, hissued, ⟨c, hload, -, hadmits⟩, hdigest,
      hconfig⟩ := dispatch_related hfresh ht' hstep
    exact ⟨issued, s₀, c, config, hstored, hissued, hload, hconfig, hdigest, hadmits⟩

theorem offersLlm_localWire : localWire.OffersLlm where
  paired := by decide
  grantable := ⟨.respond, by decide, by decide⟩
  decision := by decide
  window := by decide
  deadline := by decide
  asked := by decide
  once := by decide

theorem grantWithin_localWire :
    GrantWithin localWire.contract (some "local-llm") localWire.llmStore := by
  rintro id config ⟨⟩ hconfig
  cases hconfig
  refine ⟨⟨by decide, fun _ => by decide⟩, fun entry hentry => ?_⟩
  obtain rfl := mem_singleton.1 hentry
  exact ⟨_, hentry, rfl, rfl⟩

/-- A local processor is granted and called under a contract that allows it. -/
theorem ceiling_holds_where_kept_local : ∃ ls e i q out e' issued scope s₀ c config,
    Trace (CeilingStep localWire.taskEnv .sample) localWire.llmState ls e ∧
    CallStep localWire.taskEnv .sample e (.start i q (.ok (.dispatching out))) e' ∧
    e.store.getWorkOrder q.workOrderId = .ok (some issued) ∧
    issued.order.processorScope = some scope ∧ e.issuedFrom q.workOrderId = some s₀ ∧
    s₀.loadContract localWire.taskEnv issued.order.contractDigest = .ok c ∧
    WithinCeiling c s₀ issued.order ∧ out.call.configDigest = config.configDigest localWire.taskEnv ∧
    c.Admits config := by
  obtain ⟨json, s₁, issued, hrun, h⟩ := offersLlm_localWire.approve
  have hticket := authorizeCall_eq_ok_iff.2 ⟨issued, localLlm, h.authorized 1800000000, rfl⟩
  obtain ⟨out, s₂, hbegin, -⟩ := exec_beginDispatch_of_begins (h.begins_localLlm 1800000000)
  have hkeeps : (CallEvent.approve .withLlm (.ok json)).KeepsCeiling localWire.taskEnv
      localWire.llmState := by
    intro head c hopened hload
    cases (localWire.contractHead_stored .opened).symm.trans hopened
    cases (localWire.loadContract_stored .opened).symm.trans hload
    exact grantWithin_localWire
  have htrace : Trace (CeilingStep localWire.taskEnv .sample) localWire.llmState _ _ :=
    .cons ⟨.approve hrun, hkeeps⟩ (.cons ⟨.authorize (i := 0) rfl hticket, trivial⟩ (.nil _))
  obtain ⟨hwithin, hcalls⟩ := (ceiling_holds_where_kept localWire.taskEnv .sample).2 _ _ _
    localWire.fresh_llmState htrace
  have hscope := WorkOrder.processorScope_eq_some_iff.2 h.granted
  obtain ⟨s₀, c, hissued, hload, hceiling⟩ := hwithin _ _ _ h.stored hscope
  obtain ⟨issued', s₀', c', config, hstored', hissued', hload', -, hdigest, hadmits⟩ :=
    hcalls 0 (localWire.llmCall 1800000000) out _ (.start rfl hbegin)
  cases hissued.symm.trans hissued'
  cases h.stored.symm.trans hstored'
  cases hload.symm.trans hload'
  exact ⟨_, _, 0, localWire.llmCall 1800000000, out, _, issued, _, s₀, c, config, htrace,
    .start rfl hbegin, h.stored, hscope, hissued, hload, hceiling, hdigest, hadmits⟩

/-- A contract that allows no disclosure, under which a processor is granted and called. -/
theorem dispatched_beyond_ceiling : ∃ ls e i q out e' s₀ c issued scope,
    Trace (CallStep brokerWire.taskEnv .sample) brokerWire.llmState ls e ∧
    CallStep brokerWire.taskEnv .sample e (.start i q (.ok (.dispatching out))) e' ∧
    e.store.getWorkOrder q.workOrderId = .ok (some issued) ∧
    issued.order.processorScope = some scope ∧ e.issuedFrom q.workOrderId = some s₀ ∧
    s₀.loadContract brokerWire.taskEnv issued.order.contractDigest = .ok c ∧
    c.processorConstraints.disclosure = .none ∧ ∃ id ∈ scope.inputIds, ¬ c.Shows id := by
  obtain ⟨json, s₁, issued, hrun, h⟩ := offersLlm_brokerWire.approve
  have hticket := authorizeCall_eq_ok_iff.2 ⟨issued, localLlm, h.authorized 1800000000, rfl⟩
  obtain ⟨out, s₂, hbegin, -⟩ := exec_beginDispatch_of_begins (h.begins_localLlm 1800000000)
  refine ⟨_, _, _, _, out, _, brokerWire.llmStore, brokerWire.contract, issued, _,
    .cons (.approve hrun) (.cons (.authorize (i := 0) rfl hticket) (.nil _)),
    .start (i := 0) rfl hbegin, h.stored, WorkOrder.processorScope_eq_some_iff.2 h.granted,
    h.issuedFrom, ?_, rfl, ?_⟩
  · rw [h.digest]
    exact brokerWire.loadContract_stored .opened
  · refine ⟨(helloEntry 1).id, mem_map_of_mem mem_cons_self, ?_⟩
    rintro ⟨entry, hentry, -, hvisible⟩
    have hhidden : ∀ entry ∈ brokerWire.contract.inputs, entry.processorVisible = false := by decide
    rw [hhidden entry hentry] at hvisible
    cases hvisible

end Akson
