/-
# Approving and denying a task

The operator's yes accepts the task and hands it to the worker in one action: the head is locked,
then the work order is issued, claimed and stored.  These are three commits.
-/
import Akson.Store.Peers
import Akson.Store.Tasks
import Akson.Task.Issue

namespace Akson

open Operation Except List Table

/-- The identity and keys the daemon decides with. -/
structure LocalAuthority where
  identity : Identity
  decisionKey : PurposeKey
  workOrderKey : Bytes

/-- The operator's approval of a task. -/
structure Approval where
  taskId : String
  processor : Option String
  grantArtifacts : Bool
  nonce : String
  now : Time

def Store.requesterTls (s : Store) (taskId : String) (c : Contract) : Option String :=
  ((((s.originRoot taskId).filter (fun root => root ≠ "")).bind s.getPeerByRoot).filter
    (fun p => p.identity.agentId = c.requester.agent ∧
      p.identity.issuer.getD "" = c.requester.issuer)).map (fun p => p.identity.tlsCert.value)

variable (env : Env)

def approvalChecks (taskId : String) (s : Store) : Except Problem String := do
  let head ← (s.contractHead taskId).undecided
  let contract ← s.loadContract env head.digest
  let requesterTls ← okOr (s.requesterTls taskId contract)
    (Problem.new 409 "requester-not-paired"
      "the requester is not a paired peer; cannot bind the work order origin")
  ensure (contract.requestedCapabilities.any (fun cap => !cap.outward))
    noGrantableCapabilities
  .ok requesterTls

def rfc3339 (now : Time) : Except Problem String :=
  okOr (env.formatRfc3339 now) internal

def decisionIdOf (decision : Envelope) : String :=
  "decision-" ++ String.ofList
    ((hex (env.sha256 (env.jsonText decision.json))).toList.take 32)

def Approval.config (me : LocalAuthority) (a : Approval) (requesterTls decisionId : String) :
    IssueConfig where
  issuer := me.identity
  issuerAssurance := "local-human"
  daemon := me.identity.agent
  executor := "akson-worker"
  requesterTlsSha256 := requesterTls
  workOrderKey := me.workOrderKey
  nonce := a.nonce
  decisionId := decisionId
  policyVersion := 1
  maxOperations := 64
  processorGrant := a.processor
  grantArtifacts := a.grantArtifacts

def grantedNames (v : CapabilityVector) : List String :=
  ([(CapabilityComponent.respond, "respond"), (.readSuppliedInputs, "read_supplied_inputs"),
    (.processorUse, "processor_use"), (.artifactExport, "artifact_export")].filter
      (fun c => v.grantsComponent c.1)).map Prod.snd

def issueApproved (me : LocalAuthority) (a : Approval) (requesterTls : String)
    (decision : Envelope) : Operation Store Problem Json := do
  let decisionId := decisionIdOf env decision
  let issued ← issueForAccepted env a.taskId (a.config me requesterTls decisionId) a.now
  pure (.obj [("approved", .bool true), ("decision_id", .str decisionId),
    ("granted_capabilities", jsonTexts (grantedNames issued.order.capabilities)),
    ("task_id", .str a.taskId), ("work_order_digest", .str issued.digest),
    ("work_order_id", .str issued.order.workOrderId)])

/-- Accept the contract, claim an attempt and issue its order. -/
def approveAndIssue (me : LocalAuthority) (a : Approval) :
    Operation Store Problem Json := do
  let requesterTls ← ask (approvalChecks env a.taskId)
  let decidedAt ← demand (rfc3339 env a.now)
  let record ← Decision.decide env a.taskId .accept none none me.identity me.decisionKey decidedAt
    a.now
  issueApproved env me a requesterTls record.decision

/-- Refuse the contract. -/
def deny (me : LocalAuthority) (taskId reason : String) (now : Time) :
    Operation Store Problem Json := do
  let decidedAt ← demand (rfc3339 env now)
  let _ ← Decision.decide env taskId .reject (some "operator-declined") (some reason) me.identity
    me.decisionKey decidedAt now
  commit (fun s => .ok ((), markTaskReacted taskId now s)) (fun (_ : StoreError) => internal)
  pure (.obj [("denied", .bool true), ("reason", .str reason), ("task_id", .str taskId)])

/-! ## What an approval does -/

def Approval.decision (me : LocalAuthority) (a : Approval) (decidedAt : String) (head : Head)
    (c : Contract) (s : Store) : Decision :=
  ⟨1, .accept, c.contractId, head.revision, head.digest, a.taskId, (s.taskContext a.taskId).getD "",
    me.identity, none, none, decidedAt⟩

/-- What an approval checks before it signs. -/
structure Approvable (env : Env) (me : LocalAuthority) (a : Approval) (s : Store) (head : Head)
    (c : Contract) : Prop where
  opened : s.contractHead a.taskId = .opened head
  loaded : s.loadContract env head.digest = .ok c
  paired : ∃ tls, s.requesterTls a.taskId c = some tls
  grantable : ∃ cap ∈ c.requestedCapabilities, cap.outward = false
  signable : ∃ decidedAt envelope, env.formatRfc3339 a.now = some decidedAt ∧
    (a.decision me decidedAt head c s).sign env me.decisionKey = .ok envelope

section Runs

variable {env : Env} {me : LocalAuthority} {a : Approval} {s s' : Store} {head : Head}
  {c : Contract}

theorem approvalChecks_eq_ok_iff {tls : String} :
    approvalChecks env a.taskId s = .ok tls ↔ ∃ head c, s.contractHead a.taskId = .opened head ∧
      s.loadContract env head.digest = .ok c ∧ s.requesterTls a.taskId c = some tls ∧
      ∃ cap ∈ c.requestedCapabilities, cap.outward = false := by
  simp only [approvalChecks, bind_eq_ok, HeadState.undecided_eq_ok_iff, okOr_eq_ok,
    ensure_eq_ok, ok.injEq, any_eq_true, Bool.not_eq_true', exists_and_left,
    exists_const]
  constructor
  · rintro ⟨head, hhead, c, hload, tls, htls, hgrantable, rfl⟩
    exact ⟨head, hhead, c, hload, htls, hgrantable⟩
  · rintro ⟨head, hhead, c, hload, htls, hgrantable⟩
    exact ⟨head, hhead, c, hload, tls, htls, hgrantable, rfl⟩

theorem rfc3339_eq_ok_iff {now : Time} {text : String} :
    rfc3339 env now = .ok text ↔ env.formatRfc3339 now = some text :=
  okOr_eq_ok

theorem approveAndIssue_of_approvable (h : Approvable env me a s head c) :
    ∃ tls decision s₁, acceptContract env a.taskId head.digest a.now s = .ok (.ok (), s₁) ∧
      approveAndIssue env me a s =
        ((issueApproved env me a tls decision s₁).1,
          s₁ :: (issueApproved env me a tls decision s₁).2) := by
  obtain ⟨tls, htls⟩ := h.paired
  obtain ⟨decidedAt, envelope, hwritten, hsigned⟩ := h.signable
  have hchecks := approvalChecks_eq_ok_iff.2 ⟨head, c, h.opened, h.loaded, htls, h.grantable⟩
  have hdraft : Decision.draft env a.taskId .accept none none me.identity decidedAt s =
      .ok (a.decision me decidedAt head c s) :=
    Decision.draft_eq_ok_iff.2 ⟨head, c, h.opened, h.loaded, rfl⟩
  obtain ⟨s₁, haccept, hdecide⟩ := Decision.decide_accept a.now hdraft hsigned
  refine ⟨tls, envelope, s₁, haccept, ?_⟩
  rw [approveAndIssue, ask_bind_apply_of_ok hchecks,
    demand_bind_apply_of_ok (rfc3339_eq_ok_iff.2 hwritten), bind_apply_of_ok hdecide]
  rfl

theorem approveAndIssue_of_not_approvable (h : ∀ head c, ¬ Approvable env me a s head c) :
    ∃ e, approveAndIssue env me a s = (.error e, []) := by
  unfold approveAndIssue
  cases hchecks : approvalChecks env a.taskId s with
  | error e => exact ⟨e, ask_bind_apply_of_error hchecks⟩
  | ok tls =>
    rw [ask_bind_apply_of_ok hchecks]
    obtain ⟨head, c, hopened, hload, htls, hgrantable⟩ := approvalChecks_eq_ok_iff.1 hchecks
    cases hwritten : env.formatRfc3339 a.now with
    | none =>
      refine ⟨internal, demand_bind_apply_of_error ?_⟩
      rw [rfc3339, hwritten]
      rfl
    | some decidedAt =>
      rw [demand_bind_apply_of_ok (rfc3339_eq_ok_iff.2 hwritten)]
      have hdraft : Decision.draft env a.taskId .accept none none me.identity decidedAt s =
          .ok (a.decision me decidedAt head c s) :=
        Decision.draft_eq_ok_iff.2 ⟨head, c, hopened, hload, rfl⟩
      cases hsign : (a.decision me decidedAt head c s).sign env me.decisionKey with
      | error e => exact ⟨_, bind_apply_of_error (Decision.decide_of_sign_error hdraft hsign)⟩
      | ok envelope =>
        exact absurd ⟨hopened, hload, ⟨tls, htls⟩, hgrantable, decidedAt, envelope, hwritten,
          hsign⟩ (h head c)

theorem mem_commits_approveAndIssue (h : s' ∈ commits (approveAndIssue env me a) s) :
    ∃ head c tls decisionId s₁, Approvable env me a s head c ∧
      acceptContract env a.taskId head.digest a.now s = .ok (.ok (), s₁) ∧
      (s' = s₁ ∨ ∃ order outcome s₂,
        draftOrder env a.taskId (a.config me tls decisionId) a.now s₁ = .ok order ∧
        claimAttempt env order a.now s₁ = .ok (outcome, s₂) ∧
        (s' = s₂ ∨ s' = putWorkOrder (order.issue env me.workOrderKey) a.now s₂)) := by
  by_cases happ : ∃ head c, Approvable env me a s head c
  · obtain ⟨head, c, happ⟩ := happ
    obtain ⟨tls, decision, s₁, haccept, hrun⟩ := approveAndIssue_of_approvable happ
    refine ⟨head, c, tls, decisionIdOf env decision, s₁, happ, haccept, ?_⟩
    rw [commits, hrun] at h
    obtain rfl | h := mem_cons.1 h
    · exact .inl rfl
    · obtain h | ⟨issued, s₂, -, h⟩ := mem_commits_bind h
      · exact .inr (mem_commits_issueForAccepted h)
      · cases h
  · have hnone : ∀ head c, ¬ Approvable env me a s head c := fun head c hc => happ ⟨head, c, hc⟩
    obtain ⟨e, hrun⟩ := approveAndIssue_of_not_approvable hnone
    rw [commits, hrun] at h
    cases h

end Runs

/-! ## All or nothing -/

/-- When the order of an approval can be issued. -/
structure Issuable (env : Env) (a : Approval) (s : Store) (head : Head) (c : Contract) : Prop where
  draftable : Draftable env c a.processor a.grantArtifacts a.now s
  once : (c.requestedCapabilities.filter (fun cap => !cap.outward)).Nodup
  unclaimed : ∀ row ∈ s.attempts,
    row.workOrderId ≠ workOrderIdOf head.digest ∧ row.nonce ≠ a.nonce

/-- A locked task has its attempt and its order. -/
structure AllOrNothing (s : Store) : Prop where
  claimed : ∀ t head, s.contractHead t = .locked head → ∃ row ∈ s.attempts, row.taskId = t
  accepted : ∀ row ∈ s.attempts, ∃ head, s.contractHead row.taskId = .locked head
  stored : ∀ row ∈ s.attempts, ∃ issued, s.getWorkOrder row.workOrderId = .ok (some issued) ∧
    issued.order.taskId = row.taskId ∧ issued.digest = row.workOrderDigest
  needed : ∀ order ∈ s.workOrders, ∃ row ∈ s.attempts, row.workOrderId = order.workOrderId

section Whole

variable {env : Env} {me : LocalAuthority} {a : Approval} {s s₁ s' : Store} {head : Head}
  {c : Contract} {tls decisionId : String}

theorem AllOrNothing.no_attempt (h : AllOrNothing s) {t : String}
    (hopen : s.contractHead t = .opened head) : ∀ row ∈ s.attempts, row.taskId ≠ t := by
  rintro row hrow rfl
  obtain ⟨locked, hlocked⟩ := h.accepted row hrow
  rw [hopen] at hlocked
  cases hlocked

theorem draftOrder_approval {order : WorkOrder} (hhead : s₁.contractHead a.taskId = .locked head)
    (h : draftOrder env a.taskId (a.config me tls decisionId) a.now s₁ = .ok order) :
    order.workOrderId = workOrderIdOf head.digest ∧ order.nonce = a.nonce ∧
      order.taskId = a.taskId := by
  obtain ⟨head', c', deadline, v, hhead', -, -, -, -, rfl⟩ := draftOrder_eq_ok_iff.1 h
  rw [hhead, HeadState.locked.injEq] at hhead'
  subst hhead'
  exact ⟨rfl, rfl, rfl⟩

theorem issuable_of_claimed (hopened : s.contractHead a.taskId = .opened head)
    (hload : s.loadContract env head.digest = .ok c)
    (hgrantable : ∃ cap ∈ c.requestedCapabilities, cap.outward = false)
    (hnone : ∀ row ∈ s.attempts, row.taskId ≠ a.taskId)
    (haccept : acceptContract env a.taskId head.digest a.now s = .ok (.ok (), s₁))
    {r : Except Problem IssuedWorkOrder}
    (hrun : exec (issueForAccepted env a.taskId (a.config me tls decisionId) a.now) s₁ = (r, s'))
    (hrow : ∃ row ∈ s'.attempts, row.taskId = a.taskId) : Issuable env a s head c := by
  obtain ⟨hlocked, -, heads, audit, rfl⟩ := acceptContract_locks hopened haccept
  obtain ⟨row, hrow, htask⟩ := hrow
  obtain ⟨e, -, -, rfl⟩ | ⟨order, outcome, s₂, hdraft, hclaim, hrest⟩ := issueForAccepted_cases hrun
  · exact absurd htask (hnone row hrow)
  obtain ⟨state, rfl, -, rfl⟩ | ⟨rfl, -, -, rfl⟩ | ⟨rfl, -, attempts, hins, rfl⟩ :=
    claimAttempt_cases hclaim
  · obtain ⟨-, -, rfl⟩ | ⟨-, -, rfl⟩ := hrest
    · exact absurd htask (hnone row hrow)
    · obtain ⟨orders, audit', heq⟩ := putWorkOrder_eq
        (order.issue env (a.config me tls decisionId).workOrderKey) a.now
        ({ s with contractHeads := heads, audit := audit } : Store)
      rw [heq] at hrow
      exact absurd htask (hnone row hrow)
  · obtain ⟨-, -, rfl⟩ | ⟨hne, -⟩ := hrest
    · exact absurd htask (hnone row hrow)
    · exact absurd rfl hne
  · obtain ⟨hid, hnonce, -⟩ := draftOrder_approval hlocked hdraft
    obtain ⟨hdraftable, honce⟩ :=
      (exists_draftOrder_iff _ a.now hlocked hload hgrantable).1 ⟨order, hdraft⟩
    refine ⟨⟨hdraftable.window, hdraftable.deadline, hdraftable.processor, hdraftable.artifacts⟩,
      honce, fun other hother => ?_⟩
    have hclash := (insert_eq_some_iff.1 hins).1 other hother
    rw [← hid, ← hnonce]
    exact ⟨fun h => hclash (.inl h), fun h => hclash (.inr h)⟩

theorem allOrNothing_of_issuable (h : AllOrNothing s)
    (hopened : s.contractHead a.taskId = .opened head)
    (hload : s.loadContract env head.digest = .ok c)
    (hgrantable : ∃ cap ∈ c.requestedCapabilities, cap.outward = false)
    (haccept : acceptContract env a.taskId head.digest a.now s = .ok (.ok (), s₁))
    (hissuable : Issuable env a s head c) :
    AllOrNothing (exec (issueForAccepted env a.taskId (a.config me tls decisionId) a.now) s₁).2 := by
  obtain ⟨hlocked, hother, heads, audit, rfl⟩ := acceptContract_locks hopened haccept
  obtain ⟨order, hdraft⟩ :=
    (exists_draftOrder_iff (a.config me tls decisionId) a.now hlocked hload hgrantable).2
      ⟨⟨hissuable.draftable.window, hissuable.draftable.deadline, hissuable.draftable.processor,
        hissuable.draftable.artifacts⟩, hissuable.once⟩
  obtain ⟨hid, hnonce, htask⟩ := draftOrder_approval hlocked hdraft
  obtain ⟨attempts, s₂, hins, rfl, hrun⟩ := issueForAccepted_of_fresh hdraft (fun row hrow => by
    rw [hid, hnonce]
    exact hissuable.unclaimed row hrow)
  rw [hrun]
  -- no order is stored under the new id, since each stored order has its attempt
  have hfresh : ∀ row ∈ s.workOrders, row.workOrderId ≠ order.workOrderId := by
    intro row hrow heq
    obtain ⟨attempt, hattempt, hsame⟩ := h.needed row hrow
    exact (hissuable.unclaimed attempt hattempt).1 (hsame.trans (heq.trans hid))
  obtain ⟨orders, audit', hput, heq⟩ := putWorkOrder_of_fresh
    (order.issue env (a.config me tls decisionId).workOrderKey) a.now
    (s := ({ s with contractHeads := heads, audit := audit, attempts := attempts } :
      Store).auditAppend a.now "attempt.claimed" order.workOrderId) hfresh
  rw [heq]
  have hattempts : ∀ row, row ∈ attempts ↔ row ∈ s.attempts ∨ row = order.claimRow env a.now :=
    fun row => mem_insert hins
  constructor
  · intro t lockedHead ht
    by_cases hta : t = a.taskId
    · exact ⟨_, (hattempts _).2 (.inr rfl), htask.trans hta.symm⟩
    · obtain ⟨row, hrow, hrt⟩ := h.claimed t lockedHead ((hother t hta).symm.trans ht)
      exact ⟨row, (hattempts row).2 (.inl hrow), hrt⟩
  · intro row hrow
    obtain hrow | rfl := (hattempts row).1 hrow
    · have hne : row.taskId ≠ a.taskId := h.no_attempt hopened row hrow
      obtain ⟨lockedHead, hl⟩ := h.accepted row hrow
      exact ⟨lockedHead, (hother _ hne).trans hl⟩
    · refine ⟨head, ?_⟩
      change Store.contractHead _ order.taskId = _
      rw [htask]
      exact hlocked
  · intro row hrow
    obtain hrow | rfl := (hattempts row).1 hrow
    · obtain ⟨issued, hstored, hmatch⟩ := h.stored row hrow
      obtain ⟨o, ho, hoid, horder⟩ := Store.getWorkOrder_eq_some_iff.1 hstored
      exact ⟨issued, Store.getWorkOrder_eq_some_iff.2
        ⟨o, (mem_insert hput).2 (.inl ho), hoid, horder⟩, hmatch⟩
    · exact ⟨_, Store.getWorkOrder_eq_some_iff.2
        ⟨_, (mem_insert hput).2 (.inr rfl), rfl, rfl⟩, rfl, rfl⟩
  · intro o ho
    obtain ho | rfl := (mem_insert hput).1 ho
    · obtain ⟨row, hrow, hsame⟩ := h.needed o ho
      exact ⟨row, (hattempts row).2 (.inl hrow), hsame⟩
    · exact ⟨_, (hattempts _).2 (.inr rfl), rfl⟩

theorem exec_issueApproved_snd (decision : Envelope) :
    (exec (issueApproved env me a tls decision) s).2 =
      (exec (issueForAccepted env a.taskId (a.config me tls (decisionIdOf env decision)) a.now)
        s).2 := by
  rcases hrun : exec (issueForAccepted env a.taskId
    (a.config me tls (decisionIdOf env decision)) a.now) s with ⟨r, s'⟩
  cases r with
  | error e => rw [issueApproved, exec_bind_of_error hrun]
  | ok issued =>
    rw [issueApproved, exec_bind_of_ok hrun]
    rfl

theorem approveAndIssue_locks (h : Approvable env me a s head c) :
    (exec (approveAndIssue env me a) s).2.contractHead a.taskId = .locked head := by
  obtain ⟨tls, decision, s₁, haccept, hrun⟩ := approveAndIssue_of_approvable h
  obtain ⟨hlocked, -, -⟩ := acceptContract_locks h.opened haccept
  rw [exec_of_apply_cons hrun, exec_issueApproved_snd, issueForAccepted_contractHead, hlocked]

theorem approveAndIssue_allOrNothing_iff (h : AllOrNothing s) :
    AllOrNothing (exec (approveAndIssue env me a) s).2 ↔
      ∀ head c, Approvable env me a s head c → Issuable env a s head c := by
  by_cases happ : ∃ head c, Approvable env me a s head c
  · obtain ⟨head, c, happ⟩ := happ
    obtain ⟨tls, decision, s₁, haccept, hrun⟩ := approveAndIssue_of_approvable happ
    have hlocked := approveAndIssue_locks happ
    rw [exec_of_apply_cons hrun, exec_issueApproved_snd] at hlocked ⊢
    constructor
    · intro hafter head' c' happ'
      have hhead := happ.opened.symm.trans happ'.opened
      rw [HeadState.opened.injEq] at hhead
      subst hhead
      have hc := happ.loaded.symm.trans happ'.loaded
      rw [ok.injEq] at hc
      subst hc
      -- the head is locked, so the task has an attempt now
      exact issuable_of_claimed happ.opened happ.loaded happ.grantable (h.no_attempt happ.opened)
        haccept rfl (hafter.claimed a.taskId head hlocked)
    · intro hall
      exact allOrNothing_of_issuable h happ.opened happ.loaded happ.grantable haccept
        (hall head c happ)
  · have hnone : ∀ head c, ¬ Approvable env me a s head c := fun head c hc => happ ⟨head, c, hc⟩
    obtain ⟨e, hrun⟩ := approveAndIssue_of_not_approvable hnone
    have hsame : (exec (approveAndIssue env me a) s).2 = s := by
      rw [exec, hrun]
      rfl
    rw [hsame]
    exact ⟨fun _ head c hc => absurd hc (hnone head c), fun _ => h⟩

theorem approveAndIssue_commits_allOrNothing_iff (h : AllOrNothing s) :
    (∀ s' ∈ commits (approveAndIssue env me a) s, AllOrNothing s') ↔
      ∀ head c, ¬ Approvable env me a s head c := by
  constructor
  · intro hall head c happ
    obtain ⟨tls, decision, s₁, haccept, hrun⟩ := approveAndIssue_of_approvable happ
    obtain ⟨hlocked, -, heads, audit, hs₁⟩ := acceptContract_locks happ.opened haccept
    have hmem : s₁ ∈ commits (approveAndIssue env me a) s := by
      rw [commits, hrun]
      exact mem_cons_self
    obtain ⟨row, hrow, htask⟩ := (hall s₁ hmem).claimed a.taskId head hlocked
    rw [hs₁] at hrow
    exact h.no_attempt happ.opened row hrow htask
  · intro hnone s' hs'
    obtain ⟨e, hrun⟩ := approveAndIssue_of_not_approvable hnone
    rw [commits, hrun] at hs'
    cases hs'

theorem approveAndIssue_strands (happ : Approvable env me a s head c)
    (hnot : ¬ Draftable env c a.processor a.grantArtifacts a.now s) :
    ∃ e s', exec (approveAndIssue env me a) s = (.error e, s') ∧
      s'.contractHead a.taskId = .locked head ∧ s'.attempts = s.attempts := by
  obtain ⟨tls, decision, s₁, haccept, hrun⟩ := approveAndIssue_of_approvable happ
  obtain ⟨hlocked, -, heads, audit, rfl⟩ := acceptContract_locks happ.opened haccept
  cases hdraft : draftOrder env a.taskId (a.config me tls (decisionIdOf env decision)) a.now
      { s with contractHeads := heads, audit := audit } with
  | ok order =>
    obtain ⟨hdraftable, -⟩ :=
      (exists_draftOrder_iff _ a.now hlocked happ.loaded happ.grantable).1 ⟨order, hdraft⟩
    exact absurd ⟨hdraftable.window, hdraftable.deadline, hdraftable.processor,
      hdraftable.artifacts⟩ hnot
  | error e =>
    refine ⟨e, _, ?_, hlocked, rfl⟩
    have hissue : issueForAccepted env a.taskId (a.config me tls (decisionIdOf env decision)) a.now
        { s with contractHeads := heads, audit := audit } = (.error e, []) :=
      ask_bind_apply_of_error hdraft
    have hrest : issueApproved env me a tls decision
        { s with contractHeads := heads, audit := audit } = (.error e, []) :=
      bind_apply_of_error hissue
    rw [exec_of_apply_cons hrun, exec, hrest]
    rfl

theorem approveAndIssue_issues (happ : Approvable env me a s head c)
    (hissuable : Issuable env a s head c)
    (hfresh : ∀ row ∈ s.workOrders, row.workOrderId ≠ workOrderIdOf head.digest) :
    ∃ json s' contextId deadline tls decisionId, ∃ v : CapabilityVector,
      exec (approveAndIssue env me a) s = (.ok json, s') ∧
      clampDeadline env c a.now = .ok deadline ∧
      v.grants = c.grants a.taskId head.digest deadline (a.config me tls decisionId) ∧
      s'.getWorkOrder (workOrderIdOf head.digest) = .ok (some
        ((c.workOrder a.taskId contextId head deadline v (a.config me tls decisionId)).issue env
          me.workOrderKey)) ∧
      s'.attemptState (workOrderIdOf head.digest) = some .claimed ∧
      ∃ heads attempts orders audit, s' = { s with
        contractHeads := heads, attempts := attempts, workOrders := orders, audit := audit } := by
  obtain ⟨tls, decision, s₁, haccept, hrun⟩ := approveAndIssue_of_approvable happ
  obtain ⟨hlocked, -, heads, audit, hs₁⟩ := acceptContract_locks happ.opened haccept
  have hload : s₁.loadContract env head.digest = .ok c := by
    rw [hs₁]
    exact happ.loaded
  obtain ⟨order, hdraft⟩ :=
    (exists_draftOrder_iff (a.config me tls (decisionIdOf env decision)) a.now hlocked hload
      happ.grantable).2 ⟨⟨hissuable.draftable.window, hissuable.draftable.deadline, by
        rw [hs₁]
        exact hissuable.draftable.processor, hissuable.draftable.artifacts⟩, hissuable.once⟩
  obtain ⟨hid, hnonce, -⟩ := draftOrder_approval hlocked hdraft
  obtain ⟨attempts, s₂, hins, hs₂, hissue⟩ := issueForAccepted_of_fresh hdraft (fun row hrow => by
    rw [hid, hnonce]
    rw [hs₁] at hrow
    exact hissuable.unclaimed row hrow)
  obtain ⟨orders, audit', hput, heq⟩ := putWorkOrder_of_fresh
    (order.issue env (a.config me tls (decisionIdOf env decision)).workOrderKey) a.now (s := s₂)
    (fun row hrow => by
      change row.workOrderId ≠ order.workOrderId
      rw [hs₂, hs₁] at hrow
      rw [hid]
      exact hfresh row hrow)
  rw [heq] at hissue
  obtain ⟨head', c', deadline, v, hhead', hload', -, hdeadline, hv, horder⟩ :=
    draftOrder_eq_ok_iff.1 hdraft
  rw [hlocked, HeadState.locked.injEq] at hhead'
  subst hhead'
  rw [hload, ok.injEq] at hload'
  subst hload'
  have happroved : ∃ json, exec (approveAndIssue env me a) s =
      (.ok json, { s₂ with workOrders := orders, audit := audit' }) := by
    rw [exec_of_apply_cons hrun, issueApproved, exec_bind_of_ok hissue]
    exact ⟨_, rfl⟩
  obtain ⟨json, hjson⟩ := happroved
  refine ⟨json, _, ((s₁.taskContext a.taskId).or c.contextId).getD "", deadline, tls,
    decisionIdOf env decision, v, hjson, hdeadline, hv, ?_, ?_, heads, attempts, orders, audit', ?_⟩
  · rw [horder, ← hid]
    exact Store.getWorkOrder_eq_some_iff.2 ⟨_, (mem_insert hput).2 (.inr rfl), rfl, rfl⟩
  · have hrow : ({ s₂ with workOrders := orders, audit := audit' } : Store).attemptRow
        order.workOrderId = some (order.claimRow env a.now) := by
      rw [Store.attemptRow_eq_some_iff, hs₂]
      exact ⟨(mem_insert hins).2 (.inr rfl), rfl⟩
    rw [← hid, Store.attemptState, hrow]
    rfl
  · rw [hs₂, hs₁]
    rfl

end Whole

/-! ### A task to approve -/

def samplePeer : StoredPeer :=
  .sample (some "a") "b" "https://b.example" "tls" "root-fixture-aaaaaaaaaaaaaaaaaaaaaaaaaaaaaa"

def Wire.submitted (w : Wire) : Store :=
  { w.stored .opened with
    peers := ⟨[⟨"root-fixture-aaaaaaaaaaaaaaaaaaaaaaaaaaaaaa", "b", samplePeer, .active⟩],
      pairwise_singleton _ _⟩ }

def LocalAuthority.sample : LocalAuthority :=
  ⟨⟨"c", "d", "root-fixture-aaaaaaaaaaaaaaaaaaaaaaaaaaaaaa"⟩, ⟨.contractDecision, wireSecret⟩, []⟩

def Approval.sample (processor : Option String) : Approval :=
  ⟨"task-1", processor, false, "nonce", 1800000000⟩

theorem Wire.approvable (w : Wire) {a : Approval} {s : Store} {head : Head}
    (hopened : s.contractHead a.taskId = .opened head)
    (hloaded : s.loadContract w.taskEnv head.digest = .ok w.contract)
    (hpaired : s.requesterTls a.taskId w.contract = some "tls")
    (hgrantable : ∃ capability ∈ w.contract.requestedCapabilities, capability.outward = false)
    (hnow : a.now = 1800000000)
    (hvalid : validateDecision (a.decision .sample "2027-01-15T08:00:00Z" head w.contract s).json = true) :
    Approvable w.taskEnv .sample a s head w.contract where
  opened := hopened
  loaded := hloaded
  paired := ⟨"tls", hpaired⟩
  grantable := hgrantable
  signable := by
    obtain ⟨envelope, hsign⟩ := Decision.exists_sign w.taskEnv LocalAuthority.sample.decisionKey hvalid rfl
    rw [hnow]
    exact ⟨"2027-01-15T08:00:00Z", envelope, rfl, hsign⟩

theorem approvable_repeatedWire (processor : Option String) :
    Approvable repeatedWire.taskEnv .sample (.sample processor) repeatedWire.submitted
      ⟨0, hex repeatedWire.digest⟩ repeatedWire.contract := by
  have hpaired : repeatedWire.submitted.requesterTls "task-1" repeatedWire.contract = some "tls" := by
    decide
  have hvalid : validateDecision (Approval.decision .sample (.sample none) "2027-01-15T08:00:00Z"
      ⟨0, hex repeatedWire.digest⟩ repeatedWire.contract repeatedWire.submitted).json = true := by
    decide
  exact repeatedWire.approvable (repeatedWire.contractHead_stored .opened)
    (repeatedWire.loadContract_stored .opened) hpaired ⟨.respond, by decide, by decide⟩ rfl hvalid

theorem issuable_repeatedWire :
    Issuable repeatedWire.taskEnv (.sample none) repeatedWire.submitted
      ⟨0, hex repeatedWire.digest⟩ repeatedWire.contract where
  draftable := draftable_repeatedWire _
  once := by decide
  unclaimed _ hrow := absurd hrow not_mem_nil

theorem allOrNothing_submitted (w : Wire) : AllOrNothing w.submitted where
  claimed t head h := by
    obtain ⟨row, hrow, hstatus, -⟩ := Store.contractHead_eq_locked_iff.1 h
    obtain ⟨hmem, -⟩ := Store.headRow_eq_some_iff.1 hrow
    obtain rfl := mem_singleton.1 hmem
    cases hstatus
  accepted _ hrow := absurd hrow not_mem_nil
  stored _ hrow := absurd hrow not_mem_nil
  needed _ ho := absurd ho not_mem_nil

end Akson
