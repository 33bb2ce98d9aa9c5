/-
# Issuing the work order of an accepted task

Acceptance authorizes one attempt.
-/
import Akson.Contract.Wire
import Akson.Store.Attempts
import Akson.Store.Processors
import Akson.Task.Decide

namespace Akson

open Operation Contract

def maxAttemptSecs : Time := 3600

/-- What an order says besides the contract. -/
structure IssueConfig where
  issuer : Identity
  issuerAssurance : String
  daemon : String
  executor : String
  requesterTlsSha256 : String
  workOrderKey : Bytes
  nonce : String
  decisionId : String
  policyVersion : ℕ
  maxOperations : ℕ
  /-- The processor the operator lets the task use. -/
  processorGrant : Option String
  grantArtifacts : Bool

def ResultRecipient.asStr : ResultRecipient → String
  | .requestOrigin => "request-origin"

def HeadState.accepted : HeadState → Except Problem Head
  | .locked head => .ok head
  | .opened _ => .error (Problem.new 409 "not-accepted" "this task has not been accepted")
  | .empty => .error noSuchTask

def corruptTimestamps : Problem :=
  Problem.new 500 "corrupt-contract" "the contract timestamps could not be parsed"

def Validity.issuable : Validity → Except Problem Unit
  | .valid => .ok ()
  | .expired => .error (Problem.new 409 "contract-expired"
      "the contract's validity window has closed; it can no longer be issued")
  | .notYetValid => .error (Problem.new 409 "contract-not-yet-valid"
      "the contract is not yet effective")

def clampDeadline (env : Env) (contract : Contract) (now : Time) : Except Problem String := do
  let expires ← (expiresAtUnix env contract).mapError (fun _ => corruptTimestamps)
  let taskDeadline ← (deadlineUnix env contract).mapError (fun _ => corruptTimestamps)
  let clamped := min (min expires taskDeadline) (now + maxAttemptSecs)
  Except.ensure (now < clamped) (Problem.new 409 "deadline-passed"
    "the contract's task deadline has already passed; it cannot be issued")
  Except.okOr (env.formatRfc3339 clamped) corruptTimestamps

/-! ## The grants -/

def Capability.component : Capability → CapabilityComponent
  | .respond => .respond
  | .readSuppliedInputs => .readSuppliedInputs
  | .processorUse => .processorUse
  | .artifactExport => .artifactExport

def Capability.outward (capability : Capability) : Bool :=
  capability = .processorUse ∨ capability = .artifactExport

namespace Contract

def inputIds (c : Contract) : List String := c.inputs.map InputEntry.id

def acceptGrant (c : Contract) (taskId digest deadline : String) : Capability → Option Grant
  | .respond => some (.respond ⟨taskId, c.messageId, c.resultRecipient.asStr, 1,
      c.limits.maxResponseBytes, deadline⟩)
  | .readSuppliedInputs => some (.readSuppliedInputs ⟨c.inputIds, digest⟩)
  -- these disclose outward, and wait for the operator's explicit grant
  | .processorUse | .artifactExport => none

def processorScope (c : Contract) (processorId : String) : ProcessorUseScope :=
  ⟨processorId, c.inputIds, c.limits.maxCostMicrousd.getD 0, c.limits.maxResponseBytes⟩

def artifactScope (c : Contract) (taskId : String) : ArtifactExportScope :=
  ⟨c.resultRecipient.asStr, taskId, c.deliverables.map Deliverable.mediaType,
    max c.deliverables.length 1, c.limits.maxResponseBytes⟩

def processorGrants (c : Contract) (processorGrant : Option String) (s : Store) :
    Except Problem (List Grant) :=
  match processorGrant with
  | none => .ok []
  | some processorId => do
    Except.ensure (.processorUse ∈ c.requestedCapabilities) (Problem.new 422
      "processor-not-requested" "this task did not request processor use; it cannot be granted")
    Except.ensure (s.getProcessor processorId).isSome (Problem.new 404 "no-such-processor"
      "no processor is configured with that id (add it with `akson processor add`)")
    .ok [.processorUse (c.processorScope processorId)]

def artifactGrants (c : Contract) (grantArtifacts : Bool) (taskId : String) :
    Except Problem (List Grant) :=
  if grantArtifacts then do
    Except.ensure (.artifactExport ∈ c.requestedCapabilities) (Problem.new 422
      "artifacts-not-requested" "this task did not request artifact export; it cannot be granted")
    .ok [.artifactExport (c.artifactScope taskId)]
  else .ok []

end Contract

/-! ## The order -/

def workOrderIdOf (digest : String) : String := "wo-" ++ String.ofList (digest.toList.take 32)

def noGrantableCapabilities : Problem :=
  Problem.new 422 "no-grantable-capabilities"
    "accept grants no capability for this task; processor use and artifact export need a separate confirmation"

def Contract.workOrder (c : Contract) (taskId contextId : String) (head : Head) (deadline : String)
    (capabilities : CapabilityVector) (config : IssueConfig) : WorkOrder where
  version := 1
  workOrderId := workOrderIdOf head.digest
  issuer := config.issuer
  issuerAssurance := config.issuerAssurance
  audience := ⟨config.daemon, config.executor⟩
  requestOrigin := ⟨c.requester, config.requesterTlsSha256⟩
  taskId := taskId
  contextId := contextId
  messageId := c.messageId
  contractRevision := head.revision
  contractDigest := head.digest
  capabilities := capabilities
  inputManifest := c.inputIds
  processorDigest := none
  runnerDigest := none
  sandboxDigest := none
  profileDigest := none
  budgets := ⟨c.limits.maxCostMicrousd.getD 0, c.limits.maxResponseBytes, config.maxOperations⟩
  evidenceSlots := c.evidenceSlots.map EvidenceSlot.slotId
  policyVersion := config.policyVersion
  decisionId := config.decisionId
  notBefore := c.createdAt
  deadline := deadline
  nonce := config.nonce
  remoteCancel := none

/-- The order that a locked contract allows. -/
def draftOrder (env : Env) (taskId : String) (config : IssueConfig) (now : Time) (s : Store) :
    Except Problem WorkOrder := do
  let head ← (s.contractHead taskId).accepted
  let contract ← s.loadContract env head.digest
  let window ← (validity env contract now).mapError (fun _ => corruptTimestamps)
  window.issuable
  let deadline ← clampDeadline env contract now
  let processor ← contract.processorGrants config.processorGrant s
  let artifacts ← contract.artifactGrants config.grantArtifacts taskId
  let capabilities ← (CapabilityVector.new (contract.requestedCapabilities.filterMap
    (contract.acceptGrant taskId head.digest deadline) ++ processor ++ artifacts)).mapError
      (fun _ => noGrantableCapabilities)
  .ok (contract.workOrder taskId (((s.taskContext taskId).or contract.contextId).getD "") head
    deadline capabilities config)

def issueForAccepted (env : Env) (taskId : String) (config : IssueConfig) (now : Time) :
    Operation Store Problem IssuedWorkOrder := do
  let order ← ask (draftOrder env taskId config now)
  let issued := order.issue env config.workOrderKey
  match ← commit (claimAttempt env order now) (fun _ => internal) with
  | .claimed | .alreadyClaimed _ => do
    commit (fun s => .ok ((), putWorkOrder issued now s)) (fun (_ : StoreError) => internal)
    pure issued
  | .nonceReused => demand (.error (Problem.new 409 "nonce-reused"
      "the work-order nonce was already used"))

/-! ## When an order is drafted -/

section Draft

variable {env : Env} {c : Contract} {taskId : String} {config : IssueConfig} {now : Time}
  {s s' : Store}

theorem HeadState.accepted_eq_ok_iff {state : HeadState} {head : Head} :
    state.accepted = .ok head ↔ state = .locked head := by
  cases state <;> simp [HeadState.accepted]

theorem Validity.issuable_eq_ok_iff {v : Validity} {u : Unit} : v.issuable = .ok u ↔ v = .valid := by
  cases v <;> simp [Validity.issuable]

theorem clampDeadline_eq_ok_iff {deadline : String} :
    clampDeadline env c now = .ok deadline ↔ ∃ expires taskDeadline,
      expiresAtUnix env c = .ok expires ∧ deadlineUnix env c = .ok taskDeadline ∧
      now < min (min expires taskDeadline) (now + maxAttemptSecs) ∧
      env.formatRfc3339 (min (min expires taskDeadline) (now + maxAttemptSecs)) = some deadline := by
  simp only [clampDeadline, Except.bind_eq_ok, Except.mapError_eq_ok, Except.ensure_eq_ok,
    Except.okOr_eq_ok, exists_and_left, exists_const]

theorem Contract.processorGrants_eq_ok_iff {processorGrant : Option String} {grants : List Grant} :
    c.processorGrants processorGrant s = .ok grants ↔
      (∀ id, processorGrant = some id →
        .processorUse ∈ c.requestedCapabilities ∧ (s.getProcessor id).isSome) ∧
      processorGrant.toList.map (fun id => .processorUse (c.processorScope id)) = grants := by
  cases processorGrant with
  | none => simp [processorGrants]
  | some id =>
    simp only [processorGrants, Except.bind_eq_ok, Except.ensure_eq_ok, Except.ok.injEq,
      exists_and_left, exists_const, Option.some.injEq, forall_eq', Option.toList_some,
      List.map_cons, List.map_nil, and_assoc]

theorem Contract.artifactGrants_eq_ok_iff {grantArtifacts : Bool} {grants : List Grant} :
    c.artifactGrants grantArtifacts taskId = .ok grants ↔
      (grantArtifacts = true → .artifactExport ∈ c.requestedCapabilities) ∧
      (if grantArtifacts then [.artifactExport (c.artifactScope taskId)] else []) = grants := by
  cases grantArtifacts with
  | false => simp [artifactGrants]
  | true =>
    simp only [artifactGrants, if_true, Except.bind_eq_ok, Except.ensure_eq_ok,
      Except.ok.injEq, exists_and_left, exists_const, forall_const]

def Contract.grants (c : Contract) (taskId digest deadline : String) (config : IssueConfig) :
    List Grant :=
  c.requestedCapabilities.filterMap (c.acceptGrant taskId digest deadline) ++
    config.processorGrant.toList.map (fun id => .processorUse (c.processorScope id)) ++
    if config.grantArtifacts then [.artifactExport (c.artifactScope taskId)] else []

/-- When an order can be drafted. -/
structure Draftable (env : Env) (c : Contract) (processorGrant : Option String)
    (grantArtifacts : Bool) (now : Time) (s : Store) : Prop where
  window : validity env c now = .ok .valid
  deadline : ∃ deadline, clampDeadline env c now = .ok deadline
  processor : ∀ id, processorGrant = some id →
    .processorUse ∈ c.requestedCapabilities ∧ (s.getProcessor id).isSome
  artifacts : grantArtifacts = true → .artifactExport ∈ c.requestedCapabilities

theorem draftOrder_eq_ok_iff {order : WorkOrder} :
    draftOrder env taskId config now s = .ok order ↔
      ∃ head c deadline v, s.contractHead taskId = .locked head ∧
        s.loadContract env head.digest = .ok c ∧
        Draftable env c config.processorGrant config.grantArtifacts now s ∧
        clampDeadline env c now = .ok deadline ∧
        v.grants = c.grants taskId head.digest deadline config ∧
        c.workOrder taskId (((s.taskContext taskId).or c.contextId).getD "") head deadline v config =
          order := by
  simp only [draftOrder, Except.bind_eq_ok, HeadState.accepted_eq_ok_iff, Except.mapError_eq_ok,
    Validity.issuable_eq_ok_iff, processorGrants_eq_ok_iff,
    artifactGrants_eq_ok_iff, CapabilityVector.new_eq_ok_iff, Except.ok.injEq]
  constructor
  · rintro ⟨head, hhead, c, hload, window, hwindow, -, rfl, deadline, hdeadline, processor,
      ⟨hprocessor, rfl⟩, artifacts, ⟨hartifacts, rfl⟩, v, hv, rfl⟩
    exact ⟨head, c, deadline, v, hhead, hload, ⟨hwindow, ⟨deadline, hdeadline⟩, hprocessor,
      hartifacts⟩, hdeadline, hv, rfl⟩
  · rintro ⟨head, c, deadline, v, hhead, hload, hdraft, hdeadline, hv, rfl⟩
    exact ⟨head, hhead, c, hload, .valid, hdraft.window, (), rfl, deadline, hdeadline, _,
      ⟨hdraft.processor, rfl⟩, _, ⟨hdraft.artifacts, rfl⟩, v, hv, rfl⟩

theorem Contract.map_component_acceptGrants (taskId digest deadline : String) :
    (c.requestedCapabilities.filterMap (c.acceptGrant taskId digest deadline)).map Grant.component =
      (c.requestedCapabilities.filter (fun cap => !cap.outward)).map Capability.component := by
  induction c.requestedCapabilities with
  | nil => rfl
  | cons cap caps ih =>
    cases cap with
    | respond | readSuppliedInputs =>
      rw [List.filterMap_cons, List.filter_cons_of_pos rfl, List.map_cons, ← ih]
      rfl
    | processorUse | artifactExport =>
      rw [List.filterMap_cons, List.filter_cons_of_neg (by decide)]
      exact ih

theorem Contract.nodup_grants_iff {digest deadline : String} :
    ((c.grants taskId digest deadline config).map Grant.component).Nodup ↔
      (c.requestedCapabilities.filter (fun cap => !cap.outward)).Nodup := by
  have hinj : Function.Injective Capability.component := by
    intro a b h
    cases a <;> cases b <;> first | rfl | cases h
  have hinward : ∀ component ∈ (c.requestedCapabilities.filter (fun cap => !cap.outward)).map
      Capability.component, component ≠ .processorUse ∧ component ≠ .artifactExport := by
    intro component hmem
    obtain ⟨cap, hcap, rfl⟩ := List.mem_map.1 hmem
    have hcap := (List.mem_filter.1 hcap).2
    cases cap <;> simp_all [Capability.outward, Capability.component]
  rw [grants, List.map_append, List.map_append, map_component_acceptGrants,
    List.nodup_append, List.nodup_append, List.nodup_map_iff hinj]
  constructor
  · exact fun h => h.1.1
  · intro h
    refine ⟨⟨h, ?_, ?_⟩, ?_, ?_⟩
    · cases config.processorGrant <;> simp
    · intro component hmem other hother
      cases hgrant : config.processorGrant with
      | none => simp [hgrant] at hother
      | some id =>
        simp only [hgrant, Option.toList_some, List.map_cons, List.map_nil, List.mem_singleton,
          Grant.component] at hother
        exact hother ▸ (hinward component hmem).1
    · cases config.grantArtifacts <;> simp
    · intro component hmem other hother
      cases hartifacts : config.grantArtifacts with
      | false => simp [hartifacts] at hother
      | true =>
        simp only [hartifacts, if_true, List.map_cons, List.map_nil, List.mem_singleton,
          Grant.component] at hother
        subst hother
        rcases List.mem_append.1 hmem with hmem | hmem
        · exact (hinward component hmem).2
        · obtain ⟨g, hg, rfl⟩ := List.mem_map.1 hmem
          obtain ⟨id, -, rfl⟩ := List.mem_map.1 hg
          simp [Grant.component]

theorem exists_draftOrder_iff (config : IssueConfig) (now : Time) {head : Head}
    (hhead : s.contractHead taskId = .locked head)
    (hload : s.loadContract env head.digest = .ok c)
    (hgrantable : ∃ cap ∈ c.requestedCapabilities, cap.outward = false) :
    (∃ order, draftOrder env taskId config now s = .ok order) ↔
      Draftable env c config.processorGrant config.grantArtifacts now s ∧
        (c.requestedCapabilities.filter (fun cap => !cap.outward)).Nodup := by
  simp only [draftOrder_eq_ok_iff]
  constructor
  · rintro ⟨order, head', c', deadline, v, hhead', hload', hdraft, -, hv, -⟩
    rw [hhead, HeadState.locked.injEq] at hhead'
    subst hhead'
    rw [hload, Except.ok.injEq] at hload'
    subst hload'
    exact ⟨hdraft, nodup_grants_iff.1 (hv ▸ v.distinct)⟩
  · rintro ⟨hdraft, hnodup⟩
    obtain ⟨deadline, hdeadline⟩ := hdraft.deadline
    have hne : c.grants taskId head.digest deadline config ≠ [] := by
      obtain ⟨cap, hmem, hinward⟩ := hgrantable
      have hgrant : ∃ g, c.acceptGrant taskId head.digest deadline cap = some g := by
        cases cap with
        | respond | readSuppliedInputs => exact ⟨_, rfl⟩
        | processorUse | artifactExport => simp [Capability.outward] at hinward
      obtain ⟨g, hg⟩ := hgrant
      refine List.ne_nil_of_mem (a := g) ?_
      rw [grants, List.append_assoc, List.mem_append]
      exact .inl (List.mem_filterMap.2 ⟨cap, hmem, hg⟩)
    exact ⟨_, head, c, deadline, ⟨_, hne, nodup_grants_iff.2 hnodup⟩, hhead, hload, hdraft,
      hdeadline, rfl, rfl⟩

theorem issueForAccepted_cases {r : Except Problem IssuedWorkOrder}
    (h : exec (issueForAccepted env taskId config now) s = (r, s')) :
    (∃ e, draftOrder env taskId config now s = .error e ∧ r = .error e ∧ s' = s) ∨
      ∃ order outcome s₁, draftOrder env taskId config now s = .ok order ∧
        claimAttempt env order now s = .ok (outcome, s₁) ∧
        ((outcome = .nonceReused ∧ (∃ e, r = .error e) ∧ s' = s₁) ∨
          (outcome ≠ .nonceReused ∧ r = .ok (order.issue env config.workOrderKey) ∧
            s' = putWorkOrder (order.issue env config.workOrderKey) now s₁)) := by
  obtain ⟨e, hdraft, hr, hs⟩ | ⟨order, hdraft, h⟩ := exec_ask_cases h
  · exact .inl ⟨e, hdraft, hr, hs⟩
  obtain ⟨d, hclaim, -⟩ | ⟨outcome, s₁, hclaim, h⟩ := exec_commit_cases h
  · obtain ⟨outcome, s₁, hok⟩ := claimAttempt_total env order now s
    rw [hok] at hclaim
    cases hclaim
  refine .inr ⟨order, outcome, s₁, hdraft, hclaim, ?_⟩
  cases outcome with
  | nonceReused =>
    obtain ⟨hr, hs⟩ := Prod.mk.inj h
    exact .inl ⟨rfl, ⟨_, hr.symm⟩, hs.symm⟩
  | claimed | alreadyClaimed state =>
    obtain ⟨d, hput, -⟩ | ⟨u, s₂, hput, h⟩ := exec_commit_cases h
    · cases hput
    · cases hput
      obtain ⟨hr, hs⟩ := Prod.mk.inj h
      exact .inr ⟨by simp, hr.symm, hs.symm⟩

theorem mem_commits_issueForAccepted (h : s' ∈ commits (issueForAccepted env taskId config now) s) :
    ∃ order outcome s₁, draftOrder env taskId config now s = .ok order ∧
      claimAttempt env order now s = .ok (outcome, s₁) ∧
      (s' = s₁ ∨ s' = putWorkOrder (order.issue env config.workOrderKey) now s₁) := by
  obtain ⟨order, hdraft, h⟩ := mem_commits_ask_bind h
  obtain ⟨outcome, s₁, hclaim⟩ := claimAttempt_total env order now s
  refine ⟨order, outcome, s₁, hdraft, hclaim, ?_⟩
  rw [commits_bind_of_ok (exec_commit_of_ok hclaim), commits_commit_of_ok hclaim,
    List.mem_append, List.mem_singleton] at h
  obtain rfl | h := h
  · exact .inl rfl
  · cases outcome with
    | nonceReused => cases h
    | claimed | alreadyClaimed state => exact .inr (List.mem_singleton.1 h)

theorem issueForAccepted_contractHead (env : Env) (taskId : String) (config : IssueConfig)
    (now : Time) (s : Store) (t : String) :
    (exec (issueForAccepted env taskId config now) s).2.contractHead t = s.contractHead t := by
  rcases hrun : exec (issueForAccepted env taskId config now) s with ⟨r, s'⟩
  obtain ⟨e, -, -, rfl⟩ | ⟨order, outcome, s₁, -, hclaim, hrest⟩ := issueForAccepted_cases hrun
  · rfl
  have hs₁ : s₁.contractHead t = s.contractHead t := by
    obtain ⟨state, -, -, rfl⟩ | ⟨-, -, -, rfl⟩ | ⟨-, -, attempts, -, rfl⟩ :=
      claimAttempt_cases hclaim <;> rfl
  obtain ⟨-, -, rfl⟩ | ⟨-, -, rfl⟩ := hrest
  · exact hs₁
  · obtain ⟨orders, audit, heq⟩ := putWorkOrder_eq (order.issue env config.workOrderKey) now s₁
    rw [← hs₁, heq]
    rfl

theorem issueForAccepted_of_fresh {order : WorkOrder}
    (hdraft : draftOrder env taskId config now s = .ok order)
    (hfresh : ∀ row ∈ s.attempts, row.workOrderId ≠ order.workOrderId ∧ row.nonce ≠ order.nonce) :
    ∃ attempts s₁, s.attempts.insert (order.claimRow env now) = some attempts ∧
      s₁ = ({ s with attempts := attempts } : Store).auditAppend now "attempt.claimed"
        order.workOrderId ∧
      exec (issueForAccepted env taskId config now) s =
        (.ok (order.issue env config.workOrderKey),
          putWorkOrder (order.issue env config.workOrderKey) now s₁) := by
  obtain ⟨outcome, s₁, hclaim⟩ := claimAttempt_total env order now s
  obtain ⟨state, -, hstate, -⟩ | ⟨-, -, ⟨row, hrow, hnonce⟩, -⟩ | ⟨rfl, -, attempts, hins, rfl⟩ :=
    claimAttempt_cases hclaim
  · obtain ⟨row, hrow, -⟩ := Option.map_eq_some_iff.1 hstate
    obtain ⟨hmem, hid⟩ := Store.attemptRow_eq_some_iff.1 hrow
    exact absurd hid (hfresh row hmem).1
  · exact absurd hnonce (hfresh row hrow).2
  · refine ⟨attempts, _, hins, rfl, ?_⟩
    rw [issueForAccepted, exec_ask_bind_of_ok hdraft, exec_bind_of_ok (exec_commit_of_ok hclaim)]
    rfl

end Draft

/-! ## A task at rest -/

namespace Wire

def taskEnv (w : Wire) : Env :=
  { w.env with
    parseRfc3339 := fun s =>
      if s = "2027-01-15T08:00:00Z" then some 1800000000
      else if s = "2027-01-15T09:00:00Z" then some 1800003600
      else w.env.parseRfc3339 s
    formatRfc3339 := fun t =>
      if t = 1800000000 then some "2027-01-15T08:00:00Z"
      else if t = 1800003600 then some "2027-01-15T09:00:00Z"
      else none }

def stored (w : Wire) (status : HeadStatus) : Store :=
  { contractHeads := ⟨[{ w.parsed.headRow "task-1" "root-fixture-aaaaaaaaaaaaaaaaaaaaaaaaaaaaaa" with
      status := status, contextId := "context-1" }], List.pairwise_singleton _ _⟩
    contracts := ⟨[w.parsed.row "task-1" 1893456000], List.pairwise_singleton _ _⟩ }

theorem loadContract_stored (w : Wire) (status : HeadStatus) :
    (w.stored status).loadContract w.taskEnv (hex w.digest) = .ok w.contract := by
  refine Store.loadContract_eq_ok_iff.2 ⟨w.payload, w.parsed, ?_, w.parsePayload_eq, rfl⟩
  simp [Store.getContract, stored, Table.find, ParsedContract.row, parsed]

theorem contractHead_stored (w : Wire) (status : HeadStatus) :
    (w.stored status).contractHead "task-1" =
      ({ w.parsed.headRow "task-1" "" with status := status } : HeadRow).state := by
  cases status <;> rfl

theorem parse_format (w : Wire) (t : Time) (text : String)
    (h : w.taskEnv.formatRfc3339 t = some text) : w.taskEnv.parseRfc3339 text = some t := by
  simp only [taskEnv] at h ⊢
  split at h
  case isTrue ht =>
    cases h
    rw [if_pos rfl, ht]
  case isFalse =>
    split at h
    case isTrue ht =>
      cases h
      rw [if_neg (by decide), if_pos rfl, ht]
    case isFalse => cases h

end Wire

def IssueConfig.sample : IssueConfig where
  issuer := ⟨"c", "d", "root-fixture-aaaaaaaaaaaaaaaaaaaaaaaaaaaaaa"⟩
  issuerAssurance := "local-human"
  daemon := "d"
  executor := "akson-worker"
  requesterTlsSha256 := "tls"
  workOrderKey := []
  nonce := "nonce"
  decisionId := "decision"
  policyVersion := 1
  maxOperations := 64
  processorGrant := none
  grantArtifacts := false

theorem draftable_repeatedWire (s : Store) :
    Draftable repeatedWire.taskEnv repeatedWire.contract none false 1800000000 s where
  window := by decide
  deadline := ⟨"2027-01-15T09:00:00Z", by decide⟩
  processor := nofun
  artifacts := nofun

theorem draftOrder_repeatedWire : ∃ order,
    draftOrder repeatedWire.taskEnv "task-1" .sample 1800000000 (repeatedWire.stored .locked) =
      .ok order := by
  have hclamp : clampDeadline repeatedWire.taskEnv repeatedWire.contract 1800000000 =
      .ok "2027-01-15T09:00:00Z" := by decide
  have hdistinct : ((repeatedWire.contract.grants "task-1" (hex repeatedWire.digest)
      "2027-01-15T09:00:00Z" .sample).map Grant.component).Nodup := by decide
  exact ⟨_, draftOrder_eq_ok_iff.2 ⟨_, _, _, ⟨_, by simp [grants, repeatedWire,
    acceptGrant], hdistinct⟩, repeatedWire.contractHead_stored .locked,
    repeatedWire.loadContract_stored .locked, draftable_repeatedWire _, hclamp, rfl, rfl⟩⟩

/-! ## Attenuation -/

def Grant.maxBytes : Grant → Option ℕ
  | .respond scope => some scope.maxBytes
  | .readSuppliedInputs _ => none
  | .processorUse scope => some scope.maxBytes
  | .artifactExport scope => some scope.maxBytes

def Grant.maxCostMicrousd : Grant → Option ℕ
  | .respond _ | .readSuppliedInputs _ | .artifactExport _ => none
  | .processorUse scope => some scope.maxCostMicrousd

def Granted (c : Contract) (config : IssueConfig) (g : Grant) : Prop :=
  ∃ capability ∈ c.requestedCapabilities, g.component = capability.component ∧
    (capability.outward = true →
      (∃ scope, g = .processorUse scope ∧ config.processorGrant = some scope.processorId) ∨
        ∃ scope, g = .artifactExport scope ∧ config.grantArtifacts = true)

/-- The order grants no more than the contract and the operator. -/
structure Attenuates (env : Env) (c : Contract) (digest : String) (config : IssueConfig)
    (now : Time) (order : WorkOrder) : Prop where
  granted : ∀ g ∈ order.capabilities.grants, Granted c config g
  distinct : (order.capabilities.grants.map Grant.component).Nodup
  deadline : ∃ expires taskDeadline deadline, expiresAtUnix env c = .ok expires ∧
    deadlineUnix env c = .ok taskDeadline ∧ env.parseRfc3339 order.deadline = some deadline ∧
    now < deadline ∧ deadline ≤ min (min expires taskDeadline) (now + 3600)
  bytes : ∀ g ∈ order.capabilities.grants, ∀ n ∈ g.maxBytes, n ≤ c.limits.maxResponseBytes
  cost : ∀ g ∈ order.capabilities.grants, ∀ n ∈ g.maxCostMicrousd,
    n ≤ c.limits.maxCostMicrousd.getD 0
  digest : order.contractDigest = digest

section Attenuation

variable {env : Env} {c : Contract} {taskId digest deadline : String} {config : IssueConfig}
  {now : Time} {s s' : Store} {g : Grant}

theorem Contract.mem_grants :
    g ∈ c.grants taskId digest deadline config ↔
      (∃ capability ∈ c.requestedCapabilities,
        c.acceptGrant taskId digest deadline capability = some g) ∨
      (∃ id, config.processorGrant = some id ∧ g = .processorUse (c.processorScope id)) ∨
      (config.grantArtifacts = true ∧ g = .artifactExport (c.artifactScope taskId)) := by
  simp only [grants, List.mem_append, List.mem_filterMap, List.mem_map, Option.mem_toList,
    List.mem_ite_nil_right, List.mem_singleton, or_assoc, eq_comm]

theorem Contract.acceptGrant_eq_some {capability : Capability}
    (h : c.acceptGrant taskId digest deadline capability = some g) :
    capability.outward = false ∧ g.component = capability.component ∧
      (∀ n ∈ g.maxBytes, n = c.limits.maxResponseBytes) ∧ g.maxCostMicrousd = none := by
  cases capability with
  | processorUse | artifactExport => cases h
  | respond | readSuppliedInputs =>
    cases h
    simp [Capability.outward, Grant.component, Capability.component, Grant.maxBytes,
      Grant.maxCostMicrousd]

theorem Contract.granted_of_mem_grants
    (hdraft : Draftable env c config.processorGrant config.grantArtifacts now s)
    (h : g ∈ c.grants taskId digest deadline config) : Granted c config g := by
  obtain ⟨capability, hrequested, hgrant⟩ | ⟨id, hid, rfl⟩ | ⟨hartifacts, rfl⟩ :=
    mem_grants.1 h
  · obtain ⟨hinward, hcomponent, -⟩ := acceptGrant_eq_some hgrant
    refine ⟨capability, hrequested, hcomponent, fun houtward => ?_⟩
    rw [hinward] at houtward
    cases houtward
  · exact ⟨.processorUse, (hdraft.processor id hid).1, rfl, fun _ => .inl ⟨_, rfl, hid⟩⟩
  · exact ⟨.artifactExport, hdraft.artifacts hartifacts, rfl, fun _ => .inr ⟨_, rfl, hartifacts⟩⟩

theorem Contract.limits_of_mem_grants (h : g ∈ c.grants taskId digest deadline config) :
    (∀ n ∈ g.maxBytes, n ≤ c.limits.maxResponseBytes) ∧
      ∀ n ∈ g.maxCostMicrousd, n ≤ c.limits.maxCostMicrousd.getD 0 := by
  obtain ⟨capability, -, hgrant⟩ | ⟨id, -, rfl⟩ | ⟨-, rfl⟩ := mem_grants.1 h
  · obtain ⟨-, -, hbytes, hcost⟩ := acceptGrant_eq_some hgrant
    refine ⟨fun n hn => (hbytes n hn).le, ?_⟩
    rw [hcost]
    simp
  · simp [Grant.maxBytes, Grant.maxCostMicrousd, processorScope]
  · simp [Grant.maxBytes, Grant.maxCostMicrousd, artifactScope]

theorem inward_of_draftOrder {order : WorkOrder} (hprocessor : config.processorGrant = none)
    (hartifacts : config.grantArtifacts = false)
    (h : draftOrder env taskId config now s = .ok order) :
    ∀ g ∈ order.capabilities.grants, g.component = .respond ∨ g.component = .readSuppliedInputs := by
  obtain ⟨head, c, deadline, v, -, -, -, -, hv, rfl⟩ := draftOrder_eq_ok_iff.1 h
  intro g hg
  change g ∈ v.grants at hg
  rw [hv] at hg
  obtain ⟨capability, -, hgrant⟩ | ⟨id, hid, -⟩ | ⟨hgranted, -⟩ := mem_grants.1 hg
  · cases capability with
    | respond =>
      cases hgrant
      exact .inl rfl
    | readSuppliedInputs =>
      cases hgrant
      exact .inr rfl
    | processorUse | artifactExport => cases hgrant
  · rw [hprocessor] at hid
    cases hid
  · rw [hartifacts] at hgranted
    cases hgranted

theorem attenuates_of_draftOrder {order : WorkOrder} {head : Head}
    (hformat : ∀ t text, env.formatRfc3339 t = some text → env.parseRfc3339 text = some t)
    (hhead : s.contractHead taskId = .locked head) (hload : s.loadContract env head.digest = .ok c)
    (h : draftOrder env taskId config now s = .ok order) :
    Attenuates env c head.digest config now order := by
  obtain ⟨head', c', deadline, v, hhead', hload', hdraft, hdeadline, hv, rfl⟩ :=
    draftOrder_eq_ok_iff.1 h
  rw [hhead, HeadState.locked.injEq] at hhead'
  subst hhead'
  rw [hload, Except.ok.injEq] at hload'
  subst hload'
  obtain ⟨expires, taskDeadline, hexpires, htask, hlater, htext⟩ :=
    clampDeadline_eq_ok_iff.1 hdeadline
  exact {
    granted := fun g hg => granted_of_mem_grants hdraft (hv ▸ hg)
    distinct := v.distinct
    deadline := ⟨expires, taskDeadline, _, hexpires, htask, hformat _ _ htext, hlater, le_refl _⟩
    bytes := fun g hg => (limits_of_mem_grants (hv ▸ hg)).1
    cost := fun g hg => (limits_of_mem_grants (hv ▸ hg)).2
    digest := rfl }

/-- **Attenuation.** A work order that is issued stays within the contract its task is locked at
and what the operator granted explicitly. -/
theorem issued_orders_attenuate (env : Env)
    (hformat : ∀ t text, env.formatRfc3339 t = some text → env.parseRfc3339 text = some t)
    (taskId : String) (config : IssueConfig) (now : Time) (s s' : Store) (issued : IssuedWorkOrder)
    (h : exec (issueForAccepted env taskId config now) s = (.ok issued, s')) :
    ∃ head c, s.contractHead taskId = .locked head ∧ s.loadContract env head.digest = .ok c ∧
      Attenuates env c head.digest config now issued.order := by
  obtain ⟨e, -, hr, -⟩ | ⟨order, outcome, s₁, hdraft, -, ⟨-, ⟨e, hr⟩, -⟩ | ⟨-, hr, -⟩⟩ :=
    issueForAccepted_cases h
  · cases hr
  · cases hr
  · cases hr
    obtain ⟨head, c, -, -, hhead, hload, -⟩ := draftOrder_eq_ok_iff.1 hdraft
    exact ⟨head, c, hhead, hload, attenuates_of_draftOrder hformat hhead hload hdraft⟩

end Attenuation

theorem issued_orders_attenuate_repeatedWire : ∃ issued s' head c,
    exec (issueForAccepted repeatedWire.taskEnv "task-1" .sample 1800000000)
      (repeatedWire.stored .locked) = (.ok issued, s') ∧
    (repeatedWire.stored .locked).contractHead "task-1" = .locked head ∧
    (repeatedWire.stored .locked).loadContract repeatedWire.taskEnv head.digest = .ok c ∧
    Attenuates repeatedWire.taskEnv c head.digest .sample 1800000000 issued.order := by
  obtain ⟨order, hdraft⟩ := draftOrder_repeatedWire
  obtain ⟨attempts, s₁, -, -, hrun⟩ := issueForAccepted_of_fresh hdraft (fun row hrow => nomatch hrow)
  obtain ⟨head, c, h⟩ := issued_orders_attenuate _ repeatedWire.parse_format _ _ _ _ _ _ hrun
  exact ⟨_, _, head, c, hrun, h⟩

end Akson
