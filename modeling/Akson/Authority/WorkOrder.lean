/-
# Work orders

The local, single-use authorization of one attempt, with the capabilities that were granted.
-/
import Akson.Lib.Fallible
import Akson.Ext.Forms

namespace Akson

open Except List

/-! ## Capabilities -/

/-- The components a capability vector may have. -/
inductive CapabilityComponent where
  | respond
  | readSuppliedInputs
  | readSnapshot
  | processorUse
  | stageWrite
  | runProfile
  | apply
  | egress
  | secretUse
  | artifactExport
  | delegate
  | remoteCancel
deriving DecidableEq

/-- What may be answered, to whom and how much. -/
structure RespondScope where
  taskId : String
  messageId : String
  recipient : String
  maxResponses : ℕ
  maxBytes : ℕ
  deadline : String
deriving DecidableEq

/-- The inputs a worker may read. -/
structure ReadInputsScope where
  inputIds : List String
  contractDigest : String
deriving DecidableEq

/-- The processor a worker may call, and on which inputs. -/
structure ProcessorUseScope where
  processorId : String
  inputIds : List String
  maxCostMicrousd : ℕ
  maxBytes : ℕ
deriving DecidableEq

/-- What artifacts may leave, to whom and how many. -/
structure ArtifactExportScope where
  recipient : String
  taskId : String
  mediaTypes : List String
  maxCount : ℕ
  maxBytes : ℕ
deriving DecidableEq

/-- A component with its scope. -/
inductive Grant where
  | respond (scope : RespondScope)
  | readSuppliedInputs (scope : ReadInputsScope)
  | processorUse (scope : ProcessorUseScope)
  | artifactExport (scope : ArtifactExportScope)
deriving DecidableEq

def Grant.component : Grant → CapabilityComponent
  | .respond _ => .respond
  | .readSuppliedInputs _ => .readSuppliedInputs
  | .processorUse _ => .processorUse
  | .artifactExport _ => .artifactExport

def repeatedComponent (seen : List CapabilityComponent) : List Grant → Option CapabilityComponent
  | [] => none
  | g :: gs =>
    if g.component ∈ seen then some g.component
    else repeatedComponent (g.component :: seen) gs

theorem repeatedComponent_eq_none_iff {seen : List CapabilityComponent} {gs : List Grant} :
    repeatedComponent seen gs = none ↔
      (gs.map Grant.component).Nodup ∧ ∀ g ∈ gs, g.component ∉ seen := by
  induction gs generalizing seen with
  | nil => simp [repeatedComponent]
  | cons g gs ih =>
    by_cases hg : g.component ∈ seen
    · simp [repeatedComponent, hg]
    · rw [forall_mem_cons]
      simp only [repeatedComponent, if_neg hg, ih, map_cons, nodup_cons,
        mem_cons, not_or, mem_map, not_exists, not_and]
      constructor
      · rintro ⟨hnodup, hrest⟩
        exact ⟨⟨fun h hh => (hrest h hh).1, hnodup⟩, hg, fun h hh => (hrest h hh).2⟩
      · rintro ⟨⟨hfirst, hnodup⟩, -, hrest⟩
        exact ⟨hnodup, fun h hh => ⟨hfirst h hh, hrest h hh⟩⟩

/-- One grant at most for each component, and at least one. -/
structure CapabilityVector where
  grants : List Grant
  nonempty : grants ≠ []
  distinct : (grants.map Grant.component).Nodup
deriving DecidableEq

inductive VectorError where
  | duplicateComponent (component : CapabilityComponent)
  | empty

namespace CapabilityVector

def new (grants : List Grant) : Except VectorError CapabilityVector :=
  if hne : grants = [] then .error .empty
  else
    match hdup : repeatedComponent [] grants with
    | some component => .error (.duplicateComponent component)
    | none => .ok ⟨grants, hne, (repeatedComponent_eq_none_iff.1 hdup).1⟩

theorem new_eq_ok_iff {grants : List Grant} {v : CapabilityVector} :
    new grants = .ok v ↔ v.grants = grants := by
  constructor
  · intro h
    unfold new at h
    split at h
    case isTrue => cases h
    case isFalse =>
      split at h
      case h_1 => cases h
      case h_2 => rw [← ok.inj h]
  · rintro rfl
    have hdup := repeatedComponent_eq_none_iff.2
      ⟨v.distinct, fun g _ => not_mem_nil (a := g.component)⟩
    unfold new
    rw [dif_neg v.nonempty]
    split
    case h_1 component hsome =>
      rw [hdup] at hsome
      cases hsome
    case h_2 => rfl

def grant (v : CapabilityVector) (component : CapabilityComponent) : Option Grant :=
  v.grants.find? (fun g => g.component = component)

def grantsComponent (v : CapabilityVector) (component : CapabilityComponent) : Bool :=
  (v.grant component).isSome

theorem grant_eq_some_iff {v : CapabilityVector} {component : CapabilityComponent} {g : Grant} :
    v.grant component = some g ↔ g ∈ v.grants ∧ g.component = component := by
  constructor
  · intro h
    have hcomponent := find?_some h
    rw [decide_eq_true_eq] at hcomponent
    exact ⟨mem_of_find?_eq_some h, hcomponent⟩
  · rintro ⟨hmem, rfl⟩
    obtain ⟨g', hg'⟩ := Option.isSome_iff_exists.1
      (find?_isSome.2 ⟨g, hmem, decide_eq_true rfl⟩ :
        (v.grants.find? (fun g' => g'.component = g.component)).isSome)
    have hcomponent := find?_some hg'
    rw [decide_eq_true_eq] at hcomponent
    have hsame : g' = g :=
      inj_on_of_nodup_map v.distinct (mem_of_find?_eq_some hg') hmem hcomponent
    rw [grant, hg', hsame]

end CapabilityVector

/-! ## The order -/

/-- The daemon and the executor an order is for. -/
structure Audience where
  daemon : String
  executor : String
deriving DecidableEq

/-- The peer that asked, with its certificate. -/
structure RequestOrigin where
  peer : Identity
  tlsCertificateSha256 : String
deriving DecidableEq

structure Budgets where
  maxCostMicrousd : ℕ
  maxBytes : ℕ
  maxOperations : ℕ
deriving DecidableEq

/-- What an attempt at a task may do. -/
structure WorkOrder where
  version : ℕ
  workOrderId : String
  issuer : Identity
  issuerAssurance : String
  audience : Audience
  requestOrigin : RequestOrigin
  taskId : String
  contextId : String
  messageId : String
  contractRevision : ℕ
  contractDigest : String
  capabilities : CapabilityVector
  inputManifest : List String
  processorDigest : Option String
  runnerDigest : Option String
  sandboxDigest : Option String
  profileDigest : Option String
  budgets : Budgets
  evidenceSlots : List String
  policyVersion : ℕ
  decisionId : String
  notBefore : String
  deadline : String
  nonce : String
  /-- The origin that may cancel the attempt from afar. -/
  remoteCancel : Option Identity
deriving DecidableEq

def WorkOrder.sample (workOrderId nonce : String) : WorkOrder where
  version := 1
  workOrderId := workOrderId
  issuer := ⟨"c", "d", "root-d"⟩
  issuerAssurance := "daemon-policy"
  audience := ⟨"aksond", "worker"⟩
  requestOrigin := ⟨⟨"a", "b", "root-b"⟩, ""⟩
  taskId := "task-1"
  contextId := ""
  messageId := "m1"
  contractRevision := 0
  contractDigest := "d0"
  capabilities := ⟨[.respond ⟨"task-1", "m1", "b", 1, 1024, "2030-01-01T00:00:00Z"⟩], by simp,
    by simp⟩
  inputManifest := []
  processorDigest := none
  runnerDigest := none
  sandboxDigest := none
  profileDigest := none
  budgets := ⟨0, 1024, 1⟩
  evidenceSlots := []
  policyVersion := 1
  decisionId := "decision"
  notBefore := "2026-01-01T00:00:00Z"
  deadline := "2030-01-01T00:00:00Z"
  nonce := nonce
  remoteCancel := none

/-- An order with its digest and its MAC. -/
structure IssuedWorkOrder where
  order : WorkOrder
  digest : String
  mac : String
deriving DecidableEq

/-! ### Its canonical bytes -/

def jsonTexts (texts : List String) : Json := .arr (texts.map .str)

def jsonOptional : Option String → Json
  | some s => .str s
  | none => .null

def Grant.json : Grant → Json
  | .respond scope => .obj [("component", .str "respond"), ("deadline", .str scope.deadline),
      ("max_bytes", .num scope.maxBytes), ("max_responses", .num scope.maxResponses),
      ("message_id", .str scope.messageId), ("recipient", .str scope.recipient),
      ("task_id", .str scope.taskId)]
  | .readSuppliedInputs scope => .obj [("component", .str "read_supplied_inputs"),
      ("contract_digest", .str scope.contractDigest), ("input_ids", jsonTexts scope.inputIds)]
  | .processorUse scope => .obj [("component", .str "processor_use"),
      ("input_ids", jsonTexts scope.inputIds), ("max_bytes", .num scope.maxBytes),
      ("max_cost_microusd", .num scope.maxCostMicrousd), ("processor_id", .str scope.processorId)]
  | .artifactExport scope => .obj [("component", .str "artifact_export"),
      ("max_bytes", .num scope.maxBytes), ("max_count", .num scope.maxCount),
      ("media_types", jsonTexts scope.mediaTypes), ("recipient", .str scope.recipient),
      ("task_id", .str scope.taskId)]

namespace WorkOrder

def json (w : WorkOrder) : Json :=
  .obj ([("audience", .obj [("daemon", .str w.audience.daemon),
      ("executor", .str w.audience.executor)]),
    ("budgets", .obj [("max_bytes", .num w.budgets.maxBytes),
      ("max_cost_microusd", .num w.budgets.maxCostMicrousd),
      ("max_operations", .num w.budgets.maxOperations)]),
    ("capabilities", .obj [("grants", .arr (w.capabilities.grants.map Grant.json))]),
    ("context_id", .str w.contextId), ("contract_digest", .str w.contractDigest),
    ("contract_revision", .num w.contractRevision), ("deadline", .str w.deadline),
    ("decision_id", .str w.decisionId), ("evidence_slots", jsonTexts w.evidenceSlots),
    ("input_manifest", jsonTexts w.inputManifest), ("issuer", w.issuer.json),
    ("issuer_assurance", .str w.issuerAssurance), ("message_id", .str w.messageId),
    ("nonce", .str w.nonce), ("not_before", .str w.notBefore),
    ("policy_version", .num w.policyVersion), ("processor_digest", jsonOptional w.processorDigest),
    ("profile_digest", jsonOptional w.profileDigest)] ++
    (match w.remoteCancel with
      | some origin => [("remote_cancel", .obj [("allowed_origin", origin.json)])]
      | none => []) ++
    [("request_origin", .obj [("peer", w.requestOrigin.peer.json),
      ("tls_certificate_sha256", .str w.requestOrigin.tlsCertificateSha256)]),
    ("runner_digest", jsonOptional w.runnerDigest),
    ("sandbox_digest", jsonOptional w.sandboxDigest), ("task_id", .str w.taskId),
    ("version", .num w.version), ("work_order_id", .str w.workOrderId)])

def canonicalBytes (env : Env) (w : WorkOrder) : Bytes := Json.canonicalBytes env.fmtNum w.json

def digest (env : Env) (w : WorkOrder) : String := hex (env.sha256 (w.canonicalBytes env))

def issue (env : Env) (key : Bytes) (w : WorkOrder) : IssuedWorkOrder :=
  ⟨w, w.digest env, hex (env.hmacSha256 key (w.canonicalBytes env))⟩

end WorkOrder

/-! ## Attempts -/

/-- The states of an attempt. -/
inductive AttemptState where
  | pending
  | claimed
  | running
  | succeeded
  | failed
  | ambiguous
  | cancelled
deriving DecidableEq

namespace AttemptState

def asStr : AttemptState → String
  | .pending => "pending"
  | .claimed => "claimed"
  | .running => "running"
  | .succeeded => "succeeded"
  | .failed => "failed"
  | .ambiguous => "ambiguous"
  | .cancelled => "cancelled"

def isTerminal : AttemptState → Bool
  | .succeeded | .failed | .ambiguous | .cancelled => true
  | .pending | .claimed | .running => false

end AttemptState

/-- What can happen to an attempt. -/
inductive AttemptEvent where
  | claim
  | start
  | succeed
  | fail
  | markAmbiguous
  | cancel
  | recoverAfterCrash
deriving DecidableEq

inductive TransitionError where
  | alreadyTerminal (state : AttemptState)
  | invalid (state : AttemptState) (event : AttemptEvent)
deriving DecidableEq

def AttemptState.next (state : AttemptState) (event : AttemptEvent) :
    Except TransitionError AttemptState :=
  if state.isTerminal then .error (.alreadyTerminal state)
  else
    match state, event with
    | .pending, .claim => .ok .claimed
    | .claimed, .start => .ok .running
    | .running, .succeed => .ok .succeeded
    | .running, .fail => .ok .failed
    | .claimed, .markAmbiguous | .running, .markAmbiguous => .ok .ambiguous
    | .claimed, .recoverAfterCrash | .running, .recoverAfterCrash => .ok .ambiguous
    | .pending, .cancel | .claimed, .cancel => .ok .cancelled
    -- a running attempt may have committed an effect that a cancellation cannot undo
    | .running, .cancel => .ok .ambiguous
    | state, event => .error (.invalid state event)

theorem AttemptState.isTerminal_eq_false_of_next {state new : AttemptState} {event : AttemptEvent}
    (h : state.next event = .ok new) : state.isTerminal = false := by
  unfold next at h
  split at h
  case isTrue => cases h
  case isFalse hterm => simpa using hterm

end Akson
