/-
# The endpoint's database

The tables of the store (schema versions 1 to 23), one row type for each, with the primary keys and
`UNIQUE` columns of the schema as the row type's `clash`.
-/
import Akson.Lib.Table
import Akson.Authority.WorkOrder
import Akson.Broker.Processor
import Akson.Ext.Dsse

namespace Akson

/-! ## The coordination surface -/

/-- How far staged content has come. -/
inductive CoordStatus where
  | staged
  | consented
  | dispatched
deriving DecidableEq

/-- How the carriage of a dispatch ended. -/
inductive EgressState where
  | pending
  | sent
  | failed
deriving DecidableEq

def EgressState.asStr : EgressState → String
  | .pending => "pending"
  | .sent => "sent"
  | .failed => "failed"

def EgressState.ofStr (s : String) : Option EgressState :=
  if s = "pending" then some .pending
  else if s = "sent" then some .sent
  else if s = "failed" then some .failed
  else none

inductive CoordEventKind where
  | staged
  | consentRecorded
  | dispatched
  | egressRecorded
  | dispatchReceived
  | dispatchRefused
deriving DecidableEq

/-- Content that waits for consent. -/
structure StagedContract where
  stageRef : String
  stagedDigest : String
  taskType : String
  performer : String
  payloadSha256 : String
  byteLength : ℕ
  status : CoordStatus
  stagedAt : Time
deriving DecidableEq

structure StagedRow extends StagedContract where
  payload : Bytes

instance : Row StagedRow where
  clash a b := a.stageRef = b.stageRef ∨ a.stagedDigest = b.stagedDigest
  clash_symm _ _ h := h.imp Eq.symm Eq.symm
  clash_dec _ _ := inferInstanceAs (Decidable (_ ∨ _))

/-- The operator's consent to one dispatch. -/
structure ConsentReceipt where
  receiptId : String
  stageRef : String
  stagedDigest : String
  maxUses : ℕ
  uses : ℕ
  mintedAt : Time

structure ConsentRow extends ConsentReceipt where
  receipt : Bytes

instance : Row ConsentRow := .ofKey (·.receiptId)

/-- A dispatch, once its consent is spent. -/
structure DispatchRecord where
  executionKey : String
  stageRef : String
  stagedDigest : String
  receiptId : String
  dispatchReceipt : String
  dispatchedAt : Time
  egressState : EgressState
  egressDetail : String
  egressAt : Option Time

instance : Row DispatchRecord where
  clash a b := a.executionKey = b.executionKey ∨ a.receiptId = b.receiptId ∨
    a.dispatchReceipt = b.dispatchReceipt
  clash_symm _ _ h := h.imp Eq.symm (Or.imp Eq.symm Eq.symm)
  clash_dec _ _ := inferInstanceAs (Decidable (_ ∨ _ ∨ _))

/-- An entry of the feed. -/
structure CoordEvent where
  seq : ℕ
  kind : CoordEventKind
  stageRef : Option String
  detail : Json
  recordedAt : Time

/-! ## Peers -/

inductive FingerprintKind where
  | certSha256
  | jwk7638
  | jsonSha256
deriving DecidableEq

/-- A digest with what it is of. -/
structure Fingerprint where
  kind : FingerprintKind
  value : String
deriving DecidableEq

structure KeyBinding where
  purpose : KeyPurpose
  thumbprint : Fingerprint
deriving DecidableEq

/-- What is pinned of a peer. -/
structure PeerIdentity where
  issuer : Option String
  agentId : String
  workloadId : Option String
  endpointId : String
  tlsCert : Fingerprint
  agentCardKey : Fingerprint
  keyBindings : List KeyBinding
  securityProjectionDigest : Fingerprint
  fullCardDigest : Fingerprint
deriving DecidableEq

structure StoredPeer where
  identity : PeerIdentity
  localNote : String
deriving DecidableEq

/-- What changed when a peer was suspended. -/
inductive SuspendReason where
  | issuerChanged
  | endpointChanged
  | keyChanged
  | projectionChanged
  | subjectChanged
deriving DecidableEq

inductive PeerStatus where
  | pending
  | active
  | suspended (reason : SuspendReason)
deriving DecidableEq

/-- A peer, by its root. -/
structure PeerRow where
  rootThumbprint : String
  agentId : String
  record : StoredPeer
  status : PeerStatus

instance : Row PeerRow := .ofKey PeerRow.rootThumbprint

/-- A root the operator has imported, and under which label. -/
structure PeerImport where
  rootThumbprint : String
  label : Option String
  endpointHint : String
  epoch : ℕ
  addedAt : Time
  tombstonedAt : Option Time

instance : Row PeerImport where
  clash a b := a.rootThumbprint = b.rootThumbprint ∨ (a.label.isSome ∧ a.label = b.label)
  clash_symm _ _ h := h.imp Eq.symm (fun ⟨hs, hl⟩ => ⟨hl ▸ hs, hl.symm⟩)
  clash_dec _ _ := inferInstanceAs (Decidable (_ ∨ _ ∧ _))

/-- A key of a peer, by its TLS certificate. -/
structure PeerKeyRow where
  tlsFingerprint : String
  purpose : String
  agentId : String
  issuer : String
  publicKey : Bytes
  updatedAt : Time
  rootThumbprint : String
deriving DecidableEq

instance : Row PeerKeyRow := .ofKeys PeerKeyRow.tlsFingerprint PeerKeyRow.purpose

/-- A standing approval for a peer's tasks. -/
structure AutoApproveRow where
  rootThumbprint : String
  agentId : String
  taskTypes : String
  maxResponseBytes : ℤ
  updatedAt : Time

instance : Row AutoApproveRow := .ofKey AutoApproveRow.rootThumbprint

/-! ## Delivery -/

/-- A message that was answered. -/
structure InboxRow where
  peer : String
  messageId : String
  commitment : Bytes
  bodyDigest : String
  taskId : Option String
  responseClass : String
  body : Bytes
  response : Bytes
  receivedAt : Time

instance : Row InboxRow := .ofKeys InboxRow.peer InboxRow.messageId

/-- What is left of an answered message. -/
structure TombstoneRow where
  peer : String
  messageId : String
  commitment : Bytes
  taskId : Option String
  responseClass : String
  response : Bytes
  expiresAt : Time

instance : Row TombstoneRow := .ofKeys TombstoneRow.peer TombstoneRow.messageId

/-! ## Tasks -/

inductive HeadStatus where
  | opened
  | locked
deriving DecidableEq

/-- The head of a task. -/
structure HeadRow where
  taskId : String
  contractId : String
  revision : ℕ
  digest : String
  status : HeadStatus
  contextId : String
  originRoot : String

instance : Row HeadRow := .ofKey HeadRow.taskId

/-- The bytes of a contract revision. -/
structure ContractRow where
  digest : String
  taskId : String
  contractId : String
  revision : ℕ
  payload : Bytes
  expiresAt : Time

instance : Row ContractRow := .ofKey ContractRow.digest

/-- An input of a task. -/
structure TaskInputRow where
  taskId : String
  inputId : String
  ordinal : ℕ
  mediaType : String
  byteLength : ℕ
  sha256 : String
  payload : Bytes

instance : Row TaskInputRow := .ofKeys TaskInputRow.taskId TaskInputRow.inputId

/-- The attempt under a work order. -/
structure AttemptRow where
  workOrderId : String
  nonce : String
  taskId : String
  workOrderDigest : String
  state : AttemptState
  maxCostMicrousd : ℕ
  maxBytes : ℕ
  maxOperations : ℕ
  claimedAt : Time
  deadline : String

instance : Row AttemptRow where
  clash a b := a.workOrderId = b.workOrderId ∨ a.nonce = b.nonce
  clash_symm _ _ h := h.imp Eq.symm Eq.symm
  clash_dec _ _ := inferInstanceAs (Decidable (_ ∨ _))

structure WorkOrderRow where
  workOrderId : String
  taskId : String
  digest : String
  order : Option IssuedWorkOrder
  issuedAt : Time
deriving DecidableEq

instance : Row WorkOrderRow := .ofKey WorkOrderRow.workOrderId

/-- The signed result of an order. -/
structure ResultRow where
  workOrderId : String
  taskId : String
  bundleDigest : String
  manifest : Bytes
  completedAt : Time

instance : Row ResultRow := .ofKey ResultRow.workOrderId

/-- A task the reactor has looked at. -/
structure ReactionRow where
  taskId : String
  reactedAt : Time

instance : Row ReactionRow := .ofKey ReactionRow.taskId

/-! ## Results of tasks sent to others -/

/-- A task that was sent to a performer. -/
structure SentRequest where
  contractDigest : String
  taskId : String
  contextId : String
  /-- The root the task was sent to. -/
  performerRoot : String
  contractId : String
  performerAgent : String
  performerIssuer : String
  messageId : String

structure SentRow extends SentRequest where
  requestedAt : Time

instance : Row SentRow := .ofKey (·.contractDigest)

/-- An outcome the requester has signed. -/
structure OutcomeRow where
  contractDigest : String
  taskId : String
  bundleDigest : String
  outcomeDigest : String
  state : String
  outcome : Bytes
  signedAt : String
  recordedAt : Time

instance : Row OutcomeRow := .ofKey OutcomeRow.contractDigest

/-- An output of a task, own or delivered. -/
structure TaskOutputRow where
  taskId : String
  artifactId : String
  ordinal : ℕ
  role : String
  mediaType : String
  byteLength : ℕ
  sha256 : String
  payload : Bytes

instance : Row TaskOutputRow := .ofKeys TaskOutputRow.taskId TaskOutputRow.artifactId

/-! ## Processors -/

structure ProcessorRow where
  processorId : String
  provider : String
  location : String
  config : ProcessorConfig
  addedAt : Time

instance : Row ProcessorRow := .ofKey ProcessorRow.processorId

structure CredentialRow where
  processorId : String
  credential : Bytes
  updatedAt : Time

instance : Row CredentialRow := .ofKey CredentialRow.processorId

/-- A call to a processor. -/
structure CallRow where
  idempotencyKey : String
  workOrderId : String
  taskId : String
  processorId : String
  provider : String
  configDigest : String
  requestDigest : String
  origin : Origin
  state : SubAttemptState
  maxCostMicrousd : ℕ
  maxResponseBytes : ℕ
  deadline : String
  preparedAt : Time

instance : Row CallRow := .ofKey CallRow.idempotencyKey

/-! ## The store -/

/-- An entry of the audit log. -/
structure AuditEntry where
  ts : Time
  event : String
  detail : String

/-- The tables of the daemon. -/
@[ext]
structure Store where
  coordStaged : Table StagedRow := ∅
  coordConsents : Table ConsentRow := ∅
  coordDispatches : Table DispatchRecord := ∅
  coordEvents : List CoordEvent := []
  peers : Table PeerRow := ∅
  peerImports : Table PeerImport := ∅
  peerKeys : Table PeerKeyRow := ∅
  autoApprove : Table AutoApproveRow := ∅
  inboxObjects : Table InboxRow := ∅
  replayTombstones : Table TombstoneRow := ∅
  contractHeads : Table HeadRow := ∅
  contracts : Table ContractRow := ∅
  taskInputs : Table TaskInputRow := ∅
  attempts : Table AttemptRow := ∅
  workOrders : Table WorkOrderRow := ∅
  results : Table ResultRow := ∅
  taskReactions : Table ReactionRow := ∅
  sentRequests : Table SentRow := ∅
  outcomes : Table OutcomeRow := ∅
  taskOutputs : Table TaskOutputRow := ∅
  processors : Table ProcessorRow := ∅
  processorCredentials : Table CredentialRow := ∅
  processorCalls : Table CallRow := ∅
  audit : List AuditEntry := []
  /-- The trusted-time floor kept in `meta`; unset before the first reading. -/
  trustedTime : Option Time := none

@[simps]
def Store.auditAppend (s : Store) (now : Time) (event detail : String) : Store :=
  { s with audit := s.audit ++ [⟨now, event, detail⟩] }

inductive StoreError where
  /-- A statement violated a constraint of the schema. -/
  | db
  | corrupt (message : String)
  | timeUncertain
  | unknownAttempt (workOrderId : String)
  | unknownProcessorCall (idempotencyKey : String)
  /-- A sealed column does not open. -/
  | seal

def insertRow {ρ : Type} [Row ρ] (t : Table ρ) (r : ρ) : Except StoreError (Table ρ) :=
  Except.okOr (t.insert r) .db

@[simp] theorem insertRow_eq_ok {ρ : Type} [Row ρ] {t u : Table ρ} {r : ρ} :
    insertRow t r = .ok u ↔ t.insert r = some u :=
  Except.okOr_eq_ok

def transact {α : Type} (op : Store → Except StoreError (α × Store)) (s : Store) :
    Except StoreError α × Store :=
  match op s with
  | .ok (a, s') => (.ok a, s')
  | .error e => (.error e, s)

theorem transact_cases {α : Type} {op : Store → Except StoreError (α × Store)} {s s' : Store}
    {answer : Except StoreError α} (h : transact op s = (answer, s')) :
    (∃ e, answer = .error e ∧ s' = s) ∨ ∃ a, answer = .ok a ∧ op s = .ok (a, s') := by
  unfold transact at h
  split at h
  case h_1 a s₁ hop =>
    cases h
    exact .inr ⟨a, rfl, hop⟩
  case h_2 e hop =>
    cases h
    exact .inl ⟨e, rfl, rfl⟩

theorem transact_of_ok {α : Type} {op : Store → Except StoreError (α × Store)} {s s' : Store} {a : α}
    (h : op s = .ok (a, s')) : transact op s = (.ok a, s') := by
  rw [transact, h]

end Akson
