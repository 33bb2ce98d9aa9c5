/-
# Contracts

One revision of a task contract: what the requester signs and the performer is asked to accept.
-/
import Akson.Lib.Fallible
import Akson.Ext.Forms

namespace Akson

open Json

/-! ## The parts of a contract -/

/-- The kinds of an input. -/
inductive PartKind where
  | text
  | data
deriving DecidableEq

def PartKind.ofStr (s : String) : Option PartKind :=
  if s = "text" then some .text
  else if s = "data" then some .data
  else none

/-- How an input's bytes are fixed. -/
inductive CanonicalRule where
  | utf8Exact
  | jcs
deriving DecidableEq

def CanonicalRule.ofStr (s : String) : Option CanonicalRule :=
  if s = "utf8-exact" then some .utf8Exact
  else if s = "jcs" then some .jcs
  else none

/-- The capabilities a contract may ask for. -/
inductive Capability where
  | respond
  | readSuppliedInputs
  | processorUse
  | artifactExport
deriving DecidableEq

def Capability.ofStr (s : String) : Option Capability :=
  if s = "respond" then some .respond
  else if s = "read_supplied_inputs" then some .readSuppliedInputs
  else if s = "processor_use" then some .processorUse
  else if s = "artifact_export" then some .artifactExport
  else none

/-- Where the inputs may be processed. -/
inductive Disclosure where
  | none
  | localOnly
  | namedRemote
deriving DecidableEq

def Disclosure.ofStr (s : String) : Option Disclosure :=
  if s = "none" then some .none
  else if s = "local-only" then some .localOnly
  else if s = "named-remote" then some .namedRemote
  else Option.none

inductive TrustClass where
  | selfAttested
  | independentlyVerified
  | hardwareAttested
deriving DecidableEq

def TrustClass.ofStr (s : String) : Option TrustClass :=
  if s = "self-attested" then some .selfAttested
  else if s = "independently-verified" then some .independentlyVerified
  else if s = "hardware-attested" then some .hardwareAttested
  else none

inductive ResultRecipient where
  | requestOrigin
deriving DecidableEq

def ResultRecipient.ofStr (s : String) : Option ResultRecipient :=
  if s = "request-origin" then some .requestOrigin else none

/-- An input, as the contract lists it. -/
structure InputEntry where
  id : String
  messageId : String
  partIndex : ℕ
  kind : PartKind
  mediaType : String
  charset : Option String
  canonicalRule : CanonicalRule
  byteLength : ℕ
  sha256 : String
  workerVisible : Bool
  processorVisible : Bool
deriving DecidableEq

/-- A result that is asked for. -/
structure Deliverable where
  role : String
  mediaType : String
deriving DecidableEq

/-- Evidence that is asked for. -/
structure EvidenceSlot where
  slotId : String
  statementType : String
  trustClasses : List TrustClass
deriving DecidableEq

structure ProcessorConstraints where
  disclosure : Disclosure
deriving DecidableEq

structure Limits where
  deadline : String
  maxResponseBytes : ℕ
  maxCostMicrousd : Option ℕ
deriving DecidableEq

structure RetentionRequest where
  days : ℕ
deriving DecidableEq

/-- A task contract. -/
structure Contract where
  schemaVersion : ℕ
  contractId : String
  revision : ℕ
  predecessorDigest : Option String
  taskType : String
  messageId : String
  contextId : Option String
  taskId : Option String
  requester : Identity
  performer : Identity
  objective : String
  inputs : List InputEntry
  deliverables : List Deliverable
  evidenceSlots : List EvidenceSlot
  requestedCapabilities : List Capability
  processorConstraints : ProcessorConstraints
  limits : Limits
  resultRecipient : ResultRecipient
  retentionRequest : Option RetentionRequest
  createdAt : String
  expiresAt : String
deriving DecidableEq

/-! ## The schema -/

def validInputKind (v : Json) : Bool :=
  if v.get? "kind" = some (.str "text") then
    v.hasMember "charset" && v.get? "canonical_rule" = some (.str "utf8-exact") &&
      (v.get? "byte_length").all (intIn 0 1048576)
  else
    v.get? "canonical_rule" = some (.str "jcs") && (v.get? "byte_length").all (intIn 0 4194304)

def validInputEntry (v : Json) : Bool :=
  record
    [("id", strWith isSlug), ("message_id", strWith isA2aId),
     ("part_index", intIn 0 255), ("kind", oneOf ["text", "data"]),
     ("media_type", strWith isMediaType), ("canonical_rule", oneOf ["utf8-exact", "jcs"]),
     ("byte_length", intIn 0 8388608), ("sha256", strWith isSha256Hex),
     ("worker_visible", isBool), ("processor_visible", isBool)]
    [("charset", oneOf ["utf-8"])] v && validInputKind v

def validDeliverable : Json → Bool :=
  record [("role", strWith isSlug), ("media_type", strWith isMediaType)] []

def validEvidenceSlot : Json → Bool :=
  record
    [("slot_id", strWith isSlug), ("statement_type", strWith (atMost 256)),
     ("trust_classes", listOf 1 3
       (oneOf ["self-attested", "independently-verified", "hardware-attested"]))] []

def validLimits : Json → Bool :=
  record
    [("deadline", strWith isRfc3339Utc), ("max_response_bytes", intIn 1 8388608)]
    [("max_cost_microusd", intIn 0 1000000000000)]

def isContractTaskType (s : String) : Bool :=
  "https://".toList.isPrefixOf s.toList && atMost 256 s

def validRevision (v : Json) : Bool :=
  if v.get? "revision" = some (.num 0) then
    !(v.hasMember "predecessor_digest" || v.hasMember "task_id")
  else v.hasMember "predecessor_digest" && v.hasMember "task_id"

def validateContract (v : Json) : Bool :=
  record
    [("schema_version", fun w => w = .num 1), ("contract_id", strWith isUuidV4),
     ("revision", intIn 0 1000000), ("task_type", strWith isContractTaskType),
     ("message_id", strWith isA2aId), ("requester", validIdentity),
     ("performer", validIdentity), ("objective", strWith (atMost 4096)),
     ("inputs", listOf 0 64 validInputEntry),
     ("deliverables", listOf 1 16 validDeliverable),
     ("evidence_slots", listOf 0 16 validEvidenceSlot),
     ("requested_capabilities", listOf 0 4
       (oneOf ["respond", "read_supplied_inputs", "processor_use", "artifact_export"])),
     ("processor_constraints",
       record [("disclosure", oneOf ["none", "local-only", "named-remote"])] []),
     ("limits", validLimits), ("result_recipient", fun w => w = .str "request-origin"),
     ("created_at", strWith isRfc3339Utc), ("expires_at", strWith isRfc3339Utc)]
    [("predecessor_digest", strWith isSha256Hex), ("context_id", strWith isA2aId),
     ("task_id", strWith isA2aId),
     ("retention_request", record [("days", intIn 0 3650)] [])] v && validRevision v

/-! ## Reading -/

def InputEntry.ofJson (v : Json) : Option InputEntry := do
  let id ← v.getStr? "id"
  let messageId ← v.getStr? "message_id"
  let partIndex ← v.getNat? "part_index"
  let kind ← (v.getStr? "kind").bind PartKind.ofStr
  let mediaType ← v.getStr? "media_type"
  let charset ← v.getOptional? str? "charset"
  let canonicalRule ← (v.getStr? "canonical_rule").bind CanonicalRule.ofStr
  let byteLength ← v.getNat? "byte_length"
  let sha256 ← v.getStr? "sha256"
  let workerVisible ← v.getBool? "worker_visible"
  let processorVisible ← v.getBool? "processor_visible"
  some ⟨id, messageId, partIndex, kind, mediaType, charset, canonicalRule, byteLength, sha256,
    workerVisible, processorVisible⟩

def Deliverable.ofJson (v : Json) : Option Deliverable := do
  let role ← v.getStr? "role"
  let mediaType ← v.getStr? "media_type"
  some ⟨role, mediaType⟩

def EvidenceSlot.ofJson (v : Json) : Option EvidenceSlot := do
  let slotId ← v.getStr? "slot_id"
  let statementType ← v.getStr? "statement_type"
  let classes ← v.getArr? "trust_classes"
  let trustClasses ← classes.mapM (fun w => w.str?.bind TrustClass.ofStr)
  some ⟨slotId, statementType, trustClasses⟩

def Limits.ofJson (v : Json) : Option Limits := do
  let deadline ← v.getStr? "deadline"
  let maxResponseBytes ← v.getNat? "max_response_bytes"
  let maxCostMicrousd ← v.getOptional? nat? "max_cost_microusd"
  some ⟨deadline, maxResponseBytes, maxCostMicrousd⟩

def Contract.ofJson (v : Json) : Option Contract := do
  let schemaVersion ← v.getNat? "schema_version"
  let contractId ← v.getStr? "contract_id"
  let revision ← v.getNat? "revision"
  let predecessorDigest ← v.getOptional? str? "predecessor_digest"
  let taskType ← v.getStr? "task_type"
  let messageId ← v.getStr? "message_id"
  let contextId ← v.getOptional? str? "context_id"
  let taskId ← v.getOptional? str? "task_id"
  let requester ← (v.get? "requester").bind Identity.ofJson
  let performer ← (v.get? "performer").bind Identity.ofJson
  let objective ← v.getStr? "objective"
  let inputs ← (v.getArr? "inputs").bind (·.mapM InputEntry.ofJson)
  let deliverables ← (v.getArr? "deliverables").bind (·.mapM Deliverable.ofJson)
  let evidenceSlots ← (v.getArr? "evidence_slots").bind (·.mapM EvidenceSlot.ofJson)
  let requestedCapabilities ← (v.getArr? "requested_capabilities").bind
    (·.mapM (fun w => w.str?.bind Capability.ofStr))
  let disclosure ← (v.get? "processor_constraints").bind
    (fun w => (w.getStr? "disclosure").bind Disclosure.ofStr)
  let limits ← (v.get? "limits").bind Limits.ofJson
  let resultRecipient ← (v.getStr? "result_recipient").bind ResultRecipient.ofStr
  let retentionRequest ← v.getOptional? (fun w => (w.getNat? "days").map RetentionRequest.mk)
    "retention_request"
  let createdAt ← v.getStr? "created_at"
  let expiresAt ← v.getStr? "expires_at"
  some ⟨schemaVersion, contractId, revision, predecessorDigest, taskType, messageId, contextId,
    taskId, requester, performer, objective, inputs, deliverables, evidenceSlots,
    requestedCapabilities, ⟨disclosure⟩, limits, resultRecipient, retentionRequest, createdAt,
    expiresAt⟩

def Contract.sample : Contract where
  schemaVersion := 1
  contractId := "00000000-0000-4000-8000-000000000000"
  revision := 0
  predecessorDigest := none
  taskType := "https://akson.invalid/t"
  messageId := "m1"
  contextId := none
  taskId := none
  requester := ⟨"a", "b", "root-fixture-aaaaaaaaaaaaaaaaaaaaaaaaaaaaaa"⟩
  performer := ⟨"c", "d", "root-fixture-aaaaaaaaaaaaaaaaaaaaaaaaaaaaaa"⟩
  objective := "o"
  inputs := []
  deliverables := [⟨"r", "text/plain"⟩]
  evidenceSlots := []
  requestedCapabilities := []
  processorConstraints := ⟨.none⟩
  limits := ⟨"2030-01-01T00:00:00Z", 1024, none⟩
  resultRecipient := .requestOrigin
  retentionRequest := none
  createdAt := "2026-01-01T00:00:00Z"
  expiresAt := "2030-01-01T00:00:00Z"

/-- A contract with its payload and digest. -/
structure ParsedContract where
  contract : Contract
  digest : String
  payload : Bytes

inductive ContractError where
  | ijson (error : Json.IJsonError)
  | notCanonical
  | schema (firstError : String)
  | shape (error : String)

def ContractError.message (env : Env) : ContractError → String
  | .ijson error => "contract payload is not valid I-JSON: " ++ error.message env.debugStr
  | .notCanonical => "contract payload is not RFC 8785 canonical"
  | .schema firstError => "contract failed schema validation: instance does not conform to " ++
      env.debugStr "contract" ++ ": " ++ firstError
  | .shape error => "contract shape invalid: " ++ error

/-- Read a contract and take its digest. -/
def parsePayload (env : Env) (payload : Bytes) : Except ContractError ParsedContract := do
  let value ← (parse env.fmtFloat env.readJson payload).mapError .ijson
  Except.ensure (canonicalBytes env.fmtNum value = payload) .notCanonical
  Except.ensure (validateContract value) (.schema (env.schemaError "contract" value))
  let contract ← Except.okOr (Contract.ofJson value) (.shape (env.shapeError value))
  .ok ⟨contract, hex (env.sha256 payload), payload⟩

/-- What the schema says of a contract, as far as later proofs use it. -/
structure Contract.Conforms (c : Contract) : Prop where
  contractId : isUuidV4 c.contractId = true
  limit : 1 ≤ c.limits.maxResponseBytes ∧ c.limits.maxResponseBytes ≤ 8388608
  deliverables : 1 ≤ c.deliverables.length ∧ c.deliverables.length ≤ 16
  mediaTypes : ∀ d ∈ c.deliverables, isMediaType d.mediaType = true
  slots : c.evidenceSlots.length ≤ 16
  slotIds : ∀ slot ∈ c.evidenceSlots, isSlug slot.slotId = true

variable {v : Json} {c : Contract} {parsed : ParsedContract} {payload : Bytes} {env : Env}

theorem Limits.within_of_ofJson {limits : Limits} (hvalid : validLimits v = true)
    (h : Limits.ofJson v = some limits) :
    1 ≤ limits.maxResponseBytes ∧ limits.maxResponseBytes ≤ 8388608 := by
  simp only [Limits.ofJson, Option.bind_eq_bind, Option.bind_eq_some_iff] at h
  obtain ⟨deadline, -, n, hn, cost, -, hout⟩ := h
  cases hout
  obtain ⟨w, hw, hn⟩ := Option.bind_eq_some_iff.1 hn
  exact intIn_of_nat? (record_check hvalid (by simp) hw) hn

theorem Deliverable.isMediaType_of_ofJson {d : Deliverable} (hvalid : validDeliverable v = true)
    (h : Deliverable.ofJson v = some d) : isMediaType d.mediaType = true := by
  simp only [Deliverable.ofJson, Option.bind_eq_bind, Option.bind_eq_some_iff] at h
  obtain ⟨role, -, mediaType, hmedia, hout⟩ := h
  cases hout
  have hpass : strWith isMediaType (.str mediaType) = true :=
    record_check hvalid (by simp) (get?_eq_of_getStr? hmedia)
  exact hpass

theorem EvidenceSlot.isSlug_of_ofJson {slot : EvidenceSlot} (hvalid : validEvidenceSlot v = true)
    (h : EvidenceSlot.ofJson v = some slot) : isSlug slot.slotId = true := by
  simp only [EvidenceSlot.ofJson, Option.bind_eq_bind, Option.bind_eq_some_iff] at h
  obtain ⟨slotId, hslot, statementType, -, classes, -, trustClasses, -, hout⟩ := h
  cases hout
  have hpass : strWith isSlug (.str slotId) = true :=
    record_check hvalid (by simp) (get?_eq_of_getStr? hslot)
  exact hpass

theorem Contract.reads_of_ofJson (h : Contract.ofJson v = some c) :
    v.getStr? "contract_id" = some c.contractId ∧
      (v.getArr? "deliverables").bind (·.mapM Deliverable.ofJson) = some c.deliverables ∧
      (v.getArr? "evidence_slots").bind (·.mapM EvidenceSlot.ofJson) = some c.evidenceSlots ∧
      (v.get? "limits").bind Limits.ofJson = some c.limits := by
  obtain ⟨_, -, h⟩ := Option.bind_eq_some_iff.1 h
  obtain ⟨_, hid, h⟩ := Option.bind_eq_some_iff.1 h
  iterate 10 obtain ⟨_, -, h⟩ := Option.bind_eq_some_iff.1 h
  obtain ⟨_, hdeliverables, h⟩ := Option.bind_eq_some_iff.1 h
  obtain ⟨_, hslots, h⟩ := Option.bind_eq_some_iff.1 h
  iterate 2 obtain ⟨_, -, h⟩ := Option.bind_eq_some_iff.1 h
  obtain ⟨_, hlimits, h⟩ := Option.bind_eq_some_iff.1 h
  iterate 4 obtain ⟨_, -, h⟩ := Option.bind_eq_some_iff.1 h
  cases h
  exact ⟨hid, hdeliverables, hslots, hlimits⟩

theorem Contract.conforms_of_ofJson (hvalid : validateContract v = true)
    (h : Contract.ofJson v = some c) : c.Conforms := by
  rw [validateContract, Bool.and_eq_true] at hvalid
  have hrecord := hvalid.1
  obtain ⟨hid, hdeliverables, hslots, hlimits⟩ := Contract.reads_of_ofJson h
  have hcontractId : strWith isUuidV4 (.str c.contractId) = true :=
    record_check hrecord (by simp) (get?_eq_of_getStr? hid)
  obtain ⟨w, hw, hread⟩ := Option.bind_eq_some_iff.1 hlimits
  have hlimit := Limits.within_of_ofJson (record_check hrecord (by simp) hw) hread
  obtain ⟨w', hw'⟩ := get?_of_getArr? hdeliverables
  have hlist : listOf 1 16 validDeliverable w' = true :=
    record_check hrecord (by simp) hw'
  obtain ⟨hsome, hmost, hdeliverable⟩ := listOf_getArr? hw' hlist hdeliverables
  obtain ⟨u, hu⟩ := get?_of_getArr? hslots
  have hlist' : listOf 0 16 validEvidenceSlot u = true := record_check hrecord (by simp) hu
  obtain ⟨-, hfew, hslot⟩ := listOf_getArr? hu hlist' hslots
  refine ⟨hcontractId, hlimit, ⟨hsome, hmost⟩, fun d hd => ?_, hfew, fun slot hslot' => ?_⟩
  · obtain ⟨x, hx, hread⟩ := hdeliverable d hd
    exact Deliverable.isMediaType_of_ofJson hx hread
  · obtain ⟨x, hx, hread⟩ := hslot slot hslot'
    exact EvidenceSlot.isSlug_of_ofJson hx hread

theorem Contract.conforms_of_parsePayload (h : parsePayload env payload = .ok parsed) :
    parsed.contract.Conforms := by
  simp only [parsePayload, Except.bind_eq_ok, Except.ensure_eq_ok, Except.okOr_eq_ok] at h
  obtain ⟨value, -, -, -, -, hvalid, contract, hread, hout⟩ := h
  cases hout
  exact Contract.conforms_of_ofJson hvalid hread

theorem parsePayload_digest (h : parsePayload env payload = .ok parsed) :
    parsed.digest = hex (env.sha256 payload) ∧ parsed.payload = payload := by
  simp only [parsePayload, Except.bind_eq_ok] at h
  obtain ⟨value, -, -, -, -, -, contract, -, hout⟩ := h
  cases hout
  exact ⟨rfl, rfl⟩

end Akson
