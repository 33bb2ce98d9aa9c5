/-
# Result manifests

What the performer signs when it delivers: the binding to the task, the contract and the attempt,
and an entry for every output, piece of evidence, slot and omission.
-/
import Akson.Ext.Dsse
import Akson.Ext.Forms
import Akson.Lib.KeySort
import Mathlib.Data.Prod.Lex
import Mathlib.Data.String.Basic

namespace Akson

open Except List

/-! ## The parts of a manifest -/

/-- The task and the contract a result is for. -/
structure ManifestHeader where
  taskId : String
  contextId : String
  contractId : String
  contractRevision : ℕ
  contractDigest : String
  attemptDigest : String
  workOrderReceiptDigest : String
deriving DecidableEq

/-- An output, as the manifest lists it. -/
structure OutputEntry where
  role : String
  artifactId : String
  partIndex : ℕ
  mediaType : String
  byteLength : ℕ
  sha256 : String
deriving DecidableEq

/-- A piece of evidence, as the manifest lists it. -/
structure EvidenceEntry where
  role : String
  payloadType : String
  byteLength : ℕ
  sha256 : String
  signerKeyid : String
deriving DecidableEq

inductive SlotResult where
  | passed
  | failed
  | error
  | notRun
  | unavailable
deriving DecidableEq

def SlotResult.asStr : SlotResult → String
  | .passed => "passed"
  | .failed => "failed"
  | .error => "error"
  | .notRun => "not_run"
  | .unavailable => "unavailable"

def SlotResult.ofStr (s : String) : Option SlotResult :=
  [SlotResult.passed, .failed, .error, .notRun, .unavailable].find? (fun r => r.asStr = s)

inductive Evidence.Disclosure where
  | full
  | summary
  | redacted
deriving DecidableEq

def Evidence.Disclosure.asStr : Evidence.Disclosure → String
  | .full => "full"
  | .summary => "summary"
  | .redacted => "redacted"

def Evidence.Disclosure.ofStr (s : String) : Option Evidence.Disclosure :=
  [Evidence.Disclosure.full, .summary, .redacted].find? (fun d => d.asStr = s)

/-- How an evidence slot was filled. -/
structure SlotRecord where
  slotId : String
  evidenceRole : Option String
  result : SlotResult
  disclosure : Evidence.Disclosure
deriving DecidableEq

/-- What was left out, and why. -/
structure Omission where
  subject : String
  reasonCode : String
deriving DecidableEq

/-- What a performer signs for a result. -/
structure ResultManifest where
  schemaVersion : ℕ
  header : ManifestHeader
  outputs : List OutputEntry
  evidence : List EvidenceEntry
  slots : List SlotRecord
  omissions : List Omission
deriving DecidableEq

/-! ## The JSON form -/

def OutputEntry.json (o : OutputEntry) : Json :=
  .obj [("role", .str o.role), ("artifact_id", .str o.artifactId), ("part_index", .num o.partIndex),
    ("media_type", .str o.mediaType), ("byte_length", .num o.byteLength), ("sha256", .str o.sha256)]

def EvidenceEntry.json (e : EvidenceEntry) : Json :=
  .obj [("role", .str e.role), ("payload_type", .str e.payloadType),
    ("byte_length", .num e.byteLength), ("sha256", .str e.sha256),
    ("signer_keyid", .str e.signerKeyid)]

def SlotRecord.json (s : SlotRecord) : Json :=
  .obj ([("slot_id", .str s.slotId)] ++
    (s.evidenceRole.map (fun role => ("evidence_role", Json.str role))).toList ++
    [("result", .str s.result.asStr), ("disclosure", .str s.disclosure.asStr)])

def Omission.json (o : Omission) : Json :=
  .obj [("subject", .str o.subject), ("reason_code", .str o.reasonCode)]

def ResultManifest.json (m : ResultManifest) : Json :=
  .obj [("schema_version", .num m.schemaVersion), ("task_id", .str m.header.taskId),
    ("context_id", .str m.header.contextId), ("contract_id", .str m.header.contractId),
    ("contract_revision", .num m.header.contractRevision),
    ("contract_digest", .str m.header.contractDigest),
    ("attempt_digest", .str m.header.attemptDigest),
    ("work_order_receipt_digest", .str m.header.workOrderReceiptDigest),
    ("outputs", .arr (m.outputs.map OutputEntry.json)),
    ("evidence", .arr (m.evidence.map EvidenceEntry.json)),
    ("slots", .arr (m.slots.map SlotRecord.json)),
    ("omissions", .arr (m.omissions.map Omission.json))]

def OutputEntry.ofJson (v : Json) : Option OutputEntry := do
  let role ← v.getStr? "role"
  let artifactId ← v.getStr? "artifact_id"
  let partIndex ← v.getNat? "part_index"
  let mediaType ← v.getStr? "media_type"
  let byteLength ← v.getNat? "byte_length"
  let sha256 ← v.getStr? "sha256"
  some ⟨role, artifactId, partIndex, mediaType, byteLength, sha256⟩

def EvidenceEntry.ofJson (v : Json) : Option EvidenceEntry := do
  let role ← v.getStr? "role"
  let payloadType ← v.getStr? "payload_type"
  let byteLength ← v.getNat? "byte_length"
  let sha256 ← v.getStr? "sha256"
  let signerKeyid ← v.getStr? "signer_keyid"
  some ⟨role, payloadType, byteLength, sha256, signerKeyid⟩

def SlotRecord.ofJson (v : Json) : Option SlotRecord := do
  let slotId ← v.getStr? "slot_id"
  let evidenceRole ← v.getOptional? Json.str? "evidence_role"
  let result ← (v.getStr? "result").bind SlotResult.ofStr
  let disclosure ← (v.getStr? "disclosure").bind Evidence.Disclosure.ofStr
  some ⟨slotId, evidenceRole, result, disclosure⟩

def Omission.ofJson (v : Json) : Option Omission := do
  let subject ← v.getStr? "subject"
  let reasonCode ← v.getStr? "reason_code"
  some ⟨subject, reasonCode⟩

def ManifestHeader.ofJson (v : Json) : Option ManifestHeader := do
  let taskId ← v.getStr? "task_id"
  let contextId ← v.getStr? "context_id"
  let contractId ← v.getStr? "contract_id"
  let contractRevision ← v.getNat? "contract_revision"
  let contractDigest ← v.getStr? "contract_digest"
  let attemptDigest ← v.getStr? "attempt_digest"
  let workOrderReceiptDigest ← v.getStr? "work_order_receipt_digest"
  some ⟨taskId, contextId, contractId, contractRevision, contractDigest, attemptDigest,
    workOrderReceiptDigest⟩

def ResultManifest.ofJson (v : Json) : Option ResultManifest := do
  let schemaVersion ← v.getNat? "schema_version"
  let header ← ManifestHeader.ofJson v
  let outputs ← (v.getArr? "outputs").bind (·.mapM OutputEntry.ofJson)
  let evidence ← (v.getArr? "evidence").bind (·.mapM EvidenceEntry.ofJson)
  let slots ← (v.getArr? "slots").bind (·.mapM SlotRecord.ofJson)
  let omissions ← (v.getArr? "omissions").bind (·.mapM Omission.ofJson)
  some ⟨schemaVersion, header, outputs, evidence, slots, omissions⟩

/-! ## The schema -/

def validOutputEntry : Json → Bool :=
  Json.record
    [("role", Json.strWith isSlug), ("artifact_id", Json.strWith isA2aId),
     ("part_index", Json.intIn 0 255), ("media_type", Json.strWith isMediaType),
     ("byte_length", Json.intIn 0 8388608), ("sha256", Json.strWith isSha256Hex)] []

def isEvidencePayloadType (s : String) : Bool :=
  s = "application/vnd.in-toto+json" ||
    match "application/vnd.akson-dev.".toList.isPrefixOf? s.toList with
    | none => false
    | some rest =>
      match rest.span (fun c => isLowerAlnum c || c = '-') with
      | (name, '.' :: 'v' :: version) =>
        match version.span Char.isDigit with
        | (digits, suffix) =>
          name.length ≠ 0 ∧ digits.length ≠ 0 ∧ suffix = "+json".toList
      | _ => false

def validEvidenceEntry : Json → Bool :=
  Json.record
    [("role", Json.strWith isSlug), ("payload_type", Json.strWith isEvidencePayloadType),
     ("byte_length", Json.intIn 0 8388608), ("sha256", Json.strWith isSha256Hex),
     ("signer_keyid", Json.strWith isThumbprint)] []

def validSlotRecord (v : Json) : Bool :=
  Json.record
    [("slot_id", Json.strWith isSlug),
     ("result", Json.oneOf ["passed", "failed", "error", "not_run", "unavailable"]),
     ("disclosure", Json.oneOf ["full", "summary", "redacted"])]
    [("evidence_role", Json.strWith isSlug)] v &&
  (!(v.get? "result").all (Json.oneOf ["passed", "failed", "error"]) || v.hasMember "evidence_role")

def validOmission : Json → Bool :=
  Json.record [("subject", Json.strWith (atMost 256)), ("reason_code", Json.strWith isSlug)] []

def validateResultManifest : Json → Bool :=
  Json.record
    [("schema_version", fun w => w = .num 1), ("task_id", Json.strWith isA2aId),
     ("context_id", Json.strWith isA2aId), ("contract_id", Json.strWith isUuidV4),
     ("contract_revision", Json.intIn 0 1000000), ("contract_digest", Json.strWith isSha256Hex),
     ("attempt_digest", Json.strWith isSha256Hex),
     ("work_order_receipt_digest", Json.strWith isSha256Hex),
     ("outputs", Json.listOf 1 64 validOutputEntry),
     ("evidence", Json.listOf 0 64 validEvidenceEntry),
     ("slots", Json.listOf 0 32 validSlotRecord),
     ("omissions", Json.listOf 0 32 validOmission)] []

/-- A header that fits the schema. -/
structure ManifestHeader.Conforms (h : ManifestHeader) : Prop where
  taskId : isA2aId h.taskId = true
  contextId : isA2aId h.contextId = true
  contractId : isUuidV4 h.contractId = true
  contractRevision : h.contractRevision ≤ 1000000
  contractDigest : isSha256Hex h.contractDigest = true
  attemptDigest : isSha256Hex h.attemptDigest = true
  workOrderReceiptDigest : isSha256Hex h.workOrderReceiptDigest = true

/-- An entry that fits the schema. -/
structure OutputEntry.Conforms (o : OutputEntry) : Prop where
  role : isSlug o.role = true
  artifactId : isA2aId o.artifactId = true
  partIndex : o.partIndex ≤ 255
  mediaType : isMediaType o.mediaType = true
  byteLength : o.byteLength ≤ 8388608
  sha256 : isSha256Hex o.sha256 = true

theorem OutputEntry.valid_iff {o : OutputEntry} : validOutputEntry o.json = true ↔ o.Conforms := by
  simp only [validOutputEntry, OutputEntry.json, Json.record, append_nil, all_cons,
    all_nil, any_cons, any_nil, String.reduceEq, decide_true, decide_false,
    Bool.true_and, Bool.false_and, Bool.or_false, Bool.false_or, Bool.and_true, Bool.or_true,
    Bool.and_eq_true, Json.strWith, Json.intIn_natCast, zero_le, true_and]
  constructor
  · rintro ⟨hrole, hid, hindex, hmedia, hlength, hsha⟩
    exact ⟨hrole, hid, hindex, hmedia, hlength, hsha⟩
  · intro h
    exact ⟨h.role, h.artifactId, h.partIndex, h.mediaType, h.byteLength, h.sha256⟩

theorem validateResultManifest_iff {m : ResultManifest} :
    validateResultManifest m.json = true ↔ m.schemaVersion = 1 ∧ m.header.Conforms ∧
      (1 ≤ m.outputs.length ∧ m.outputs.length ≤ 64 ∧ ∀ o ∈ m.outputs, o.Conforms) ∧
      (m.evidence.length ≤ 64 ∧ ∀ e ∈ m.evidence, validEvidenceEntry e.json = true) ∧
      (m.slots.length ≤ 32 ∧ ∀ slot ∈ m.slots, validSlotRecord slot.json = true) ∧
      (m.omissions.length ≤ 32 ∧ ∀ o ∈ m.omissions, validOmission o.json = true) := by
  have hversion : Json.num (m.schemaVersion : Rat) = .num 1 ↔ m.schemaVersion = 1 := by
    rw [Json.num.injEq]
    exact_mod_cast Iff.rfl
  simp only [validateResultManifest, ResultManifest.json, Json.record, append_nil, all_cons,
    all_nil, any_cons, any_nil, String.reduceEq, decide_true, decide_false,
    Bool.true_and, Bool.false_and, Bool.or_false, Bool.false_or, Bool.and_true, Bool.or_true,
    Bool.and_eq_true, decide_eq_true_eq, Json.strWith, Json.intIn_natCast, Json.listOf_map, hversion,
    OutputEntry.valid_iff, zero_le, true_and]
  constructor
  · rintro ⟨hone, htask, hcontext, hcontract, hrevision, hdigest, hattempt, hreceipt, hlists⟩
    exact ⟨hone, ⟨htask, hcontext, hcontract, hrevision, hdigest, hattempt, hreceipt⟩, hlists⟩
  · rintro ⟨hone, h, hlists⟩
    exact ⟨hone, h.taskId, h.contextId, h.contractId, h.contractRevision, h.contractDigest,
      h.attemptDigest, h.workOrderReceiptDigest, hlists⟩

/-! ## The order of the lists -/

def OutputEntry.key (o : OutputEntry) : String ×ₗ String ×ₗ ℕ ×ₗ String :=
  toLex (o.role, toLex (o.artifactId, toLex (o.partIndex, o.sha256)))

def EvidenceEntry.key (e : EvidenceEntry) : String ×ₗ String ×ₗ String :=
  toLex (e.role, toLex (e.payloadType, e.sha256))

def Omission.key (o : Omission) : String ×ₗ String := toLex (o.subject, o.reasonCode)

namespace ResultManifest

def assemble (header : ManifestHeader) (outputs : List OutputEntry) (evidence : List EvidenceEntry)
    (slots : List SlotRecord) (omissions : List Omission) : ResultManifest where
  schemaVersion := 1
  header := header
  outputs := outputs.insertionSort (fun a b => a.key ≤ b.key)
  evidence := evidence.insertionSort (fun a b => a.key ≤ b.key)
  slots := slots.insertionSort (fun a b => a.slotId ≤ b.slotId)
  omissions := omissions.insertionSort (fun a b => a.key ≤ b.key)

def isCanonicallyOrdered (m : ResultManifest) : Bool :=
  m.outputs.IsChain (fun a b => a.key ≤ b.key) ∧ m.evidence.IsChain (fun a b => a.key ≤ b.key) ∧
    m.slots.IsChain (fun a b => a.slotId ≤ b.slotId) ∧
    m.omissions.IsChain (fun a b => a.key ≤ b.key)

theorem isCanonicallyOrdered_assemble (header : ManifestHeader) (outputs : List OutputEntry)
    (evidence : List EvidenceEntry) (slots : List SlotRecord) (omissions : List Omission) :
    (assemble header outputs evidence slots omissions).isCanonicallyOrdered = true := by
  have hsorted : ∀ {α κ : Type} [LinearOrder κ] (key : α → κ) (l : List α),
      (l.insertionSort (fun a b => key a ≤ key b)).IsChain (fun a b => key a ≤ key b) :=
    fun key l => (pairwise_insertionSort_key key l).isChain
  exact decide_eq_true ⟨hsorted OutputEntry.key outputs, hsorted EvidenceEntry.key evidence,
    hsorted SlotRecord.slotId slots, hsorted Omission.key omissions⟩

theorem injOn_omission_key (omissions : List Omission) :
    Set.InjOn Omission.key {o | o ∈ omissions} := by
  rintro ⟨subject, reason⟩ _ ⟨subject', reason'⟩ _ h
  obtain ⟨rfl, rfl⟩ := Prod.mk.inj (toLex.injective h)
  rfl

/-- The order in which the entries are given does not matter exactly if in each list the sort key
tells the entries apart. -/
theorem assemble_perm_iff (header : ManifestHeader) (outputs : List OutputEntry)
    (evidence : List EvidenceEntry) (slots : List SlotRecord) (omissions : List Omission) :
    (∀ outputs' evidence' slots' omissions', outputs'.Perm outputs → evidence'.Perm evidence →
        slots'.Perm slots → omissions'.Perm omissions →
        assemble header outputs' evidence' slots' omissions' =
          assemble header outputs evidence slots omissions) ↔
      Set.InjOn OutputEntry.key {o | o ∈ outputs} ∧ Set.InjOn EvidenceEntry.key {e | e ∈ evidence} ∧
        Set.InjOn SlotRecord.slotId {s | s ∈ slots} := by
  rw [← insertionSort_key_perm_iff, ← insertionSort_key_perm_iff,
    ← insertionSort_key_perm_iff]
  constructor
  · intro hsame
    refine ⟨fun l hl => ?_, fun l hl => ?_, fun l hl => ?_⟩
    · exact congrArg ResultManifest.outputs (hsame l evidence slots omissions hl (.refl _) (.refl _)
        (.refl _))
    · exact congrArg ResultManifest.evidence (hsame outputs l slots omissions (.refl _) hl (.refl _)
        (.refl _))
    · exact congrArg ResultManifest.slots (hsame outputs evidence l omissions (.refl _) (.refl _) hl
        (.refl _))
  · rintro ⟨houtputs, hevidence, hslots⟩ outputs' evidence' slots' omissions' ho he hs hm
    unfold assemble
    rw [houtputs _ ho, hevidence _ he, hslots _ hs,
      insertionSort_key_of_perm Omission.key hm (injOn_omission_key omissions)]

/-- Two outputs that differ in their media type alone: each order gives a manifest of its own. -/
theorem assemble_depends_on_order : ∃ (header : ManifestHeader) (a b : OutputEntry),
    [a, b].Perm [b, a] ∧ assemble header [a, b] [] [] [] ≠ assemble header [b, a] [] [] [] :=
  ⟨⟨"task-1", "ctx-1", "contract-1", 0, "", "", ""⟩, ⟨"report", "out-1", 0, "text/plain", 4, ""⟩,
    ⟨"report", "out-1", 0, "text/html", 4, ""⟩, .swap _ _ _, by decide⟩

/-! ## Signing and verifying -/

end ResultManifest

inductive ManifestError where
  | schema
  | shape
  | dsse (error : DsseError)
  | key (error : KeyError)
  | wrongPayloadType (got : String)
  | notCanonicalOrder

namespace ResultManifest

def payloadType : String := payloadMediaType "result-manifest"

def validate (m : ResultManifest) : Except ManifestError Unit := do
  ensure (validateResultManifest m.json) .schema
  ensure m.isCanonicallyOrdered .notCanonicalOrder

variable (env : Env)

def canonicalBytes (m : ResultManifest) : Except ManifestError Bytes := do
  m.validate
  .ok (Json.canonicalBytes env.fmtNum m.json)

def bundleDigest (m : ResultManifest) : Except ManifestError String := do
  let bytes ← m.canonicalBytes env
  .ok (hex (env.sha256 bytes))

def sign (m : ResultManifest) (key : PurposeKey) : Except ManifestError Envelope := do
  let payload ← m.canonicalBytes env
  let secret ← (key.secretFor .taskResult).mapError .key
  .ok (dsseSign env payloadType payload secret)

def verify (envelope : Envelope) (key : PurposeVerifyingKey) :
    Except ManifestError (ResultManifest × String) := do
  ensure (envelope.payloadType = payloadType) (.wrongPayloadType envelope.payloadType)
  let vk ← (key.keyFor .taskResult).mapError .key
  let payload ← (dsseVerify env envelope payloadType vk).mapError .dsse
  let value ← okOr (env.parseJson payload) .shape
  ensure (validateResultManifest value) .schema
  -- a payload out of canonical form is refused under the name of the envelope's media type
  ensure (Json.canonicalBytes env.fmtNum value = payload)
    (.wrongPayloadType dsseEnvelopeMediaType)
  let manifest ← okOr (ofJson value) .shape
  manifest.validate
  .ok (manifest, hex (env.sha256 payload))

theorem validate_eq_ok_iff {m : ResultManifest} :
    m.validate = .ok () ↔ validateResultManifest m.json = true ∧ m.isCanonicallyOrdered = true := by
  simp only [validate, bind_eq_ok, ensure_eq_ok, exists_const]

theorem bundleDigest_eq_ok_iff {env : Env} {m : ResultManifest} {digest : String} :
    m.bundleDigest env = .ok digest ↔
      m.validate = .ok () ∧ hex (env.sha256 (Json.canonicalBytes env.fmtNum m.json)) = digest := by
  simp only [bundleDigest, canonicalBytes, bind_eq_ok, ok.injEq, Unique.exists_iff,
    PUnit.default_eq_unit, exists_and_left, and_assoc, exists_eq_left']

theorem sign_eq_ok_iff {env : Env} {m : ResultManifest} {key : PurposeKey} {envelope : Envelope} :
    m.sign env key = .ok envelope ↔ m.validate = .ok () ∧ key.purpose = .taskResult ∧
      dsseSign env payloadType (Json.canonicalBytes env.fmtNum m.json) key.secret = envelope := by
  simp only [sign, canonicalBytes, bind_eq_ok, mapError_eq_ok, ok.injEq,
    PurposeKey.secretFor_eq_ok_iff, Unique.exists_iff, PUnit.default_eq_unit]
  constructor
  · rintro ⟨_, ⟨hvalid, rfl⟩, _, ⟨hpurpose, rfl⟩, rfl⟩
    exact ⟨hvalid, hpurpose, rfl⟩
  · rintro ⟨hvalid, hpurpose, rfl⟩
    exact ⟨_, ⟨hvalid, rfl⟩, _, ⟨hpurpose, rfl⟩, rfl⟩

end ResultManifest

end Akson
