/-
# The requester's outcome

What the requester signs once it holds a verified result: its disposition, bound to the digest of
the result manifest and to the contract the manifest names.
-/
import Akson.Evidence.ResultManifest

namespace Akson

open Except

inductive OutcomeState where
  | accepted
  | rejected
  | disputed
deriving DecidableEq

def OutcomeState.asStr : OutcomeState → String
  | .accepted => "accepted"
  | .rejected => "rejected"
  | .disputed => "disputed"

/-- The requester's signed answer to a result. -/
structure Outcome where
  schemaVersion : ℕ
  taskId : String
  contextId : String
  contractId : String
  contractRevision : ℕ
  contractDigest : String
  resultManifestDigest : String
  state : OutcomeState
  reasonCode : Option String
  note : Option String
  requester : Identity
  signedAt : String

inductive OutcomeError where
  | schema
  | key (error : KeyError)
  | manifest (error : ManifestError)
  | binding (what : String)

def validateOutcome : Json → Bool :=
  Json.record
    [("schema_version", fun w => w = .num 1), ("task_id", Json.strWith isA2aId),
     ("context_id", Json.strWith isA2aId), ("contract_id", Json.strWith isUuidV4),
     ("contract_revision", Json.intIn 0 1000000), ("contract_digest", Json.strWith isSha256Hex),
     ("result_manifest_digest", Json.strWith isSha256Hex),
     ("state", Json.oneOf ["accepted", "rejected", "disputed"]), ("requester", validIdentity),
     ("signed_at", Json.strWith isRfc3339Utc)]
    [("reason_code", Json.strWith isSlug), ("note", Json.strWith (atMost 2048))]

namespace Outcome

def json (o : Outcome) : Json :=
  .obj ([("schema_version", .num o.schemaVersion), ("task_id", .str o.taskId),
    ("context_id", .str o.contextId), ("contract_id", .str o.contractId),
    ("contract_revision", .num o.contractRevision), ("contract_digest", .str o.contractDigest),
    ("result_manifest_digest", .str o.resultManifestDigest), ("state", .str o.state.asStr)] ++
    (o.reasonCode.map (fun code => ("reason_code", Json.str code))).toList ++
    (o.note.map (fun note => ("note", Json.str note))).toList ++
    [("requester", o.requester.json), ("signed_at", .str o.signedAt)])

variable (env : Env)

def forManifest (manifest : ResultManifest) (state : OutcomeState)
    (requester : Identity) (signedAt : String) : Except OutcomeError Outcome := do
  let digest ← (manifest.bundleDigest env).mapError .manifest
  .ok ⟨1, manifest.header.taskId, manifest.header.contextId, manifest.header.contractId,
    manifest.header.contractRevision, manifest.header.contractDigest, digest, state, none, none,
    requester, signedAt⟩

def checkBindsTo (o : Outcome) (manifest : ResultManifest) :
    Except OutcomeError Unit := do
  let digest ← (manifest.bundleDigest env).mapError .manifest
  ensure (o.resultManifestDigest = digest) (.binding "result-manifest digest")
  ensure (o.taskId = manifest.header.taskId ∧ o.contextId = manifest.header.contextId ∧
    o.contractId = manifest.header.contractId ∧
    o.contractRevision = manifest.header.contractRevision ∧
    o.contractDigest = manifest.header.contractDigest) (.binding "contract binding")

def canonicalBytes (o : Outcome) : Except OutcomeError Bytes := do
  ensure (validateOutcome o.json) .schema
  .ok (Json.canonicalBytes env.fmtNum o.json)

def digest (o : Outcome) : Except OutcomeError String := do
  let bytes ← o.canonicalBytes env
  .ok (hex (env.sha256 bytes))

def sign (o : Outcome) (key : PurposeKey) : Except OutcomeError Envelope := do
  let payload ← o.canonicalBytes env
  let secret ← (key.secretFor .requesterOutcome).mapError .key
  .ok (dsseSign env (payloadMediaType "outcome") payload secret)

theorem checkBindsTo_forManifest {env : Env} {manifest : ResultManifest} {state : OutcomeState}
    {requester : Identity} {signedAt : String} {o : Outcome}
    (h : forManifest env manifest state requester signedAt = .ok o) :
    o.checkBindsTo env manifest = .ok () := by
  simp only [forManifest, bind_eq_ok] at h
  obtain ⟨digest, hdigest, hout⟩ := h
  cases hout
  simp only [checkBindsTo, bind_eq_ok, ensure_eq_ok, and_self]
  exact ⟨digest, hdigest, (), rfl, trivial⟩

end Outcome

end Akson
