/-
# Decisions

What the performer signs about a proposal: that it accepts it, rejects it or asks for a revision,
bound to the digest of the exact revision it has read.
-/
import Akson.Ext.Dsse
import Akson.Ext.Forms

namespace Akson

inductive DecisionKind where
  | accept
  | reject
  | revisionRequest
deriving DecidableEq

def DecisionKind.asStr : DecisionKind → String
  | .accept => "accept"
  | .reject => "reject"
  | .revisionRequest => "revision-request"

/-- A signed decision on a contract. -/
structure Decision where
  schemaVersion : ℕ
  decision : DecisionKind
  contractId : String
  contractRevision : ℕ
  /-- The digest of the revision that is decided. -/
  contractDigest : String
  taskId : String
  contextId : String
  decider : Identity
  reasonCode : Option String
  note : Option String
  decidedAt : String

inductive DecisionError where
  | purpose (error : KeyError)
  | schema

def validateDecision : Json → Bool :=
  Json.record
    [("schema_version", fun w => w = .num 1),
     ("decision", Json.oneOf ["accept", "reject", "revision-request"]),
     ("contract_id", Json.strWith isUuidV4), ("contract_revision", Json.intIn 0 1000000),
     ("contract_digest", Json.strWith isSha256Hex), ("task_id", Json.strWith isA2aId),
     ("context_id", Json.strWith isA2aId), ("decider", validIdentity),
     ("decided_at", Json.strWith isRfc3339Utc)]
    [("reason_code", Json.strWith isSlug), ("note", Json.strWith (atMost 2048))]

namespace Decision

def json (d : Decision) : Json :=
  .obj ([("schema_version", .num d.schemaVersion), ("decision", .str d.decision.asStr),
    ("contract_id", .str d.contractId), ("contract_revision", .num d.contractRevision),
    ("contract_digest", .str d.contractDigest), ("task_id", .str d.taskId),
    ("context_id", .str d.contextId), ("decider", d.decider.json)] ++
    (d.reasonCode.map (fun code => ("reason_code", Json.str code))).toList ++
    (d.note.map (fun note => ("note", Json.str note))).toList ++
    [("decided_at", .str d.decidedAt)])

def payloadType : String := payloadMediaType "decision"

def sign (env : Env) (d : Decision) (key : PurposeKey) : Except DecisionError Envelope := do
  Except.ensure (validateDecision d.json) .schema
  let secret ← (key.secretFor .contractDecision).mapError .purpose
  .ok (dsseSign env payloadType (Json.canonicalBytes env.fmtNum d.json) secret)

theorem exists_sign (env : Env) (key : PurposeKey) {d : Decision}
    (hvalid : validateDecision d.json = true) (hkey : key.purpose = .contractDecision) :
    ∃ envelope, d.sign env key = .ok envelope := by
  have hsecret : key.secretFor .contractDecision = .ok key.secret := by
    rw [PurposeKey.secretFor, if_neg (not_not.2 hkey.symm)]
  simp only [sign, Except.bind_eq_ok, Except.ensure_eq_ok, Except.mapError_eq_ok]
  exact ⟨_, (), hvalid, key.secret, hsecret, rfl⟩

end Decision

end Akson
