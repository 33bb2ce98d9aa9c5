/-
# Signed envelopes

The DSSE envelope that carries every signed object: the payload, its type, and one Ed25519 signature
over the pre-authentication encoding of both.
-/
import Akson.Lib.Fallible
import Akson.Env

namespace Akson

open Except Option

structure EnvelopeSignature where
  keyid : String
  sig : String

/-- A DSSE envelope. -/
structure Envelope where
  payload : String
  payloadType : String
  signatures : List EnvelopeSignature

def EnvelopeSignature.ofJson (v : Json) : Option EnvelopeSignature := do
  let keyid ← v.getStr? "keyid"
  let sig ← v.getStr? "sig"
  some ⟨keyid, sig⟩

def Envelope.ofJson (v : Json) : Option Envelope := do
  let payload ← v.getStr? "payload"
  let payloadType ← v.getStr? "payloadType"
  let signatures ← (v.getArr? "signatures").bind (·.mapM EnvelopeSignature.ofJson)
  some ⟨payload, payloadType, signatures⟩

def Envelope.json (e : Envelope) : Json :=
  .obj [("payload", .str e.payload), ("payloadType", .str e.payloadType),
    ("signatures", .arr (e.signatures.map
      (fun s => .obj [("keyid", .str s.keyid), ("sig", .str s.sig)])))]

def dsseEnvelopeMediaType : String := "application/vnd.akson-dev.dsse.v1+json"

def payloadMediaType (name : String) : String := "application/vnd.akson-dev." ++ name ++ ".v1+json"

variable (env : Env)

/-- The JWK of a key, as its thumbprint is taken of it. -/
def jwkText (key : Bytes) : Bytes :=
  env.jsonText (.obj [("crv", .str "Ed25519"), ("kty", .str "OKP"),
    ("x", .str (base64Encode .urlSafeNoPad key))])

def thumbprint (key : Bytes) : String :=
  base64Encode .urlSafeNoPad (env.sha256 (jwkText env key))

def pae (payloadType : String) (payload : Bytes) : Bytes :=
  utf8 "DSSEv1 " ++ utf8 (toString (utf8 payloadType).length) ++ utf8 " " ++ utf8 payloadType ++
    utf8 " " ++ utf8 (toString payload.length) ++ utf8 " " ++ payload

def dsseSign (payloadType : String) (payload secret : Bytes) : Envelope where
  payload := base64Encode .standard payload
  payloadType := payloadType
  signatures := [⟨thumbprint env (env.publicKey secret),
    base64Encode .standard (env.signEd25519 secret (pae payloadType payload))⟩]

/-- Why an envelope is refused. -/
inductive DsseError where
  | signatureCount (found : ℕ)
  | payloadType (expected found : String)
  | keyId (expected found : String)
  | base64 (field : String)
  | badSignature

def DsseError.message : DsseError → String
  | .signatureCount found =>
    "envelope must carry exactly one signature, found " ++ toString found
  | .payloadType expected found =>
    "payload type mismatch: expected " ++ env.debugStr expected ++ ", found " ++ env.debugStr found
  | .keyId expected found =>
    "key id mismatch: expected " ++ env.debugStr expected ++ ", found " ++ env.debugStr found
  | .base64 field => "invalid base64 in " ++ field
  | .badSignature => "signature verification failed"

def decodeB64 (s : String) : Option Bytes :=
  (base64Decode .standard s).or ((base64Decode .standardNoPad s).or
    ((base64Decode .urlSafe s).or (base64Decode .urlSafeNoPad s)))

def Envelope.only (e : Envelope) : Except DsseError EnvelopeSignature :=
  match e.signatures with
  | [entry] => .ok entry
  | entries => .error (.signatureCount entries.length)

def dsseVerify (envelope : Envelope) (expectedType : String) (key : Bytes) :
    Except DsseError Bytes := do
  let entry ← envelope.only
  ensure (envelope.payloadType = expectedType) (.payloadType expectedType envelope.payloadType)
  ensure (entry.keyid = thumbprint env key) (.keyId (thumbprint env key) entry.keyid)
  let payload ← okOr (decodeB64 envelope.payload) (.base64 "payload")
  let signature ← okOr (decodeB64 entry.sig) (.base64 "sig")
  ensure (signature.length = 64) (.base64 "sig")
  ensure (env.verifyStrict key (pae envelope.payloadType payload) signature) .badSignature
  .ok payload

theorem dsseVerify_eq_ok {env : Env} {envelope : Envelope} {expectedType : String}
    {key payload : Bytes} (h : dsseVerify env envelope expectedType key = .ok payload) :
    decodeB64 envelope.payload = some payload ∧
      ∃ signature, env.verifyStrict key (pae expectedType payload) signature = true := by
  simp only [dsseVerify, bind_eq_ok, ensure_eq_ok, okOr_eq_ok] at h
  obtain ⟨entry, -, -, htype, -, -, payload', hpayload, signature, -, -, -, -, hverify, hout⟩ := h
  cases hout
  exact ⟨hpayload, signature, htype ▸ hverify⟩

/-- The signature of the message under the key is one, and it verifies. -/
structure Env.Signs (env : Env) (secret message : Bytes) : Prop where
  verifies : env.verifyStrict (env.publicKey secret) message (env.signEd25519 secret message) = true
  length : (env.signEd25519 secret message).length = 64

theorem decodeB64_base64Encode (bytes : Bytes) :
    decodeB64 (base64Encode .standard bytes) = some bytes := by
  rw [decodeB64, base64Decode_base64Encode, some_or]

theorem dsseVerify_dsseSign {env : Env} {payloadType : String} {payload secret : Bytes}
    (h : env.Signs secret (pae payloadType payload)) :
    dsseVerify env (dsseSign env payloadType payload secret) payloadType (env.publicKey secret) =
      .ok payload := by
  simp only [dsseVerify, dsseSign, Envelope.only, bind_eq_ok, ensure_eq_ok,
    okOr_eq_ok, exists_const]
  exact ⟨_, rfl, trivial, rfl, payload, decodeB64_base64Encode _, _, decodeB64_base64Encode _,
    h.length, (), ensure_of h.verifies _, rfl⟩

theorem Envelope.ofJson_json (e : Envelope) : Envelope.ofJson e.json = some e := by
  have hsignatures : ∀ l : List EnvelopeSignature, (l.map (fun s : EnvelopeSignature =>
      Json.obj [("keyid", .str s.keyid), ("sig", .str s.sig)])).mapM EnvelopeSignature.ofJson =
        some l := by
    intro l
    induction l with
    | nil => rfl
    | cons s ss ih =>
      rw [List.map_cons, List.mapM_cons, ih]
      rfl
  have harr : e.json.getArr? "signatures" = some (e.signatures.map (fun s : EnvelopeSignature =>
      Json.obj [("keyid", .str s.keyid), ("sig", .str s.sig)])) := rfl
  have hpayload : e.json.getStr? "payload" = some e.payload := rfl
  have htype : e.json.getStr? "payloadType" = some e.payloadType := rfl
  simp only [Envelope.ofJson, harr, hpayload, htype, hsignatures, bind_eq_bind,
    bind_some]

/-! ## Keys bound to a purpose -/

/-- What a key may sign. -/
inductive KeyPurpose where
  | tlsEndpoint
  | agentCard
  | contractProposal
  | contractDecision
  | taskResult
  | evidence
  | requesterOutcome
  | localAuthority
deriving DecidableEq

def KeyPurpose.debugName : KeyPurpose → String
  | .tlsEndpoint => "TlsEndpoint"
  | .agentCard => "AgentCard"
  | .contractProposal => "ContractProposal"
  | .contractDecision => "ContractDecision"
  | .taskResult => "TaskResult"
  | .evidence => "Evidence"
  | .requesterOutcome => "RequesterOutcome"
  | .localAuthority => "LocalAuthority"

inductive KeyError where
  | purpose (actual requested : KeyPurpose)
  | malformedKey

def KeyError.message : KeyError → String
  | .purpose actual requested =>
    s!"key purpose mismatch: key is bound to {actual.debugName}, used as {requested.debugName}"
  | .malformedKey => "public key bytes are not a valid Ed25519 point"

/-- A public key with its purpose. -/
structure PurposeVerifyingKey where
  purpose : KeyPurpose
  verifying : Bytes

/-- A secret key with its purpose. -/
structure PurposeKey where
  purpose : KeyPurpose
  secret : Bytes

def PurposeKey.verifying (key : PurposeKey) : PurposeVerifyingKey :=
  ⟨key.purpose, env.publicKey key.secret⟩

def PurposeKey.secretFor (key : PurposeKey) (intended : KeyPurpose) : Except KeyError Bytes :=
  if intended ≠ key.purpose then .error (.purpose key.purpose intended) else .ok key.secret

def PurposeVerifyingKey.keyFor (key : PurposeVerifyingKey) (intended : KeyPurpose) :
    Except KeyError Bytes :=
  if intended ≠ key.purpose then .error (.purpose key.purpose intended) else .ok key.verifying

theorem PurposeKey.secretFor_eq_ok_iff {key : PurposeKey} {intended : KeyPurpose} {secret : Bytes} :
    key.secretFor intended = .ok secret ↔ key.purpose = intended ∧ secret = key.secret := by
  unfold PurposeKey.secretFor
  split
  case isTrue h => simp [Ne.symm h]
  case isFalse h => simp [(not_not.1 h).symm, eq_comm]

theorem PurposeVerifyingKey.keyFor_eq_ok_iff {key : PurposeVerifyingKey} {intended : KeyPurpose}
    {vk : Bytes} : key.keyFor intended = .ok vk ↔ key.purpose = intended ∧ vk = key.verifying := by
  unfold PurposeVerifyingKey.keyFor
  split
  case isTrue h => simp [Ne.symm h]
  case isFalse h => simp [(not_not.1 h).symm, eq_comm]

end Akson
