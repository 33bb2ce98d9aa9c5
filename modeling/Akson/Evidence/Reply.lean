/-
# A result on the wire

How the libraries answer along the way of one signed result: a `Reply` is a manifest of one small
output and the outcome that accepts it, each with its digest and signature.
-/
import Akson.Contract.Wire
import Akson.Evidence.Outcome
import Akson.Evidence.Signed

namespace Akson

open Option List

/-- The SHA-256 of the text `ok`, the one output of a reply. -/
def okHash : Bytes :=
  beBytes 32 0x2689367b205c16ce32ed4200942b8b8b1e262dfc70d9bc9fbc77c49699a4f1df

def okManifest (header : ManifestHeader) (role : String) : ResultManifest :=
  ⟨1, header, [⟨role, "x", 0, "text/plain", 2, hex okHash⟩], [], [], []⟩

theorem okManifest_valid {header : ManifestHeader} {role : String} (hrole : isSlug role = true)
    (hheader : header.Conforms) : (okManifest header role).validate = .ok () := by
  have hid : isA2aId "x" = true := by decide
  have hmedia : isMediaType "text/plain" = true := by decide
  refine ResultManifest.validate_eq_ok_iff.2 ⟨validateResultManifest_iff.2
    ⟨rfl, hheader, ⟨Nat.le_refl 1, Nat.le_of_ble_eq_true rfl, ?_⟩, ⟨Nat.zero_le _, nofun⟩,
      ⟨Nat.zero_le _, nofun⟩, Nat.zero_le _, nofun⟩, rfl⟩
  intro o ho
  rw [mem_singleton.1 ho]
  exact ⟨hrole, hid, Nat.zero_le _, hmedia, Nat.le_of_ble_eq_true rfl, isSha256Hex_hex rfl⟩

def ResultManifest.acceptance (manifest : ResultManifest) (requester : Identity)
    (signedAt bundleDigest : String) : Outcome :=
  ⟨1, manifest.header.taskId, manifest.header.contextId, manifest.header.contractId,
    manifest.header.contractRevision, manifest.header.contractDigest, bundleDigest, .accepted, none,
    none, requester, signedAt⟩

/-- One reply and its acceptance, as they are signed. -/
structure Reply where
  header : ManifestHeader
  /-- The deliverable that the output is for. -/
  role : String
  digest : Bytes
  signature : Bytes
  /-- Who signs the outcome. -/
  requester : Identity
  outcomeDigest : Bytes
  outcomeSignature : Bytes
  valid : (okManifest header role).validate = .ok ()
  accepts : validateOutcome ((okManifest header role).acceptance requester "2027-01-15T08:00:00Z"
    (hex digest)).json = true
  signed : signature.length = 64

namespace Reply

variable (r : Reply)

def manifest : ResultManifest := okManifest r.header r.role

def payload : Bytes := Json.canonicalBytes intText r.manifest.json

def outcome : Outcome := r.manifest.acceptance r.requester "2027-01-15T08:00:00Z" (hex r.digest)

def outcomePayload : Bytes := Json.canonicalBytes intText r.outcome.json

def sha256 (b : Bytes) : Option Bytes :=
  if b = r.payload then some r.digest
  else if b = r.outcomePayload then some r.outcomeDigest
  else if b = utf8 "ok" then some okHash
  else none

end Reply

def Env.withReply (base : Env) (r : Reply) : Env :=
  { base with
    sha256 := fun b => (r.sha256 b).getD (base.sha256 b)
    verifyStrict := fun key message signature =>
      (key = wirePublic ∧ message = pae ResultManifest.payloadType r.payload ∧
        signature = r.signature) || base.verifyStrict key message signature
    signEd25519 := fun secret message =>
      if message = pae ResultManifest.payloadType r.payload then r.signature
      else if message = pae (payloadMediaType "outcome") r.outcomePayload then r.outcomeSignature
      else base.signEd25519 secret message
    publicKey := fun _ => wirePublic
    fmtNum := intText
    parseJson := fun b =>
      if b = r.payload then some (Json.sortKeys r.manifest.json) else base.parseJson b
    jsonText := fun v => Json.utf8 (Json.encode intText v) }

namespace Reply

variable (base : Env) (r : Reply)

theorem sha256_payload : (base.withReply r).sha256 r.payload = r.digest := by
  simp only [Env.withReply, sha256, if_true, Option.getD_some]

-- both payloads begin with a brace
theorem sha256_text {b : Bytes} (hhead : b.head? ≠ some 123) :
    (base.withReply r).sha256 b = if b = utf8 "ok" then okHash else base.sha256 b := by
  have hpayload : b ≠ r.payload := by
    rintro rfl
    exact hhead rfl
  have houtcome : b ≠ r.outcomePayload := by
    rintro rfl
    exact hhead rfl
  simp only [Env.withReply, sha256, if_neg hpayload, if_neg houtcome]
  split <;> rfl

theorem signEd25519_payload (secret : Bytes) : (base.withReply r).signEd25519 secret
    (pae ResultManifest.payloadType r.payload) = r.signature := by
  simp only [Env.withReply, if_true]

theorem signs : (base.withReply r).Signs wireSecret
    (pae ResultManifest.payloadType r.payload) where
  verifies := by
    rw [signEd25519_payload]
    simp only [Env.withReply, and_self, decide_true, Bool.true_or]
  length := by
    rw [signEd25519_payload]
    exact r.signed

theorem canonicalBytes_manifest :
    Json.canonicalBytes (base.withReply r).fmtNum r.manifest.json = r.payload := rfl

theorem attests : (base.withReply r).Attests wireSecret r.manifest := by
  constructor
  · rw [canonicalBytes_manifest]
    exact r.signs base
  · rw [canonicalBytes_manifest]
    simp only [Env.withReply, if_true]

def key : PurposeKey := ⟨.taskResult, wireSecret⟩

def envelope : Envelope := dsseSign (base.withReply r) ResultManifest.payloadType r.payload wireSecret

theorem verify_envelope :
    ResultManifest.verify (base.withReply r) (r.envelope base) (key.verifying (base.withReply r)) =
      .ok (r.manifest, hex r.digest) := by
  have hsigned : r.manifest.sign (base.withReply r) key = .ok (r.envelope base) :=
    ResultManifest.sign_eq_ok_iff.2 ⟨r.valid, rfl, rfl⟩
  rw [ResultManifest.verify_sign hsigned (r.attests base), canonicalBytes_manifest, sha256_payload]

theorem bundleDigest_eq : r.manifest.bundleDigest (base.withReply r) = .ok (hex r.digest) :=
  ResultManifest.bundleDigest_eq_ok_iff.2 ⟨r.valid, by
    rw [canonicalBytes_manifest, sha256_payload]⟩

end Reply

end Akson
