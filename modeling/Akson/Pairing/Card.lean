/-
# Agent Cards

The card an endpoint presents: its signature (a detached JWS over the canonical card without its
signatures) and the profile it has to pass.
-/
import Akson.Ext.Dsse
import Akson.Lib.Text

namespace Akson

open Except Option List

/-! ## The card -/

structure AgentInterface where
  url : String
  protocolBinding : String
  protocolVersion : String

structure AgentExtension where
  uri : String
  required : Bool

structure AgentCapabilities where
  streaming : Option Bool
  pushNotifications : Option Bool
  extendedAgentCard : Option Bool
  extensions : List AgentExtension

inductive SecurityScheme where
  | mtls
  | other
deriving DecidableEq

structure AgentCardSignature where
  protectedHeader : String
  signature : String

/-- What an agent publishes of itself. -/
structure AgentCard where
  name : String
  description : String
  version : String
  supportedInterfaces : List AgentInterface
  capabilities : Option AgentCapabilities
  securitySchemes : List (String × SecurityScheme)
  /-- The names of the schemes that each alternative requires. -/
  securityRequirements : List (List String)
  signatures : List AgentCardSignature

/-- The libraries that introductions call besides. -/
structure PairingEnv extends Env where
  cardJson : AgentCard → Option Json
  parseCard : Json → Option AgentCard
  /-- The unix nanoseconds of an RFC 3339 instant. -/
  parseNanos : String → Option Int

/-! ## The profile -/

/-- What a card lacks. -/
inductive CardViolation where
  | noV1Interface
  | streamingNotDisabled
  | pushNotDisabled
  | noExtendedCard
  | missingRequiredExtension (uri : String)
  | noMutualTls

def maxExtensionUriLen : ℕ := 256

def httpJsonBinding : String := "HTTP+JSON"

def cardProtocolVersion : String := "1.0"

def isBoundedHttpsUri (uri : String) : Bool :=
  (utf8 uri).length ≤ maxExtensionUriLen &&
    match "https://".toList.isPrefixOf? uri.toList with
    | none => false
    | some rest =>
      rest.takeWhile (fun c => c ≠ '/' ∧ c ≠ '?' ∧ c ≠ '#') ≠ [] &&
        rest.all (fun c => 0x20 < c.toNat && c.toNat ≠ 0x7f)

def AgentInterface.isV1 (i : AgentInterface) : Bool :=
  i.protocolBinding = httpJsonBinding && i.protocolVersion = cardProtocolVersion &&
    isBoundedHttpsUri i.url

def capabilityViolations (requiredExtensions : List String) :
    Option AgentCapabilities → List CardViolation
  | none =>
    [.streamingNotDisabled, .pushNotDisabled, .noExtendedCard] ++
      requiredExtensions.map .missingRequiredExtension
  | some caps =>
    (if caps.streaming ≠ some false then [.streamingNotDisabled] else []) ++
      (if caps.pushNotifications ≠ some false then [.pushNotDisabled] else []) ++
      (if caps.extendedAgentCard ≠ some true then [.noExtendedCard] else []) ++
      (requiredExtensions.filter (fun uri =>
        !caps.extensions.any (fun e => e.uri = uri && e.required))).map .missingRequiredExtension

def AgentCard.mtlsMandatory (card : AgentCard) : Bool :=
  card.securityRequirements ≠ [] &&
    card.securityRequirements.all (fun req =>
      req.any (fun name => card.securitySchemes.any (fun s => s.1 = name && s.2 = .mtls)))

def cardViolations (requiredExtensions : List String) (card : AgentCard) : List CardViolation :=
  (if card.supportedInterfaces.any AgentInterface.isV1 then [] else [.noV1Interface]) ++
    capabilityViolations requiredExtensions card.capabilities ++
    (if card.mtlsMandatory then [] else [.noMutualTls])

def validateAgentCard (requiredExtensions : List String) (card : AgentCard) :
    Except (List CardViolation) Unit :=
  match cardViolations requiredExtensions card with
  | [] => .ok ()
  | violations => .error violations

variable {card : AgentCard} {payload : Bytes} {env : PairingEnv}

theorem validateAgentCard_eq_ok_iff {requiredExtensions : List String} :
    validateAgentCard requiredExtensions card = .ok () ↔
      cardViolations requiredExtensions card = [] := by
  unfold validateAgentCard
  split
  case h_1 h => simp [h]
  case h_2 h => simpa using h

/-! ## Detached signatures -/

inductive JwsError where
  | alg (found : String)
  | typ (found : String)
  | keyId (expected found : String)
  | base64 (field : String)
  | header
  | badSignature

structure ProtectedHeader where
  alg : String
  typ : String
  kid : String

def ProtectedHeader.json (h : ProtectedHeader) : Json :=
  .obj [("alg", .str h.alg), ("typ", .str h.typ), ("kid", .str h.kid)]

def ProtectedHeader.ofJson (v : Json) : Option ProtectedHeader := do
  let alg ← v.getStr? "alg"
  let typ ← v.getStr? "typ"
  let kid ← v.getStr? "kid"
  match v with
  | .obj fs => if fs.all (fun f => ["alg", "typ", "kid"].contains f.1) then some ⟨alg, typ, kid⟩ else none
  | _ => none

def jwsHeader (env : Env) (key : Bytes) : ProtectedHeader := ⟨"EdDSA", "JOSE", thumbprint env key⟩

def jwsSigningInput (protectedHeader : String) (payload : Bytes) : Bytes :=
  utf8 protectedHeader ++ [46] ++ utf8 (base64Encode .urlSafeNoPad payload)

def jwsProtected (env : Env) (key : Bytes) : String :=
  base64Encode .urlSafeNoPad (Json.canonicalBytes env.fmtNum (jwsHeader env key).json)

def signDetached (env : Env) (payload secret : Bytes) : AgentCardSignature :=
  let header := jwsProtected env (env.publicKey secret)
  ⟨header, base64Encode .urlSafeNoPad (env.signEd25519 secret (jwsSigningInput header payload))⟩

def verifyDetached (env : Env) (jws : AgentCardSignature) (payload key : Bytes) :
    Except JwsError Unit := do
  let headerBytes ← okOr (base64Decode .urlSafeNoPad jws.protectedHeader)
    (.base64 "protected")
  let header ← okOr ((env.parseJson headerBytes).bind ProtectedHeader.ofJson) .header
  ensure (header.alg = "EdDSA") (.alg header.alg)
  ensure (header.typ = "JOSE") (.typ header.typ)
  ensure (header.kid = thumbprint env key) (.keyId (thumbprint env key) header.kid)
  let signature ← okOr (base64Decode .urlSafeNoPad jws.signature) (.base64 "signature")
  ensure (signature.length = 64) (.base64 "signature")
  ensure (env.verifyStrict key (jwsSigningInput jws.protectedHeader payload) signature)
    .badSignature

inductive CardSigError where
  | noSignatures
  | noValidSignature
  | purpose (error : KeyError)
  | serialize

def withoutMember (k : String) : Json → Json
  | .obj fs => .obj (fs.filter (fun f => f.1 ≠ k))
  | v => v

def canonicalPayload (env : PairingEnv) (card : AgentCard) : Except CardSigError Bytes := do
  let value ← okOr (env.cardJson card) .serialize
  .ok (Json.canonicalBytes env.fmtNum (withoutMember "signatures" value))

def signCard (env : PairingEnv) (card : AgentCard) (key : PurposeKey) :
    Except CardSigError AgentCardSignature := do
  let payload ← canonicalPayload env card
  let secret ← (key.secretFor .agentCard).mapError .purpose
  .ok (signDetached env.toEnv payload secret)

def verifyCard (env : PairingEnv) (card : AgentCard) (key : PurposeVerifyingKey) :
    Except CardSigError Unit := do
  let verifying ← (key.keyFor .agentCard).mapError .purpose
  ensure (card.signatures ≠ []) .noSignatures
  let payload ← canonicalPayload env card
  ensure (card.signatures.any (fun sig =>
    (verifyDetached env.toEnv sig payload verifying).isOk)) .noValidSignature

/-- The header is read back, and the signature over it and the payload verifies. -/
structure Env.SignsDetached (env : Env) (secret payload : Bytes) : Prop where
  header : (env.parseJson (Json.canonicalBytes env.fmtNum
    (jwsHeader env (env.publicKey secret)).json)).bind ProtectedHeader.ofJson =
      some (jwsHeader env (env.publicKey secret))
  signs : env.Signs secret (jwsSigningInput (jwsProtected env (env.publicKey secret)) payload)

theorem verifyDetached_signDetached {env : Env} {secret : Bytes}
    (h : env.SignsDetached secret payload) :
    verifyDetached env (signDetached env payload secret) payload (env.publicKey secret) = .ok () := by
  simp only [verifyDetached, signDetached, bind_eq_ok, okOr_eq_ok, ensure_eq_ok,
    exists_const]
  exact ⟨_, base64Decode_base64Encode _ _, _, h.header, rfl, rfl, rfl, _,
    base64Decode_base64Encode _ _, h.signs.length, ensure_of h.signs.verifies _⟩

/-! ## The card of this endpoint -/

def extUri (name : String) : String := "https://akson.cc/ext/" ++ name ++ "/v1"

def requiredExtensionUris : List String :=
  ["contract", "key-binding", "delivery", "result-evidence", "outcome"].map extUri

def endpointCard (agent interfaceUrl : String) : AgentCard where
  name := agent
  description := "akson endpoint"
  version := "1.0.0"
  supportedInterfaces := [⟨interfaceUrl, httpJsonBinding, cardProtocolVersion⟩]
  capabilities := some ⟨some false, some false, some true, requiredExtensionUris.map (⟨·, true⟩)⟩
  securitySchemes := [("mtls", .mtls)]
  securityRequirements := [["mtls"]]
  signatures := []

def signedEndpointCard (env : PairingEnv) (agent interfaceUrl : String) (key : PurposeKey) :
    Except CardSigError AgentCard := do
  let card := endpointCard agent interfaceUrl
  let sig ← signCard env card key
  .ok { card with signatures := card.signatures ++ [sig] }

def PairingEnv.PayloadUnsigned (env : PairingEnv) : Prop :=
  ∀ (card : AgentCard) (signatures : List AgentCardSignature),
    (env.cardJson { card with signatures := signatures }).map (withoutMember "signatures") =
      (env.cardJson card).map (withoutMember "signatures")

theorem canonicalPayload_withSignatures (h : env.PayloadUnsigned)
    (hpayload : canonicalPayload env card = .ok payload) (signatures : List AgentCardSignature) :
    canonicalPayload env { card with signatures := signatures } = .ok payload := by
  simp only [canonicalPayload, bind_eq_ok, okOr_eq_ok] at hpayload ⊢
  obtain ⟨value, hvalue, hbytes⟩ := hpayload
  have hsame := h card signatures
  rw [hvalue, map_some, map_eq_some_iff] at hsame
  obtain ⟨value', hvalue', hwithout⟩ := hsame
  exact ⟨value', hvalue', by rw [hwithout]; exact hbytes⟩

theorem verifyCard_of_signCard (hunsigned : env.PayloadUnsigned) {key : PurposeKey}
    {sig : AgentCardSignature} (hsign : signCard env card key = .ok sig)
    (hpromise : ∀ payload, canonicalPayload env card = .ok payload →
      env.SignsDetached key.secret payload) :
    verifyCard env { card with signatures := card.signatures ++ [sig] } (key.verifying env.toEnv) =
      .ok () := by
  simp only [signCard, bind_eq_ok, mapError_eq_ok,
    PurposeKey.secretFor_eq_ok_iff] at hsign
  obtain ⟨payload, hpayload, _, ⟨hpurpose, rfl⟩, hsig⟩ := hsign
  have hverified := verifyDetached_signDetached (hpromise payload hpayload)
  have hkey : (key.verifying env.toEnv).keyFor .agentCard = .ok (env.publicKey key.secret) :=
    PurposeVerifyingKey.keyFor_eq_ok_iff.2 ⟨hpurpose, rfl⟩
  have hpayload' := canonicalPayload_withSignatures hunsigned hpayload (card.signatures ++ [sig])
  rw [← ok.inj hsig] at hpayload' ⊢
  simp only [verifyCard, bind_eq_ok, mapError_eq_ok, ensure_eq_ok, exists_const]
  refine ⟨_, hkey, by simp, payload, hpayload', ?_⟩
  rw [any_append, Bool.or_eq_true]
  right
  simp only [any_cons, any_nil, Bool.or_false, hverified]
  rfl

theorem capabilityViolations_endpointCard (agent interfaceUrl : String) :
    capabilityViolations requiredExtensionUris (endpointCard agent interfaceUrl).capabilities = [] := by
  simp [capabilityViolations, endpointCard]

theorem cardViolations_endpointCard (agent interfaceUrl : String)
    (signatures : List AgentCardSignature) :
    cardViolations requiredExtensionUris
      { endpointCard agent interfaceUrl with signatures := signatures } = [] ↔
        isBoundedHttpsUri interfaceUrl = true := by
  have hcaps := capabilityViolations_endpointCard agent interfaceUrl
  have hmtls : AgentCard.mtlsMandatory
      { endpointCard agent interfaceUrl with signatures := signatures } = true := by
    simp [AgentCard.mtlsMandatory, endpointCard]
  simp only [cardViolations, hmtls, if_true, append_nil, append_eq_nil_iff]
  constructor
  · rintro ⟨hiface, -⟩
    by_contra hurl
    simp [endpointCard, AgentInterface.isV1, hurl] at hiface
  · intro hurl
    refine ⟨?_, hcaps⟩
    simp [endpointCard, AgentInterface.isV1, hurl]

end Akson
