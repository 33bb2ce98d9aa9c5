/-
# The introduction

First contact between two endpoints whose operators have imported each other's root: each side shows
its key binding and card, and proves possession of every key it binds by a signature over the
transcript of the session.
-/
import Akson.Pairing.KeyBinding
import Akson.Store.Schema

namespace Akson

open Except List

def introductionMediaType : String := "application/vnd.akson-dev.introduction.v1+json"

def helloPath : String := "/akson/introduce/v1/hello"

def completePath : String := "/akson/introduce/v1/complete"

def protocolVersion : ℕ := 1

def tokenVersion : ℕ := 1

def introductionDomain : String := "akson-introduction-v1"

/-- What a dialer asks to be introduced with. -/
structure Hello where
  protocolVersion : ℕ
  tokenVersion : ℕ
  targetRoot : String
  claimedRoot : String
  nonce : String

/-- What a party shows of its keys. -/
structure IntroMaterial where
  keyBinding : Json
  extendedCard : AgentCard
  /-- By purpose, in the order of the names. -/
  proofs : List (String × String)

inductive Role where
  | dialer
  | responder
deriving DecidableEq

def Role.name : Role → String
  | .dialer => "dialer"
  | .responder => "responder"

/-- What both sides have seen of the session. -/
structure IntroTranscript where
  protocolVersion : ℕ
  tokenVersion : ℕ
  role : Role
  dialerRoot : String
  responderRoot : String
  dialerTlsSha256 : String
  responderTlsSha256 : String
  tlsExporter : String
  nonce : String
  keyBindingSha256 : String

namespace IntroTranscript

def members (t : IntroTranscript) : List (String × Json) :=
  [("protocol_version", .num t.protocolVersion), ("token_version", .num t.tokenVersion),
    ("role", .str t.role.name), ("dialer_root", .str t.dialerRoot),
    ("responder_root", .str t.responderRoot), ("dialer_tls_sha256", .str t.dialerTlsSha256),
    ("responder_tls_sha256", .str t.responderTlsSha256), ("tls_exporter", .str t.tlsExporter),
    ("nonce", .str t.nonce), ("key_binding_sha256", .str t.keyBindingSha256),
    ("domain", .str introductionDomain)]

def signingBytes (env : Env) (t : IntroTranscript) : Bytes :=
  Json.canonicalBytes env.fmtNum (.obj t.members)

def tlsOfSigner (t : IntroTranscript) : String :=
  match t.role with
  | .dialer => t.dialerTlsSha256
  | .responder => t.responderTlsSha256

end IntroTranscript

theorem Role.name_inj {a b : Role} (h : a.name = b.name) : a = b := by
  cases a <;> cases b <;> first | rfl | exact absurd h (by decide)

def IsNat (q : Rat) : Prop := ∃ n : ℕ, q = n

theorem IntroTranscript.numsIn_members (t : IntroTranscript) :
    Json.NumsIn IsNat (.obj t.members) := by
  simp [members, Json.NumsIn, Json.NumsInMembers, IsNat]

theorem IntroTranscript.signingBytes_inj {env : Env} (hnum : Json.NumText env.fmtNum IsNat)
    {t t' : IntroTranscript} (h : t.signingBytes env = t'.signingBytes env) : t = t' := by
  have hsort := Json.canonicalBytes_inj hnum t.numsIn_members t'.numsIn_members h
  have hnames : (t'.members.map Prod.fst).Nodup := by
    simp [members]
  have hmember : ∀ {k v w}, (k, v) ∈ t.members → (k, w) ∈ t'.members →
      Json.sortKeys v = Json.sortKeys w := fun hv hw => Json.sortKeys_eq_of_mem hsort hnames hv hw
  have hstr : ∀ (k : String) {a b}, (k, Json.str a) ∈ t.members → (k, Json.str b) ∈ t'.members →
      a = b := by
    intro k a b ha hb
    exact Json.str.inj (hmember ha hb)
  have hnat : ∀ (k : String) {a b : ℕ}, (k, Json.num a) ∈ t.members →
      (k, Json.num b) ∈ t'.members → a = b := by
    intro k a b ha hb
    exact Rat.natCast_inj.1 (Json.num.inj (hmember ha hb))
  have hrole : t.role = t'.role :=
    Role.name_inj (hstr "role" (by simp [members]) (by simp [members]))
  have hprotocol : t.protocolVersion = t'.protocolVersion :=
    hnat "protocol_version" (by simp [members]) (by simp [members])
  have htoken : t.tokenVersion = t'.tokenVersion :=
    hnat "token_version" (by simp [members]) (by simp [members])
  have hdialer : t.dialerRoot = t'.dialerRoot :=
    hstr "dialer_root" (by simp [members]) (by simp [members])
  have hresponder : t.responderRoot = t'.responderRoot :=
    hstr "responder_root" (by simp [members]) (by simp [members])
  have hdialerTls : t.dialerTlsSha256 = t'.dialerTlsSha256 :=
    hstr "dialer_tls_sha256" (by simp [members]) (by simp [members])
  have hresponderTls : t.responderTlsSha256 = t'.responderTlsSha256 :=
    hstr "responder_tls_sha256" (by simp [members]) (by simp [members])
  have hexporter : t.tlsExporter = t'.tlsExporter :=
    hstr "tls_exporter" (by simp [members]) (by simp [members])
  have hnonce : t.nonce = t'.nonce := hstr "nonce" (by simp [members]) (by simp [members])
  have hbinding : t.keyBindingSha256 = t'.keyBindingSha256 :=
    hstr "key_binding_sha256" (by simp [members]) (by simp [members])
  cases t
  cases t'
  congr

/-! ## Proofs of possession -/

inductive PopError where
  | missingProof (purpose : String)
  | malformed (purpose : String)
  | badProof (purpose : String)
  | unexpectedProof (purpose : String)
  | badJwk (purpose : String)

def lookupName {α : Type} (members : List (String × α)) (name : String) : Option α :=
  (members.find? (fun m => m.1 = name)).map Prod.snd

variable (env : Env)

def verifyProof (message : Bytes) (proofs : List (String × String)) (purpose : String)
    (entry : KeyEntry) : Except PopError Unit := do
  let proof ← okOr (lookupName proofs purpose) (.missingProof purpose)
  let signature ← okOr (base64Decode .urlSafeNoPad proof) (.malformed purpose)
  ensure (signature.length = 64) (.malformed purpose)
  let key ← (entry.jwk.toKey env).mapError (fun _ => .badJwk purpose)
  ensure (env.verifyStrict key message signature) (.badProof purpose)

def verifyProofs (env : Env) (message : Bytes) (proofs : List (String × String)) :
    List (String × KeyEntry) → Except PopError Unit
  | [] => .ok ()
  | (purpose, entry) :: keys => do
    verifyProof env message proofs purpose entry
    verifyProofs env message proofs keys

def verifyProofsOver (bindings : KeyBindingSet) (message : Bytes)
    (proofs : List (String × String)) : Except PopError Unit := do
  verifyProofs env message proofs bindings.keys
  match proofs.find? (fun p => !bindings.keys.any (fun k => k.1 = p.1)) with
  | some p => .error (.unexpectedProof p.1)
  | none => .ok ()

/-- The key has signed the transcript. -/
structure Proven (env : Env) (message : Bytes) (proofs : List (String × String))
    (k : String × KeyEntry) : Prop where
  signature : ∃ proof signature key, lookupName proofs k.1 = some proof ∧
    base64Decode .urlSafeNoPad proof = some signature ∧ signature.length = 64 ∧
    k.2.jwk.toKey env = .ok key ∧ env.verifyStrict key message signature = true

variable {proofs : List (String × String)} {message : Bytes}

theorem verifyProof_eq_ok_iff {env : Env} {purpose : String} {entry : KeyEntry} :
    verifyProof env message proofs purpose entry = .ok () ↔
      Proven env message proofs (purpose, entry) := by
  simp only [verifyProof, bind_eq_ok, okOr_eq_ok, ensure_eq_ok,
    mapError_eq_ok, exists_const]
  constructor
  · rintro ⟨proof, hproof, signature, hsig, hlen, key, hkey, hverify⟩
    exact ⟨proof, signature, key, hproof, hsig, hlen, hkey, hverify⟩
  · rintro ⟨proof, signature, key, hproof, hsig, hlen, hkey, hverify⟩
    exact ⟨proof, hproof, signature, hsig, hlen, key, hkey, hverify⟩

theorem verifyProofs_eq_ok_iff {env : Env} {keys : List (String × KeyEntry)} :
    verifyProofs env message proofs keys = .ok () ↔ ∀ k ∈ keys, Proven env message proofs k := by
  induction keys with
  | nil => simp [verifyProofs]
  | cons k keys ih =>
    obtain ⟨purpose, entry⟩ := k
    rw [verifyProofs, bind_eq_ok, forall_mem_cons, ← ih, ← verifyProof_eq_ok_iff]
    constructor
    · rintro ⟨_, hproof, hrest⟩
      exact ⟨hproof, hrest⟩
    · rintro ⟨hproof, hrest⟩
      exact ⟨(), hproof, hrest⟩

theorem verifyProofsOver_eq_ok_iff {env : Env} {bindings : KeyBindingSet} :
    verifyProofsOver env bindings message proofs = .ok () ↔
      (∀ k ∈ bindings.keys, Proven env message proofs k) ∧
        ∀ p ∈ proofs, ∃ k ∈ bindings.keys, k.1 = p.1 := by
  rw [verifyProofsOver, bind_eq_ok]
  simp only [← verifyProofs_eq_ok_iff]
  constructor
  · rintro ⟨_, hproofs, hextra⟩
    refine ⟨hproofs, fun p hp => ?_⟩
    split at hextra
    case h_1 => cases hextra
    case h_2 hnone =>
      have hknown := find?_eq_none.1 hnone p hp
      simpa using hknown
  · rintro ⟨hproofs, hknown⟩
    refine ⟨(), hproofs, ?_⟩
    have hnone : proofs.find? (fun p => !bindings.keys.any (fun k => k.1 = p.1)) = none := by
      rw [find?_eq_none]
      intro p hp
      simpa using hknown p hp
    rw [hnone]

/-! ## Verification -/

inductive IntroError where
  | keyBinding (error : KeyBindingError)
  | tlsCertificateMismatch
  | noAgentCardKey
  | rootMismatch
  | cardSignature
  | cardProfile (violations : List CardViolation)
  | proofOfPossession (error : PopError)
  | build (error : KeyError)

/-- The keys and the root that were verified. -/
structure VerifiedIntroduction where
  bindings : KeyBindingSet
  root : Fingerprint

def keyBindingDigestHex (keyBinding : Json) : String :=
  hex (env.sha256 (Json.canonicalBytes env.fmtNum keyBinding))

def IntroTranscript.bound (t : IntroTranscript) (keyBinding : Json) : IntroTranscript :=
  { t with keyBindingSha256 := keyBindingDigestHex env keyBinding }

/-- Check introduction material against a root. -/
def verifyIntroduction (env : PairingEnv) (expectedRoot : String) (transcript : IntroTranscript)
    (subjectTls : String) (material : IntroMaterial) (requiredExtensions : List String)
    (now : Int) : Except IntroError VerifiedIntroduction := do
  let bindings ← (keyBindingVerify env material.keyBinding now).mapError .keyBinding
  ensure (Text.eqIgnoreAsciiCase bindings.tlsCertificateSha256 subjectTls)
    .tlsCertificateMismatch
  let cardEntry ← okOr (lookupName bindings.keys "agent-card") .noAgentCardKey
  ensure (cardEntry.thumbprint = expectedRoot) .rootMismatch
  let cardKey ← (cardEntry.jwk.toKey env.toEnv).mapError (fun _ => .cardSignature)
  (verifyCard env material.extendedCard ⟨.agentCard, cardKey⟩).mapError (fun _ => .cardSignature)
  (validateAgentCard requiredExtensions material.extendedCard).mapError .cardProfile
  (verifyProofsOver env.toEnv bindings
    ((transcript.bound env.toEnv material.keyBinding).signingBytes env.toEnv)
    material.proofs).mapError .proofOfPossession
  .ok ⟨bindings, ⟨.jwk7638, cardEntry.thumbprint⟩⟩

/-- What verified material has been checked for. -/
structure Introduces (env : PairingEnv) (expectedRoot : String) (transcript : IntroTranscript)
    (subjectTls : String) (material : IntroMaterial) (requiredExtensions : List String) (now : Int)
    (bindings : KeyBindingSet) : Prop where
  binds : BindsKeys env material.keyBinding now bindings
  certificate : Text.eqIgnoreAsciiCase bindings.tlsCertificateSha256 subjectTls = true
  card : ∃ entry key, lookupName bindings.keys "agent-card" = some entry ∧
    entry.thumbprint = expectedRoot ∧ entry.jwk.toKey env.toEnv = .ok key ∧
    verifyCard env material.extendedCard ⟨.agentCard, key⟩ = .ok ()
  profile : validateAgentCard requiredExtensions material.extendedCard = .ok ()
  proofs : ∀ k ∈ bindings.keys, Proven env.toEnv
    ((transcript.bound env.toEnv material.keyBinding).signingBytes env.toEnv) material.proofs k
  noOther : ∀ p ∈ material.proofs, ∃ k ∈ bindings.keys, k.1 = p.1

section Verify

variable {env : PairingEnv} {expectedRoot subjectTls : String} {transcript : IntroTranscript}
  {material : IntroMaterial} {requiredExtensions : List String} {now : Int}
  {bindings : KeyBindingSet}

theorem verifyIntroduction_eq_ok_iff {verified : VerifiedIntroduction} :
    verifyIntroduction env expectedRoot transcript subjectTls material requiredExtensions now =
        .ok verified ↔
      verified.root = ⟨.jwk7638, expectedRoot⟩ ∧ Introduces env expectedRoot transcript subjectTls
        material requiredExtensions now verified.bindings := by
  simp only [verifyIntroduction, bind_eq_ok, mapError_eq_ok, ensure_eq_ok,
    okOr_eq_ok, exists_const, keyBindingVerify_eq_ok_iff]
  constructor
  · rintro ⟨bindings, hbinds, htls, entry, hentry, hroot, key, hkey, _, hcard, _, hprofile, _,
      hproofs, hout⟩
    cases hout
    obtain ⟨hproven, hother⟩ := verifyProofsOver_eq_ok_iff.1 hproofs
    exact ⟨by rw [hroot], hbinds, htls, ⟨entry, key, hentry, hroot, hkey, hcard⟩, hprofile, hproven,
      hother⟩
  · rintro ⟨hverified, hbinds, htls, ⟨entry, key, hentry, hroot, hkey, hcard⟩, hprofile, hproven,
      hother⟩
    have hproofs := verifyProofsOver_eq_ok_iff.2 ⟨hproven, hother⟩
    refine ⟨_, hbinds, htls, entry, hentry, hroot, key, hkey, (), hcard, (), hprofile, (), hproofs, ?_⟩
    rw [hroot, ← hverified]

end Verify

end Akson
