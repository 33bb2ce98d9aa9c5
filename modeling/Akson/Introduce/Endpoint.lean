/-
# An endpoint of the daemon

What an endpoint builds from its own state and shows to the other side of an introduction.
-/
import Akson.Introduce.Handshake

namespace Akson

open Except Option List

/-! ## What it shows -/

section Shows

variable {env : PairingEnv} {identity : IdentityKeys} {now : Int}

/-- The keys of an endpoint are points with their own thumbprints, and what they sign verifies. -/
structure IdentityKeys.Sound (env : PairingEnv) (identity : IdentityKeys) : Prop where
  holds : ∀ k ∈ statementKeys identity, env.HoldsKey k.2.secret
  proves : ∀ k ∈ statementKeys identity, ∀ message, env.Signs k.2.secret message
  signs : ∀ payload, env.SignsDetached (identity.secret .agentCard) payload
  distinct : ((statementKeys identity).map (fun k =>
    thumbprint env.toEnv (env.publicKey k.2.secret))).Nodup

theorem mem_statementKeys {k : KeyPurpose × PurposeKey} (h : k ∈ statementKeys identity) :
    k.1.name ∈ statementPurposes ∧ k.2 = identity.purposeKey k.1 := by
  obtain ⟨purpose, hpurpose, rfl⟩ := mem_map.1 h
  refine ⟨?_, rfl⟩
  change purpose.name ∈ statementPurposes
  revert hpurpose
  cases purpose <;> decide

theorem agentCard_mem_statementKeys (identity : IdentityKeys) :
    (.agentCard, identity.purposeKey .agentCard) ∈ statementKeys identity := by
  simp [statementKeys, KeyPurpose.paired]

theorem ownKeys_statementKeys (h : identity.Sound env) :
    OwnKeys env.toEnv (statementKeys identity) where
  own k hk := by
    rw [(mem_statementKeys hk).2]
    rfl
  purposes := by
    have hfst : (statementKeys identity).map Prod.fst =
        KeyPurpose.paired.filter (· ≠ .tlsEndpoint) := by
      simp [statementKeys, Function.comp_def]
    rw [hfst]
    decide
  statement k hk := (mem_statementKeys hk).1
  holds := h.holds
  distinct := h.distinct

/-- A card that has a JSON form is signed, and the signature verifies. -/
theorem exists_signCard (hunsigned : env.PayloadUnsigned) (hkeys : identity.Sound env)
    {card : AgentCard} (hcard : (env.cardJson card).isSome) :
    ∃ sig, signCard env card (identity.purposeKey .agentCard) = .ok sig ∧
      verifyCard env { card with signatures := card.signatures ++ [sig] }
        ((identity.purposeKey .agentCard).verifying env.toEnv) = .ok () := by
  obtain ⟨value, hvalue⟩ := isSome_iff_exists.1 hcard
  have hpayload : canonicalPayload env card =
      .ok (Json.canonicalBytes env.fmtNum (withoutMember "signatures" value)) := by
    rw [canonicalPayload, hvalue]
    rfl
  have hsign : ∃ sig, signCard env card (identity.purposeKey .agentCard) = .ok sig := by
    rw [signCard, hpayload]
    exact ⟨_, rfl⟩
  obtain ⟨sig, hsig⟩ := hsign
  exact ⟨sig, hsig, verifyCard_of_signCard hunsigned hsig (fun payload _ => hkeys.signs payload)⟩

/-- **What a daemon shows from its own state is accepted.**  Only its names, its certificate, its
address and the clock can make the other side refuse it. -/
theorem verifyIntroduction_fromState_iff {issuer agent interfaceUrl cert : String}
    {transcript : IntroTranscript} (hunsigned : env.PayloadUnsigned) (hkeys : identity.Sound env)
    (hcard : (env.cardJson (endpointCard agent interfaceUrl)).isSome)
    (htls : transcript.tlsOfSigner = cert) : ∃ them material,
      IntroIdentity.fromState env identity issuer agent interfaceUrl cert = .ok them ∧
      them.build env transcript = .ok material ∧
      ((∃ verified, verifyIntroduction env them.ownRoot transcript cert material
          requiredExtensionUris now = .ok verified) ↔
        Text.bounded 1 512 (fun _ => true) issuer = true ∧
        Text.bounded 1 512 (fun _ => true) agent = true ∧ isSha256Hex cert = true ∧
        isBoundedHttpsUri interfaceUrl = true ∧ InWindow env introNotBefore introNotAfter now) := by
  subst htls
  obtain ⟨sig, hsign, hverify⟩ := exists_signCard hunsigned hkeys hcard
  have hown := ownKeys_statementKeys hkeys
  have hprofile := cardViolations_endpointCard agent interfaceUrl [sig]
  rw [IntroIdentity.fromState, signedEndpointCard, hsign]
  refine ⟨_, _, rfl, buildIntroMaterial_eq hown.own, (verifyIntroduction_built_iff hown
    (agentCard_mem_statementKeys identity) (fun k hk => hkeys.proves k hk _) hverify).trans ?_⟩
  constructor
  · rintro ⟨hpresent, hwindow⟩
    exact ⟨hpresent.issuer, hpresent.agent, hpresent.certificate,
      hprofile.1 (validateAgentCard_eq_ok_iff.1 hpresent.profile), hwindow⟩
  · rintro ⟨hissuer, hagent, hcert, hurl, hwindow⟩
    exact ⟨⟨hissuer, hagent, hcert, by decide, by decide, by decide,
      validateAgentCard_eq_ok_iff.2 (hprofile.2 hurl)⟩, hwindow⟩

/-! ## What is read of it -/

theorem KeyBindingSet.numsIn_json (b : KeyBindingSet) : b.json.NumsIn IsNat := by
  have hkeys : Json.NumsInMembers IsNat (b.keys.map (fun k => (k.1, k.2.json))) := by
    refine Json.numsInMembers_iff.2 (fun f hf => ?_)
    obtain ⟨k, -, rfl⟩ := mem_map.1 hf
    exact ⟨⟨trivial, trivial, trivial, trivial⟩, trivial, ⟨k.2.generation, rfl⟩, trivial, trivial,
      trivial⟩
  exact ⟨⟨1, by simp⟩, ⟨trivial, trivial, trivial⟩, trivial, hkeys, trivial⟩

theorem sortByName_sortByName {α : Type} (members : List (String × α)) :
    sortByName (sortByName members) = sortByName members := by
  have htotal : Std.Total (fun a b : String × α => a.1 ≤ b.1) := ⟨fun a b => le_total a.1 b.1⟩
  have htrans : IsTrans _ (fun a b : String × α => a.1 ≤ b.1) := ⟨fun _ _ _ => le_trans⟩
  exact (pairwise_insertionSort _ members).insertionSort_eq

/-- Material whose proofs are in the order of their names is read as it was written. -/
theorem IntroMaterial.ofJson_json {m : IntroMaterial} {v : Json} (h : m.json env = some v)
    (hcard : (env.cardJson m.extendedCard).bind env.parseCard = some m.extendedCard)
    (hsorted : sortByName m.proofs = m.proofs) : IntroMaterial.ofJson env v = some m := by
  obtain ⟨card, hjson, hv⟩ := bind_eq_some_iff.1 h
  cases hv
  rw [hjson, bind_some] at hcard
  have hmap : ∀ l : List (String × String), (l.map (fun p => (p.1, Json.str p.2))).mapM
      (fun f : String × Json => f.2.str?.map (fun proof => (f.1, proof))) = some l := by
    intro l
    induction l with
    | nil => rfl
    | cons p l ih =>
      rw [map_cons, mapM_cons, ih]
      rfl
  have hproofs : readProofs (.obj [("key_binding", m.keyBinding), ("extended_card", card),
      ("proofs", .obj (m.proofs.map (fun p => (p.1, .str p.2))))]) = some m.proofs :=
    (congrArg (Option.map sortByName) (hmap m.proofs)).trans (congrArg some hsorted)
  rw [IntroMaterial.ofJson, hproofs]
  change (env.parseCard card).bind _ = _
  rw [hcard]
  rfl

theorem exists_keyBindingsFrom {keys : List (String × KeyEntry)}
    (h : ∀ k ∈ keys, (KeyPurpose.ofName k.1).isSome) : ∃ bound, keyBindingsFrom keys = .ok bound := by
  induction keys with
  | nil => exact ⟨[], rfl⟩
  | cons k keys ih =>
    rw [forall_mem_cons] at h
    obtain ⟨purpose, hpurpose⟩ := isSome_iff_exists.1 h.1
    obtain ⟨rest, hrest⟩ := ih h.2
    exact ⟨_, bind_eq_ok.2 ⟨purpose, okOr_eq_ok.2 hpurpose, bind_eq_ok.2 ⟨rest, hrest, rfl⟩⟩⟩

/-- Of a card with a JSON form and the keys that an endpoint binds, an identity is made. -/
theorem exists_peerIdentityFrom {issuer agent notBefore notAfter : String} {generation : ℕ}
    {transcript : IntroTranscript} {bindings : KeyBindingSet} {card : AgentCard}
    (hkeys : identity.Sound env) (hcard : (env.cardJson card).isSome)
    (hbinds : BindsKeys env (builtBinding env.toEnv transcript issuer agent (statementKeys identity)
      notBefore notAfter generation).json now bindings) :
    ∃ i, peerIdentityFrom env bindings card = .ok i := by
  obtain ⟨v, hv⟩ := isSome_iff_exists.1 hcard
  obtain ⟨rfl, -⟩ := (binds_built_iff (ownKeys_statementKeys hkeys)).1 hbinds
  have hknown : ∀ k ∈ sortByName (builtBinding env.toEnv transcript issuer agent
      (statementKeys identity) notBefore notAfter generation).keys,
      (KeyPurpose.ofName k.1).isSome := by
    intro k hk
    obtain ⟨key, -, rfl⟩ := mem_map.1 (mem_sortByName.1 hk)
    cases key.1 <;> rfl
  obtain ⟨bound, hbound⟩ := exists_keyBindingsFrom hknown
  exact ⟨_, bind_eq_ok.2 ⟨v, okOr_eq_ok.2 hv, bind_eq_ok.2 ⟨bound, hbound, rfl⟩⟩⟩

end Shows

/-! ## Two endpoints

A responder with the keys of a daemon and a dialer with one, their cards, and their proofs for one
session.  SHA-256 and Ed25519 are given by their values at what is asked here, and a JSON text is
read as it was written. -/

theorem intText_natCast (n : ℕ) : intText n = Nat.toDigits 10 n := by
  have hnum : ((n : ℚ)).num = (n : ℤ) := Rat.num_natCast n
  have htext : toString (n : ℤ) = toString n := rfl
  rw [intText, hnum, htext, Nat.toString_eq_ofList_toDigits, String.toList_ofList]

theorem numText_intText_isNat : Json.NumText intText IsNat where
  ne_nil := by
    rintro _ ⟨n, rfl⟩
    rw [intText_natCast]
    exact Nat.toDigits_ne_nil
  chars := by
    rintro _ ⟨n, rfl⟩ c hc
    rw [intText_natCast] at hc
    have hdigit := Nat.isDigit_of_mem_toDigits (by decide) (by decide) hc
    simp [Json.isNumChar, hdigit]
  inj := by
    rintro _ _ ⟨m, rfl⟩ ⟨n, rfl⟩ h
    rw [intText_natCast, intText_natCast] at h
    have hm := Nat.ofDigitChars_ten_toDigits (n := m)
    rw [h, Nat.ofDigitChars_ten_toDigits] at hm
    rw [hm]

namespace Sample

/-- The responder's secret keys are numbered from 1 to 6, and the dialer's is the seventh. -/
def numbers : List ℕ := [1, 2, 3, 4, 5, 6, 7]

def secret (n : ℕ) : Bytes := List.replicate 32 (UInt8.ofNat n)

def identity : IdentityKeys := ⟨fun purpose => secret (KeyPurpose.paired.idxOf purpose)⟩

def verifying : ℕ → Bytes
  | 1 => beBytes 32 0x8a88e3dd7409f195fd52db2d3cba5d72ca6709bf1d94121bf3748801b40f6f5c
  | 2 => beBytes 32 0x8139770ea87d175f56a35466c34c7ecccb8d8a91b4ee37a25df60f5b8fc9b394
  | 3 => beBytes 32 0xed4928c628d1c2c6eae90338905995612959273a5c63f93636c14614ac8737d1
  | 4 => beBytes 32 0xca93ac1705187071d67b83c7ff0efe8108e8ec4530575d7726879333dbdabe7c
  | 5 => beBytes 32 0x6e7a1cdd29b0b78fd13af4c5598feff4ef2a97166e3ca6f2e4fbfccd80505bf1
  | 6 => beBytes 32 0x8a875fff1eb38451577acd5afee405456568dd7c89e090863a0557bc7af49f17
  | 7 => beBytes 32 0xea4a6c63e29c520abef5507b132ec5f9954776aebebe7b92421eea691446d22c
  | _ => []

/-- The digest of the key's JWK. -/
def digest : ℕ → Bytes
  | 1 => beBytes 32 0x5030d178e665d62a5701fa7dc18b26d77b0304c2b9a20fbe4167418f3b9fea8e
  | 2 => beBytes 32 0x69506d6a92ddd7549454a20c1897cfcce103b8dd2c5dc9b32503554fefec2845
  | 3 => beBytes 32 0x9d1204d9598a74c8cbd490fbb5b57b7d75605f19afd062a73055915093137fd4
  | 4 => beBytes 32 0x77c31edee27cda385db02b2d5b254caf7fc8dae79e4d81b96a0335fb6af5fdb6
  | 5 => beBytes 32 0xd18b825b837d2ca3ec3b48cf28a803628dc7ec71f62e4893f182ee146b256572
  | 6 => beBytes 32 0x171561b8efc8afcdb28c9f05308a16a57a4dfc1667fa5fcb701a8fb2965fcdf9
  | 7 => beBytes 32 0xfbee883399743a8b0b8fdc96b24212621500de7ff7094450926ad831285afdc9
  | _ => []

/-- The key's signature of the transcript. -/
def proof : ℕ → Bytes
  | 1 => beBytes 32 0x453094686f95580d023978551c30f8d3f8af4822d21a1deac01b85f0c3353ecf ++
      beBytes 32 0x9ed8151752d4202880aaaee57177796d687d5cb32d3120404d3ff8110b780507
  | 2 => beBytes 32 0xcb3caf75bdb22fac6f0cb876bd32199732f4393c38bc068503e6194e1899dfdb ++
      beBytes 32 0x7328fea2cb29ab631f3a24505eedcaa251b11a8444a0986d1c913526d40dd20d
  | 3 => beBytes 32 0x259e3a0909d1bd8c3ddbc75b23394559d82d93458084baa192970fab82153d25 ++
      beBytes 32 0xd580faa7c10ebe0bcc10518182fc2cf8bce3a7e1501541b94a0d287d0b15e703
  | 4 => beBytes 32 0x354e6d0579fa9edae64608ec88082c313855595c7e8d49d1299eebfb4678c92e ++
      beBytes 32 0x85ea26fa57a57681f8f314e80adac942ecef112eba135929993d236605217808
  | 5 => beBytes 32 0xc1cc7b6bb3e1615056aa39e7cd931d7045161bc1dd43991d36a4db4016949a85 ++
      beBytes 32 0x01e07f42989234eed84c9139800ad855712258a02a71ffaa6a68720d39fff007
  | 6 => beBytes 32 0x8c6738000866df348cb1ce0b560f621385c888f20a5245e5b34701c2230d95b0 ++
      beBytes 32 0xea325aa1ffe88f2d4e241ef472371874641e4b20303a05bb9447bd51b84bef07
  | 7 => beBytes 32 0xef672b432895aa73fb3a29b038b6650d36d2f3d4294b934ec51ffc9dc596a92c ++
      beBytes 32 0xd5eaf63173079c18dd0d7c982fe77cef35620c644865424eea8794750c446a09
  | _ => []

def ofSecret (f : ℕ → Bytes) (secret : Bytes) : Bytes := f (secret.headD 0).toNat

def root : String := base64Encode .urlSafeNoPad (digest 1)

def dialerRoot : String := base64Encode .urlSafeNoPad (digest 7)

def interfaceUrl : String := "https://agent.example/a2a"

def card : AgentCard := endpointCard "agent" interfaceUrl

/-- The card with a plain interface in front. -/
def plainFirst : AgentCard :=
  { card with supportedInterfaces :=
      ⟨"http://agent.example/rpc", "JSONRPC", "0.3"⟩ :: card.supportedInterfaces }

/-- The JSON mapping of a card with the capabilities and the security of these. -/
def cardJson (card : AgentCard) : Json :=
  .obj ([("name", .str card.name), ("description", .str card.description),
    ("version", .str card.version),
    ("supportedInterfaces", .arr (card.supportedInterfaces.map (fun i =>
      .obj [("url", .str i.url), ("protocolBinding", .str i.protocolBinding),
        ("protocolVersion", .str i.protocolVersion)]))),
    ("capabilities", .obj [("streaming", .bool false), ("pushNotifications", .bool false),
      ("extendedAgentCard", .bool true), ("extensions", .arr (requiredExtensionUris.map (fun uri =>
        .obj [("uri", .str uri), ("required", .bool true)])))]),
    ("securitySchemes", .obj [("mtls", .obj [("mtlsSecurityScheme",
      .obj [("description", .str "pinned mutual TLS")])])]),
    ("securityRequirements", .arr [.obj [("schemes", .obj [("mtls", .obj [])])]])] ++
    (if card.signatures = [] then [] else [("signatures", .arr (card.signatures.map (fun s =>
      .obj [("protected", .str s.protectedHeader), ("signature", .str s.signature)])))]))

def dialerCard : AgentCard := endpointCard "agent" "https://dialer.example/a2a"

def header (n : ℕ) : ProtectedHeader :=
  ⟨"EdDSA", "JOSE", base64Encode .urlSafeNoPad (digest n)⟩

def headerText (n : ℕ) : String :=
  base64Encode .urlSafeNoPad (Json.canonicalBytes intText (header n).json)

/-- A card, the number of the key that signs it, and the signature. -/
structure CardSignature where
  card : AgentCard
  key : ℕ
  signature : Bytes

namespace CardSignature

def message (c : CardSignature) : Bytes :=
  jwsSigningInput (headerText c.key) (Json.canonicalBytes intText (cardJson c.card))

def signed (c : CardSignature) : AgentCard :=
  { c.card with signatures := [⟨headerText c.key, base64Encode .urlSafeNoPad c.signature⟩] }

end CardSignature

def cardSignature : CardSignature :=
  ⟨card, 1, beBytes 32 0x7a4bee56b95ff1b3f236771df2c3e8e3ebc49234ac41260628e1107b07789fd9 ++
    beBytes 32 0x93e4de8ebb1c97f3d0d7122a50d1457be4048675d8fa6259a94f72bcd326ff09⟩

def cardSignatures : List CardSignature :=
  [cardSignature,
    ⟨plainFirst, 1, beBytes 32 0x6445049c126ac7ec8535902418a54ee6a6f6c3657315ae752a07ef22fb803eb3 ++
      beBytes 32 0x69ee4ac4829a82fc4574eace1ce730fa9e4f1f366346c4fa5ac9842124c07c04⟩,
    ⟨dialerCard, 7, beBytes 32 0x491f37c38de0fdc4814f8a3894a722c142da5900e043e5aa0f49bb7d76fa1b9c ++
      beBytes 32 0x324b7d1359d1070f74424a915a6fb244530df4bfef9c6311b9cc9e4cbb1a2b04⟩]

def sign (secret message : Bytes) : Bytes :=
  ((cardSignatures.find? (fun c => c.message = message)).map CardSignature.signature).getD
    (ofSecret proof secret)

def exporter : Bytes := (List.range 32).map UInt8.ofNat

def dialerTls : String := "e83f5465058c97a032fecb7535aef547e2df345d1453f69923ef2edd7fe80164"

def responderTls : String := "6dcde155f1f900e157d25bb5c24b1a54d71ea35b78661ed9b1a8be3532c3d4f5"

def nonce : String := "ZGVmZ2hpamtsbW5vcHFyc3R1dnd4eXp7fH1-f4CBgoM"

def transcript (role : Role) : IntroTranscript :=
  introTranscript role dialerRoot root dialerTls responderTls exporter nonce

def responderKeys : List (KeyPurpose × ℕ) :=
  [(.agentCard, 1), (.contractDecision, 3), (.contractProposal, 2), (.evidence, 5),
    (.requesterOutcome, 6), (.taskResult, 4)]

def bindings (role : Role) (keys : List (KeyPurpose × ℕ)) : KeyBindingSet where
  issuer := "local"
  agent := "agent"
  tlsCertificateSha256 := (transcript role).tlsOfSigner
  keys := keys.map (fun k => (k.1.name, ⟨.fromKey (verifying k.2),
    base64Encode .urlSafeNoPad (digest k.2), 0, introNotBefore, introNotAfter⟩))

def projection (card : AgentCard) : Json :=
  securityProjection (cardJson card) (bindings .responder responderKeys).json

def renamed : AgentCard := { plainFirst with description := "renamed" }

def jwk (key : Bytes) : Json :=
  .obj [("crv", .str "Ed25519"), ("kty", .str "OKP"),
    ("x", .str (base64Encode .urlSafeNoPad key))]

def jsonText (v : Json) : Bytes := Json.utf8 (Json.encode intText v)

/-- What is digested beside the keys, with its digest. -/
def digests : List (Json × Bytes) :=
  [((bindings .responder responderKeys).json,
      beBytes 32 0x6dc61ffc2e5be9e2b3681cbe15f7fc6d0913b64d9e494ae53cc1cb5e8f2b9764),
    ((bindings .dialer [(.agentCard, 7)]).json,
      beBytes 32 0x0f916259333234fdf1ac3257e5d3e0425f425b9f7aa19b577dcfb62b03d5d9d5),
    (projection card, beBytes 32 0x7f8440f710f83592fcbaa59974e39d124c10d966dc69dfa1d5256085ad537974),
    (projection plainFirst,
      beBytes 32 0xc6131292ce64364df8f9d99fc9e4d0b5847d0cd35cf3e414af4f26cb44ba61f0),
    (cardJson card, beBytes 32 0xef6ccf4a4bc544805e3ab60e442d2fce0ce7fb3c4659ee9a6c68683dee873b8d),
    (cardJson plainFirst,
      beBytes 32 0xbdec320378ec45ae832103f3fbfb2fb825decace9672fb02b0e808b82d694b6d),
    (cardJson renamed, beBytes 32 0x898ecdc841c274620a4d8f198fd3e65a9100e4a64bfbbb1a3c4a82573aa7db74)]

def sha256 (b : Bytes) : Bytes :=
  match numbers.find? (fun n => jsonText (jwk (verifying n)) = b) with
  | some n => digest n
  | none => ((digests.find? (fun d => Json.canonicalBytes intText d.1 = b)).map Prod.snd).getD []

noncomputable def env : PairingEnv :=
  { Env.inert with
    sha256 := sha256
    publicKey := ofSecret verifying
    isPublicKey := fun b => ∃ n ∈ numbers, b = verifying n
    signEd25519 := sign
    verifyStrict := fun key message signature =>
      ∃ n ∈ numbers, key = verifying n ∧ signature = sign (secret n) message
    fmtNum := intText
    parseJson := Json.readBack intText IsNat
    jsonText := jsonText
    cardJson := fun card => some (cardJson card)
    parseCard := fun v => (cardSignatures.map CardSignature.signed).find? (fun card => cardJson card = v)
    parseNanos := fun s =>
      if s = introNotBefore then some 1577836800000000000
      else if s = introNotAfter then some 2051222400000000000 else none }

variable {n : ℕ}

theorem ofSecret_secret (f : ℕ → Bytes) (hn : n ∈ numbers) : ofSecret f (secret n) = f n := by
  have hbyte : ∀ n ∈ numbers, (UInt8.ofNat n).toNat = n := by decide
  exact congrArg f (hbyte n hn)

theorem signs (hn : n ∈ numbers) (message : Bytes) : env.Signs (secret n) message where
  verifies := decide_eq_true ⟨n, hn, ofSecret_secret verifying hn, rfl⟩
  length := by
    have hcards : ∀ c ∈ cardSignatures, c.signature.length = 64 := by decide
    have hproofs : ∀ n ∈ numbers, (proof n).length = 64 := by decide
    change (sign (secret n) message).length = 64
    unfold sign
    cases hfind : cardSignatures.find? (fun c => c.message = message) with
    | none =>
      rw [map_none, getD_none, ofSecret_secret _ hn]
      exact hproofs n hn
    | some c => exact hcards c (List.mem_of_find?_eq_some hfind)

theorem jsonText_jwk_inj {a b : Bytes} : jsonText (jwk a) = jsonText (jwk b) ↔ a = b := by
  have hread : ∀ key, Json.readBack intText IsNat (jsonText (jwk key)) = some (jwk key) :=
    fun key => Json.readBack_encode numText_intText_isNat ⟨trivial, trivial, trivial, trivial⟩
  refine ⟨fun h => ?_, fun h => by rw [h]⟩
  have hsame : jwk a = jwk b := some.inj ((hread a).symm.trans ((congrArg _ h).trans (hread b)))
  rw [jwk, jwk] at hsame
  simp only [Json.obj.injEq, List.cons.injEq, Prod.mk.injEq, Json.str.injEq] at hsame
  exact base64Encode_inj hsame.2.2.1.2

theorem find?_verifying :
    ∀ n ∈ numbers, numbers.find? (fun m => verifying m = verifying n) = some n := by
  decide

theorem sha256_jwkText (hn : n ∈ numbers) :
    env.sha256 (jwkText env.toEnv (verifying n)) = digest n := by
  have htext : jwkText env.toEnv (verifying n) = jsonText (jwk (verifying n)) := rfl
  have hsha : env.sha256 = sha256 := rfl
  rw [htext, hsha, sha256]
  simp only [jsonText_jwk_inj, find?_verifying n hn]

theorem thumbprint_secret (hn : n ∈ numbers) :
    thumbprint env.toEnv (env.publicKey (secret n)) = base64Encode .urlSafeNoPad (digest n) := by
  change thumbprint env.toEnv (ofSecret verifying (secret n)) = _
  rw [ofSecret_secret _ hn, thumbprint, sha256_jwkText hn]

theorem holdsKey (hn : n ∈ numbers) : env.HoldsKey (secret n) := by
  have hlengths : ∀ n ∈ numbers, (verifying n).length = 32 ∧ (digest n).length = 32 := by decide
  have hkey : env.publicKey (secret n) = verifying n := ofSecret_secret verifying hn
  refine ⟨?_, ?_, ?_⟩
  · rw [hkey]
    exact (hlengths n hn).1
  · rw [hkey]
    exact decide_eq_true ⟨n, hn, rfl⟩
  · rw [hkey, sha256_jwkText hn]
    exact (hlengths n hn).2

theorem jwsHeader_eq : jwsHeader env.toEnv (env.publicKey (secret 1)) = header 1 := by
  rw [jwsHeader, thumbprint_secret (by decide)]
  rfl

theorem signsDetached (payload : Bytes) : env.SignsDetached (secret 1) payload where
  header := by
    have hread : env.parseJson (Json.canonicalBytes intText (header 1).json) =
        some (Json.sortKeys (header 1).json) :=
      Json.readBack_encode numText_intText_isNat
        (Json.numsIn_sortKeys _ ⟨trivial, trivial, trivial, trivial⟩)
    rw [jwsHeader_eq]
    exact (congrArg (Option.bind · ProtectedHeader.ofJson) hread).trans rfl
  signs := signs (by decide) _

theorem payloadUnsigned : env.PayloadUnsigned := by
  intro card signatures
  have hbase : ∀ sigs : List AgentCardSignature,
      withoutMember "signatures" (cardJson { card with signatures := sigs }) =
        withoutMember "signatures" (cardJson { card with signatures := [] }) := by
    intro sigs
    unfold cardJson
    split
    · rfl
    · rfl
  change some (withoutMember _ _) = some (withoutMember _ _)
  exact congrArg some ((hbase signatures).trans (hbase card.signatures).symm)

theorem inWindow_iff (now : Int) : InWindow env introNotBefore introNotAfter now ↔
    1577836800000000000 ≤ now ∧ now < 2051222400000000000 := by
  have hbefore : env.parseNanos introNotBefore = some 1577836800000000000 := by decide
  have hafter : env.parseNanos introNotAfter = some 2051222400000000000 := by decide
  simp [InWindow, hbefore, hafter]

theorem exists_secret {k : KeyPurpose × PurposeKey} (hk : k ∈ statementKeys identity) :
    ∃ n ∈ numbers, k.2.secret = secret n := by
  obtain ⟨purpose, hpurpose, rfl⟩ := mem_map.1 hk
  refine ⟨KeyPurpose.paired.idxOf purpose, ?_, rfl⟩
  revert hpurpose
  cases purpose <;> decide

theorem sound : identity.Sound env where
  holds := by
    intro k hk
    obtain ⟨n, hn, hsecret⟩ := exists_secret hk
    rw [hsecret]
    exact holdsKey hn
  proves := by
    intro k hk message
    obtain ⟨n, hn, hsecret⟩ := exists_secret hk
    rw [hsecret]
    exact signs hn message
  signs := signsDetached
  distinct := by
    have hthumb : (statementKeys identity).map (fun k =>
        thumbprint env.toEnv (env.publicKey k.2.secret)) =
          [1, 2, 3, 4, 5, 6].map (fun n => base64Encode .urlSafeNoPad (digest n)) := by
      have hnumbers : ∀ n ∈ [1, 2, 3, 4, 5, 6], n ∈ numbers := by decide
      rw [← map_congr_left (fun n hn => thumbprint_secret (hnumbers n hn))]
      rfl
    rw [hthumb]
    decide

/-- A second before 2035, what the endpoint shows is accepted. -/
theorem daemon_accepted_until_2035 : ∃ them material verified,
    IntroIdentity.fromState env identity "local" "agent" interfaceUrl responderTls = .ok them ∧
    them.build env (transcript .responder) = .ok material ∧
    verifyIntroduction env them.ownRoot (transcript .responder) responderTls material
      requiredExtensionUris 2051222399000000000 = .ok verified := by
  obtain ⟨them, material, hthem, hbuild, hiff⟩ := @verifyIntroduction_fromState_iff env identity
    2051222399000000000 "local" "agent" interfaceUrl responderTls (transcript .responder)
    payloadUnsigned sound rfl rfl
  obtain ⟨verified, hverified⟩ := hiff.2 ⟨by decide, by decide, by decide, by decide,
    (inWindow_iff _).2 (by decide)⟩
  exact ⟨them, material, verified, hthem, hbuild, hverified⟩

/-! ### A dial to the endpoint -/

def dialer : IntroIdentity where
  keys := [(.agentCard, ⟨.agentCard, secret 7⟩)]
  signedCard := (cardSignatures.map CardSignature.signed).getLast (by decide)
  certSha256 := dialerTls
  ownRoot := dialerRoot
  issuer := "local"
  agent := "agent"
  requiredExtensions := requiredExtensionUris

def responder : IntroIdentity where
  keys := statementKeys identity
  signedCard := cardSignature.signed
  certSha256 := responderTls
  ownRoot := root
  issuer := "local"
  agent := "agent"
  requiredExtensions := requiredExtensionUris

theorem sign_cardSignature : sign (secret 1) cardSignature.message = cardSignature.signature := by
  have hfind : cardSignatures.find? (fun c => c.message = cardSignature.message) =
      some cardSignature := find?_cons_of_pos (by simp)
  rw [sign, hfind, map_some, getD_some]

theorem signCard_eq : signCard env card (identity.purposeKey .agentCard) =
    .ok ⟨headerText 1, base64Encode .urlSafeNoPad cardSignature.signature⟩ := by
  have hjson : env.cardJson card = some (cardJson card) := by simp only [env]
  have hfmt : env.fmtNum = intText := by simp only [env]
  have hsign : env.signEd25519 = sign := by simp only [env]
  have hunsigned : withoutMember "signatures" (cardJson card) = cardJson card := rfl
  have hpayload : canonicalPayload env card = .ok (Json.canonicalBytes intText (cardJson card)) := by
    rw [canonicalPayload, hjson, hfmt]
    exact congrArg (fun v => Except.ok (Json.canonicalBytes intText v)) hunsigned
  have hheader : jwsProtected env.toEnv (env.publicKey (secret 1)) = headerText 1 := by
    rw [jwsProtected, jwsHeader_eq, hfmt]
    rfl
  have hmessage : jwsSigningInput (headerText 1) (Json.canonicalBytes intText (cardJson card)) =
      cardSignature.message := rfl
  have hkey : (identity.purposeKey .agentCard).secretFor .agentCard = .ok (secret 1) := rfl
  have hsig : signDetached env.toEnv (Json.canonicalBytes intText (cardJson card)) (secret 1) =
      ⟨headerText 1, base64Encode .urlSafeNoPad cardSignature.signature⟩ := by
    simp only [signDetached, hheader, hsign, hmessage, sign_cardSignature]
  exact bind_eq_ok.2 ⟨_, hpayload, bind_eq_ok.2 ⟨_, mapError_eq_ok.2 hkey, congrArg Except.ok hsig⟩⟩

theorem fromState_eq : IntroIdentity.fromState env identity "local" "agent" interfaceUrl
    responderTls = .ok responder := by
  have hroot : thumbprint env.toEnv (env.publicKey (identity.secret .agentCard)) = root :=
    thumbprint_secret (by decide)
  have hcard : endpointCard "agent" interfaceUrl = card := rfl
  rw [IntroIdentity.fromState, signedEndpointCard, hcard, signCard_eq, hroot]
  rfl

def hello : Hello := ⟨protocolVersion, tokenVersion, root, dialerRoot, nonce⟩

/-- The session that the transcript is of, with what the responder answers in it. -/
noncomputable def world : DialWorld where
  session := .ok (responderTls, exporter)
  nonce := nonce
  helloAnswer := okOr (helloAnswer env responder hello dialerTls exporter) .io
  completeAnswer := .ok (env.jsonText (ackJson true))

def imported : PeerImport := ⟨root, some "friend", "agent.example:443", 1, 0, none⟩

noncomputable def shown : IntroMaterial :=
  builtMaterial env.toEnv (transcript .responder) "local" "agent" cardSignature.signed
    (statementKeys identity) introNotBefore introNotAfter 0

theorem numsIn_cardJson : (cardJson cardSignature.signed).NumsIn IsNat := by
  repeat' first | exact trivial | refine ⟨?_, ?_⟩

theorem helloAnswer_read : ∃ bytes, helloAnswer env responder hello dialerTls exporter = some bytes ∧
    (env.parseJson bytes).bind (IntroMaterial.ofJson env) = some shown := by
  have hbuild : responder.build env (introTranscript .responder hello.claimedRoot responder.ownRoot
      dialerTls responder.certSha256 exporter hello.nonce) = .ok shown :=
    buildIntroMaterial_eq (ownKeys_statementKeys sound).own
  obtain ⟨v, hv⟩ : ∃ v, shown.json env = some v := ⟨_, rfl⟩
  have hread : env.parseJson (jsonText v) = some v := by
    have hproofs : Json.NumsInMembers IsNat (shown.proofs.map (fun p => (p.1, .str p.2))) := by
      refine Json.numsInMembers_iff.2 (fun f hf => ?_)
      obtain ⟨p, -, rfl⟩ := mem_map.1 hf
      exact trivial
    cases hv
    exact Json.readBack_encode numText_intText_isNat
      ⟨KeyBindingSet.numsIn_json _, numsIn_cardJson, hproofs, trivial⟩
  have hcard : (env.cardJson cardSignature.signed).bind env.parseCard = some cardSignature.signed := by
    have hfind : (cardSignatures.map CardSignature.signed).find?
        (fun card => cardJson card = cardJson cardSignature.signed) = some cardSignature.signed :=
      find?_cons_of_pos (by simp)
    have hjson : env.cardJson cardSignature.signed = some (cardJson cardSignature.signed) := by
      simp only [env]
    rw [hjson, bind_some, ← hfind]
    simp only [env]
  refine ⟨jsonText v, ?_, ?_⟩
  · have htext : env.jsonText = jsonText := by simp only [env]
    rw [helloAnswer, hbuild]
    dsimp only
    rw [hv, map_some, htext]
  · rw [hread, bind_some]
    exact IntroMaterial.ofJson_json hv hcard (sortByName_sortByName _)

theorem verifyCard_signed : verifyCard env cardSignature.signed
    ((identity.purposeKey .agentCard).verifying env.toEnv) = .ok () :=
  verifyCard_of_signCard payloadUnsigned signCard_eq (fun payload _ => signsDetached payload)

theorem presentable {card : AgentCard} (h : validateAgentCard requiredExtensionUris card = .ok ()) :
    Presentable (transcript .responder) "local" "agent" introNotBefore introNotAfter 0
      requiredExtensionUris card :=
  ⟨by decide, by decide, by decide, by decide, by decide, by decide, h⟩

theorem profile_signed : validateAgentCard requiredExtensionUris cardSignature.signed = .ok () :=
  validateAgentCard_eq_ok_iff.2 ((cardViolations_endpointCard _ _ _).2 (by decide))

/-- What the endpoint shows for the transcript is accepted from 2020 until 2035. -/
theorem verified_shown_iff (now : Int) :
    (∃ verified, verifyIntroduction env root (transcript .responder) responderTls shown
        requiredExtensionUris now = .ok verified) ↔
      1577836800000000000 ≤ now ∧ now < 2051222400000000000 := by
  have hroot : thumbprint env.toEnv (env.publicKey (identity.purposeKey .agentCard).secret) = root :=
    thumbprint_secret (by decide)
  rw [← hroot]
  exact (verifyIntroduction_built_iff (ownKeys_statementKeys sound)
    (agentCard_mem_statementKeys identity) (fun k hk => sound.proves k hk _) verifyCard_signed).trans
    ⟨fun h => (inWindow_iff now).1 h.2, fun h => ⟨presentable profile_signed, (inWindow_iff now).2 h⟩⟩

theorem exists_dialed : ∃ identity keys,
    dialVerify env dialer imported world 1767225600000000000 = .ok (identity, keys) := by
  obtain ⟨bytes, hanswer, hread⟩ := helloAnswer_read
  obtain ⟨verified, hverified⟩ := (verified_shown_iff 1767225600000000000).2 (by decide)
  obtain ⟨peer, hpeer⟩ := exists_peerIdentityFrom sound
    (rfl : (env.cardJson cardSignature.signed).isSome = true)
    (verifyIntroduction_eq_ok_iff.1 hverified).2.binds
  have hack : (env.parseJson (env.jsonText (ackJson true))).bind (·.getBool? "ok") = some true := by
    have hread : env.parseJson (jsonText (ackJson true)) = some (ackJson true) :=
      Json.readBack_encode numText_intText_isNat ⟨trivial, trivial⟩
    exact congrArg (Option.bind · (·.getBool? "ok")) hread
  have hmine : ∃ mine, dialer.build env (transcript .dialer) = .ok mine :=
    ⟨_, buildIntroMaterial_eq (by simp [dialer])⟩
  obtain ⟨mine, hmine⟩ := hmine
  have hhello : world.helloAnswer = .ok bytes := by
    change okOr (helloAnswer env responder hello dialerTls exporter) IntroduceError.io = _
    exact okOr_eq_ok.2 hanswer
  simp only [dialVerify, bind_eq_ok, ensure_eq_ok, okOr_eq_ok, mapError_eq_ok, exists_const]
  exact ⟨peer, _, by decide, ("agent.example", 443), by decide, (responderTls, exporter), rfl, bytes,
    hhello, shown, hread, verified, hverified, mine, hmine, _, rfl, true, hack, rfl,
    peer, hpeer, rfl⟩

end Sample

end Akson
