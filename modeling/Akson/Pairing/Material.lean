/-
# The material of an honest endpoint

What an endpoint shows of itself: the record of its statement keys, its signed card, and a proof by
each key.
-/
import Akson.Lib.JsonOrder
import Akson.Pairing.Introduction

namespace Akson

open Option List

/-! ## Names of purposes -/

def KeyPurpose.name : KeyPurpose → String
  | .tlsEndpoint => "tls-endpoint"
  | .agentCard => "agent-card"
  | .contractProposal => "contract-proposal"
  | .contractDecision => "contract-decision"
  | .taskResult => "task-result"
  | .evidence => "evidence"
  | .requesterOutcome => "requester-outcome"
  | .localAuthority => "local-authority"

def KeyPurpose.all : List KeyPurpose :=
  [.tlsEndpoint, .agentCard, .contractProposal, .contractDecision, .taskResult, .evidence,
    .requesterOutcome, .localAuthority]

def KeyPurpose.ofName (s : String) : Option KeyPurpose :=
  KeyPurpose.all.find? (fun p => p.name = s)

def KeyPurpose.paired : List KeyPurpose :=
  [.tlsEndpoint, .agentCard, .contractProposal, .contractDecision, .taskResult, .evidence,
    .requesterOutcome]

theorem KeyPurpose.name_injective : Function.Injective KeyPurpose.name := by
  intro a b h
  cases a <;> cases b <;> first | rfl | exact absurd h (by decide)

/-! ## Building -/

def builtEntry (env : Env) (key : PurposeKey) (notBefore notAfter : String) (generation : ℕ) :
    KeyEntry :=
  let jwk := Ed25519PublicJwk.fromKey (env.publicKey key.secret)
  ⟨jwk, jwk.thumbprint env, generation, notBefore, notAfter⟩

def builtBinding (env : Env) (transcript : IntroTranscript) (issuer agent : String)
    (keys : List (KeyPurpose × PurposeKey)) (notBefore notAfter : String) (generation : ℕ) :
    KeyBindingSet where
  issuer := issuer
  agent := agent
  tlsCertificateSha256 := transcript.tlsOfSigner
  keys := keys.map (fun k => (k.1.name, builtEntry env k.2 notBefore notAfter generation))

def buildProofs (env : Env) (message : Bytes) :
    List (KeyPurpose × PurposeKey) → Except KeyError (List (String × String))
  | [] => .ok []
  | (purpose, key) :: keys => do
    let secret ← key.secretFor purpose
    let proofs ← buildProofs env message keys
    .ok ((purpose.name, base64Encode .urlSafeNoPad (env.signEd25519 secret message)) :: proofs)

def buildIntroMaterial (env : Env) (transcript : IntroTranscript) (issuer agent : String)
    (signedCard : AgentCard) (keys : List (KeyPurpose × PurposeKey)) (notBefore notAfter : String)
    (generation : ℕ) : Except IntroError IntroMaterial := do
  let keyBinding := (builtBinding env transcript issuer agent keys notBefore notAfter generation).json
  let proofs ← (buildProofs env ((transcript.bound env keyBinding).signingBytes env) keys).mapError
    .build
  .ok ⟨keyBinding, signedCard, sortByName proofs⟩

/-! ## Reading back -/

theorem KeyEntry.ofJson_json (e : KeyEntry) : KeyEntry.ofJson e.json = some e := by
  have hnat : e.json.getNat? "generation" = some e.generation := Json.nat?_natCast e.generation
  have hjwk : (e.json.get? "jwk").bind Ed25519PublicJwk.ofJson = some e.jwk := rfl
  simp only [KeyEntry.ofJson, hnat, hjwk, bind_eq_bind, bind_some]
  rfl

theorem readKeys_json (keys : List (String × KeyEntry)) :
    readKeys (.obj (keys.map (fun k => (k.1, k.2.json)))) = some (sortByName keys) := by
  have hmap : ∀ l : List (String × KeyEntry), (l.map (fun k => (k.1, k.2.json))).mapM
      (fun f => (KeyEntry.ofJson f.2).map (fun entry => (f.1, entry))) = some l := by
    intro l
    induction l with
    | nil => rfl
    | cons k l ih =>
      rw [map_cons, mapM_cons, ih, KeyEntry.ofJson_json]
      rfl
  rw [readKeys, hmap, map_some]

theorem KeyBindingSet.ofJson_json (b : KeyBindingSet) :
    KeyBindingSet.ofJson b.json = some { b with keys := sortByName b.keys } := by
  have hkeys : (b.json.get? "keys").bind readKeys = some (sortByName b.keys) := readKeys_json b.keys
  have htls : b.json.getStr? "tls_certificate_sha256" = some b.tlsCertificateSha256 := rfl
  have hsubject : b.json.get? "subject" =
      some (.obj [("issuer", .str b.issuer), ("agent", .str b.agent)]) := rfl
  simp only [KeyBindingSet.ofJson, hkeys, htls, hsubject, bind_eq_bind, bind_some]
  rfl

/-! ## Which records conform -/

theorem validJwk_json (jwk : Ed25519PublicJwk) :
    validJwk jwk.json = true ↔ jwk.kty = "OKP" ∧ jwk.crv = "Ed25519" ∧ isThumbprint jwk.x = true := by
  simp [validJwk, Ed25519PublicJwk.json, Json.record, Json.oneOf, Json.strWith]

theorem validKeyEntry_json (e : KeyEntry) :
    validKeyEntry e.json = true ↔ validJwk e.jwk.json = true ∧ isThumbprint e.thumbprint = true ∧
      e.generation ≤ 1000000 ∧ isRfc3339Utc e.notBefore = true ∧ isRfc3339Utc e.notAfter = true := by
  have hgeneration : Json.intIn 0 1000000 (.num e.generation) = true ↔ e.generation ≤ 1000000 := by
    rw [Json.intIn_natCast]
    simp
  simp [validKeyEntry, KeyEntry.json, Json.record, Json.strWith, hgeneration]

theorem validKeys_json (keys : List (String × KeyEntry)) :
    validKeys (.obj (keys.map (fun k => (k.1, k.2.json)))) = true ↔
      keys ≠ [] ∧ ∀ k ∈ keys, k.1 ∈ statementPurposes ∧ validKeyEntry k.2.json = true := by
  simp [validKeys, Json.record]

theorem validKeyBinding_json (b : KeyBindingSet) :
    validKeyBinding b.json = true ↔ Text.bounded 1 512 (fun _ => true) b.issuer = true ∧
      Text.bounded 1 512 (fun _ => true) b.agent = true ∧ isSha256Hex b.tlsCertificateSha256 = true ∧
      b.keys ≠ [] ∧ ∀ k ∈ b.keys, k.1 ∈ statementPurposes ∧ validKeyEntry k.2.json = true := by
  rw [← validKeys_json]
  have hversion : Json.intIn 1 1 (.num 1) = true := by decide
  simp [validKeyBinding, KeyBindingSet.json, Json.record, Json.strWith, hversion, and_assoc]

/-! ## What the other side makes of it -/

/-- The public key of a secret key is one, and so is its digest. -/
structure Env.HoldsKey (env : Env) (secret : Bytes) : Prop where
  length : (env.publicKey secret).length = 32
  point : env.isPublicKey (env.publicKey secret) = true
  digest : (env.sha256 (jwkText env (env.publicKey secret))).length = 32

/-- Keys of one endpoint, one for each purpose. -/
structure OwnKeys (env : Env) (keys : List (KeyPurpose × PurposeKey)) : Prop where
  own : ∀ k ∈ keys, k.2.purpose = k.1
  purposes : (keys.map Prod.fst).Nodup
  statement : ∀ k ∈ keys, k.1.name ∈ statementPurposes
  holds : ∀ k ∈ keys, env.HoldsKey k.2.secret
  distinct : (keys.map (fun k => thumbprint env (env.publicKey k.2.secret))).Nodup

def InWindow (env : PairingEnv) (notBefore notAfter : String) (now : Int) : Prop :=
  ∃ b a, env.parseNanos notBefore = some b ∧ env.parseNanos notAfter = some a ∧ b ≤ now ∧ now < a

theorem buildProofs_eq {env : Env} {message : Bytes} {keys : List (KeyPurpose × PurposeKey)}
    (hown : ∀ k ∈ keys, k.2.purpose = k.1) :
    buildProofs env message keys = .ok (keys.map (fun k =>
      (k.1.name, base64Encode .urlSafeNoPad (env.signEd25519 k.2.secret message)))) := by
  induction keys with
  | nil => rfl
  | cons k keys ih =>
    obtain ⟨purpose, key⟩ := k
    rw [forall_mem_cons] at hown
    rw [buildProofs, Except.bind_eq_ok]
    refine ⟨key.secret, PurposeKey.secretFor_eq_ok_iff.2 ⟨hown.1, rfl⟩, ?_⟩
    rw [ih hown.2]
    rfl

theorem lookupName_of_mem {α : Type} {members : List (String × α)} {name : String} {v : α}
    (hnames : (members.map Prod.fst).Nodup) (hv : (name, v) ∈ members) :
    lookupName members name = some v := by
  unfold lookupName
  cases hfind : members.find? (fun m => m.1 = name) with
  | none => exact absurd (find?_eq_none.1 hfind _ hv) (by simp)
  | some m =>
    have hname := find?_some hfind
    rw [decide_eq_true_eq] at hname
    have hsame := inj_on_of_nodup_map hnames (mem_of_find?_eq_some hfind) hv hname
    rw [map_some, hsame]

theorem mem_of_lookupName {α : Type} {members : List (String × α)} {name : String} {v : α}
    (h : lookupName members name = some v) : (name, v) ∈ members := by
  obtain ⟨m, hfind, rfl⟩ := map_eq_some_iff.1 h
  have hname := find?_some hfind
  rw [decide_eq_true_eq] at hname
  have hmem := mem_of_find?_eq_some hfind
  rwa [← hname]

theorem nodup_sortByName {α β : Type} {members : List (String × α)} (f : String × α → β)
    (h : (members.map f).Nodup) : ((sortByName members).map f).Nodup :=
  ((perm_insertionSort _ members).map f).nodup_iff.2 h

section Built

variable {env : PairingEnv} {transcript : IntroTranscript} {issuer agent : String}
  {signedCard : AgentCard} {keys : List (KeyPurpose × PurposeKey)} {notBefore notAfter : String}
  {generation : ℕ}

theorem names_nodup (hkeys : OwnKeys env.toEnv keys) : (keys.map (fun k => k.1.name)).Nodup := by
  have hmap := hkeys.purposes.map KeyPurpose.name_injective
  rwa [List.map_map] at hmap

theorem validAt_builtEntry_iff {key : PurposeKey} {now : Int} (hkey : env.HoldsKey key.secret) :
    (builtEntry env.toEnv key notBefore notAfter generation).ValidAt env now ↔
      InWindow env notBefore notAfter now := by
  constructor
  · rintro ⟨-, -, h⟩
    exact h
  · intro h
    exact ⟨⟨_, Ed25519PublicJwk.toKey_fromKey hkey.length hkey.point⟩, rfl, h⟩

theorem validKeyEntry_builtEntry_iff {key : PurposeKey} (hkey : env.HoldsKey key.secret) :
    validKeyEntry (builtEntry env.toEnv key notBefore notAfter generation).json = true ↔
      generation ≤ 1000000 ∧ isRfc3339Utc notBefore = true ∧ isRfc3339Utc notAfter = true := by
  rw [validKeyEntry_json, validJwk_json]
  constructor
  · rintro ⟨-, -, h⟩
    exact h
  · intro h
    exact ⟨⟨rfl, rfl, isThumbprint_base64Encode hkey.length⟩,
      isThumbprint_base64Encode hkey.digest, h⟩

/-- What a party shows can pass every check but the clock's. -/
structure Presentable (transcript : IntroTranscript) (issuer agent notBefore notAfter : String)
    (generation : ℕ) (requiredExtensions : List String) (signedCard : AgentCard) : Prop where
  issuer : Text.bounded 1 512 (fun _ => true) issuer = true
  agent : Text.bounded 1 512 (fun _ => true) agent = true
  certificate : isSha256Hex transcript.tlsOfSigner = true
  generation : generation ≤ 1000000
  notBefore : isRfc3339Utc notBefore = true
  notAfter : isRfc3339Utc notAfter = true
  profile : validateAgentCard requiredExtensions signedCard = .ok ()

def builtMaterial (env : Env) (transcript : IntroTranscript) (issuer agent : String)
    (signedCard : AgentCard) (keys : List (KeyPurpose × PurposeKey)) (notBefore notAfter : String)
    (generation : ℕ) : IntroMaterial :=
  let keyBinding := (builtBinding env transcript issuer agent keys notBefore notAfter generation).json
  ⟨keyBinding, signedCard, sortByName (keys.map (fun k => (k.1.name, base64Encode .urlSafeNoPad
    (env.signEd25519 k.2.secret ((transcript.bound env keyBinding).signingBytes env)))))⟩

theorem buildIntroMaterial_eq (hown : ∀ k ∈ keys, k.2.purpose = k.1) :
    buildIntroMaterial env.toEnv transcript issuer agent signedCard keys notBefore notAfter
        generation =
      .ok (builtMaterial env.toEnv transcript issuer agent signedCard keys notBefore notAfter
        generation) := by
  simp only [buildIntroMaterial, buildProofs_eq hown]
  rfl

theorem binds_built_iff {now : Int} {set : KeyBindingSet} (hkeys : OwnKeys env.toEnv keys) :
    BindsKeys env (builtBinding env.toEnv transcript issuer agent keys notBefore notAfter
        generation).json now set ↔
      set = { builtBinding env.toEnv transcript issuer agent keys notBefore notAfter generation with
        keys := sortByName (builtBinding env.toEnv transcript issuer agent keys notBefore notAfter
          generation).keys } ∧
      validKeyBinding (builtBinding env.toEnv transcript issuer agent keys notBefore notAfter
        generation).json = true ∧
      (keys ≠ [] → InWindow env notBefore notAfter now) := by
  constructor
  · rintro ⟨hconforms, hreads, hvalid, -⟩
    rw [KeyBindingSet.ofJson_json, some.injEq] at hreads
    refine ⟨hreads.symm, hconforms, fun hne => ?_⟩
    obtain ⟨k, rest, rfl⟩ := exists_cons_of_ne_nil hne
    have hmem : (k.1.name, builtEntry env.toEnv k.2 notBefore notAfter generation) ∈ set.keys := by
      rw [← hreads, mem_sortByName]
      exact mem_cons_self
    exact (validAt_builtEntry_iff (hkeys.holds k mem_cons_self)).1 (hvalid _ hmem)
  · rintro ⟨rfl, hconforms, hwindow⟩
    refine ⟨hconforms, KeyBindingSet.ofJson_json _, ?_, ?_⟩
    · intro entry hentry
      obtain ⟨k, hk, rfl⟩ := mem_map.1 (mem_sortByName.1 hentry)
      exact (validAt_builtEntry_iff (hkeys.holds k hk)).2 (hwindow (ne_nil_of_mem hk))
    · refine nodup_sortByName _ ?_
      rw [builtBinding, List.map_map]
      exact hkeys.distinct

theorem validKeyBinding_built_iff (hkeys : OwnKeys env.toEnv keys) (hne : keys ≠ []) :
    validKeyBinding (builtBinding env.toEnv transcript issuer agent keys notBefore notAfter
        generation).json = true ↔
      Text.bounded 1 512 (fun _ => true) issuer = true ∧
        Text.bounded 1 512 (fun _ => true) agent = true ∧
        isSha256Hex transcript.tlsOfSigner = true ∧ generation ≤ 1000000 ∧
        isRfc3339Utc notBefore = true ∧ isRfc3339Utc notAfter = true := by
  rw [validKeyBinding_json]
  constructor
  · rintro ⟨hissuer, hagent, htls, -, hentries⟩
    obtain ⟨k, rest, rfl⟩ := exists_cons_of_ne_nil hne
    have hentry := (hentries _ (mem_map_of_mem mem_cons_self)).2
    exact ⟨hissuer, hagent, htls,
      (validKeyEntry_builtEntry_iff (hkeys.holds k mem_cons_self)).1 hentry⟩
  · rintro ⟨hissuer, hagent, htls, hrest⟩
    refine ⟨hissuer, hagent, htls, by simpa [builtBinding] using hne, fun entry hentry => ?_⟩
    obtain ⟨k, hk, rfl⟩ := mem_map.1 hentry
    exact ⟨hkeys.statement k hk, (validKeyEntry_builtEntry_iff (hkeys.holds k hk)).2 hrest⟩

theorem proven_built {message : Bytes} (hkeys : OwnKeys env.toEnv keys)
    (hproves : ∀ k ∈ keys, env.Signs k.2.secret message) :
    ∀ entry ∈ sortByName (builtBinding env.toEnv transcript issuer agent keys notBefore notAfter
        generation).keys,
      Proven env.toEnv message (sortByName (keys.map (fun k =>
        (k.1.name, base64Encode .urlSafeNoPad (env.signEd25519 k.2.secret message))))) entry := by
  intro entry hentry
  obtain ⟨k, hk, rfl⟩ := mem_map.1 (mem_sortByName.1 hentry)
  have hkey := hkeys.holds k hk
  have hproof := hproves k hk
  have hnames : ((keys.map (fun k => (k.1.name, base64Encode .urlSafeNoPad
      (env.signEd25519 k.2.secret message)))).map Prod.fst).Nodup := by
    rw [List.map_map]
    exact names_nodup hkeys
  have hlookup := lookupName_of_mem (nodup_sortByName Prod.fst hnames)
    (mem_sortByName.2 (mem_map_of_mem hk))
  exact ⟨_, _, _, hlookup, base64Decode_base64Encode _ _, hproof.length,
    Ed25519PublicJwk.toKey_fromKey hkey.length hkey.point, hproof.verifies⟩

theorem verifyIntroduction_built_iff {cardKey : PurposeKey} {requiredExtensions : List String}
    {now : Int} (hkeys : OwnKeys env.toEnv keys) (hmem : (.agentCard, cardKey) ∈ keys)
    (hproves : ∀ k ∈ keys, env.Signs k.2.secret ((transcript.bound env.toEnv
      (builtBinding env.toEnv transcript issuer agent keys notBefore notAfter
        generation).json).signingBytes env.toEnv))
    (hcard : verifyCard env signedCard (cardKey.verifying env.toEnv) = .ok ()) :
    (∃ verified, verifyIntroduction env (thumbprint env.toEnv (env.publicKey cardKey.secret))
        transcript transcript.tlsOfSigner (builtMaterial env.toEnv transcript issuer agent signedCard
          keys notBefore notAfter generation) requiredExtensions now = .ok verified) ↔
      Presentable transcript issuer agent notBefore notAfter generation requiredExtensions
          signedCard ∧ InWindow env notBefore notAfter now := by
  have hne : keys ≠ [] := ne_nil_of_mem hmem
  constructor
  · rintro ⟨verified, hverified⟩
    obtain ⟨-, hintro⟩ := verifyIntroduction_eq_ok_iff.1 hverified
    obtain ⟨-, hconforms, hwindow⟩ := (binds_built_iff hkeys).1 hintro.binds
    obtain ⟨hissuer, hagent, htls, hgeneration, hnb, hna⟩ :=
      (validKeyBinding_built_iff hkeys hne).1 hconforms
    exact ⟨⟨hissuer, hagent, htls, hgeneration, hnb, hna, hintro.profile⟩, hwindow hne⟩
  · rintro ⟨hpresent, hwindow⟩
    have hconforms : validKeyBinding (builtBinding env.toEnv transcript issuer agent keys notBefore
        notAfter generation).json = true :=
      (validKeyBinding_built_iff hkeys hne).2 ⟨hpresent.issuer, hpresent.agent,
        hpresent.certificate, hpresent.generation, hpresent.notBefore, hpresent.notAfter⟩
    have hpurpose : cardKey.purpose = .agentCard := hkeys.own _ hmem
    have hverifying : cardKey.verifying env.toEnv = ⟨.agentCard, env.publicKey cardKey.secret⟩ := by
      rw [PurposeKey.verifying, hpurpose]
    have hkey := hkeys.holds _ hmem
    have hnames : ((builtBinding env.toEnv transcript issuer agent keys notBefore notAfter
        generation).keys.map Prod.fst).Nodup := by
      rw [builtBinding, List.map_map]
      exact names_nodup hkeys
    have hentry := lookupName_of_mem (nodup_sortByName Prod.fst hnames)
      (mem_sortByName.2 (mem_map_of_mem hmem))
    have hcertificate : Text.eqIgnoreAsciiCase transcript.tlsOfSigner transcript.tlsOfSigner = true :=
      decide_eq_true rfl
    refine ⟨⟨_, _⟩, verifyIntroduction_eq_ok_iff.2 ⟨rfl,
      (binds_built_iff hkeys).2 ⟨rfl, hconforms, fun _ => hwindow⟩, hcertificate,
      ⟨_, _, hentry, rfl, Ed25519PublicJwk.toKey_fromKey hkey.length hkey.point,
        hverifying ▸ hcard⟩, hpresent.profile, proven_built hkeys hproves, ?_⟩⟩
    intro p hp
    obtain ⟨k, hk, rfl⟩ := mem_map.1 (mem_sortByName.1 hp)
    exact ⟨_, mem_sortByName.2 (mem_map_of_mem hk), rfl⟩

end Built

end Akson
