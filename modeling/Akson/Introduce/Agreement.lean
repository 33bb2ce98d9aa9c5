/-
# Agreement

What a commit says about the other side.  Signatures are ideal and an exporter belongs to one
session; the network and all the other roots are anybody's.
-/
import Akson.Introduce.System

namespace Akson

open Except Option List

/-! ## The premises -/

/-- What a key signed, and nothing else, verifies under it. -/
structure IdealSignatures (env : Env) where
  signed : Bytes → Bytes → Prop
  sound : ∀ key message signature, env.verifyStrict key message signature = true →
    signed key message

/-- Who takes part in which session, and the value that a session exports. -/
structure Sessions (Session : Type) where
  exporter : Session → Bytes
  unique : Function.Injective exporter
  takesPart : Bytes → Session → Role → Prop

section Premises

variable {env : Env} {Session : Type}

def Sessions.text (sessions : Sessions Session) (σ : Session) : String :=
  base64Encode .urlSafeNoPad (sessions.exporter σ)

/-- The key signs a transcript only in a session that its holder takes part in. -/
def SignsOwnSessions (sigs : IdealSignatures env) (sessions : Sessions Session) (key : Bytes) :
    Prop :=
  ∀ t : IntroTranscript, sigs.signed key (t.signingBytes env) →
    ∃ σ, sessions.takesPart key σ t.role ∧ t.tlsExporter = sessions.text σ

end Premises

/-! ## What a commit says -/

/-- The other side has signed for this session what is stored of it. -/
structure Agreement {Session : Type} (env : PairingEnv) (sigs : IdealSignatures env.toEnv)
    (sessions : Sessions Session) (transcript : IntroTranscript) (root : String)
    (identity : PeerIdentity) (keys : List (String × Bytes)) (keyBinding : Json)
    (bindings : KeyBindingSet) : Prop where
  reads : KeyBindingSet.ofJson keyBinding = some bindings
  pinned : ∃ card, peerIdentityFrom env bindings card = .ok identity
  pinnedKeys : keys = bindingKeys env.toEnv bindings
  /-- No key of the record is lost on the way. -/
  purposes : keys.map Prod.fst = bindings.keys.map Prod.fst
  certificate : Text.eqIgnoreAsciiCase bindings.tlsCertificateSha256 transcript.tlsOfSigner = true
  rootKey : ∃ jwk key, Ed25519PublicJwk.thumbprint env.toEnv jwk = root ∧
    jwk.toKey env.toEnv = .ok key ∧ ("agent-card", key) ∈ keys
  signed : ∀ k ∈ keys, sigs.signed k.2
    ((transcript.bound env.toEnv keyBinding).signingBytes env.toEnv)
  /-- The signed bytes are those of no other transcript. -/
  unique : ∀ t : IntroTranscript, t.signingBytes env.toEnv =
    (transcript.bound env.toEnv keyBinding).signingBytes env.toEnv →
      t = transcript.bound env.toEnv keyBinding
  /-- Who signs for its own sessions alone takes part in this one. -/
  session : ∀ σ, transcript.tlsExporter = sessions.text σ → ∀ k ∈ keys,
    SignsOwnSessions sigs sessions k.2 → sessions.takesPart k.2 σ transcript.role

section BindingKeys

variable {env : PairingEnv} {bindings : KeyBindingSet}

theorem mem_bindingKeys {purpose : String} {key : Bytes} :
    (purpose, key) ∈ bindingKeys env.toEnv bindings ↔
      ∃ entry, (purpose, entry) ∈ bindings.keys ∧ entry.jwk.toKey env.toEnv = .ok key := by
  unfold bindingKeys
  rw [mem_filterMap]
  constructor
  · rintro ⟨⟨p, entry⟩, hentry, hkey⟩
    dsimp only at hkey
    split at hkey
    case h_1 key' hkey' =>
      obtain ⟨rfl, rfl⟩ := Prod.mk.inj (some.inj hkey)
      exact ⟨entry, hentry, hkey'⟩
    case h_2 => cases hkey
  · rintro ⟨entry, hentry, hkey⟩
    refine ⟨(purpose, entry), hentry, ?_⟩
    dsimp only
    rw [hkey]

theorem purposes_bindingKeys {keys : List (String × KeyEntry)}
    (h : ∀ k ∈ keys, ∃ key, k.2.jwk.toKey env.toEnv = .ok key) :
    (bindingKeys env.toEnv { bindings with keys := keys }).map Prod.fst = keys.map Prod.fst := by
  induction keys with
  | nil => rfl
  | cons k keys ih =>
    rw [forall_mem_cons] at h
    obtain ⟨key, hkey⟩ := h.1
    have hcons : bindingKeys env.toEnv { bindings with keys := k :: keys } =
        (k.1, key) :: bindingKeys env.toEnv { bindings with keys := keys } := by
      simp only [bindingKeys, filterMap_cons, hkey]
    rw [hcons, map_cons, map_cons, ih h.2]

end BindingKeys

section Sound

variable {now : Int} {Session : Type} {env : PairingEnv} (sigs : IdealSignatures env.toEnv)
  (sessions : Sessions Session)

theorem Accepted.agreement (hnum : Json.NumText env.fmtNum IsNat) {root subjectTls : String}
    {transcript : IntroTranscript} {requiredExtensions : List String} {material : IntroMaterial}
    {bindings : KeyBindingSet} {identity : PeerIdentity}
    (h : Accepted env root transcript subjectTls requiredExtensions now material bindings identity)
    (htls : transcript.tlsOfSigner = subjectTls) :
    Agreement env sigs sessions transcript root identity (bindingKeys env.toEnv bindings)
      material.keyBinding bindings := by
  have hsigned : ∀ k ∈ bindingKeys env.toEnv bindings, sigs.signed k.2
      ((transcript.bound env.toEnv material.keyBinding).signingBytes env.toEnv) := by
    rintro ⟨purpose, key⟩ hk
    obtain ⟨entry, hentry, hkey⟩ := mem_bindingKeys.1 hk
    obtain ⟨_, signature, key', -, -, -, hkey', hverify⟩ := (h.introduces.proofs _ hentry).signature
    obtain rfl : key' = key := ok.inj (hkey'.symm.trans hkey)
    exact sigs.sound _ _ _ hverify
  have hunique : ∀ t : IntroTranscript, t.signingBytes env.toEnv =
      (transcript.bound env.toEnv material.keyBinding).signingBytes env.toEnv →
        t = transcript.bound env.toEnv material.keyBinding :=
    fun t ht => IntroTranscript.signingBytes_inj hnum ht
  obtain ⟨entry, key, hentry, hroot, hkey, -⟩ := h.introduces.card
  have hmem : ("agent-card", entry) ∈ bindings.keys := mem_of_lookupName hentry
  have hthumb : entry.jwk.thumbprint env.toEnv = root :=
    (h.introduces.binds.valid _ hmem).thumbprint.trans hroot
  refine
    { reads := h.introduces.binds.reads
      pinned := ⟨material.extendedCard, h.identity⟩
      pinnedKeys := rfl
      purposes := purposes_bindingKeys (fun k hk => (h.introduces.binds.valid k hk).key)
      certificate := by rw [htls]; exact h.introduces.certificate
      rootKey := ⟨entry.jwk, key, hthumb, hkey, mem_bindingKeys.2 ⟨entry, hmem, hkey⟩⟩
      signed := hsigned
      unique := hunique
      session := ?_ }
  intro σ hσ k hk hown
  -- the session for which the key signed has this exporter, so it is this session
  obtain ⟨τ, hpart, hτ⟩ := hown _ (hsigned k hk)
  have hexporter : sessions.text τ = sessions.text σ := hτ.symm.trans hσ
  obtain rfl := sessions.unique (base64Encode_inj hexporter)
  exact hpart

end Sound

/-! ## The result -/

/-- With ideal signatures and exporters that belong to one session:

* a request that changes the store answers the hello kept on its connection, and the root and the
  keys it brings are agreed with the dialer of this connection;
* a dial that gets to its commit is agreed with the responder of its session;
* what an honest endpoint builds for a transcript is accepted by the other side exactly if its
  settings are presentable and the time is in the interval it states. -/
theorem introductions_are_agreed {Session : Type} (env : PairingEnv) (me : IntroIdentity)
    (sigs : IdealSignatures env.toEnv) (sessions : Sessions Session)
    (hnum : Json.NumText env.fmtNum IsNat) :
    (∀ req slot s, (respondIntroduction env me req slot s).state.store ≠ s.store →
      ∃ hello epoch dialerTls exporter, ∃ a : Attempt, ∃ keyBinding bindings,
        slot = .pending hello epoch ∧ req.dialerTls = some dialerTls ∧ req.exporter = some exporter ∧
        (respondIntroduction env me req slot s).state.store = a.commit s.store ∧
        a.root = hello.claimedRoot ∧
        Agreement env sigs sessions (introTranscript .dialer hello.claimedRoot me.ownRoot
          dialerTls me.certSha256 exporter hello.nonce) a.root a.peer.identity a.keys keyBinding
          bindings) ∧
    (∀ imported world now identity keys,
      dialVerify env me imported world now = .ok (identity, keys) →
        ∃ responderTls exporter keyBinding bindings, world.session = .ok (responderTls, exporter) ∧
          Agreement env sigs sessions (introTranscript .responder me.ownRoot
            imported.rootThumbprint me.certSha256 responderTls exporter world.nonce)
            imported.rootThumbprint identity keys keyBinding bindings) ∧
    ∀ transcript issuer agent signedCard keys notBefore notAfter generation cardKey
      requiredExtensions now, OwnKeys env.toEnv keys → (.agentCard, cardKey) ∈ keys →
        (∀ k ∈ keys, ∀ message, env.Signs k.2.secret message) →
        verifyCard env signedCard (cardKey.verifying env.toEnv) = .ok () →
        ∃ material, buildIntroMaterial env.toEnv transcript issuer agent signedCard keys notBefore
            notAfter generation = .ok material ∧
          ((∃ verified, verifyIntroduction env (thumbprint env.toEnv (env.publicKey cardKey.secret))
              transcript transcript.tlsOfSigner material requiredExtensions now = .ok verified) ↔
            Presentable transcript issuer agent notBefore notAfter generation requiredExtensions
              signedCard ∧ InWindow env notBefore notAfter now) := by
  refine ⟨?_, ?_, ?_⟩
  · intro req slot s hchanged
    have hstore := store_respondIntroduction env me req slot s
    cases hattempt : requestAttempt env me req slot with
    | none =>
      rw [hattempt] at hstore
      exact absurd hstore hchanged
    | some a =>
      rw [hattempt] at hstore
      obtain ⟨dialerTls, exporter, htls, hexporter, hcomplete⟩ := requestAttempt_eq_some hattempt
      obtain ⟨hello, epoch, material, bindings, identity, hslot, haccepted, rfl⟩ :=
        completeAttempt_eq_some hcomplete
      exact ⟨hello, epoch, dialerTls, exporter, _, material.keyBinding, bindings, hslot, htls,
        hexporter, hstore, rfl, haccepted.agreement sigs sessions hnum rfl⟩
  · intro imported world now identity keys hdial
    obtain ⟨responderTls, exporter, material, bindings, hdialed, rfl⟩ := dialVerify_eq_ok hdial
    exact ⟨responderTls, exporter, material.keyBinding, bindings, hdialed.session,
      hdialed.accepted.agreement sigs sessions hnum rfl⟩
  · intro transcript issuer agent signedCard keys notBefore notAfter generation cardKey
      requiredExtensions now hkeys hmem hproves hcard
    exact ⟨_, buildIntroMaterial_eq hkeys.own,
      verifyIntroduction_built_iff hkeys hmem (fun k hk => hproves k hk _) hcard⟩

namespace Sample

def signatures : IdealSignatures env.toEnv where
  signed key message := ∃ signature, env.verifyStrict key message signature = true
  sound _ _ signature h := ⟨signature, h⟩

def sessions : Sessions Unit where
  exporter _ := exporter
  unique := Function.injective_of_subsingleton _
  takesPart key _ role := ∃ n ∈ numbers, key = verifying n ∧ (role = .dialer ↔ n = 7)

/-- A dial to the endpoint gets to its commit, agreed with the endpoint; and what the endpoint shows
is accepted a second before 2035. -/
theorem daemon_dialed_and_accepted :
    IntroIdentity.fromState env identity "local" "agent" interfaceUrl responderTls = .ok responder ∧
    (∃ peer keys keyBinding bindings,
      dialVerify env dialer imported world 1767225600000000000 = .ok (peer, keys) ∧
      Agreement env signatures sessions (transcript .responder) root peer keys keyBinding bindings) ∧
    ∃ material verified, responder.build env (transcript .responder) = .ok material ∧
      verifyIntroduction env (thumbprint env.toEnv (env.publicKey (identity.secret .agentCard)))
        (transcript .responder) responderTls material requiredExtensionUris 2051222399000000000 =
          .ok verified := by
  obtain ⟨-, hdialer, hhonest⟩ := introductions_are_agreed env dialer signatures sessions
    numText_intText_isNat
  refine ⟨fromState_eq, ?_, ?_⟩
  · obtain ⟨peer, keys, hdial⟩ := exists_dialed
    obtain ⟨tls, exported, keyBinding, bindings, hsession, hagreed⟩ :=
      hdialer imported world _ peer keys hdial
    cases hsession
    exact ⟨peer, keys, keyBinding, bindings, hdial, hagreed⟩
  · obtain ⟨material, hbuild, hiff⟩ := hhonest (transcript .responder) "local" "agent"
      cardSignature.signed (statementKeys identity) introNotBefore introNotAfter 0
      (identity.purposeKey .agentCard) requiredExtensionUris 2051222399000000000
      (ownKeys_statementKeys sound) (agentCard_mem_statementKeys identity) sound.proves
      verifyCard_signed
    obtain ⟨verified, hverified⟩ := hiff.2 ⟨presentable profile_signed, (inWindow_iff _).2
      (by decide)⟩
    exact ⟨material, verified, hbuild, hverified⟩

/-- From 2035 on, what the endpoint builds for the very transcript is refused. -/
theorem honest_material_refused : ∃ material,
    IntroIdentity.fromState env identity "local" "agent" interfaceUrl responderTls = .ok responder ∧
    responder.build env (transcript .responder) = .ok material ∧
    ∀ verified, verifyIntroduction env responder.ownRoot (transcript .responder) responderTls material
      requiredExtensionUris 2051222400000000000 ≠ .ok verified := by
  refine ⟨shown, fromState_eq, buildIntroMaterial_eq (ownKeys_statementKeys sound).own,
    fun verified hverified => ?_⟩
  exact absurd ((verified_shown_iff _).1 ⟨verified, hverified⟩).2 (by decide)

end Sample

end Akson
