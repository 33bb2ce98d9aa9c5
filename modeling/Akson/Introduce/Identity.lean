/-
# The identity that an introduction pins

Of a card, an identity keeps the URL of the first interface and two digests.
-/
import Akson.Introduce.Endpoint
import Akson.Introduce.Relationship
import Akson.Lib.JsonOrder

namespace Akson

open Except Option List

/-! ## Key bindings -/

theorem KeyEntry.eq_of_sortKeys_json {e e' : KeyEntry}
    (h : Json.sortKeys e.json = Json.sortKeys e'.json) : e = e' := by
  obtain ⟨⟨kty, crv, x⟩, thumbprint, generation, notBefore, notAfter⟩ := e
  obtain ⟨⟨kty', crv', x'⟩, thumbprint', generation', notBefore', notAfter'⟩ := e'
  have hjwk := Option.some.inj (Json.get?_of_sortKeys_eq h "jwk")
  obtain rfl : kty = kty' := Json.str.inj (Option.some.inj (Json.get?_of_sortKeys_eq hjwk "kty"))
  obtain rfl : crv = crv' := Json.str.inj (Option.some.inj (Json.get?_of_sortKeys_eq hjwk "crv"))
  obtain rfl : x = x' := Json.str.inj (Option.some.inj (Json.get?_of_sortKeys_eq hjwk "x"))
  obtain rfl : thumbprint = thumbprint' :=
    Json.str.inj (Option.some.inj (Json.get?_of_sortKeys_eq h "thumbprint"))
  obtain rfl : generation = generation' := Rat.natCast_inj.1
    (Json.num.inj (Option.some.inj (Json.get?_of_sortKeys_eq h "generation")))
  obtain rfl : notBefore = notBefore' :=
    Json.str.inj (Option.some.inj (Json.get?_of_sortKeys_eq h "not_before"))
  obtain rfl : notAfter = notAfter' :=
    Json.str.inj (Option.some.inj (Json.get?_of_sortKeys_eq h "not_after"))
  rfl

def KeyBindingSet.Ordered (b : KeyBindingSet) : Prop := b.keys.Pairwise (fun k l => k.1 < l.1)

theorem mem_keys_of_sortKeys {keys keys' : List (String × KeyEntry)}
    (h : Json.sortKeys (.obj (keys.map (fun k => (k.1, k.2.json)))) =
      Json.sortKeys (.obj (keys'.map (fun k => (k.1, k.2.json)))))
    {k : String × KeyEntry} (hk : k ∈ keys) : k ∈ keys' := by
  obtain ⟨w, hw, hsort⟩ := Json.exists_member_of_sortKeys_eq h (mem_map_of_mem hk)
  obtain ⟨k', hk', heq⟩ := mem_map.1 hw
  obtain ⟨hname, rfl⟩ := Prod.mk.inj heq
  rwa [Prod.ext hname.symm (KeyEntry.eq_of_sortKeys_json hsort)]

theorem KeyBindingSet.eq_of_sortKeys_json {b b' : KeyBindingSet} (hb : b.Ordered)
    (hb' : b'.Ordered) (h : Json.sortKeys b.json = Json.sortKeys b'.json) : b = b' := by
  obtain ⟨issuer, agent, tls, keys⟩ := b
  obtain ⟨issuer', agent', tls', keys'⟩ := b'
  have hsubject := Option.some.inj (Json.get?_of_sortKeys_eq h "subject")
  obtain rfl : issuer = issuer' :=
    Json.str.inj (Option.some.inj (Json.get?_of_sortKeys_eq hsubject "issuer"))
  obtain rfl : agent = agent' :=
    Json.str.inj (Option.some.inj (Json.get?_of_sortKeys_eq hsubject "agent"))
  obtain rfl : tls = tls' :=
    Json.str.inj (Option.some.inj (Json.get?_of_sortKeys_eq h "tls_certificate_sha256"))
  have hkeys := Option.some.inj (Json.get?_of_sortKeys_eq h "keys")
  -- both lists ascend, so having the same members they are one
  have hnodup : ∀ {l : List (String × KeyEntry)}, l.Pairwise (fun k l => k.1 < l.1) → l.Nodup :=
    fun hl => hl.imp (fun hlt heq => absurd (heq ▸ hlt) (lt_irrefl _))
  have hperm : keys.Perm keys' := (perm_ext_iff_of_nodup (hnodup hb) (hnodup hb')).2
    (fun k => ⟨mem_keys_of_sortKeys hkeys, mem_keys_of_sortKeys hkeys.symm⟩)
  obtain rfl : keys = keys' :=
    hperm.eq_of_pairwise (fun k l _ _ hkl hlk => absurd hlk (lt_asymm hkl)) hb hb'
  rfl

/-! ## What is compared -/

def cardField (card : Json) (name : String) : Json := (card.get? name).getD .null

def requiredUris (card : Json) : List String :=
  ((((card.get? "capabilities").bind (·.getArr? "extensions")).getD []).filter
    (fun e => (e.getBool? "required").getD false)).filterMap (·.getStr? "uri")

/-- Two cards and key bindings agree on what policy depends on: the key binding, with the issuer,
the subject, the certificate and the card key in it; the interfaces, the security schemes and
the security requirements, up to the order of members; and the required extensions, in any order. -/
structure SameSecurity (b b' : KeyBindingSet) (card card' : Json) : Prop where
  bindings : b = b'
  interfaces : (cardField card "supportedInterfaces").sortKeys =
    (cardField card' "supportedInterfaces").sortKeys
  schemes : (cardField card "securitySchemes").sortKeys =
    (cardField card' "securitySchemes").sortKeys
  requirements : (cardField card "securityRequirements").sortKeys =
    (cardField card' "securityRequirements").sortKeys
  extensions : (requiredUris card).Perm (requiredUris card')

theorem securityProjection_eq (card keyBinding : Json) : securityProjection card keyBinding =
    .obj [("supportedInterfaces", cardField card "supportedInterfaces"),
      ("securityRequirements", cardField card "securityRequirements"),
      ("securitySchemes", cardField card "securitySchemes"),
      ("requiredExtensions", .arr (((requiredUris card).insertionSort (· ≤ ·)).map .str)),
      ("keyBinding", keyBinding)] := rfl

theorem insertionSort_eq_iff_perm {l m : List String} :
    l.insertionSort (· ≤ ·) = m.insertionSort (· ≤ ·) ↔ l.Perm m := by
  have hl := l.perm_insertionSort (· ≤ ·)
  have hm := m.perm_insertionSort (· ≤ ·)
  constructor
  · intro h
    exact hl.symm.trans (h ▸ hm)
  · intro h
    exact Perm.eq_of_pairwise' (l.pairwise_insertionSort _) (m.pairwise_insertionSort _)
      (hl.trans (h.trans hm.symm))

theorem sortKeys_securityProjection_iff {b b' : KeyBindingSet} {card card' : Json}
    (hb : b.Ordered) (hb' : b'.Ordered) :
    Json.sortKeys (securityProjection card b.json) =
        Json.sortKeys (securityProjection card' b'.json) ↔ SameSecurity b b' card card' := by
  have hstrs : ∀ l : List String, Json.sortKeys (.arr (l.map .str)) = .arr (l.map .str) := by
    intro l
    rw [Json.sortKeys, Json.sortKeysElems_eq_map, List.map_map]
    rfl
  rw [securityProjection_eq, securityProjection_eq]
  constructor
  · intro h
    have hget := fun name => Json.get?_of_sortKeys_eq h name
    have huris := Option.some.inj (hget "requiredExtensions")
    rw [hstrs, hstrs, Json.arr.injEq, (map_injective_iff.2 fun _ _ => Json.str.inj).eq_iff,
      insertionSort_eq_iff_perm] at huris
    exact ⟨KeyBindingSet.eq_of_sortKeys_json hb hb' (Option.some.inj (hget "keyBinding")),
      Option.some.inj (hget "supportedInterfaces"), Option.some.inj (hget "securitySchemes"),
      Option.some.inj (hget "securityRequirements"), huris⟩
  · rintro ⟨rfl, hinterfaces, hschemes, hrequirements, hextensions⟩
    rw [insertionSort_eq_iff_perm.2 hextensions]
    simp only [Json.sortKeys, Json.sortKeysMembers, hinterfaces, hschemes, hrequirements]

/-! ## Changes -/

/-- What is pinned, and where it is read from. -/
structure PinnedFrom (env : PairingEnv) (b : KeyBindingSet) (v : Json) (i : PeerIdentity) :
    Prop where
  issuer : i.issuer = some b.issuer
  agent : i.agentId = b.agent
  endpoint : i.endpointId =
    (((v.getArr? "supportedInterfaces").bind List.head?).bind (·.getStr? "url")).getD ""
  certificate : i.tlsCert = ⟨.certSha256, b.tlsCertificateSha256⟩
  cardKey : i.agentCardKey =
    ⟨.jwk7638, ((lookupName b.keys "agent-card").map KeyEntry.thumbprint).getD ""⟩
  keys : keyBindingsFrom b.keys = .ok i.keyBindings
  projection : i.securityProjectionDigest =
    jsonSha256 env.toEnv (securityProjection v b.json)

theorem pinnedFrom_of_ok {env : PairingEnv} {b : KeyBindingSet} {card : AgentCard} {v : Json}
    {i : PeerIdentity} (hv : env.cardJson card = some v)
    (hi : peerIdentityFrom env b card = .ok i) : PinnedFrom env b v i := by
  simp only [peerIdentityFrom, bind_eq_ok, okOr_eq_ok] at hi
  obtain ⟨w, hw, bound, hbound, hi⟩ := hi
  cases hv.symm.trans hw
  cases hi
  exact ⟨rfl, rfl, rfl, rfl, rfl, hbound, rfl⟩

theorem detectChange_eq_none_iff {i i' : PeerIdentity} : detectChange i i' = none ↔
    i.issuer = i'.issuer ∧ i.tlsCert = i'.tlsCert ∧ i.agentCardKey = i'.agentCardKey ∧
      i.keyBindings = i'.keyBindings ∧
      i.securityProjectionDigest = i'.securityProjectionDigest := by
  have hsame : ∀ a b : Fingerprint, a.sameAs b = decide (a = b) := by
    rintro ⟨kind, value⟩ ⟨kind', value'⟩
    simp [Fingerprint.sameAs]
  simp only [detectChange, hsame, Bool.not_eq_true', decide_eq_false_iff_not]
  split_ifs <;> simp_all
  tauto

theorem commit_suspends_iff {root : String} {live : PeerImport} {row : PeerRow} {peer : StoredPeer}
    {keys : List (String × Bytes)} {now : Time} {s : Store}
    (hlive : s.peerImport root = some live) (hrow : s.peerRow root = some row) :
    (∃ reason s', commitIntroducedPeer root live.epoch peer keys now s =
        .ok (.suspended (SuspendReason.name reason), s')) ↔
      reintroduction row.record.identity peer.identity ≠ none := by
  have hpin : ∀ reason s', pinPeer root peer keys now true s ≠
      .ok (.suspended (SuspendReason.name reason), s') := by
    intro reason s' h
    simp only [pinPeer, bind_eq_ok] at h
    obtain ⟨_, -, _, -, h⟩ := h
    cases h
  unfold commitIntroducedPeer
  simp only [hlive, hrow, Store.getPeerByRoot, Store.peerStatusByRoot, map_some, ne_eq,
    not_true_eq_false, if_false]
  cases hreason : reintroduction row.record.identity peer.identity with
  | some reason => simp
  | none =>
    simp only [not_true_eq_false, iff_false]
    rintro ⟨reason, s', h⟩
    split at h
    case h_1 => cases reason <;> simp [SuspendReason.name] at h
    case h_2 => exact hpin reason s' h

/-! ## The pinned endpoint -/

def PairingEnv.MapsUrls (env : PairingEnv) : Prop :=
  ∀ card v, env.cardJson card = some v →
    ((v.getArr? "supportedInterfaces").getD []).map (fun i => (i.getStr? "url").getD "") =
      card.supportedInterfaces.map AgentInterface.url

theorem endpointId_eq {env : PairingEnv} (hmaps : env.MapsUrls) {b : KeyBindingSet}
    {card : AgentCard} {i : PeerIdentity} (hi : peerIdentityFrom env b card = .ok i) :
    i.endpointId = (card.supportedInterfaces.head?.map AgentInterface.url).getD "" := by
  obtain ⟨v, hv, -⟩ := bind_eq_ok.1 hi
  rw [okOr_eq_ok] at hv
  rw [(pinnedFrom_of_ok hv hi).endpoint, ← head?_map, ← hmaps card v hv, head?_map]
  cases hlist : v.getArr? "supportedInterfaces" with
  | none => rfl
  | some list =>
    cases list with
    | nil => rfl
    | cons first rest => simp

/-- The card of accepted material lists an interface that conforms to the profile; the URL that is
pinned is that of one exactly if the first URL on the list is. -/
theorem pinned_endpoint_conforms_iff (env : PairingEnv) (hmaps : env.MapsUrls)
    {expectedRoot subjectTls : String} {transcript : IntroTranscript} {material : IntroMaterial}
    {requiredExtensions : List String} {now : Int} {verified : VerifiedIntroduction}
    {identity : PeerIdentity}
    (h : verifyIntroduction env expectedRoot transcript subjectTls material requiredExtensions now =
      .ok verified)
    (hi : peerIdentityFrom env verified.bindings material.extendedCard = .ok identity) :
    (∃ i ∈ material.extendedCard.supportedInterfaces, i.isV1 = true) ∧
      ((∃ i ∈ material.extendedCard.supportedInterfaces, i.isV1 = true ∧
          identity.endpointId = i.url) ↔
        ∃ i ∈ material.extendedCard.supportedInterfaces, i.isV1 = true ∧
          material.extendedCard.supportedInterfaces.head?.map AgentInterface.url = some i.url) := by
  have hprofile := validateAgentCard_eq_ok_iff.1 (verifyIntroduction_eq_ok_iff.1 h).2.profile
  have hlists : material.extendedCard.supportedInterfaces.any AgentInterface.isV1 = true := by
    by_contra hnone
    simp [cardViolations, hnone] at hprofile
  rw [List.any_eq_true] at hlists
  refine ⟨hlists, exists_congr fun i => and_congr_right fun hmem => and_congr_right fun _ => ?_⟩
  rw [endpointId_eq hmaps hi]
  cases hcard : material.extendedCard.supportedInterfaces with
  | nil => simp [hcard] at hmem
  | cons first rest => simp

namespace Sample

theorem mapsUrls : env.MapsUrls := by
  rintro card v hv
  cases hv
  change (card.supportedInterfaces.map _).map _ = _
  rw [List.map_map]
  rfl

/-- The card with a plain interface in front is accepted. -/
theorem exists_pinned : ∃ material verified peer,
    material.extendedCard.supportedInterfaces = plainFirst.supportedInterfaces ∧
    verifyIntroduction env (thumbprint env.toEnv (env.publicKey (secret 1))) (transcript .responder)
      responderTls material requiredExtensionUris 1767225600000000000 = .ok verified ∧
    peerIdentityFrom env verified.bindings material.extendedCard = .ok peer := by
  obtain ⟨sig, -, hcard⟩ := exists_signCard payloadUnsigned sound
    (rfl : (env.cardJson plainFirst).isSome = true)
  have hprofile : validateAgentCard requiredExtensionUris
      { plainFirst with signatures := plainFirst.signatures ++ [sig] } = .ok () := rfl
  obtain ⟨verified, hverified⟩ := (verifyIntroduction_built_iff (ownKeys_statementKeys sound)
    (agentCard_mem_statementKeys identity) (fun k hk => sound.proves k hk _) hcard).2
    ⟨presentable hprofile, (inWindow_iff 1767225600000000000).2 (by decide)⟩
  obtain ⟨peer, hpeer⟩ := exists_peerIdentityFrom sound
    (rfl : (env.cardJson { plainFirst with signatures := plainFirst.signatures ++ [sig] }).isSome =
      true) (verifyIntroduction_eq_ok_iff.1 hverified).2.binds
  exact ⟨_, verified, peer, rfl, hverified, hpeer⟩

end Sample

/-- A card that lists a plain interface first is accepted, and the plain URL is pinned. -/
theorem plain_endpoint_pinned : ∃ material verified identity,
    verifyIntroduction Sample.env (thumbprint Sample.env.toEnv
        (Sample.env.publicKey (Sample.secret 1))) (Sample.transcript .responder)
      Sample.responderTls material requiredExtensionUris 1767225600000000000 = .ok verified ∧
    peerIdentityFrom Sample.env verified.bindings material.extendedCard = .ok identity ∧
    identity.endpointId = "http://agent.example/rpc" ∧
    ¬ ∃ i ∈ material.extendedCard.supportedInterfaces, i.isV1 = true ∧
      identity.endpointId = i.url := by
  obtain ⟨material, verified, identity, hlist, hverified, hi⟩ := Sample.exists_pinned
  have hendpoint := endpointId_eq Sample.mapsUrls hi
  rw [hlist] at hendpoint
  refine ⟨material, verified, identity, hverified, hi, hendpoint, ?_⟩
  rw [hlist, hendpoint]
  decide

theorem pinned_endpoint_conforms_iff_plain : ∃ material verified identity,
    verifyIntroduction Sample.env (thumbprint Sample.env.toEnv
        (Sample.env.publicKey (Sample.secret 1))) (Sample.transcript .responder)
      Sample.responderTls material requiredExtensionUris 1767225600000000000 = .ok verified ∧
    peerIdentityFrom Sample.env verified.bindings material.extendedCard = .ok identity ∧
    ∃ i ∈ material.extendedCard.supportedInterfaces, i.isV1 = true := by
  obtain ⟨material, verified, identity, -, hverified, hi⟩ := Sample.exists_pinned
  exact ⟨material, verified, identity, hverified, hi,
    (pinned_endpoint_conforms_iff Sample.env Sample.mapsUrls hverified hi).1⟩

/-! ## What a change is -/

/-- The identities of two cards and key bindings differ in a way that suspends exactly if the cards
and bindings do not agree on what policy depends on, whatever else the cards say. -/
theorem changes_are_security_changes (env : PairingEnv) {P : Rat → Prop}
    (hnum : Json.NumText env.fmtNum P) {b b' : KeyBindingSet} {card card' : AgentCard}
    {v v' : Json} {i i' : PeerIdentity} (hb : b.Ordered) (hb' : b'.Ordered)
    (hv : env.cardJson card = some v) (hv' : env.cardJson card' = some v')
    (hn : (securityProjection v b.json).NumsIn P) (hn' : (securityProjection v' b'.json).NumsIn P)
    (hsha : env.sha256 (Json.canonicalBytes env.fmtNum (securityProjection v b.json)) =
        env.sha256 (Json.canonicalBytes env.fmtNum (securityProjection v' b'.json)) →
      Json.canonicalBytes env.fmtNum (securityProjection v b.json) =
        Json.canonicalBytes env.fmtNum (securityProjection v' b'.json))
    (hi : peerIdentityFrom env b card = .ok i) (hi' : peerIdentityFrom env b' card' = .ok i') :
    (detectChange i i' = none ↔ SameSecurity b b' v v') ∧
      ∀ root live row peer keys now s, Store.peerImport s root = some live →
        s.peerRow root = some row → row.record.identity = i → StoredPeer.identity peer = i' →
        ((∃ reason s', commitIntroducedPeer root live.epoch peer keys now s =
          .ok (.suspended (SuspendReason.name reason), s')) ↔ ¬ SameSecurity b b' v v') := by
  have hp := pinnedFrom_of_ok hv hi
  have hp' := pinnedFrom_of_ok hv' hi'
  have hdetect : detectChange i i' = none ↔ SameSecurity b b' v v' := by
    rw [detectChange_eq_none_iff, ← sortKeys_securityProjection_iff hb hb']
    constructor
    · rintro ⟨-, -, -, -, hproj⟩
      rw [hp.projection, hp'.projection] at hproj
      exact Json.canonicalBytes_inj hnum hn hn' (hsha (hex_inj (Fingerprint.mk.inj hproj).2))
    · intro hsort
      obtain rfl := ((sortKeys_securityProjection_iff hb hb').1 hsort).bindings
      refine ⟨hp.issuer.trans hp'.issuer.symm, hp.certificate.trans hp'.certificate.symm,
        hp.cardKey.trans hp'.cardKey.symm, ok.inj (hp.keys.symm.trans hp'.keys), ?_⟩
      rw [hp.projection, hp'.projection, jsonSha256, jsonSha256, Json.canonicalBytes,
        Json.canonicalBytes, hsort]
  refine ⟨hdetect, ?_⟩
  intro root live row peer keys now s hlive hrow hrecord hpeer
  rw [commit_suspends_iff hlive hrow, hrecord, hpeer, ← hdetect, reintroduction]
  cases hchange : detectChange i i' with
  | some reason => simp
  | none =>
    -- the subject is part of the key binding, so its own check finds nothing more
    have hagent : i.agentId = i'.agentId := by
      rw [hp.agent, hp'.agent, (hdetect.1 hchange).bindings]
    simp [hagent]

namespace Sample

theorem ordered_bindings : (bindings .responder responderKeys).Ordered := by
  unfold KeyBindingSet.Ordered
  decide

theorem cardJson_eq (card : AgentCard) : env.cardJson card = some (cardJson card) := by
  simp only [env]

theorem numsIn_projection : (projection plainFirst).NumsIn IsNat := by
  refine ⟨?_, ?_, ?_, ?_, KeyBindingSet.numsIn_json _, trivial⟩
  · exact ⟨⟨trivial, trivial, trivial, trivial⟩, ⟨trivial, trivial, trivial, trivial⟩, trivial⟩
  · exact ⟨⟨⟨trivial, trivial⟩, trivial⟩, trivial⟩
  · exact ⟨⟨⟨trivial, trivial⟩, trivial⟩, trivial⟩
  · exact ⟨trivial, trivial, trivial, trivial, trivial, trivial⟩

end Sample

/-- A new description changes the digest of the card alone. -/
theorem changes_are_security_changes_described : ∃ i i',
    peerIdentityFrom Sample.env (Sample.bindings .responder Sample.responderKeys) Sample.plainFirst =
      .ok i ∧
    peerIdentityFrom Sample.env (Sample.bindings .responder Sample.responderKeys) Sample.renamed =
      .ok i' ∧ detectChange i i' = none := by
  have hidentity : ∀ card, ∃ i, peerIdentityFrom Sample.env
      (Sample.bindings .responder Sample.responderKeys) card = .ok i := by
    intro card
    rw [peerIdentityFrom, Sample.cardJson_eq]
    exact ⟨_, rfl⟩
  have hsame : Sample.projection Sample.plainFirst = Sample.projection Sample.renamed := rfl
  have hnums : (Sample.projection Sample.renamed).NumsIn IsNat := hsame ▸ Sample.numsIn_projection
  obtain ⟨i, hi⟩ := hidentity Sample.plainFirst
  obtain ⟨i', hi'⟩ := hidentity Sample.renamed
  obtain ⟨hdetect, -⟩ := changes_are_security_changes Sample.env numText_intText_isNat
    Sample.ordered_bindings Sample.ordered_bindings (Sample.cardJson_eq _)
    (Sample.cardJson_eq Sample.renamed) Sample.numsIn_projection hnums
    (fun _ => congrArg (Json.canonicalBytes Sample.env.fmtNum) hsame) hi hi'
  exact ⟨i, i', hi, hi', hdetect.2 ⟨rfl, rfl, rfl, rfl, .refl _⟩⟩

end Akson
