/-
# What an introduction writes

`commitIntroducedPeer` ends in one of three ways: nothing is written, the status column of the
root's peer is set to suspended, or the peer is pinned.
-/
import Akson.Store.Peers

namespace Akson

open Except Option List Table

/-- The root's import is live at the epoch, and the peer pinned behind the root, if there is one,
is neither changed by the presented identity nor suspended: the commit pins. -/
structure Pins (root : String) (epoch : ℕ) (peer : StoredPeer) (s : Store) : Prop where
  imported : ∃ live, s.peerImport root = some live ∧ live.epoch = epoch
  unchanged : ∀ row, s.peerRow root = some row →
    reintroduction row.record.identity peer.identity = none
  trusted : ∀ row, s.peerRow root = some row → ∀ reason, row.status ≠ .suspended reason

/-- When a presented identity suspends the peer. -/
structure Suspends (root : String) (epoch : ℕ) (peer : StoredPeer) (reason : SuspendReason)
    (s : Store) : Prop where
  imported : ∃ live, s.peerImport root = some live ∧ live.epoch = epoch
  changed : ∃ row, s.peerRow root = some row ∧
    reintroduction row.record.identity peer.identity = some reason

variable {root : String} {epoch : ℕ} {peer : StoredPeer} {keys : List (String × Bytes)}
  {now : Time} {wasPinned : Bool} {s s' : Store} {out : IntroCommitOutcome}

theorem commitIntroducedPeer_cases
    (h : commitIntroducedPeer root epoch peer keys now s = .ok (out, s')) :
    (s' = s ∧ out ≠ .committed ∧ out ≠ .alreadyActive) ∨
    (∃ reason, Suspends root epoch peer reason s ∧ out = .suspended reason.name ∧
      s' = (setPeerStatus root (.suspended reason) s).auditAppend now "peer.suspended" root) ∨
    (Pins root epoch peer s ∧
      pinPeer root peer keys now (s.peerRow root).isSome s = .ok (out, s')) := by
  have hsame : ∀ {out' : IntroCommitOutcome},
      (Except.ok (out', s) : Except StoreError (IntroCommitOutcome × Store)) = .ok (out, s') →
        out' ≠ .committed → out' ≠ .alreadyActive →
          s' = s ∧ out ≠ .committed ∧ out ≠ .alreadyActive := by
    intro out' heq hc ha
    cases heq
    exact ⟨rfl, hc, ha⟩
  unfold commitIntroducedPeer at h
  split at h
  case h_1 => exact .inl (hsame h nofun nofun)
  case h_2 live hlive =>
    split at h
    case isTrue => exact .inl (hsame h nofun nofun)
    case isFalse hepoch =>
      have himported : ∃ live, s.peerImport root = some live ∧ live.epoch = epoch :=
        ⟨live, hlive, not_not.1 hepoch⟩
      cases hrow : s.peerRow root with
      | none =>
        rw [Store.getPeerByRoot, hrow] at h
        refine .inr (.inr ⟨⟨himported, ?_, ?_⟩, h⟩)
        · simp [hrow]
        · simp [hrow]
      | some row =>
        simp only [Store.getPeerByRoot, Store.peerStatusByRoot, hrow, map_some] at h
        split at h
        case h_1 reason hreason =>
          cases h
          exact .inr (.inl ⟨reason, ⟨himported, row, hrow, hreason⟩, rfl, rfl⟩)
        case h_2 hnone =>
          split at h
          case h_1 => exact .inl (hsame h nofun nofun)
          case h_2 htrusted =>
            refine .inr (.inr ⟨⟨himported, ?_, ?_⟩, h⟩)
            · intro row' hrow'
              obtain rfl : row = row' := some.inj (hrow.symm.trans hrow')
              exact hnone
            · intro row' hrow' reason hstatus
              obtain rfl : row = row' := some.inj (hrow.symm.trans hrow')
              exact htrusted reason (by rw [hstatus])

theorem commitIntroducedPeer_of_pins (h : Pins root epoch peer s) :
    commitIntroducedPeer root epoch peer keys now s =
      pinPeer root peer keys now (s.peerRow root).isSome s := by
  obtain ⟨live, hlive, hepoch⟩ := h.imported
  unfold commitIntroducedPeer
  simp only [hlive, hepoch, ne_eq, not_true_eq_false, if_false, Store.getPeerByRoot,
    Store.peerStatusByRoot]
  cases hrow : s.peerRow root with
  | none => rfl
  | some row =>
    simp only [map_some, h.unchanged row hrow, isSome_some]
    split
    case h_1 reason hstatus => exact absurd (some.inj hstatus) (h.trusted row hrow reason)
    case h_2 => rfl

/-! ## The rows of a pin -/

/-- Other roots' rows are as they were. -/
structure SameForOthers (root : String) (s s' : Store) : Prop where
  peers : s.peers.SameOutside (fun r => r.rootThumbprint = root) s'.peers
  peerKeys : s.peerKeys.SameOutside (fun r => r.rootThumbprint = root) s'.peerKeys
  autoApprove : s.autoApprove.SameOutside (fun r => r.rootThumbprint = root) s'.autoApprove

theorem SameForOthers.refl (root : String) (s : Store) : SameForOthers root s s :=
  ⟨.refl _ _, .refl _ _, .refl _ _⟩

theorem sameOutside_setPeerStatus (root : String) (status : PeerStatus) (s : Store) :
    s.peers.SameOutside (fun r => r.rootThumbprint = root) (setPeerStatus root status s).peers := by
  refine sameOutside_updateWhere (f := PeerRow.withStatus status) ?_ ?_
  · exact fun _ _ h => h
  · exact fun _ h => h

theorem exists_putPeerStatus (peer : StoredPeer) (status : PeerStatus) (s : Store)
    (hroot : peer.identity.agentCardKey.value ≠ "") : ∃ s', putPeerStatus peer status s = .ok s' := by
  unfold putPeerStatus
  dsimp only
  rw [if_neg hroot]
  split
  case h_1 => exact ⟨_, rfl⟩
  case h_2 hnone =>
    obtain ⟨a, hclash, hsame⟩ := clash_of_upsert_eq_none hnone
    exact absurd hclash (of_decide_eq_false hsame)

theorem sameOutside_putPeerStatus {status : PeerStatus} (h : putPeerStatus peer status s = .ok s')
    (hroot : peer.identity.agentCardKey.value = root) :
    s.peers.SameOutside (fun r => r.rootThumbprint = root) s'.peers := by
  subst hroot
  unfold putPeerStatus at h
  dsimp only at h
  split at h
  case isTrue => cases h
  case isFalse =>
    split at h
    case h_1 peers hpeers =>
      cases h
      exact sameOutside_upsert hpeers (fun _ _ ha => ha) (fun _ ha => ha) (by simp)
    case h_2 => cases h

def PeerKeyRow.SameAddress (new r : PeerKeyRow) : Prop :=
  r.tlsFingerprint = new.tlsFingerprint ∧ r.purpose = new.purpose

instance (new r : PeerKeyRow) : Decidable (new.SameAddress r) :=
  inferInstanceAs (Decidable (_ ∧ _))

theorem exists_putPeerKey (new : PeerKeyRow) (s : Store) :
    ∃ keys, putPeerKey new s = .ok { s with peerKeys := keys } ∧
      s.peerKeys.upsert (fun r => r.tlsFingerprint = new.tlsFingerprint ∧ r.purpose = new.purpose)
        (PeerKeyRow.withKey new) new = some keys := by
  unfold putPeerKey
  split
  case h_1 keys hkeys => exact ⟨keys, rfl, hkeys⟩
  case h_2 hnone =>
    obtain ⟨a, hclash, hsame⟩ := clash_of_upsert_eq_none hnone
    exact absurd hclash (of_decide_eq_false hsame)

theorem root_of_mem_putPeerKey {new : PeerKeyRow} (h : putPeerKey new s = .ok s')
    {r : PeerKeyRow} (hr : r ∈ s'.peerKeys) :
    (r ∈ s.peerKeys ∧ ¬ new.SameAddress r) ∨ r.rootThumbprint = new.rootThumbprint := by
  obtain ⟨keys, hput, hkeys⟩ := exists_putPeerKey new s
  obtain rfl := ok.inj (hput.symm.trans h)
  rcases of_mem_upsert hkeys hr with ⟨hmem, hsame⟩ | ⟨b, _, _, rfl⟩ | rfl
  · exact .inl ⟨hmem, of_decide_eq_false hsame⟩
  · exact .inr rfl
  · exact .inr rfl

theorem sameOutside_putPeerKey {new : PeerKeyRow}
    (h : putPeerKey new s = .ok s') (hroot : new.rootThumbprint = root)
    (hown : ∀ r ∈ s.peerKeys, new.SameAddress r → r.rootThumbprint = root) :
    s.peerKeys.SameOutside (fun r => r.rootThumbprint = root) s'.peerKeys := by
  obtain ⟨keys, hput, hkeys⟩ := exists_putPeerKey new s
  obtain rfl := ok.inj (hput.symm.trans h)
  refine sameOutside_upsert hkeys ?_ ?_ ?_
  · intro a ha hsame
    exact decide_eq_true (hown a ha (of_decide_eq_true hsame))
  · intro a _
    exact decide_eq_true hroot
  · exact decide_eq_true hroot

theorem exists_putPeerKeys (keys : List PeerKeyRow) (s : Store) :
    ∃ s', putPeerKeys keys s = .ok s' := by
  induction keys generalizing s with
  | nil => exact ⟨s, rfl⟩
  | cons key keys ih =>
    obtain ⟨peerKeys, hput, -⟩ := exists_putPeerKey key s
    obtain ⟨s', hrest⟩ := ih { s with peerKeys := peerKeys }
    exact ⟨s', bind_eq_ok.2 ⟨_, hput, hrest⟩⟩

theorem root_of_mem_putPeerKeys {keys : List PeerKeyRow}
    (h : putPeerKeys keys s = .ok s') (hkeys : ∀ key ∈ keys, key.rootThumbprint = root)
    {r : PeerKeyRow} (hr : r ∈ s'.peerKeys) :
    (r ∈ s.peerKeys ∧ ∀ key ∈ keys, ¬ key.SameAddress r) ∨ r.rootThumbprint = root := by
  induction keys generalizing s with
  | nil =>
    cases h
    exact .inl ⟨hr, nofun⟩
  | cons key keys ih =>
    obtain ⟨s₁, hkey, hrest⟩ := bind_eq_ok.1 h
    rcases ih hrest (fun k hk => hkeys k (mem_cons_of_mem _ hk)) with ⟨hmem, hne⟩ | hroot
    · rcases root_of_mem_putPeerKey hkey hmem with ⟨hold, hneq⟩ | hroot
      · refine .inl ⟨hold, ?_⟩
        intro k hk
        rcases mem_cons.1 hk with rfl | hk
        · exact hneq
        · exact hne k hk
      · exact .inr (hroot.trans (hkeys key mem_cons_self))
    · exact .inr hroot

theorem sameOutside_putPeerKeys {keys : List PeerKeyRow}
    (h : putPeerKeys keys s = .ok s') (hkeys : ∀ key ∈ keys, key.rootThumbprint = root)
    (hown : ∀ key ∈ keys, ∀ r ∈ s.peerKeys, key.SameAddress r → r.rootThumbprint = root) :
    s.peerKeys.SameOutside (fun r => r.rootThumbprint = root) s'.peerKeys := by
  induction keys generalizing s with
  | nil =>
    cases h
    exact .refl _ _
  | cons key keys ih =>
    obtain ⟨s₁, hkey, hrest⟩ := bind_eq_ok.1 h
    have hroot := hkeys key mem_cons_self
    refine (sameOutside_putPeerKey hkey hroot (hown key mem_cons_self)).trans ?_
    refine ih hrest (fun k hk => hkeys k (mem_cons_of_mem _ hk)) ?_
    intro k hk r hr haddr
    -- a row at the address of a later key is an old one, or the root's since this key
    rcases root_of_mem_putPeerKey hkey hr with ⟨hold, -⟩ | hnew
    · exact hown k (mem_cons_of_mem _ hk) r hold haddr
    · exact hnew.trans hroot

def introducedKeys (root : String) (peer : StoredPeer) (keys : List (String × Bytes))
    (now : Time) : List PeerKeyRow :=
  keys.map (fun key =>
    { tlsFingerprint := peer.identity.tlsCert.value, purpose := key.1,
      agentId := peer.identity.agentId, issuer := peer.identity.issuer.getD "",
      publicKey := key.2, updatedAt := now, rootThumbprint := root })

theorem root_of_mem_introducedKeys :
    ∀ key ∈ introducedKeys root peer keys now, key.rootThumbprint = root := by
  intro key hkey
  obtain ⟨k, -, rfl⟩ := mem_map.1 hkey
  rfl

theorem pinPeer_eq_ok_iff :
    pinPeer root peer keys now wasPinned s = .ok (out, s') ↔ ∃ s₁ s₂,
      putPeerStatus peer .active s = .ok s₁ ∧
      putPeerKeys (introducedKeys root peer keys now) (setPeerStatus root .active s₁) = .ok s₂ ∧
      out = (if wasPinned then .alreadyActive else .committed) ∧
      s' = s₂.auditAppend now "peer.introduced" root := by
  constructor
  · intro h
    obtain ⟨s₁, h₁, hrest⟩ := bind_eq_ok.1 h
    obtain ⟨s₂, h₂, hout⟩ := bind_eq_ok.1 hrest
    cases hout
    exact ⟨s₁, s₂, h₁, h₂, rfl, rfl⟩
  · rintro ⟨s₁, s₂, h₁, h₂, rfl, rfl⟩
    exact bind_eq_ok.2 ⟨s₁, h₁, bind_eq_ok.2 ⟨s₂, h₂, rfl⟩⟩

def OwnAddresses (root : String) (peer : StoredPeer) (keys : List (String × Bytes)) (s : Store) :
    Prop :=
  ∀ key ∈ keys, ∀ r ∈ s.peerKeys,
    r.tlsFingerprint = peer.identity.tlsCert.value → r.purpose = key.1 → r.rootThumbprint = root

instance (root : String) (peer : StoredPeer) (keys : List (String × Bytes)) (s : Store) :
    Decidable (OwnAddresses root peer keys s) :=
  inferInstanceAs (Decidable (∀ key ∈ keys, ∀ r ∈ s.peerKeys.rows, _ → _ → _))

theorem exists_pinPeer (hverified : peer.identity.agentCardKey.value = root) (hroot : root ≠ "")
    (keys : List (String × Bytes)) (now : Time) (wasPinned : Bool) (s : Store) :
    ∃ out s', pinPeer root peer keys now wasPinned s = .ok (out, s') := by
  obtain ⟨s₁, h₁⟩ := exists_putPeerStatus peer .active s (hverified ▸ hroot)
  obtain ⟨s₂, h₂⟩ := exists_putPeerKeys (introducedKeys root peer keys now)
    (setPeerStatus root .active s₁)
  exact ⟨_, _, pinPeer_eq_ok_iff.2 ⟨s₁, s₂, h₁, h₂, rfl, rfl⟩⟩

theorem root_ne_of_pinPeer (h : pinPeer root peer keys now wasPinned s = .ok (out, s'))
    (hverified : peer.identity.agentCardKey.value = root) : root ≠ "" := by
  rintro rfl
  obtain ⟨s₁, _, h₁, -⟩ := pinPeer_eq_ok_iff.1 h
  unfold putPeerStatus at h₁
  rw [if_pos hverified] at h₁
  cases h₁

theorem sameOutside_pinPeer (h : pinPeer root peer keys now wasPinned s = .ok (out, s'))
    (hverified : peer.identity.agentCardKey.value = root) :
    s.peers.SameOutside (fun r => r.rootThumbprint = root) s'.peers ∧
      s'.autoApprove = s.autoApprove := by
  obtain ⟨s₁, s₂, h₁, h₂, -, rfl⟩ := pinPeer_eq_ok_iff.1 h
  have hput := sameOutside_putPeerStatus h₁ hverified
  have hset := sameOutside_setPeerStatus root .active s₁
  obtain ⟨peers, rfl⟩ := putPeerStatus_eq h₁
  obtain ⟨peerKeys, rfl⟩ := putPeerKeys_eq h₂
  exact ⟨hput.trans hset, rfl⟩

theorem sameForOthers_pinPeer_iff (h : pinPeer root peer keys now wasPinned s = .ok (out, s'))
    (hverified : peer.identity.agentCardKey.value = root) :
    SameForOthers root s s' ↔ OwnAddresses root peer keys s := by
  obtain ⟨hpeers, happrove⟩ := sameOutside_pinPeer h hverified
  obtain ⟨s₁, s₂, h₁, h₂, -, rfl⟩ := pinPeer_eq_ok_iff.1 h
  obtain ⟨peers, rfl⟩ := putPeerStatus_eq h₁
  constructor
  · intro hsame key hkey r hr hfp hpurpose
    by_contra hother
    -- the row of the other root is still there, yet its address is the root's now
    have hkept : r ∈ s₂.peerKeys := (hsame.peerKeys r (decide_eq_false hother)).2 hr
    rcases root_of_mem_putPeerKeys h₂ root_of_mem_introducedKeys hkept with ⟨-, hne⟩ | hroot
    · exact hne _ (mem_map_of_mem hkey) ⟨hfp, hpurpose⟩
    · exact hother hroot
  · intro hown
    have hkeys := sameOutside_putPeerKeys h₂ root_of_mem_introducedKeys (by
      intro new hnew r hr haddr
      obtain ⟨key, hkey, rfl⟩ := mem_map.1 hnew
      exact hown key hkey r hr haddr.1 haddr.2)
    exact ⟨hpeers, hkeys, happrove ▸ .refl _ _⟩

/-- The commit of a verified introduction (its agent-card key is the root) leaves the rows of
every other root as they are, exactly if it does not pin over a key that another root has under the
TLS fingerprint presented. -/
theorem commit_keeps_other_roots_iff (root : String) (epoch : ℕ) (peer : StoredPeer)
    (keys : List (String × Bytes)) (now : Time) (s : Store)
    (hverified : peer.identity.agentCardKey.value = root) :
    (∀ out s', commitIntroducedPeer root epoch peer keys now s = .ok (out, s') →
      SameForOthers root s s') ↔
    (Pins root epoch peer s → root ≠ "" → OwnAddresses root peer keys s) := by
  constructor
  · intro hsame hpins hroot
    obtain ⟨out, s', hpin⟩ := exists_pinPeer hverified hroot keys now (s.peerRow root).isSome s
    have hcommit := (commitIntroducedPeer_of_pins hpins).trans hpin
    exact (sameForOthers_pinPeer_iff hpin hverified).1 (hsame out s' hcommit)
  · intro hown out s' hcommit
    rcases commitIntroducedPeer_cases hcommit with ⟨rfl, -⟩ | ⟨reason, -, -, rfl⟩ | ⟨hpins, hpin⟩
    · exact .refl _ _
    · exact ⟨sameOutside_setPeerStatus root _ s, .refl _ _, .refl _ _⟩
    · have hroot := root_ne_of_pinPeer hpin hverified
      exact (sameForOthers_pinPeer_iff hpin hverified).2 (hown hpins hroot)

/-! Two roots that present one certificate: the second one's commit takes the key row of the first
over. -/

def rootIdentity (root tls : String) : PeerIdentity where
  issuer := some "local"
  agentId := "agent"
  workloadId := none
  endpointId := "https://agent.example"
  tlsCert := ⟨.certSha256, tls⟩
  agentCardKey := ⟨.jwk7638, root⟩
  keyBindings := [⟨.agentCard, ⟨.jwk7638, root⟩⟩]
  securityProjectionDigest := ⟨.jsonSha256, "projection"⟩
  fullCardDigest := ⟨.jsonSha256, "card"⟩

def sampleKeyRow (root tls : String) : PeerKeyRow :=
  ⟨tls, "agent-card", "agent", "local", [0], 1700000000, root⟩

def pinnedStore : Store where
  peerImports := ⟨[⟨"root-b", some "b", "", 1, 1700000000, none⟩], pairwise_singleton _ _⟩
  peers := ⟨[⟨"root-a", "agent", ⟨rootIdentity "root-a" "tls-a", ""⟩, .active⟩],
    pairwise_singleton _ _⟩
  peerKeys := ⟨[sampleKeyRow "root-a" "tls-a"], pairwise_singleton _ _⟩

/-- Under a certificate of its own, `root-b` is pinned and `root-a` keeps its rows. -/
theorem own_certificate_keeps_key : ∃ s', commitIntroducedPeer "root-b" 1
      ⟨rootIdentity "root-b" "tls-b", ""⟩ [("agent-card", [1])] 1700000001 pinnedStore =
        .ok (.committed, s') ∧ SameForOthers "root-b" pinnedStore s' :=
  ⟨_, rfl, (commit_keeps_other_roots_iff "root-b" 1 ⟨rootIdentity "root-b" "tls-b", ""⟩
    [("agent-card", [1])] 1700000001 pinnedStore rfl).2 (fun _ _ => by decide) _ _ rfl⟩

/-- Under the certificate of `root-a`, the key row of `root-a` is lost. -/
theorem shared_certificate_takes_key : ∃ s', commitIntroducedPeer "root-b" 1
      ⟨rootIdentity "root-b" "tls-a", ""⟩ [("agent-card", [1])] 1700000001 pinnedStore =
        .ok (.committed, s') ∧ ¬ SameForOthers "root-b" pinnedStore s' := by
  refine ⟨_, rfl, fun hsame => ?_⟩
  have hkept := (hsame.peerKeys (sampleKeyRow "root-a" "tls-a") rfl).2 (by decide)
  exact absurd hkept (by decide)

end Akson
