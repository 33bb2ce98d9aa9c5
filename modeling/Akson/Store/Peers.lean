/-
# Imports, pinned peers and trusted time

The operator's imports bind local labels to identity roots; an introduction pins the peer behind a
root.
-/
import Akson.Store.Coord

namespace Akson

open Except Option Table

variable {s s' : Store} {root label hint : String} {now : Time} {out : ImportOutcome}
  {peer : StoredPeer} {f : PeerImport → PeerImport} {newLabel newEndpoint : Option String}
  {keys : List (String × Bytes)}

/-! ## Trusted time -/

def clockToleranceSecs : Int := 300

namespace Store

def trustedNow (wallClock : Time) (s : Store) : Except StoreError (Time × Store) :=
  let floor := s.trustedTime.getD wallClock
  if wallClock < floor - clockToleranceSecs then .error .timeUncertain
  else .ok (max wallClock floor,
    if floor < wallClock then { s with trustedTime := some wallClock } else s)

theorem trustedNow_eq {wallClock : Time} (h : s.trustedNow wallClock = .ok (now, s')) :
    ∃ floor, s' = { s with trustedTime := floor } := by
  unfold trustedNow at h
  dsimp only at h
  split at h
  case isTrue => cases h
  case isFalse =>
    simp only [ok.injEq, Prod.mk.injEq] at h
    rw [← h.2]
    split
    · exact ⟨_, rfl⟩
    · exact ⟨s.trustedTime, rfl⟩

/-! ## Imports -/

def peerImport (s : Store) (root : String) : Option PeerImport :=
  s.peerImports.find (fun r => r.rootThumbprint = root ∧ r.tombstonedAt = none)

def peerImportByLabel (s : Store) (label : String) : Option PeerImport :=
  s.peerImports.find (fun r => r.label = some label ∧ r.tombstonedAt = none)

def rootOf (s : Store) (label : String) : Option String :=
  (s.peerImportByLabel label).map PeerImport.rootThumbprint

end Store

/-- What became of an import. -/
inductive ImportOutcome where
  | added
  | updated
  | duplicateRoot
  | labelTaken
  | unknownRoot

def setImport (f : PeerImport → PeerImport) (root : String) (s : Store) :
    Except StoreError Store :=
  match s.peerImports.updateChecked (fun r => r.rootThumbprint = root) f with
  | some imports => .ok { s with peerImports := imports }
  | none => .error .db

def setImportIf (value : Option String) (f : String → PeerImport → PeerImport) (root : String)
    (s : Store) : Except StoreError Store :=
  match value with
  | some v => setImport (f v) root s
  | none => .ok s

def labelHeld (s : Store) (label root : String) : Bool :=
  match s.peerImports.find (fun r => r.label = some label) with
  | some holder => holder.rootThumbprint ≠ root
  | none => false

def addPeerImport (root label endpointHint : String) (now : Time) (s : Store) :
    Except StoreError (ImportOutcome × Store) :=
  let existing := s.peerImports.find (fun r => r.rootThumbprint = root)
  if existing.any (fun r => r.tombstonedAt = none) then .ok (.duplicateRoot, s)
  else if labelHeld s label root then .ok (.labelTaken, s)
  else if existing.isSome then do
    let s ← setImport (fun r => { r with
      label := some label, endpointHint := endpointHint, addedAt := now,
      tombstonedAt := none }) root s
    .ok (.added, s)
  else do
    let imports ← insertRow s.peerImports ⟨root, some label, endpointHint, 1, now, none⟩
    .ok (.added, { s with peerImports := imports })

def updatePeerImport (root : String) (newLabel newEndpoint : Option String) (s : Store) :
    Except StoreError (ImportOutcome × Store) :=
  if (s.peerImport root).isNone then .ok (.unknownRoot, s)
  else if newLabel.any (fun label => labelHeld s label root) then .ok (.labelTaken, s)
  else do
    let s ← setImportIf newLabel (fun label r => { r with label := some label }) root s
    let s ← setImportIf newEndpoint (fun endpoint r => { r with endpointHint := endpoint }) root s
    .ok (.updated, s)

def PeerImport.tombstone (now : Time) (r : PeerImport) : PeerImport :=
  { r with tombstonedAt := some now, epoch := r.epoch + 1, label := none }

theorem PeerImport.tombstone_keepsKey (now : Time) : Row.KeepsKey (PeerImport.tombstone now) := by
  rintro a b (h | ⟨h, -⟩)
  · exact .inl h
  · cases h

def liveImport (root : String) (r : PeerImport) : Bool :=
  r.rootThumbprint = root ∧ r.tombstonedAt = none

def removePeerImport (root : String) (now : Time) (s : Store) : Bool × Store :=
  (s.peerImports.count (liveImport root) = 1, { s with
    peerImports := s.peerImports.updateWhere (liveImport root) (PeerImport.tombstone now)
      (PeerImport.tombstone_keepsKey now) })

def removeRelationship (root : String) (now : Time) (s : Store) : Bool × Store :=
  match removePeerImport root now s with
  | (false, s) => (false, s)
  | (true, s) =>
    let behind : String → Bool := fun r => r = root ∧ r ≠ ""
    (true, ({ s with
      peers := s.peers.deleteWhere (fun r => behind r.rootThumbprint)
      peerKeys := s.peerKeys.deleteWhere (fun r => behind r.rootThumbprint)
      autoApprove := s.autoApprove.deleteWhere (fun r => behind r.rootThumbprint) } :
      Store).auditAppend now "peer.removed" root)

/-! ## Pinned peers -/

def Fingerprint.sameAs (a b : Fingerprint) : Bool :=
  a.kind = b.kind ∧ a.value = b.value

def detectChange (pinned presented : PeerIdentity) : Option SuspendReason :=
  if pinned.issuer ≠ presented.issuer then some .issuerChanged
  else if !pinned.tlsCert.sameAs presented.tlsCert then some .endpointChanged
  else if !pinned.agentCardKey.sameAs presented.agentCardKey ∨
      pinned.keyBindings ≠ presented.keyBindings then some .keyChanged
  else if !pinned.securityProjectionDigest.sameAs presented.securityProjectionDigest then
    some .projectionChanged
  else none

def SuspendReason.asStr : SuspendReason → String
  | .issuerChanged => "issuer"
  | .endpointChanged => "endpoint"
  | .keyChanged => "key"
  | .projectionChanged => "projection"
  | .subjectChanged => "subject"

def SuspendReason.name : SuspendReason → String
  | .issuerChanged => "IssuerChanged"
  | .endpointChanged => "EndpointChanged"
  | .keyChanged => "KeyChanged"
  | .projectionChanged => "ProjectionChanged"
  | .subjectChanged => "SubjectChanged"

def PeerStatus.asColumn : PeerStatus → String
  | .pending => "pending"
  | .active => "active"
  | .suspended reason => "suspended:" ++ reason.asStr

namespace Store

def peerRow (s : Store) (root : String) : Option PeerRow :=
  s.peers.find (fun r => r.rootThumbprint = root)

def getPeerByRoot (s : Store) (root : String) : Option StoredPeer :=
  (s.peerRow root).map PeerRow.record

def peerStatusByRoot (s : Store) (root : String) : Option PeerStatus :=
  (s.peerRow root).map PeerRow.status

def peerByRoot (s : Store) (root : String) : Option (String × String) :=
  (s.peerRow root).map (fun r => (r.agentId, r.status.asColumn))

end Store

def PeerRow.withRecord (peer : StoredPeer) (r : PeerRow) : PeerRow :=
  { r with agentId := peer.identity.agentId, record := peer }

def PeerRow.withStatus (status : PeerStatus) (r : PeerRow) : PeerRow :=
  { r with status := status }

def putPeerStatus (peer : StoredPeer) (statusOnInsert : PeerStatus) (s : Store) :
    Except StoreError Store :=
  let root := peer.identity.agentCardKey.value
  if root = "" then .error (.corrupt "a peer must carry an identity root thumbprint")
  else
    match s.peers.upsert (fun r => r.rootThumbprint = root) (PeerRow.withRecord peer) ⟨root, peer.identity.agentId, peer, statusOnInsert⟩ with
    | some peers => .ok { s with peers := peers }
    | none => .error .db

def setPeerStatus (root : String) (status : PeerStatus) (s : Store) : Store :=
  { s with
    peers := s.peers.updateWhere (fun r => r.rootThumbprint = root) (PeerRow.withStatus status) }

def PeerKeyRow.withKey (new r : PeerKeyRow) : PeerKeyRow :=
  { r with
    agentId := new.agentId, issuer := new.issuer, publicKey := new.publicKey,
    updatedAt := new.updatedAt, rootThumbprint := new.rootThumbprint }

def putPeerKey (new : PeerKeyRow) (s : Store) : Except StoreError Store :=
  match s.peerKeys.upsert
    (fun r => r.tlsFingerprint = new.tlsFingerprint ∧ r.purpose = new.purpose)
    (PeerKeyRow.withKey new) new with
  | some keys => .ok { s with peerKeys := keys }
  | none => .error .db

def putPeerKeys (keys : List PeerKeyRow) (s : Store) : Except StoreError Store :=
  match keys with
  | [] => .ok s
  | key :: keys => do
    let s ← putPeerKey key s
    putPeerKeys keys s

/-- What became of an introduction. -/
inductive IntroCommitOutcome where
  | committed
  | alreadyActive
  | notImported
  | epochChanged
  | suspended (why : String)
deriving DecidableEq

def reintroduction (existing presented : PeerIdentity) : Option SuspendReason :=
  match detectChange existing presented with
  | some reason => some reason
  | none => if existing.agentId ≠ presented.agentId then some .subjectChanged else none

def pinPeer (root : String) (peer : StoredPeer) (keys : List (String × Bytes)) (now : Time)
    (wasPinned : Bool) (s : Store) : Except StoreError (IntroCommitOutcome × Store) := do
  let s ← putPeerStatus peer .active s
  let s := setPeerStatus root .active s
  let s ← putPeerKeys (keys.map (fun key =>
    { tlsFingerprint := peer.identity.tlsCert.value, purpose := key.1,
      agentId := peer.identity.agentId, issuer := peer.identity.issuer.getD "",
      publicKey := key.2, updatedAt := now, rootThumbprint := root })) s
  .ok (if wasPinned then .alreadyActive else .committed, s.auditAppend now "peer.introduced" root)

/-- Pin an introduced peer, unless its import has moved on. -/
def commitIntroducedPeer (root : String) (expectedEpoch : ℕ) (peer : StoredPeer)
    (keys : List (String × Bytes)) (now : Time) (s : Store) :
    Except StoreError (IntroCommitOutcome × Store) :=
  match s.peerImport root with
  | none => .ok (.notImported, s)
  | some imported =>
    if imported.epoch ≠ expectedEpoch then .ok (.epochChanged, s)
    else
      match s.getPeerByRoot root with
      | none => pinPeer root peer keys now false s
      | some existing =>
        match reintroduction existing.identity peer.identity with
        | some reason =>
          .ok (.suspended reason.name,
            (setPeerStatus root (.suspended reason) s).auditAppend now "peer.suspended" root)
        | none =>
          match s.peerStatusByRoot root with
          | some (.suspended _) => .ok (.suspended "previously-suspended", s)
          | _ => pinPeer root peer keys now true s

/-! ## What these operations leave alone -/

/-- The ledger's tables are as they were. -/
structure SameCoord (s s' : Store) : Prop where
  staged : s'.coordStaged = s.coordStaged
  consents : s'.coordConsents = s.coordConsents
  dispatches : s'.coordDispatches = s.coordDispatches

theorem SameCoord.refl (s : Store) : SameCoord s s := ⟨rfl, rfl, rfl⟩

theorem SameCoord.trans {s₁ s₂ s₃ : Store} (h : SameCoord s₁ s₂) (h' : SameCoord s₂ s₃) :
    SameCoord s₁ s₃ :=
  ⟨h'.staged.trans h.staged, h'.consents.trans h.consents, h'.dispatches.trans h.dispatches⟩

theorem setImport_eq_ok (h : setImport f root s = .ok s') :
    ∃ imports, s.peerImports.updateChecked (fun r => r.rootThumbprint = root) f = some imports ∧
      s' = { s with peerImports := imports } := by
  unfold setImport at h
  split at h
  case h_1 imports himports => exact ⟨imports, himports, (ok.inj h).symm⟩
  case h_2 => cases h

theorem addPeerImport_cases (h : addPeerImport root label hint now s = .ok (out, s')) :
    s' = s ∨ (∃ imports, s.peerImports.updateChecked (fun r => r.rootThumbprint = root)
        (fun r => { r with
          label := some label, endpointHint := hint, addedAt := now, tombstonedAt := none })
        = some imports ∧ s' = { s with peerImports := imports }) ∨
    (∃ imports, s.peerImports.insert ⟨root, some label, hint, 1, now, none⟩ = some imports ∧
      s' = { s with peerImports := imports }) := by
  unfold addPeerImport at h
  dsimp only at h
  split at h
  case isTrue => exact .inl (snd_eq_of_ok h).symm
  case isFalse =>
    split at h
    case isTrue => exact .inl (snd_eq_of_ok h).symm
    case isFalse =>
      split at h
      case isTrue =>
        obtain ⟨s₁, hset, hout⟩ := bind_eq_ok.1 h
        obtain ⟨imports, himports, rfl⟩ := setImport_eq_ok hset
        exact .inr (.inl ⟨imports, himports, (snd_eq_of_ok hout).symm⟩)
      case isFalse =>
        obtain ⟨imports, hins, hout⟩ := bind_eq_ok.1 h
        rw [insertRow_eq_ok] at hins
        exact .inr (.inr ⟨imports, hins, (snd_eq_of_ok hout).symm⟩)

theorem updatePeerImport_cases
    (h : updatePeerImport root newLabel newEndpoint s = .ok (out, s')) :
    s' = s ∨ ∃ s₁,
      ((newLabel = none ∧ s₁ = s) ∨ ∃ label, newLabel = some label ∧
        setImport (fun r => { r with label := some label }) root s = .ok s₁) ∧
      (s' = s₁ ∨ ∃ hint, setImport (fun r => { r with endpointHint := hint }) root s₁ = .ok s') := by
  unfold updatePeerImport at h
  split at h
  case isTrue => exact .inl (snd_eq_of_ok h).symm
  case isFalse =>
    split at h
    case isTrue => exact .inl (snd_eq_of_ok h).symm
    case isFalse =>
      obtain ⟨s₁, hlabel, h₁⟩ := bind_eq_ok.1 h
      obtain ⟨s₂, hhint, h₂⟩ := bind_eq_ok.1 h₁
      obtain rfl : s₂ = s' := snd_eq_of_ok h₂
      refine .inr ⟨s₁, ?_, ?_⟩
      · cases newLabel with
        | none => exact .inl ⟨rfl, (ok.inj hlabel).symm⟩
        | some label => exact .inr ⟨label, rfl, hlabel⟩
      · cases newEndpoint with
        | none => exact .inl (ok.inj hhint).symm
        | some hint => exact .inr ⟨hint, hhint⟩

theorem sameCoord_setImport (h : setImport f root s = .ok s') : SameCoord s s' := by
  obtain ⟨imports, _, rfl⟩ := setImport_eq_ok h
  exact ⟨rfl, rfl, rfl⟩

theorem sameCoord_addPeerImport (h : addPeerImport root label hint now s = .ok (out, s')) :
    SameCoord s s' := by
  rcases addPeerImport_cases h with rfl | ⟨imports, _, rfl⟩ | ⟨imports, _, rfl⟩
  · exact SameCoord.refl _
  · exact ⟨rfl, rfl, rfl⟩
  · exact ⟨rfl, rfl, rfl⟩

theorem sameCoord_updatePeerImport
    (h : updatePeerImport root newLabel newEndpoint s = .ok (out, s')) : SameCoord s s' := by
  rcases updatePeerImport_cases h with rfl | ⟨s₁, hlabel, hhint⟩
  · exact SameCoord.refl _
  have h₁ : SameCoord s s₁ := by
    rcases hlabel with ⟨-, rfl⟩ | ⟨label, -, hset⟩
    · exact SameCoord.refl _
    · exact sameCoord_setImport hset
  rcases hhint with rfl | ⟨hint, hset⟩
  · exact h₁
  · exact h₁.trans (sameCoord_setImport hset)

theorem sameCoord_removeRelationship (root : String) (now : Time) (s : Store) :
    SameCoord s (removeRelationship root now s).2 := by
  have hremove : SameCoord s (removePeerImport root now s).2 := ⟨rfl, rfl, rfl⟩
  unfold removeRelationship
  split
  case h_1 heq => exact heq ▸ hremove
  case h_2 heq =>
    rw [heq] at hremove
    exact hremove.trans ⟨rfl, rfl, rfl⟩

/-- Only peers and their keys may differ. -/
structure OnlyPeers (s s' : Store) : Prop extends SameCoord s s' where
  imports : s'.peerImports = s.peerImports

theorem putPeerStatus_eq {status : PeerStatus}
    (h : putPeerStatus peer status s = .ok s') : ∃ peers, s' = { s with peers := peers } := by
  unfold putPeerStatus at h
  dsimp only at h
  split at h
  case isTrue => cases h
  case isFalse =>
    split at h
    case h_1 peers _ => exact ⟨peers, (ok.inj h).symm⟩
    case h_2 => cases h

theorem putPeerKeys_eq {keys : List PeerKeyRow}
    (h : putPeerKeys keys s = .ok s') : ∃ peerKeys, s' = { s with peerKeys := peerKeys } := by
  induction keys generalizing s with
  | nil => exact ⟨s.peerKeys, (ok.inj h).symm⟩
  | cons key keys ih =>
    obtain ⟨s₁, hkey, hrest⟩ := bind_eq_ok.1 h
    obtain ⟨peerKeys, rfl⟩ := ih hrest
    unfold putPeerKey at hkey
    split at hkey
    case h_1 =>
      cases hkey
      exact ⟨peerKeys, rfl⟩
    case h_2 => cases hkey

theorem pinPeer_eq {wasPinned : Bool} {out : IntroCommitOutcome}
    (h : pinPeer root peer keys now wasPinned s = .ok (out, s')) :
    ∃ peers peerKeys audit, s' = { s with peers := peers, peerKeys := peerKeys, audit := audit } := by
  obtain ⟨s₁, h₁, hrest⟩ := bind_eq_ok.1 h
  obtain ⟨s₂, h₂, hout⟩ := bind_eq_ok.1 hrest
  obtain rfl := snd_eq_of_ok hout
  obtain ⟨peers, rfl⟩ := putPeerStatus_eq h₁
  obtain ⟨peerKeys, rfl⟩ := putPeerKeys_eq h₂
  exact ⟨_, _, _, rfl⟩

theorem commitIntroducedPeer_eq {epoch : ℕ} {out : IntroCommitOutcome}
    (h : commitIntroducedPeer root epoch peer keys now s = .ok (out, s')) :
    ∃ peers peerKeys audit, s' = { s with peers := peers, peerKeys := peerKeys, audit := audit } := by
  have hsame : ∀ {out' : IntroCommitOutcome}, (Except.ok (out', s) :
      Except StoreError (IntroCommitOutcome × Store)) = .ok (out, s') →
        ∃ peers peerKeys audit,
          s' = { s with peers := peers, peerKeys := peerKeys, audit := audit } :=
    fun h => ⟨s.peers, s.peerKeys, s.audit, (snd_eq_of_ok h).symm⟩
  unfold commitIntroducedPeer at h
  split at h
  case h_1 => exact hsame h
  case h_2 =>
    split at h
    case isTrue => exact hsame h
    case isFalse =>
      split at h
      case h_1 => exact pinPeer_eq h
      case h_2 =>
        split at h
        case h_1 => exact ⟨_, _, _, (snd_eq_of_ok h).symm⟩
        case h_2 =>
          split at h
          case h_1 => exact hsame h
          case h_2 => exact pinPeer_eq h

theorem onlyPeers_commitIntroducedPeer {epoch : ℕ} {out : IntroCommitOutcome}
    (h : commitIntroducedPeer root epoch peer keys now s = .ok (out, s')) : OnlyPeers s s' := by
  obtain ⟨peers, peerKeys, audit, rfl⟩ := commitIntroducedPeer_eq h
  exact ⟨⟨rfl, rfl, rfl⟩, rfl⟩

/-- A peer without key bindings. -/
def StoredPeer.sample (issuer : Option String) (agentId endpointId tls root : String) : StoredPeer where
  identity := {
    issuer, agentId, workloadId := none, endpointId
    tlsCert := ⟨.certSha256, tls⟩
    agentCardKey := ⟨.jwk7638, root⟩
    keyBindings := []
    securityProjectionDigest := ⟨.jsonSha256, ""⟩
    fullCardDigest := ⟨.jsonSha256, ""⟩ }
  localNote := ""

end Akson
