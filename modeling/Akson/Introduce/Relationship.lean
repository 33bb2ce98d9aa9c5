/-
# A relationship, seen from its root

What one root's relationship is, whatever else the store holds: the epoch of its import and whether
it is live, and the peer pinned behind it with its status.
-/
import Akson.Introduce.Handshake

namespace Akson

open Except Option Table

variable {s s' : Store} {root : String} {now : Time} {f : PeerImport → PeerImport}
  {peer : StoredPeer}

/-- What the store has of one root. -/
@[ext]
structure RootView where
  /-- The epoch of the import, and whether it is live. -/
  imported : Option (ℕ × Bool)
  peer : Option (StoredPeer × PeerStatus)

namespace Store

def importRow (s : Store) (root : String) : Option PeerImport :=
  s.peerImports.find (fun r => r.rootThumbprint = root)

def viewRoot (s : Store) (root : String) : RootView where
  imported := (s.importRow root).map (fun r => (r.epoch, decide (r.tombstonedAt = none)))
  peer := (s.peerRow root).map (fun r => (r.record, r.status))

end Store

/-- What can happen to one root. -/
inductive RootEvent where
  | stay
  | opened
  | removed
  | pinned (epoch : ℕ) (peer : StoredPeer)
  | suspended (epoch : ℕ) (presented : StoredPeer) (reason : SuspendReason)

/-- One step of one root. -/
inductive RootMove (root : String) : RootView → RootEvent → RootView → Prop
  | stay (v : RootView) : RootMove root v .stay v
  | imported {v : RootView} (h : v.imported = none) :
      RootMove root v .opened { v with imported := some (1, true) }
  | revived {v : RootView} {e : ℕ} (h : v.imported = some (e, false)) :
      RootMove root v .opened { v with imported := some (e, true) }
  | removed {v : RootView} {e : ℕ} (h : v.imported = some (e, true)) :
      RootMove root v .removed ⟨some (e + 1, false), if root = "" then v.peer else none⟩
  | pinned {v : RootView} {e : ℕ} {peer : StoredPeer} (h : v.imported = some (e, true))
      (hroot : root ≠ "")
      (hpinned : ∀ q status, v.peer = some (q, status) →
        reintroduction q.identity peer.identity = none ∧ ∀ reason, status ≠ .suspended reason) :
      RootMove root v (.pinned e peer) { v with peer := some (peer, .active) }
  | suspended {v : RootView} {e : ℕ} {peer q : StoredPeer} {status : PeerStatus}
      {reason : SuspendReason} (h : v.imported = some (e, true))
      (hpeer : v.peer = some (q, status))
      (hchanged : reintroduction q.identity peer.identity = some reason) :
      RootMove root v (.suspended e peer reason) { v with peer := some (q, .suspended reason) }

/-! ## Reading the view -/

variable {r : PeerImport} {status : PeerStatus} {keys : List (String × Bytes)}
  {out : IntroCommitOutcome}

theorem importRow_eq_some_iff :
    s.importRow root = some r ↔ r ∈ s.peerImports ∧ r.rootThumbprint = root := by
  rw [Store.importRow, find_eq_some_iff (onKey PeerImport.rootThumbprint root fun _ _ => .inl), decide_eq_true_eq]

theorem peerImport_eq_some_iff :
    s.peerImport root = some r ↔ s.importRow root = some r ∧ r.tombstonedAt = none := by
  have hkey : Table.OnKey (fun r : PeerImport =>
      decide (r.rootThumbprint = root ∧ r.tombstonedAt = none)) := by
    intro a b ha hb
    exact .inl ((of_decide_eq_true ha).1.trans (of_decide_eq_true hb).1.symm)
  rw [Store.peerImport, find_eq_some_iff hkey, importRow_eq_some_iff, decide_eq_true_eq,
    and_assoc]

theorem viewRoot_live_iff {e : ℕ} :
    (s.viewRoot root).imported = some (e, true) ↔
      ∃ live, s.peerImport root = some live ∧ live.epoch = e := by
  simp only [Store.viewRoot, map_eq_some_iff, Prod.mk.injEq, decide_eq_true_eq,
    peerImport_eq_some_iff]
  constructor
  · rintro ⟨r, hr, he, hlive⟩
    exact ⟨r, ⟨hr, hlive⟩, he⟩
  · rintro ⟨r, ⟨hr, hlive⟩, he⟩
    exact ⟨r, hr, he, hlive⟩

theorem viewRoot_peer_iff {q : StoredPeer} : (s.viewRoot root).peer = some (q, status) ↔
      ∃ row, s.peerRow root = some row ∧ row.record = q ∧ row.status = status := by
  simp [Store.viewRoot, map_eq_some_iff, Prod.mk.injEq]

theorem viewRoot_eq (himport : s'.importRow root = s.importRow root)
    (hpeer : s'.peerRow root = s.peerRow root) : s'.viewRoot root = s.viewRoot root := by
  rw [Store.viewRoot, Store.viewRoot, himport, hpeer]

/-! ## The operator's moves -/

theorem importRow_setImport
    (h : setImport f root s = .ok s') (hf : ∀ i, (f i).rootThumbprint = i.rootThumbprint)
    (r : String) : s'.importRow r =
      (s.importRow r).map (fun i => if i.rootThumbprint = root then f i else i) := by
  obtain ⟨imports, hset, rfl⟩ := setImport_eq_ok h
  have hfind := find_updateChecked hset
    (q := fun i => decide (i.rootThumbprint = r)) (fun i _ => by rw [hf i])
  simp only [decide_eq_true_eq] at hfind
  exact hfind

theorem peerRow_setImport
    (h : setImport f root s = .ok s') (r : String) : s'.peerRow r = s.peerRow r := by
  obtain ⟨imports, _, rfl⟩ := setImport_eq_ok h
  rfl

theorem viewRoot_setImport
    (h : setImport f root s = .ok s') (hf : ∀ i, (f i).rootThumbprint = i.rootThumbprint)
    (hepoch : ∀ i, (f i).epoch = i.epoch) (htomb : ∀ i, (f i).tombstonedAt = i.tombstonedAt)
    (r : String) : s'.viewRoot r = s.viewRoot r := by
  have hrow := importRow_setImport h hf r
  refine RootView.ext ?_ (by rw [Store.viewRoot, Store.viewRoot, peerRow_setImport h r])
  simp only [Store.viewRoot, hrow, map_map]
  congr 1
  funext i
  simp only [Function.comp]
  split
  · rw [hepoch, htomb]
  · rfl

theorem rootMove_updatePeerImport {newLabel newEndpoint : Option String} {out : ImportOutcome}
    (h : updatePeerImport root newLabel newEndpoint s = .ok (out, s')) (r : String) :
    s'.viewRoot r = s.viewRoot r := by
  rcases updatePeerImport_cases h with rfl | ⟨s₁, hlabel, hhint⟩
  · rfl
  have h₁ : s₁.viewRoot r = s.viewRoot r := by
    rcases hlabel with ⟨-, rfl⟩ | ⟨label, -, hset⟩
    · rfl
    · exact viewRoot_setImport hset (fun _ => rfl) (fun _ => rfl) (fun _ => rfl) r
  rcases hhint with rfl | ⟨hint, hset⟩
  · exact h₁
  · rw [← h₁]
    exact viewRoot_setImport hset (fun _ => rfl) (fun _ => rfl) (fun _ => rfl) r

theorem rootMove_addPeerImport {label hint : String}
    {out : ImportOutcome} (h : addPeerImport root label hint now s = .ok (out, s')) (r : String) :
    s'.viewRoot r = s.viewRoot r ∨ RootMove r (s.viewRoot r) .opened (s'.viewRoot r) := by
  unfold addPeerImport at h
  dsimp only at h
  split at h
  case isTrue => exact .inl (by rw [snd_eq_of_ok h])
  case isFalse hdead =>
    split at h
    case isTrue => exact .inl (by rw [snd_eq_of_ok h])
    case isFalse =>
      split at h
      case isTrue hsome =>
        -- a tombstone of this root is revived
        obtain ⟨s₁, hset, hout⟩ := bind_eq_ok.1 h
        obtain rfl := snd_eq_of_ok hout
        have hrow := importRow_setImport hset (fun _ => rfl) r
        have hpeer := peerRow_setImport hset r
        obtain ⟨old, hold⟩ := isSome_iff_exists.1 hsome
        change s.importRow root = some old at hold
        by_cases hr : r = root
        · subst hr
          have hroot := (importRow_eq_some_iff.1 hold).2
          have htomb : old.tombstonedAt ≠ none := by
            intro hnone
            exact hdead (by rw [show s.peerImports.find _ = some old from hold]; simp [hnone])
          right
          have hview : (s.viewRoot r).imported = some (old.epoch, false) := by
            simp [Store.viewRoot, hold, htomb]
          have hafter : s₁.viewRoot r = { s.viewRoot r with imported := some (old.epoch, true) } := by
            refine RootView.ext ?_ (by rw [Store.viewRoot, Store.viewRoot, hpeer])
            simp [Store.viewRoot, hrow, hold, hroot]
          rw [hafter]
          exact .revived hview
        · left
          refine viewRoot_eq ?_ hpeer
          rw [hrow]
          cases hfind : s.importRow r with
          | none => rfl
          | some i =>
            have hi := (importRow_eq_some_iff.1 hfind).2
            simp [hi, hr]
      case isFalse hnone =>
        obtain ⟨imports, hins, hout⟩ := bind_eq_ok.1 h
        obtain rfl := snd_eq_of_ok hout
        rw [insertRow_eq_ok] at hins
        by_cases hr : r = root
        · subst hr
          right
          have hbefore : s.importRow r = none := by
            simpa [Store.importRow] using hnone
          have hafter : ({ s with peerImports := imports } : Store).importRow r =
              some ⟨r, some label, hint, 1, now, none⟩ :=
            importRow_eq_some_iff.2 ⟨(mem_insert hins).2 (.inr rfl), rfl⟩
          have hview : (s.viewRoot r).imported = none := by
            simp [Store.viewRoot, hbefore]
          have hview' : ({ s with peerImports := imports } : Store).viewRoot r =
              { s.viewRoot r with imported := some (1, true) } :=
            RootView.ext (by simp [Store.viewRoot, hafter]) rfl
          rw [hview']
          exact .imported hview
        · left
          refine viewRoot_eq ?_ rfl
          exact find_insert_of_not hins (by simpa using Ne.symm hr)

theorem importRow_removePeerImport (root : String) (now : Time) (s : Store) (r : String) :
    (removePeerImport root now s).2.importRow r =
      (s.importRow r).map (fun i => if liveImport root i then i.tombstone now else i) :=
  find_updateWhere (f := PeerImport.tombstone now) (fun _ => rfl) s.peerImports
    (PeerImport.tombstone_keepsKey now)

theorem liveOnKey (root : String) : Table.OnKey (liveImport root) := by
  intro a b ha hb
  exact .inl ((of_decide_eq_true ha).1.trans (of_decide_eq_true hb).1.symm)

theorem removePeerImport_of_fst (h : removePeerImport root now s = (false, s')) : s' = s := by
  obtain ⟨hcount, rfl⟩ := Prod.mk.inj h
  have hnone := forall_not_of_count_ne_one (liveOnKey root) (of_decide_eq_false hcount)
  rw [updateWhere_of_forall_not hnone (PeerImport.tombstone_keepsKey now)]

theorem rootMove_removeRelationship
    (h : removeRelationship root now s = (true, s')) (r : String) :
    (r = root → RootMove r (s.viewRoot r) .removed (s'.viewRoot r)) ∧
      (r ≠ root → s'.viewRoot r = s.viewRoot r) := by
  unfold removeRelationship at h
  split at h
  case h_1 => cases h
  case h_2 s₁ hremove =>
    obtain rfl := (Prod.mk.inj h).2
    obtain ⟨hcount, hs₁⟩ := Prod.mk.inj hremove
    have himport : s₁.importRow r =
        (s.importRow r).map (fun i => if liveImport root i then i.tombstone now else i) := by
      rw [← importRow_removePeerImport, hremove]
    have hpeers : s₁.peers = s.peers := by rw [← hs₁]
    constructor
    · rintro rfl
      obtain ⟨live, hmem, hlive⟩ := exists_of_count_eq_one (of_decide_eq_true hcount)
      have hboth := of_decide_eq_true hlive
      have hrow : s.importRow r = some live := importRow_eq_some_iff.2 ⟨hmem, hboth.1⟩
      have hview : (s.viewRoot r).imported = some (live.epoch, true) := by
        simp [Store.viewRoot, hrow, hboth.2]
      convert RootMove.removed hview using 1
      refine RootView.ext ?_ ?_
      · change (s₁.importRow r).map _ = _
        rw [himport, hrow, map_some, if_pos hlive]
        rfl
      · change ((s₁.peers.deleteWhere (fun p => decide (p.rootThumbprint = r ∧
          p.rootThumbprint ≠ ""))).find (fun p => decide (p.rootThumbprint = r))).map _ = _
        rw [hpeers]
        split
        case isTrue hempty =>
          rw [find_deleteWhere_of_not (fun p hp => ?_)]
          · rfl
          · rw [decide_eq_true_eq] at hp
            simp [hp, hempty]
        case isFalse hne =>
          rw [map_eq_none_iff, find_eq_none_iff]
          intro p hp
          have hkept := (mem_deleteWhere.1 hp).2
          rw [decide_eq_false_iff_not] at hkept ⊢
          intro hroot
          exact hkept ⟨hroot, hroot ▸ hne⟩
    · intro hr
      refine viewRoot_eq ?_ ?_
      · change s₁.importRow r = s.importRow r
        rw [himport]
        cases hfind : s.importRow r with
        | none => rfl
        | some i =>
          have hi := (importRow_eq_some_iff.1 hfind).2
          simp [liveImport, hi, hr]
      · change (s₁.peers.deleteWhere _).find _ = s.peers.find _
        rw [hpeers]
        refine find_deleteWhere_of_not (fun p hp => ?_) s.peers
        rw [decide_eq_true_eq] at hp
        simp [hp, hr]

theorem viewRoot_removeRelationship_none
    (h : removeRelationship root now s = (false, s')) : s' = s := by
  unfold removeRelationship at h
  split at h
  case h_1 s₁ hremove =>
    obtain rfl := (Prod.mk.inj h).2
    exact removePeerImport_of_fst hremove
  case h_2 => cases h

/-! ## The move of a commit -/

theorem peerRow_setPeerStatus (root : String) (status : PeerStatus) (s : Store) (r : String) :
    (setPeerStatus root status s).peerRow r =
      (s.peerRow r).map (fun p => if p.rootThumbprint = root then p.withStatus status else p) := by
  have hfind := find_updateWhere (f := PeerRow.withStatus status)
    (p := fun p => decide (p.rootThumbprint = root)) (q := fun p => decide (p.rootThumbprint = r))
    (fun _ => rfl) s.peers
  simp only [decide_eq_true_eq] at hfind
  exact hfind

theorem peerRow_root {row : PeerRow} (h : s.peerRow root = some row) :
    row.rootThumbprint = root := by
  have hpred := pred_of_find h
  rwa [decide_eq_true_eq] at hpred

theorem peerRow_putPeerStatus (h : putPeerStatus peer status s = .ok s')
    (hroot : peer.identity.agentCardKey.value = root) :
    (∃ row, s'.peerRow root = some row ∧ row.record = peer) ∧
      ∀ r, r ≠ root → s'.peerRow r = s.peerRow r := by
  subst hroot
  unfold putPeerStatus at h
  dsimp only at h
  split at h
  case isTrue => cases h
  case isFalse =>
    split at h
    case h_1 peers hpeers =>
      cases h
      constructor
      · have hself := find_upsert_self hpeers (fun _ => rfl) (by simp)
        refine ⟨_, hself, ?_⟩
        cases s.peers.find _ with
        | none => rfl
        | some row => rfl
      · intro r hr
        refine find_upsert_of_not hpeers (fun _ => rfl) (by simp) (fun a ha => ?_)
        rw [decide_eq_true_eq] at ha
        simp [ha, Ne.symm hr]
    case h_2 => cases h

theorem peerRow_pinPeer {wasPinned : Bool}
    (h : pinPeer root peer keys now wasPinned s = .ok (out, s'))
    (hverified : peer.identity.agentCardKey.value = root) :
    (∃ row, s'.peerRow root = some row ∧ row.record = peer ∧ row.status = .active) ∧
      ∀ r, r ≠ root → s'.peerRow r = s.peerRow r := by
  obtain ⟨s₁, s₂, h₁, h₂, -, rfl⟩ := pinPeer_eq_ok_iff.1 h
  obtain ⟨⟨row, hrow, hrecord⟩, hothers⟩ := peerRow_putPeerStatus h₁ hverified
  obtain ⟨peerKeys, rfl⟩ := putPeerKeys_eq h₂
  have hset := peerRow_setPeerStatus root .active s₁
  constructor
  · refine ⟨row.withStatus .active, ?_, hrecord, rfl⟩
    change (setPeerStatus root .active s₁).peerRow root = _
    rw [hset, hrow, map_some, if_pos (peerRow_root hrow)]
  · intro r hr
    change (setPeerStatus root .active s₁).peerRow r = _
    rw [hset, hothers r hr]
    cases hfind : s.peerRow r with
    | none => rfl
    | some p => rw [map_some, if_neg (fun hp => hr ((peerRow_root hfind).symm.trans hp))]

theorem rootMove_commit {epoch : ℕ}
    (h : commitIntroducedPeer root epoch peer keys now s = .ok (out, s'))
    (hverified : peer.identity.agentCardKey.value = root) :
    (∀ r, r ≠ root → s'.viewRoot r = s.viewRoot r) ∧
      ((s' = s ∧ out ≠ .committed ∧ out ≠ .alreadyActive) ∨
        (∃ reason, out = .suspended reason.name ∧
          RootMove root (s.viewRoot root) (.suspended epoch peer reason) (s'.viewRoot root)) ∨
        ((out = .committed ∨ out = .alreadyActive) ∧
          RootMove root (s.viewRoot root) (.pinned epoch peer) (s'.viewRoot root))) := by
  have himports : ∀ r, s'.importRow r = s.importRow r := by
    intro r
    rw [Store.importRow, (onlyPeers_commitIntroducedPeer h).imports, Store.importRow]
  rcases commitIntroducedPeer_cases h with ⟨rfl, hout⟩ | ⟨reason, hsusp, rfl, rfl⟩ | ⟨hpins, hpin⟩
  · exact ⟨fun _ _ => rfl, .inl ⟨rfl, hout⟩⟩
  · have hset := peerRow_setPeerStatus root (.suspended reason) s
    refine ⟨fun r hr => viewRoot_eq (himports r) ?_, .inr (.inl ⟨reason, rfl, ?_⟩)⟩
    · change (setPeerStatus root _ s).peerRow r = _
      rw [hset]
      cases hfind : s.peerRow r with
      | none => rfl
      | some p => rw [map_some, if_neg (fun hp => hr ((peerRow_root hfind).symm.trans hp))]
    · obtain ⟨row, hrow, hchanged⟩ := hsusp.changed
      have hview : (s.viewRoot root).peer = some (row.record, row.status) :=
        viewRoot_peer_iff.2 ⟨row, hrow, rfl, rfl⟩
      convert RootMove.suspended (viewRoot_live_iff.2 hsusp.imported) hview hchanged using 1
      refine RootView.ext (by rw [Store.viewRoot, Store.viewRoot, himports]) ?_
      change ((setPeerStatus root _ s).peerRow root).map _ = _
      rw [hset, hrow, map_some, if_pos (peerRow_root hrow)]
      rfl
  · obtain ⟨⟨row, hrow, hrecord, hstatus⟩, hothers⟩ := peerRow_pinPeer hpin hverified
    refine ⟨fun r hr => viewRoot_eq (himports r) (hothers r hr), .inr (.inr ⟨?_, ?_⟩)⟩
    · obtain ⟨_, _, -, -, rfl, -⟩ := pinPeer_eq_ok_iff.1 hpin
      split
      · exact .inr rfl
      · exact .inl rfl
    · have hroot := root_ne_of_pinPeer hpin hverified
      convert RootMove.pinned (viewRoot_live_iff.2 hpins.imported) hroot ?_ using 1
      · refine RootView.ext (by rw [Store.viewRoot, Store.viewRoot, himports]) ?_
        exact viewRoot_peer_iff.2 ⟨row, hrow, hrecord, hstatus⟩
      · intro q status hview
        obtain ⟨old, hold, rfl, rfl⟩ := viewRoot_peer_iff.1 hview
        exact ⟨hpins.unchanged old hold, hpins.trusted old hold⟩

end Akson
