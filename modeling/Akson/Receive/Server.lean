/-
# The receive server

The fingerprint of the client certificate is all the server takes from the connection.
-/
import Akson.Receive.Http
import Akson.Store.Peers

namespace Akson

open Operation Except Option List

def Store.peerKey (s : Store) (tlsFingerprint purpose : String) : Option PeerKeyRow :=
  (s.peerKeys.find (fun r => r.tlsFingerprint = tlsFingerprint ∧ r.purpose = purpose)).filter
    (fun r => r.publicKey.length = 32)

variable (env : Env)

def PurposeVerifyingKey.fromPublicBytes (purpose : KeyPurpose) (bytes : Bytes) :
    Option PurposeVerifyingKey :=
  if env.isPublicKey bytes then some ⟨purpose, bytes⟩ else none

/-- What the TLS certificate of a peer resolves to. -/
structure PeerContext where
  requesterOrigin : Identity
  proposalKey : PurposeVerifyingKey
  /-- The root of the relationship. -/
  peerId : String

def proposalKeyPurpose : String := "contract-proposal"

def taskResultKeyPurpose : String := "task-result"

def resolve (s : Store) (tlsFingerprint : String) : Option PeerContext := do
  let pk ← s.peerKey tlsFingerprint proposalKeyPurpose
  if pk.rootThumbprint = "" ∨ s.peerStatusByRoot pk.rootThumbprint ≠ some .active then none
  else do
    let proposalKey ← PurposeVerifyingKey.fromPublicBytes env .contractProposal pk.publicKey
    some ⟨⟨pk.issuer, pk.agentId, pk.rootThumbprint⟩, proposalKey, pk.rootThumbprint⟩

structure ReceiveState where
  localPerformer : Identity
  requiredExtensions : List String
  interfaceUrl : String
  outcomeKey : Option PurposeKey

def ReceiveState.taskResultKey (st : ReceiveState) (s : Store) (fp peerId : String) :
    Option PurposeVerifyingKey := do
  let _ ← st.outcomeKey
  let pk ← (s.peerKey fp taskResultKeyPurpose).filter (fun pk => pk.rootThumbprint = peerId)
  PurposeVerifyingKey.fromPublicBytes env .taskResult pk.publicKey

def ReceiveState.config (st : ReceiveState) (peer : PeerContext)
    (taskResultKey : Option PurposeVerifyingKey) : ReceiveConfig where
  localPerformer := st.localPerformer
  requesterOrigin := peer.requesterOrigin
  proposalKey := peer.proposalKey
  requiredExtensions := st.requiredExtensions
  interfaceUrl := st.interfaceUrl
  outcomeKey := st.outcomeKey
  performerTaskResultKey := taskResultKey

def problem403 : HttpResponse :=
  problemResponse env 403 "unauthorized-peer" "the client certificate is not a paired peer"

def problem500 : HttpResponse :=
  problemResponse env 500 "internal" "the request could not be processed"

def problem503Time : HttpResponse :=
  problemResponse env 503 "time-uncertain"
    "the trusted clock moved backward; refusing until time is re-established"

def respond (key : Bytes) (st : ReceiveState) (peerFp : Option String)
    (req : HttpRequest) (wall : Time) : Operation Store StoreError HttpResponse :=
  match peerFp with
  | none => pure (problem403 env)
  | some fp => do
    match ← ask (fun s => .ok (resolve env s fp)) with
    | none => pure (problem403 env)
    | some peer =>
      match ← attempt (commit (Store.trustedNow wall) (id : StoreError → StoreError)) with
      | .error _ => pure (problem503Time env)
      | .ok now => do
        let taskResultKey ← ask (fun s => .ok (st.taskResultKey env s fp peer.peerId))
        match ← attempt (handleReceive env key (st.config peer taskResultKey)
            { req with tenant := none, peer := peer.peerId } now) with
        | .ok response => pure response
        | .error _ => pure (problem500 env)

/-! ## Which keys a request is verified under -/

/-- A row that resolves a proposal's key. -/
structure ProposalRow (s : Store) (fp : String) (row : PeerKeyRow) : Prop where
  mem : row ∈ s.peerKeys
  fingerprint : row.tlsFingerprint = fp
  purpose : row.purpose = "contract-proposal"
  active : s.peerStatusByRoot row.rootThumbprint = some .active

/-- A row that resolves a result's key. -/
structure TaskResultRow (s : Store) (fp root : String) (row : PeerKeyRow) : Prop where
  mem : row ∈ s.peerKeys
  fingerprint : row.tlsFingerprint = fp
  purpose : row.purpose = "task-result"
  root : row.rootThumbprint = root

theorem Store.peerKey_eq_some {s : Store} {fp purpose : String} {row : PeerKeyRow}
    (h : s.peerKey fp purpose = some row) :
    row ∈ s.peerKeys ∧ row.tlsFingerprint = fp ∧ row.purpose = purpose := by
  rw [Store.peerKey, filter_eq_some_iff] at h
  have hpred := Table.pred_of_find h.1
  rw [decide_eq_true_eq] at hpred
  exact ⟨Table.mem_of_find h.1, hpred.1, hpred.2⟩

theorem PurposeVerifyingKey.fromPublicBytes_eq_some {env : Env} {purpose : KeyPurpose}
    {bytes : Bytes} {key : PurposeVerifyingKey}
    (h : fromPublicBytes env purpose bytes = some key) : key = ⟨purpose, bytes⟩ := by
  unfold fromPublicBytes at h
  split at h
  case isTrue => exact (some.inj h).symm
  case isFalse => cases h

variable {peer : PeerContext} {answer : HttpResponse} {envelope : Envelope}

theorem resolve_eq_some {env : Env} {s : Store} {fp : String} (h : resolve env s fp = some peer) :
    ∃ row, ProposalRow s fp row ∧ peer = ⟨⟨row.issuer, row.agentId, row.rootThumbprint⟩,
      ⟨.contractProposal, row.publicKey⟩, row.rootThumbprint⟩ := by
  obtain ⟨row, hrow, h⟩ := bind_eq_some_iff.1 h
  obtain ⟨hmem, hfp, hpurpose⟩ := Store.peerKey_eq_some hrow
  split at h
  case isTrue => cases h
  case isFalse hactive =>
    simp only [not_or, ne_eq, not_not] at hactive
    obtain ⟨proposalKey, hkey, hout⟩ := bind_eq_some_iff.1 h
    obtain rfl := PurposeVerifyingKey.fromPublicBytes_eq_some hkey
    exact ⟨row, ⟨hmem, hfp, hpurpose, hactive.2⟩, (some.inj hout).symm⟩

theorem taskResultKey_eq_some {env : Env} {st : ReceiveState} {s : Store} {fp root : String}
    {key : PurposeVerifyingKey} (h : st.taskResultKey env s fp root = some key) :
    ∃ row, TaskResultRow s fp root row ∧ key = ⟨.taskResult, row.publicKey⟩ := by
  simp only [ReceiveState.taskResultKey, bind_eq_bind, bind_eq_some_iff,
    filter_eq_some_iff] at h
  obtain ⟨-, -, row, ⟨hrow, hroot⟩, hkey⟩ := h
  obtain ⟨hmem, hfp, hpurpose⟩ := Store.peerKey_eq_some hrow
  exact ⟨row, ⟨hmem, hfp, hpurpose, of_decide_eq_true hroot⟩,
    PurposeVerifyingKey.fromPublicBytes_eq_some hkey⟩

/-! ## What a request does to the heads -/

section Heads

variable {env : Env} {key : Bytes} {config : ReceiveConfig} {req : HttpRequest} {now : Time}

def Proposed (env : Env) (config : ReceiveConfig) (now : Time) (digest : String) : Prop :=
  ∃ received, Admitted env config.proposalKey config.requesterOrigin config.localPerformer now
    received ∧ received.proposal.digest = digest

/-- Heads that are there keep their origin, and a new head has the peer for its origin; a digest
that a head did not have before is that of an admitted proposal.  The peers are not touched. -/
structure OpensHeads (env : Env) (config : ReceiveConfig) (peer : String) (now : Time)
    (s s' : Store) : Prop where
  peers : s'.peers = s.peers
  peerKeys : s'.peerKeys = s.peerKeys
  kept : ∀ t row, s.headRow t = some row → ∃ row', s'.headRow t = some row' ∧
    row'.originRoot = row.originRoot ∧ (row'.digest = row.digest ∨ Proposed env config now row'.digest)
  opened : ∀ t row', s.headRow t = none → s'.headRow t = some row' →
    row'.originRoot = peer ∧ Proposed env config now row'.digest

theorem OpensHeads.of_headRow {peer : String} {s s' : Store} (hpeers : s'.peers = s.peers)
    (hkeys : s'.peerKeys = s.peerKeys) (hrows : ∀ t, s'.headRow t = s.headRow t) :
    OpensHeads env config peer now s s' where
  peers := hpeers
  peerKeys := hkeys
  kept t row h := ⟨row, (hrows t).trans h, rfl, .inl rfl⟩
  opened t row' hnone h := by
    rw [hrows t, hnone] at h
    cases h

theorem OpensHeads.trans {peer : String} {s₁ s₂ s₃ : Store}
    (h : OpensHeads env config peer now s₁ s₂) (h' : OpensHeads env config peer now s₂ s₃) :
    OpensHeads env config peer now s₁ s₃ where
  peers := h'.peers.trans h.peers
  peerKeys := h'.peerKeys.trans h.peerKeys
  kept t row hrow := by
    obtain ⟨row₂, hrow₂, horigin₂, hdigest₂⟩ := h.kept t row hrow
    obtain ⟨row₃, hrow₃, horigin₃, hdigest₃⟩ := h'.kept t row₂ hrow₂
    refine ⟨row₃, hrow₃, horigin₃.trans horigin₂, ?_⟩
    rcases hdigest₃ with hsame | hnew
    · rw [hsame]
      exact hdigest₂
    · exact .inr hnew
  opened t row₃ hnone hrow₃ := by
    cases hrow₂ : s₂.headRow t with
    | none => exact h'.opened t row₃ hrow₂ hrow₃
    | some row₂ =>
      -- opened by the first part, and perhaps advanced by the second
      obtain ⟨horigin, hproposed⟩ := h.opened t row₂ hnone hrow₂
      obtain ⟨row, hrow, horigin', hdigest⟩ := h'.kept t row₂ hrow₂
      obtain rfl := some.inj (hrow₃.symm.trans hrow)
      refine ⟨horigin'.trans horigin, ?_⟩
      rcases hdigest with hsame | hnew
      · rw [hsame]
        exact hproposed
      · exact hnew

theorem opensHeads_submitRevision {received : ReceivedProposal} {expires : Time} {peer t : String}
    {verdict : RevisionVerdict} {s s' : Store}
    (hadmitted : Admitted env config.proposalKey config.requesterOrigin config.localPerformer now
      received)
    (h : submitRevision t received.proposal peer expires now s = .ok (verdict, s')) :
    OpensHeads env config peer now s s' := by
  obtain ⟨-, -, -, rfl⟩ | ⟨-, -, heads, hs', hself, hother⟩ := submitRevision_cases h
  · exact OpensHeads.of_headRow rfl rfl (fun _ => rfl)
  · have hproposed : Proposed env config now received.proposal.digest := ⟨received, hadmitted, rfl⟩
    refine ⟨by rw [hs']; rfl, by rw [hs']; rfl, ?_, ?_⟩
    · intro u row hrow
      by_cases hu : u = t
      · subst hu
        rw [hrow] at hself
        exact ⟨_, hself, rfl, .inr hproposed⟩
      · exact ⟨row, (hother u hu).trans hrow, rfl, .inl rfl⟩
    · intro u row' hnone hrow'
      by_cases hu : u = t
      · subst hu
        rw [hnone] at hself
        obtain rfl := some.inj (hrow'.symm.trans hself)
        exact ⟨rfl, hproposed⟩
      · rw [hother u hu, hnone] at hrow'
        cases hrow'

theorem opensHeads_setTaskContext (peer t contextId : String) (s : Store) :
    OpensHeads env config peer now s (setTaskContext t contextId s) := by
  have hrows := setTaskContext_headRow t contextId s
  refine ⟨rfl, rfl, fun u row hrow => ?_, fun u row' hnone hrow' => ?_⟩
  · rw [hrows u, hrow, map_some]
    refine ⟨_, rfl, ?_⟩
    by_cases htask : row.taskId = t
    · rw [if_pos htask]
      exact ⟨rfl, .inl rfl⟩
    · rw [if_neg htask]
      exact ⟨rfl, .inl rfl⟩
  · rw [hrows u, hnone] at hrow'
    cases hrow'

theorem opensHeads_write {s s' : Store} (h : ReceiveWrite env key config req now s s') :
    OpensHeads env config req.peer now s s' := by
  cases h with
  | record h =>
    obtain ⟨inbox, rfl⟩ := receiveRequest_eq h
    exact OpensHeads.of_headRow rfl rfl (fun _ => rfl)
  | event kind detail => exact OpensHeads.of_headRow rfl rfl (fun _ => rfl)
  | submit hvalid h => exact opensHeads_submitRevision (validateProposal_admitted hvalid) h
  | context taskId contextId => exact opensHeads_setTaskContext req.peer taskId contextId s
  | input row => exact OpensHeads.of_headRow rfl rfl (fun _ => rfl)
  | outcome hkey hverify hrow h =>
    obtain ⟨taskOutputs, outcomes, audit, rfl, -⟩ := recordOutcomeWithOutputs_eq h
    exact OpensHeads.of_headRow rfl rfl (fun _ => rfl)

theorem opensHeads_writes {s s' : Store} (h : ReceiveWrites env key config req now s s') :
    OpensHeads env config req.peer now s s' := by
  induction h with
  | refl => exact OpensHeads.of_headRow rfl rfl (fun _ => rfl)
  | tail _ hwrite ih => exact ih.trans (opensHeads_write hwrite)

end Heads

/-! ## What a request does to the outcomes -/

section Outcomes

variable {env : Env} {key : Bytes} {config : ReceiveConfig} {req : HttpRequest} {now : Time}

theorem verified_of_writes {s s' : Store} (h : ReceiveWrites env key config req now s s') :
    ∀ o ∈ s'.outcomes, o ∈ s.outcomes ∨ ∃ taskResultKey envelope manifest,
      config.performerTaskResultKey = some taskResultKey ∧
      ResultManifest.verify env envelope taskResultKey = .ok (manifest, o.bundleDigest) := by
  induction h with
  | refl => exact fun o ho => .inl ho
  | tail _ hwrite ih =>
    intro o ho
    cases hwrite with
    | record h =>
      obtain ⟨inbox, rfl⟩ := receiveRequest_eq h
      exact ih o ho
    | event kind detail => exact ih o ho
    | submit hvalid h =>
      obtain ⟨-, -, -, rfl⟩ | ⟨-, -, heads, rfl, -⟩ := submitRevision_cases h
      · exact ih o ho
      · exact ih o ho
    | context taskId contextId => exact ih o ho
    | input row => exact ih o ho
    | outcome hkey hverify hrow h =>
      obtain ⟨taskOutputs, outcomes, audit, rfl, hmem⟩ := recordOutcomeWithOutputs_eq h
      rcases hmem o ho with hold | rfl
      · exact ih o hold
      · exact .inr ⟨_, _, _, hkey, hrow ▸ hverify⟩

theorem handleReceive_result {message : Message} {s s' : Store}
    (h : exec (handleReceive env key config req now) s = (.ok answer, s'))
    (hbody : env.parseRequest req.body = some message)
    (hresult : resultManifestEnvelope message.parts = some envelope)
    (hstatus : answer.status < 400) :
    ∃ taskResultKey manifest digest, config.performerTaskResultKey = some taskResultKey ∧
      ResultManifest.verify env envelope taskResultKey = .ok (manifest, digest) := by
  have hproblem : ∀ {status : ℕ} {kind title : String}, 400 ≤ status →
      exec (pure (problemResponse env status kind title) :
        Operation Store StoreError HttpResponse) s ≠ (.ok answer, s') := by
    intro status kind title hle heq
    rw [exec_pure, Prod.mk.injEq, ok.injEq] at heq
    rw [← heq.1] at hstatus
    exact absurd hle (Nat.not_le.2 hstatus)
  unfold handleReceive at h
  split at h
  case isTrue => exact absurd h (hproblem (by decide))
  simp only [hbody, hresult] at h
  split at h
  case isFalse => exact absurd h (hproblem (by decide))
  unfold handleResult at h
  split at h
  case h_2 => exact absurd h (hproblem (by decide))
  case h_1 outcomeKey taskResultKey _ hkey =>
    split at h
    case h_1 => exact absurd h (hproblem (by decide))
    case h_2 signedAt _ =>
      cases hverify : ResultManifest.verify env envelope taskResultKey with
      | ok verified => exact ⟨taskResultKey, verified.1, verified.2, hkey, hverify⟩
      | error e =>
        -- the first step of finalizing fails, with its own status
        have hfail : exec (finalizeResult env config.localPerformer config.requesterOrigin req.peer
            outcomeKey taskResultKey envelope (deliveredOutputs message.parts) signedAt now) s =
              (.error (Problem.new 422 "manifest-invalid" "the result manifest did not verify"),
                s) :=
          exec_demand_bind_of_error (by rw [hverify]; rfl)
        rw [exec_bind_of_ok (exec_attempt hfail)] at h
        exact absurd h (hproblem (by decide))

end Outcomes

/-! ## The server -/

section Server

variable {env : Env} {key : Bytes} {st : ReceiveState} {fp : String} {req : HttpRequest}
  {wall : Time} {s s' : Store}

theorem respond_handled (h : exec (respond env key st (some fp) req wall) s = (.ok answer, s')) :
    400 ≤ answer.status ∨ ∃ peer now floor, resolve env s fp = some peer ∧
      exec (handleReceive env key (st.config peer (st.taskResultKey env s fp peer.peerId))
        { req with tenant := none, peer := peer.peerId } now) { s with trustedTime := floor } =
          (.ok answer, s') := by
  have hproblem : ∀ {s₁ : Store} {status : ℕ} {kind title : String}, 400 ≤ status →
      exec (pure (problemResponse env status kind title) :
        Operation Store StoreError HttpResponse) s₁ = (.ok answer, s') → 400 ≤ answer.status := by
    intro s₁ status kind title hle heq
    rw [exec_pure, Prod.mk.injEq, ok.injEq] at heq
    rw [← heq.1]
    exact hle
  obtain ⟨e, he, -⟩ | ⟨resolved, hresolve, h⟩ := exec_ask_cases h
  · cases he
  cases hresolve
  cases hpeer : resolve env s fp with
  | none =>
    rw [hpeer] at h
    exact .inl (hproblem (by decide) h)
  | some peer =>
    simp only [hpeer] at h
    obtain ⟨e, he, -⟩ | ⟨clock, s₁, hclock, h⟩ := exec_bind_cases h
    · cases he
    rcases hnow : exec (commit (Store.trustedNow wall) (id : StoreError → StoreError)) s with
      ⟨r, s₂⟩
    rw [exec_attempt hnow, Prod.mk.injEq, ok.injEq] at hclock
    obtain ⟨rfl, rfl⟩ := hclock
    cases r with
    | error e => exact .inl (hproblem (by decide) h)
    | ok now =>
      obtain ⟨floor, rfl⟩ := Store.trustedNow_eq (exec_commit_eq_ok.1 hnow)
      obtain ⟨e, he, -⟩ | ⟨taskResultKey, hkey, h⟩ := exec_ask_cases h
      · cases he
      cases hkey
      obtain ⟨e, he, -⟩ | ⟨handled, s₃, hhandled, h⟩ := exec_bind_cases h
      · cases he
      rcases hrun : exec (handleReceive env key
          (st.config peer (st.taskResultKey env { s with trustedTime := floor } fp peer.peerId))
          { req with tenant := none, peer := peer.peerId } now)
          { s with trustedTime := floor } with ⟨r, s₄⟩
      rw [exec_attempt hrun, Prod.mk.injEq, ok.injEq] at hhandled
      obtain ⟨rfl, rfl⟩ := hhandled
      cases r with
      | error e => exact .inl (hproblem (by decide) h)
      | ok response =>
        rw [exec_pure, Prod.mk.injEq, ok.injEq] at h
        obtain ⟨rfl, rfl⟩ := h
        exact .inr ⟨peer, now, floor, rfl, hrun⟩

theorem respond_commits (h : s' ∈ commits (respond env key st (some fp) req wall) s) :
    ∃ floor, s' = { s with trustedTime := floor } ∨ ∃ peer now, resolve env s fp = some peer ∧
      ReceiveWrites env key (st.config peer (st.taskResultKey env s fp peer.peerId))
        { req with tenant := none, peer := peer.peerId } now { s with trustedTime := floor } s' := by
  obtain ⟨resolved, hresolve, h⟩ := mem_commits_ask_bind h
  cases hresolve
  cases hpeer : resolve env s fp with
  | none =>
    rw [hpeer] at h
    cases h
  | some peer =>
    simp only [hpeer] at h
    rcases hnow : exec (commit (Store.trustedNow wall) (id : StoreError → StoreError)) s with
      ⟨r, s₂⟩
    obtain h | ⟨clock, s₁, hclock, h⟩ := mem_commits_bind h
    · have hmoves : Moves (fun s s' : Store => ∃ floor, s' = { s with trustedTime := floor })
          (commit (Store.trustedNow wall) (id : StoreError → StoreError)) :=
        Moves.commit (fun s => ⟨s.trustedTime, rfl⟩) (fun s a s' => Store.trustedNow_eq)
      obtain ⟨floor, hfloor⟩ := hmoves s s' (mem_cons_of_mem _ h)
      exact ⟨floor, .inl hfloor⟩
    · rw [exec_attempt hnow, Prod.mk.injEq, ok.injEq] at hclock
      obtain ⟨rfl, rfl⟩ := hclock
      cases r with
      | error e => cases h
      | ok now =>
        obtain ⟨floor, rfl⟩ := Store.trustedNow_eq (exec_commit_eq_ok.1 hnow)
        refine ⟨floor, .inr ⟨peer, now, rfl, ?_⟩⟩
        obtain ⟨taskResultKey, hkey, h⟩ := mem_commits_ask_bind h
        cases hkey
        obtain h | ⟨handled, s₄, -, h⟩ := mem_commits_bind h
        · exact moves_handleReceive _ s' (mem_cons_of_mem _ h)
        · cases handled <;> cases h

def OpenedBy (env : Env) (s : Store) (fp : String) (head : HeadRow) : Prop :=
  ∃ row proposal, ProposalRow s fp row ∧ head.originRoot = row.rootThumbprint ∧
    head.digest = proposal.digest ∧ parsePayload env proposal.payload = .ok proposal ∧
    proposal.contract.requester.root = row.rootThumbprint ∧
    ∃ signature, env.verifyStrict row.publicKey (pae proposalPayloadType proposal.payload)
      signature = true

def ResultVerified (env : Env) (s : Store) (fp : String) (envelope : Envelope) (digest : String) :
    Prop :=
  ∃ row resultRow manifest, ProposalRow s fp row ∧
    TaskResultRow s fp row.rootThumbprint resultRow ∧
    ResultManifest.verify env envelope ⟨.taskResult, resultRow.publicKey⟩ = .ok (manifest, digest)

theorem openedBy_of_proposed {taskResultKey : Option PurposeVerifyingKey} {now : Time}
    {head : HeadRow} (hpeer : resolve env s fp = some peer)
    (horigin : head.originRoot = peer.peerId)
    (h : Proposed env (st.config peer taskResultKey) now head.digest) : OpenedBy env s fp head := by
  obtain ⟨row, hrow, rfl⟩ := resolve_eq_some hpeer
  obtain ⟨received, hadmitted, hdigest⟩ := h
  exact ⟨row, received.proposal, hrow, horigin, hdigest.symm, hadmitted.parsed,
    congrArg Identity.root hadmitted.requester, hadmitted.signed⟩

theorem resultVerified_of_verify {taskResultKey : PurposeVerifyingKey} {manifest : ResultManifest}
    {digest : String} (hpeer : resolve env s fp = some peer)
    (hkey : st.taskResultKey env s fp peer.peerId = some taskResultKey)
    (h : ResultManifest.verify env envelope taskResultKey = .ok (manifest, digest)) :
    ResultVerified env s fp envelope digest := by
  obtain ⟨row, hrow, rfl⟩ := resolve_eq_some hpeer
  obtain ⟨resultRow, hresult, rfl⟩ := taskResultKey_eq_some hkey
  exact ⟨row, resultRow, manifest, hrow, hresult, h⟩

/-- **A request acts for the root behind its certificate, and for no other.**  In every state that
a request leaves or is cut off in, the peers are those of before; a head that it opened carries
the root of the key row of the fingerprint, that of an active peer, and so does the contract,
whose signature verified under that row's key; and an outcome that it recorded is of a manifest
that verified under a result key of the same root.  A delivered result is answered as a success
only if it verified so. -/
theorem requests_act_for_resolved_root (env : Env) (key : Bytes) (st : ReceiveState)
    (peerFp : Option String) (req : HttpRequest) (wall : Time) (s : Store) :
    (∀ s' ∈ s :: commits (respond env key st peerFp req wall) s,
      s'.peers = s.peers ∧ s'.peerKeys = s.peerKeys ∧
      (∀ t head, s.headRow t = none → s'.headRow t = some head →
        ∃ fp, peerFp = some fp ∧ OpenedBy env s fp head) ∧
      (∀ o ∈ s'.outcomes, o ∈ s.outcomes ∨
        ∃ fp envelope, peerFp = some fp ∧ ResultVerified env s fp envelope o.bundleDigest)) ∧
    (∀ message envelope answer s', env.parseRequest req.body = some message →
      resultManifestEnvelope message.parts = some envelope →
      exec (respond env key st peerFp req wall) s = (.ok answer, s') → answer.status < 400 →
      ∃ fp digest, peerFp = some fp ∧ ResultVerified env s fp envelope digest) := by
  have hsame : ∀ floor : Option Time, ∀ t head, s.headRow t = none →
      ({ s with trustedTime := floor } : Store).headRow t = some head →
        ∃ fp, peerFp = some fp ∧ OpenedBy env s fp head := by
    intro floor t head hnone hsome
    cases hnone.symm.trans hsome
  constructor
  · intro s' hs'
    rcases mem_cons.1 hs' with rfl | hs'
    · exact ⟨rfl, rfl, hsame s'.trustedTime, fun o ho => .inl ho⟩
    cases peerFp with
    | none => cases hs'
    | some fp =>
      obtain ⟨floor, rfl | ⟨peer, now, hpeer, hwrites⟩⟩ := respond_commits hs'
      · exact ⟨rfl, rfl, hsame floor, fun o ho => .inl ho⟩
      have hheads := opensHeads_writes hwrites
      refine ⟨hheads.peers, hheads.peerKeys, fun t head hnone hhead => ?_, fun o ho => ?_⟩
      · obtain ⟨horigin, hproposed⟩ := hheads.opened t head hnone hhead
        exact ⟨fp, rfl, openedBy_of_proposed hpeer horigin hproposed⟩
      · refine (verified_of_writes hwrites o ho).imp_right ?_
        rintro ⟨taskResultKey, envelope, manifest, hkey, hverify⟩
        exact ⟨fp, envelope, rfl, resultVerified_of_verify hpeer hkey hverify⟩
  · intro message envelope answer s' hbody hresult hrun hstatus
    cases peerFp with
    | none =>
      rw [respond, exec_pure, Prod.mk.injEq, ok.injEq] at hrun
      rw [← hrun.1] at hstatus
      exact absurd hstatus (show ¬ 403 < 400 by decide)
    | some fp =>
      obtain hproblem | ⟨peer, now, floor, hpeer, hhandled⟩ := respond_handled hrun
      · exact absurd hproblem (Nat.not_le.2 hstatus)
      obtain ⟨taskResultKey, manifest, digest, hkey, hverify⟩ :=
        handleReceive_result hhandled hbody hresult hstatus
      exact ⟨fp, digest, rfl, resultVerified_of_verify hpeer hkey hverify⟩

end Server

end Akson
