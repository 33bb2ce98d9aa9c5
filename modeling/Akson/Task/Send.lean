/-
# Sending a task

The requester's end of an exchange.  A task is assembled and signed under the store lock, posted
without it, and recorded under it again once the performer has answered with the id of its task.
-/
import Akson.Coord.Envelope
import Akson.Evidence.Reply
import Akson.Task.Outputs

namespace Akson

open Operation Except Option List Table

/-! ## The operator's task -/

structure TaskInput where
  id : String
  mediaType : String
  text : String

/-- A task, as the operator writes it. -/
structure TaskSpec where
  /-- The agent id of the performer. -/
  performer : String
  taskType : String
  objective : String
  inputs : List TaskInput
  deliverables : List Deliverable
  capabilities : List String
  deadline : String
  maxResponseBytes : ℕ

/-- The random bytes of a send. -/
structure SendDraw where
  contract : Fin 16 → UInt8
  message : Fin 8 → UInt8
  context : Fin 8 → UInt8

def uuidV4 (drawn : Fin 16 → UInt8) : String :=
  let version := (drawn 6 &&& 0x0f) ||| 0x40
  let variant := (drawn 8 &&& 0x3f) ||| 0x80
  hex [drawn 0, drawn 1, drawn 2, drawn 3] ++ "-" ++ hex [drawn 4, drawn 5] ++ "-" ++
    hex [version, drawn 7] ++ "-" ++ hex [variant, drawn 9] ++ "-" ++
    hex [drawn 10, drawn 11, drawn 12, drawn 13, drawn 14, drawn 15]

def randomId (start : String) (drawn : Fin 8 → UInt8) : String := start ++ "-" ++ hex (List.ofFn drawn)

variable (env : Env)

def TaskInput.entryJson (messageId : String) (input : TaskInput) (i : ℕ) : Json :=
  .obj [("id", .str input.id), ("message_id", .str messageId), ("part_index", .num ↑(i + 1)),
    ("kind", .str "text"), ("media_type", .str input.mediaType), ("charset", .str "utf-8"),
    ("canonical_rule", .str "utf8-exact"), ("byte_length", .num ↑(utf8 input.text).length),
    ("sha256", .str (hex (env.sha256 (utf8 input.text)))), ("worker_visible", .bool true),
    ("processor_visible", .bool false)]

def TaskSpec.contractJson (me performer : Identity) (spec : TaskSpec)
    (contractId messageId createdAt : String) : Json :=
  .obj [("schema_version", .num 1), ("contract_id", .str contractId), ("revision", .num 0),
    ("task_type", .str spec.taskType), ("message_id", .str messageId), ("requester", me.json),
    ("performer", performer.json), ("objective", .str spec.objective),
    ("inputs", .arr (spec.inputs.mapIdx (fun i input => input.entryJson env messageId i))),
    ("deliverables", .arr (spec.deliverables.map (fun d =>
      .obj [("role", .str d.role), ("media_type", .str d.mediaType)]))),
    ("evidence_slots", .arr []), ("requested_capabilities", .arr (spec.capabilities.map .str)),
    ("processor_constraints", .obj [("disclosure", .str "none")]),
    ("limits", .obj [("deadline", .str spec.deadline),
      ("max_response_bytes", .num spec.maxResponseBytes)]),
    ("result_recipient", .str "request-origin"), ("created_at", .str createdAt),
    ("expires_at", .str spec.deadline)]

/-! ## Preparing and sending -/

/-- A proposal that is ready to be posted. -/
structure SendPrepared where
  performerEndpoint : String
  performerFingerprint : String
  performerAgent : String
  performerIssuer : String
  performerRoot : String
  messageBody : Bytes
  contractDigest : String
  contractId : String
  contextId : String
  messageId : String
deriving DecidableEq

def Store.solePeerNamed (s : Store) (agentId : String) : Option StoredPeer :=
  if s.peers.count (fun r => r.agentId = agentId) ≠ 1 then none
  else (s.peers.find (fun r => r.agentId = agentId)).map PeerRow.record

def Store.performer (s : Store) (spec : TaskSpec) (performerRoot : Option String) :
    Except Problem StoredPeer := do
  let found := match performerRoot with
    | some root => s.getPeerByRoot root
    | none => s.solePeerNamed spec.performer
  let peer ← okOr found (Problem.new 409 "unknown-performer"
    "the performer is not a paired peer (or the name is ambiguous — use your label)")
  ensure (s.peerStatusByRoot peer.identity.agentCardKey.value = some .active)
    (Problem.new 409 "peer-not-active" "the performer is not an active peer (suspended or removed)")
  .ok peer

def StoredPeer.party (peer : StoredPeer) : Identity :=
  ⟨peer.identity.issuer.getD "", peer.identity.agentId, peer.identity.agentCardKey.value⟩

def TaskSpec.message (spec : TaskSpec) (envelope : Envelope) (messageId contextId : String) :
    Message where
  messageId := messageId
  contextId := contextId
  parts := ⟨"", dsseEnvelopeMediaType, some (.data envelope.json)⟩ ::
    spec.inputs.map (fun input => ⟨"", input.mediaType, some (.text input.text)⟩)

/-- Draft, sign and address a proposal. -/
def prepareSend (me : Identity) (proposalKey : PurposeKey) (spec : TaskSpec)
    (performerRoot : Option String) (draw : SendDraw) (createdAt : String) (s : Store) :
    Except Problem SendPrepared := do
  let peer ← s.performer spec performerRoot
  let contractId := uuidV4 draw.contract
  let messageId := randomId "msg" draw.message
  let contextId := randomId "ctx" draw.context
  let payload := Json.canonicalBytes env.fmtNum
    (spec.contractJson env me peer.party contractId messageId createdAt)
  -- the contract is validated before it is signed
  let parsed ← (parsePayload env payload).mapError (fun e =>
    detailed 400 "invalid-task" "the task spec is not a valid contract" (e.message env))
  let envelope ← (signProposal env payload proposalKey).mapError (fun _ =>
    Problem.new 500 "sign-failed" "the proposal could not be signed")
  let request ← okOr (env.requestJson (spec.message envelope messageId contextId)) internal
  .ok ⟨peer.identity.endpointId, peer.identity.tlsCert.value, peer.party.agent, peer.party.issuer,
    peer.party.root, env.jsonText request, parsed.digest, contractId, contextId, messageId⟩

def sendPrepared (response : Except Problem (ℕ × Bytes)) : Except Problem String := do
  let (status, body) ← response
  ensure (status = 200) (detailed 502 "send-rejected"
    "the performer did not accept the proposal"
    ("status " ++ toString status ++ ": " ++ utf8Lossy body))
  let task ← okOr (env.parseJson body)
    (Problem.new 502 "send-io" "the performer sent no A2A Task")
  okOr (task.getStr? "id") (Problem.new 502 "send-io" "the performer's Task had no id")

def SendPrepared.sentRequest (p : SendPrepared) (taskId : String) : SentRequest where
  contractDigest := p.contractDigest
  taskId := taskId
  contextId := p.contextId
  performerRoot := p.performerRoot
  contractId := p.contractId
  performerAgent := p.performerAgent
  performerIssuer := p.performerIssuer
  messageId := p.messageId

def Proposes (me : Identity) (proposalKey : PurposeKey) (p : SendPrepared)
    (contract : Json) : Prop :=
  ∃ spec performerRoot draw createdAt s peer,
    prepareSend env me proposalKey spec performerRoot draw createdAt s = .ok p ∧
    s.performer spec performerRoot = .ok peer ∧
    contract = spec.contractJson env me peer.party (uuidV4 draw.contract)
      (randomId "msg" draw.message) createdAt

variable {performerRoot : Option String} {createdAt : String} {spec : TaskSpec} {draw : SendDraw}
  {envelope : Envelope} {peer : StoredPeer} {now : Time}

section Prepare

variable {env : Env} {me : Identity} {proposalKey : PurposeKey} {s : Store} {p : SendPrepared}

theorem prepareSend_eq_ok
    (h : prepareSend env me proposalKey spec performerRoot draw createdAt s = .ok p) :
    ∃ peer, s.performer spec performerRoot = .ok peer ∧ p.contractId = uuidV4 draw.contract ∧
      p.contractDigest = hex (env.sha256 (Json.canonicalBytes env.fmtNum
        (spec.contractJson env me peer.party (uuidV4 draw.contract) (randomId "msg" draw.message)
          createdAt))) := by
  simp only [prepareSend, bind_eq_ok, mapError_eq_ok, okOr_eq_ok] at h
  obtain ⟨peer, hpeer, parsed, hparsed, envelope, -, request, -, hout⟩ := h
  have hdigest := (parsePayload_digest hparsed).1
  rw [← ok.inj hout]
  exact ⟨peer, hpeer, rfl, hdigest⟩

theorem prepareSend_of_ok {payload : Bytes} {parsed : ParsedContract} {request : Json}
    (hpeer : s.performer spec performerRoot = .ok peer)
    (hpayload : Json.canonicalBytes env.fmtNum (spec.contractJson env me peer.party
      (uuidV4 draw.contract) (randomId "msg" draw.message) createdAt) = payload)
    (hparsed : parsePayload env payload = .ok parsed)
    (hsigned : signProposal env payload proposalKey = .ok envelope)
    (hrequest : env.requestJson (spec.message envelope (randomId "msg" draw.message)
      (randomId "ctx" draw.context)) = some request) :
    prepareSend env me proposalKey spec performerRoot draw createdAt s =
      .ok ⟨peer.identity.endpointId, peer.identity.tlsCert.value, peer.party.agent, peer.party.issuer,
        peer.party.root, env.jsonText request, parsed.digest, uuidV4 draw.contract,
        randomId "ctx" draw.context, randomId "msg" draw.message⟩ := by
  refine bind_eq_ok.2 ⟨peer, hpeer, ?_⟩
  refine bind_eq_ok.2 ⟨parsed, mapError_eq_ok.2 (hpayload ▸ hparsed), ?_⟩
  refine bind_eq_ok.2 ⟨envelope, mapError_eq_ok.2 (hpayload ▸ hsigned), ?_⟩
  exact bind_eq_ok.2 ⟨request, okOr_eq_ok.2 hrequest, rfl⟩

theorem proposes_of_prepareSend
    (h : prepareSend env me proposalKey spec performerRoot draw createdAt s = .ok p) :
    ∃ contract, Proposes env me proposalKey p contract := by
  obtain ⟨peer, hpeer, -, -⟩ := prepareSend_eq_ok h
  exact ⟨_, spec, performerRoot, draw, createdAt, s, peer, h, hpeer, rfl⟩

theorem Proposes.contract {contract : Json} (h : Proposes env me proposalKey p contract) :
    contract.getStr? "contract_id" = some p.contractId ∧ contract.getNat? "revision" = some 0 ∧
      p.contractDigest = hex (env.sha256 (Json.canonicalBytes env.fmtNum contract)) := by
  obtain ⟨spec, performerRoot, draw, createdAt, s, peer, hprepare, hpeer, rfl⟩ := h
  obtain ⟨peer', hpeer', hid, hdigest⟩ := prepareSend_eq_ok hprepare
  obtain rfl := ok.inj (hpeer'.symm.trans hpeer)
  rw [hid]
  exact ⟨rfl, rfl, hdigest⟩

end Prepare

/-! ## Results that nobody asked for -/

def unsolicited : Problem :=
  Problem.new 409 "unsolicited-result" "no outstanding request matches this result"

section Unsolicited

variable {env : Env} {sender requester : Identity} {senderRoot taskId signedAt : String}
  {manifest : ResultManifest} {delivered : List DeliveredOutput} {problem : Problem}

theorem matchRequest_eq_unsolicited_iff (manifest : ResultManifest) (sender : Identity)
    (senderRoot : String) {sent : Option SentRequest} :
    matchRequest manifest sender senderRoot sent = .error unsolicited ↔ sent = none := by
  constructor
  · intro h
    simp only [matchRequest, bind_eq_error, okOr_eq_error, ensure_eq_error] at h
    rcases h with ⟨hnone, -⟩ | ⟨_, -, ⟨-, h⟩ | ⟨_, -, ⟨-, h⟩ | ⟨_, -, ⟨-, h⟩ | ⟨_, -, -, h⟩⟩⟩⟩
    · exact hnone
    all_goals exact absurd (congrArg Problem.type h) (by decide)
  · rintro rfl
    rfl

theorem stageOutputs_ne_unsolicited {entries : List OutputEntry} {ordinal : ℕ} :
    stageOutputs env taskId delivered ordinal entries ≠ .error unsolicited := by
  induction entries generalizing ordinal with
  | nil => exact nofun
  | cons entry entries ih =>
    intro h
    simp only [stageOutputs, bind_eq_error, okOr_eq_error,
      ensure_eq_error] at h
    rcases h with ⟨-, h⟩ | ⟨_, -, ⟨-, h⟩ | ⟨_, -, h | ⟨_, -, h⟩⟩⟩
    · exact absurd (congrArg Problem.type h) (by decide)
    · exact absurd (congrArg Problem.type h) (by decide)
    · exact ih h
    · cases h

theorem checkOutputs_ne_unsolicited : checkOutputs env manifest delivered ≠ .error unsolicited := by
  intro h
  simp only [checkOutputs, bind_eq_error, ensure_eq_error] at h
  rcases h with ⟨-, h⟩ | ⟨_, -, h | ⟨_, -, ⟨-, h⟩ | ⟨_, -, h⟩⟩⟩
  · exact absurd (congrArg Problem.type h) (by decide)
  · exact stageOutputs_ne_unsolicited h
  · exact absurd (congrArg Problem.type h) (by decide)
  · cases h

theorem signOutcome_ne_unsolicited {outcomeKey : PurposeKey} :
    signOutcome env manifest requester signedAt outcomeKey ≠ .error unsolicited := by
  intro h
  simp only [signOutcome, bind_eq_error, mapError_eq_error] at h
  rcases h with ⟨_, -, h⟩ | ⟨_, -, ⟨_, -, h⟩ | ⟨_, -, ⟨_, -, h⟩ | ⟨_, -, ⟨_, -, h⟩ | ⟨_, -, h⟩⟩⟩⟩
  any_goals exact absurd (congrArg Problem.type h) (by decide)
  cases h

theorem finalizeResult_unsolicited_iff {key : PurposeVerifyingKey} {outcomeKey : PurposeKey}
    {s s' : Store} {bundleDigest : String} {answer : Except Problem Json}
    (hverify : ResultManifest.verify env envelope key = .ok (manifest, bundleDigest))
    (hrun : exec (finalizeResult env requester sender senderRoot outcomeKey key envelope delivered
      signedAt now) s = (answer, s')) :
    answer = .error unsolicited ↔ s.getSentRequest manifest.header.contractDigest = none := by
  rw [finalizeResult, exec_demand_bind_of_ok (mapError_eq_ok.2 hverify)] at hrun
  obtain ⟨p, hmatch, rfl, -⟩ | ⟨u, hmatch, hrun⟩ := exec_ask_cases hrun
  · rw [← matchRequest_eq_unsolicited_iff manifest sender senderRoot, hmatch, Except.error.injEq,
      Except.error.injEq]
  · obtain ⟨sent, hsent, -⟩ := matchRequest_eq_ok_iff.1 hmatch
    have hsome : s.getSentRequest manifest.header.contractDigest ≠ none := by simp [hsent]
    refine iff_of_false ?_ hsome
    obtain ⟨p, hp, rfl, -⟩ | ⟨rows, -, hrun⟩ := exec_demand_cases hrun
    · rintro ⟨⟩
      exact checkOutputs_ne_unsolicited hp
    obtain ⟨p, hp, rfl, -⟩ | ⟨signed, -, hrun⟩ := exec_demand_cases hrun
    · rintro ⟨⟩
      exact signOutcome_ne_unsolicited hp
    obtain ⟨_, -, rfl, -⟩ | ⟨write, s₁, -, hrun⟩ := exec_commit_cases hrun
    · intro h
      exact absurd (congrArg Problem.type (Except.error.inj h)) (by decide)
    · obtain ⟨rfl, -⟩ := Prod.mk.inj hrun
      intro h
      cases h

end Unsolicited

/-! ## The system

The state is the store and what has become of the proposals.  The performers are on their own: a
proposal that was posted may be accepted at any time after, whether its send still waits for the
answer or not. -/

/-- The store, and how far each send has come. -/
structure Requester where
  store : Store
  /-- The sends that wait for the performer's answer. -/
  waiting : List SendPrepared
  posted : List SendPrepared
  accepted : List SendPrepared
  /-- The sends that have come to their end, with the id of the performer's task. -/
  ended : List (SendPrepared × String)

/-- What happens at a requester. -/
inductive RequesterEvent where
  | prepare (p : SendPrepared)
  /-- The performer has made a task of the proposal. -/
  | accept (p : SendPrepared)
  /-- The performer's answer is read, and the send is recorded. -/
  | record (p : SendPrepared) (taskId : String)
  /-- The post has failed, or the answer was none that a send can use. -/
  | abandon (p : SendPrepared)
  | deliver (d : Delivery) (answer : Except Problem Json)
  | elsewhere
  | crash

/-- One step of a requester. -/
inductive RequesterStep (env : Env) (me : Party) (proposalKey : PurposeKey) :
    Requester → RequesterEvent → Requester → Prop
  | prepare {e p spec performerRoot draw createdAt}
      (hrun : prepareSend env me.identity proposalKey spec performerRoot draw createdAt e.store =
        .ok p) :
      RequesterStep env me proposalKey e (.prepare p)
        { e with waiting := p :: e.waiting, posted := p :: e.posted }
  | accept {e p} (hposted : p ∈ e.posted) :
      RequesterStep env me proposalKey e (.accept p) { e with accepted := p :: e.accepted }
  | record {e p response taskId now} (hwaits : p ∈ e.waiting)
      (hanswer : sendPrepared env response = .ok taskId) :
      RequesterStep env me proposalKey e (.record p taskId)
        { e with
          store := putSentRequest (p.sentRequest taskId) now e.store
          waiting := e.waiting.erase p
          ended := (p, taskId) :: e.ended }
  | abandon {e p} (hwaits : p ∈ e.waiting) :
      RequesterStep env me proposalKey e (.abandon p) { e with waiting := e.waiting.erase p }
  | deliver {e d answer s'} (hrun : exec (d.finalize env me) e.store = (answer, s')) :
      RequesterStep env me proposalKey e (.deliver d answer) { e with store := s' }
  | elsewhere {e s'} (hrun : s'.sentRequests = e.store.sentRequests) :
      RequesterStep env me proposalKey e .elsewhere { e with store := s' }
  -- the threads that wait are gone, the store is as it was committed
  | crash {e} : RequesterStep env me proposalKey e .crash { e with waiting := [] }

structure Requester.Fresh (e : Requester) : Prop where
  sentRequests : e.store.sentRequests = {}
  waiting : e.waiting = []
  posted : e.posted = []
  accepted : e.accepted = []
  ended : e.ended = []

/-- The invariant: a request is recorded exactly when its send has ended. -/
structure Requester.Recorded (env : Env) (me : Party) (proposalKey : PurposeKey) (e : Requester) :
    Prop where
  waiting : ∀ p ∈ e.waiting, ∃ contract, Proposes env me.identity proposalKey p contract
  ended : ∀ p taskId, (p, taskId) ∈ e.ended →
    (∃ contract, Proposes env me.identity proposalKey p contract) ∧
      ∃ row ∈ e.store.sentRequests, row.contractDigest = p.contractDigest
  rows : ∀ row ∈ e.store.sentRequests, ∃ p taskId, (p, taskId) ∈ e.ended ∧
    row.toSentRequest = p.sentRequest taskId

section Runs

variable {env : Env} {me : Party} {proposalKey : PurposeKey} {e e' : Requester}
  {l : RequesterEvent}

theorem Requester.Fresh.recorded (h : e.Fresh) : e.Recorded env me proposalKey where
  waiting := by simp [h.waiting]
  ended := by simp [h.ended]
  rows := by
    intro row hrow
    rw [h.sentRequests] at hrow
    exact absurd hrow (not_mem_empty row)

theorem Requester.Recorded.keep (h : e.Recorded env me proposalKey)
    (hsent : e'.store.sentRequests = e.store.sentRequests) (hended : e'.ended = e.ended)
    (hwaiting : ∀ p ∈ e'.waiting, p ∈ e.waiting) : e'.Recorded env me proposalKey where
  waiting p hp := h.waiting p (hwaiting p hp)
  ended p taskId hp := by
    rw [hsent]
    exact h.ended p taskId (hended ▸ hp)
  rows row hrow := by
    rw [hended]
    exact h.rows row (hsent ▸ hrow)

theorem sentRequests_finalize {d : Delivery} {s s' : Store} {answer : Except Problem Json}
    (hrun : exec (d.finalize env me) s = (answer, s')) : s'.sentRequests = s.sentRequests := by
  obtain ⟨-, rfl⟩ | ⟨_, _, _, _, _, -, -, hrecord, -⟩ := finalizeResult_cases hrun
  · rfl
  · obtain ⟨_, -, -, rfl⟩ | ⟨-, -, _, _, _, -, -, rfl⟩ := recordOutcomeWithOutputs_cases hrecord
    · rfl
    · rfl

theorem Requester.Recorded.record {p : SendPrepared} {taskId : String}
    (h : e.Recorded env me proposalKey) (hwaits : p ∈ e.waiting) :
    Requester.Recorded env me proposalKey
      { e with
        store := putSentRequest (p.sentRequest taskId) now e.store
        waiting := e.waiting.erase p
        ended := (p, taskId) :: e.ended } := by
  have hproposed := h.waiting p hwaits
  -- a second record of the contract is passed over, and the first one is there
  have hrows : (∀ row, row ∈ (putSentRequest (p.sentRequest taskId) now e.store).sentRequests →
      row ∈ e.store.sentRequests ∨ row.toSentRequest = p.sentRequest taskId) ∧
      (∀ row ∈ e.store.sentRequests,
        row ∈ (putSentRequest (p.sentRequest taskId) now e.store).sentRequests) ∧
      ∃ row ∈ (putSentRequest (p.sentRequest taskId) now e.store).sentRequests,
        row.contractDigest = p.contractDigest := by
    unfold putSentRequest
    dsimp only
    split
    case h_1 sent hinsert =>
      refine ⟨?_, ?_, ⟨_, (mem_insert hinsert).2 (.inr rfl), rfl⟩⟩
      · intro row hrow
        rcases (mem_insert hinsert).1 hrow with hold | rfl
        · exact .inl hold
        · exact .inr rfl
      · intro row hrow
        exact (mem_insert hinsert).2 (.inl hrow)
    case h_2 hinsert =>
      obtain ⟨row, hrow, hclash⟩ := insert_eq_none_iff.1 hinsert
      exact ⟨fun row hrow => .inl hrow, fun row hrow => hrow, row, hrow, hclash⟩
  obtain ⟨hback, hforth, hthere⟩ := hrows
  refine ⟨fun q hq => h.waiting q (mem_of_mem_erase hq), ?_, ?_⟩
  · intro q id hq
    rcases mem_cons.1 hq with hnew | hold
    · cases hnew
      exact ⟨hproposed, hthere⟩
    · obtain ⟨hq, row, hrow, hdigest⟩ := h.ended q id hold
      exact ⟨hq, row, hforth row hrow, hdigest⟩
  · intro row hrow
    rcases hback row hrow with hold | hnew
    · obtain ⟨q, id, hq, hrow⟩ := h.rows row hold
      exact ⟨q, id, mem_cons_of_mem _ hq, hrow⟩
    · exact ⟨p, taskId, mem_cons_self, hnew⟩

theorem recorded_step (h : e.Recorded env me proposalKey)
    (hstep : RequesterStep env me proposalKey e l e') : e'.Recorded env me proposalKey := by
  cases hstep with
  | prepare hrun =>
    refine ⟨?_, h.ended, h.rows⟩
    intro q hq
    rcases mem_cons.1 hq with rfl | hq
    · exact proposes_of_prepareSend hrun
    · exact h.waiting q hq
  | accept => exact h.keep rfl rfl (fun _ hp => hp)
  | record hwaits => exact h.record hwaits
  | abandon => exact h.keep rfl rfl (fun _ hp => mem_of_mem_erase hp)
  | deliver hrun => exact h.keep (sentRequests_finalize hrun) rfl (fun _ hp => hp)
  | elsewhere hrun => exact h.keep hrun rfl (fun _ hp => hp)
  | crash => exact h.keep rfl rfl (fun _ hp => by cases hp)

theorem Requester.Fresh.recorded_run {ls : List RequesterEvent} (h : e.Fresh)
    (hrun : Trace (RequesterStep env me proposalKey) e ls e') : e'.Recorded env me proposalKey :=
  hrun.invariant (fun _ _ _ => recorded_step) h.recorded

theorem Requester.Recorded.getSentRequest_eq_none_iff (h : e.Recorded env me proposalKey)
    (contractDigest : String) : e.store.getSentRequest contractDigest = none ↔
      ∀ p taskId, (p, taskId) ∈ e.ended → p.contractDigest ≠ contractDigest := by
  rw [Store.getSentRequest, map_eq_none_iff, find_eq_none_iff]
  constructor
  · intro hnone p taskId hp hdigest
    obtain ⟨-, row, hrow, hsame⟩ := h.ended p taskId hp
    exact of_decide_eq_false (hnone row hrow) (hsame.trans hdigest)
  · intro hended row hrow
    obtain ⟨p, taskId, hp, hsame⟩ := h.rows row hrow
    have hdigest : row.contractDigest = p.contractDigest :=
      congrArg SentRequest.contractDigest hsame
    exact decide_eq_false (hdigest ▸ hended p taskId hp)

end Runs

/-! ## A task and two replies

The proposal of a small task, the reply of an honest performer, and the same reply under another
revision, each with its digests and signatures. -/

def sendSpec : TaskSpec where
  performer := "d"
  taskType := "https://akson.invalid/t"
  objective := "o"
  inputs := []
  deliverables := [⟨"r", "text/plain"⟩]
  capabilities := ["respond"]
  deadline := "2030-01-01T00:00:00Z"
  maxResponseBytes := 1024

def sendDraw : SendDraw := ⟨fun _ => 0, fun _ => 0, fun _ => 0⟩

def sendRequester : Identity := ⟨"a", "b", "root-fixture-aaaaaaaaaaaaaaaaaaaaaaaaaaaaaa"⟩

def sendPerformer : Identity := ⟨"c", "d", "root-fixture-bbbbbbbbbbbbbbbbbbbbbbbbbbbbbb"⟩

def sendPeer : StoredPeer :=
  .sample (some "c") "d" "https://d.example" "tls" sendPerformer.root

def sendContract : Json :=
  sendSpec.contractJson Env.inert sendRequester sendPerformer "00000000-0000-4000-8000-000000000000"
    "msg-0000000000000000" "2026-01-01T00:00:00Z"

def sendWire : Wire where
  value := Json.sortKeys sendContract
  contract := { Contract.sample with
    messageId := "msg-0000000000000000"
    performer := sendPerformer
    requestedCapabilities := [.respond] }
  digest := beBytes 32 0x5f693ed80050c56ec5fd4010df59f1cd55d32a21bae3c2ab5b6ab9e22312ccd8
  signature := beBytes 32 0xb00092de4917bb0b19c4501fc24a56ef44b9bc355b45d7b0a6afd18af913d0b8 ++
    beBytes 32 0xee88a2ea0583a5c5784b3290790442af17b4d9b9b0491186484db25fa54b890c
  texts := []

def sendOrderHash : Bytes :=
  beBytes 32 0x3eeb7e96e59ce40f9cb1a089daba079fd699f6867a30f6634af8570967b2375a

def sendHeader (revision : ℕ) : ManifestHeader where
  taskId := "task-1"
  contextId := "ctx-0000000000000000"
  contractId := "00000000-0000-4000-8000-000000000000"
  contractRevision := revision
  contractDigest := hex sendWire.digest
  attemptDigest := hex nonceHash
  workOrderReceiptDigest := hex sendOrderHash

theorem sendManifest_valid {revision : ℕ} (h : revision ≤ 1000000) :
    (okManifest (sendHeader revision) "r").validate = .ok () := by
  have htask : isA2aId "task-1" = true := by decide
  have hcontext : isA2aId "ctx-0000000000000000" = true := by decide
  have hcontract : isUuidV4 "00000000-0000-4000-8000-000000000000" = true := by decide
  exact okManifest_valid (by decide) ⟨htask, hcontext, hcontract, h, isSha256Hex_hex rfl,
    isSha256Hex_hex rfl, isSha256Hex_hex rfl⟩

def sendReply : Reply where
  header := sendHeader 0
  role := "r"
  digest := beBytes 32 0x798a9ac9594c063f005c6b3f177884da9ba521d88687a3763db171b5357c6365
  signature := beBytes 32 0x4f462f7d86067969e8a0b616a84a5ecc7dda61377729f4edb2a9bf6948c7091a ++
    beBytes 32 0x587c6ad1b156ddcd7890473fa6576671287ea83846b5a91b8147a177ab085a0c
  requester := sendRequester
  outcomeDigest := beBytes 32 0xcc811162f57c122e40b44e65921ece9f8417854ca6b28600a9d35ac1bf0f4c85
  outcomeSignature :=
    beBytes 32 0xc697c8f6dc932ace6d557d6e844d4c081ff97fe1ba2ed31d2f0c5625d9dae8dd ++
    beBytes 32 0x726c9a15f10f460fb39d153b3745a53de5fd833b980fc3d9d692cd29a774be01
  valid := sendManifest_valid (by decide)
  accepts := by decide +kernel
  signed := rfl

theorem manifest_of_bundle_digest_sendReply :
    (∃ envelope digest, sendReply.manifest.sign (Env.inert.withReply sendReply) Reply.key =
        .ok envelope ∧ ResultManifest.verify (Env.inert.withReply sendReply) envelope
          (Reply.key.verifying (Env.inert.withReply sendReply)) =
            .ok (sendReply.manifest, digest)) ∧
    ∀ m digest, ResultManifest.verify (Env.inert.withReply sendReply) (sendReply.envelope .inert)
        (Reply.key.verifying (Env.inert.withReply sendReply)) = .ok (m, digest) →
      m.isCanonicallyOrdered = true := by
  obtain ⟨hsigns, hbinds⟩ := manifest_of_bundle_digest (Env.inert.withReply sendReply)
  obtain ⟨envelope, digest, hsign, -, hverify⟩ := hsigns _ Reply.key sendReply.valid rfl
    (sendReply.attests .inert)
  exact ⟨⟨envelope, digest, hsign, hverify⟩,
    fun m digest h => (hbinds _ _ _ _ m m digest h h (fun _ => rfl)).2.1⟩

def revisedReply : Reply where
  header := sendHeader 1
  role := "r"
  digest := beBytes 32 0xb0025d60e9a9c651348de64914c5298da4ff2b55e6eeee32884cda0dd85271ed
  signature := beBytes 32 0x6c0e771b79538343cb98616032f4084f010cfd3cec81b1d204934077cf095436 ++
    beBytes 32 0x9a44e4f704dc6eda33dde4332363a92f8bf15e31df5b2da5fda238eda5420003
  requester := sendRequester
  outcomeDigest := beBytes 32 0x13b2665cbc44baef90c29c27a73b657f7208dc404bcbb447e7576e90bdba1bad
  outcomeSignature :=
    beBytes 32 0x2ec83febdbfe593ccb56aa4655e6daaf75e61ae4871073f38e0ce95b5c097d9a ++
    beBytes 32 0xefb8905f4e3aded2f5ce0f718f958fde66f8193f48010b31cd0c73bb4edc9503
  valid := sendManifest_valid (by decide)
  accepts := by decide +kernel
  signed := rfl

def sendTask : Json := .obj [("id", .str "task-1")]

def sendTaskBody : Bytes := Json.utf8 (Json.encode intText sendTask)

def Wire.sending (w : Wire) : Env :=
  { w.env with
    requestJson := fun m => some (requestJsonOf (base64Encode .standard) m)
    parseJson := fun b => if b = sendTaskBody then some sendTask else none }

def Wire.exchange (w : Wire) (r : Reply) : Env := w.sending.withReply r

def sendStore : Store :=
  { peers := ⟨[⟨sendPerformer.root, "d", sendPeer, .active⟩], pairwise_singleton _ _⟩ }

def sendParty : Party :=
  ⟨⟨sendRequester, ⟨.contractDecision, wireSecret⟩, wireSecret⟩, sendRequester, exportKey, outcomeKey⟩

/-- The texts of a reply begin with the members that tell them apart from the proposal. -/
structure Reply.Apart (r : Reply) : Prop where
  payload : r.payload[2]? = some 97
  outcomePayload : r.outcomePayload[6]? = some 101

theorem apart_sendReply : sendReply.Apart := ⟨by decide, by decide⟩

theorem apart_revisedReply : revisedReply.Apart := ⟨by decide, by decide⟩

theorem sha256_sendWire {r : Reply} (hr : r.Apart) : r.sha256 sendWire.payload = none := by
  have hpayload : sendWire.payload ≠ r.payload := by
    intro h
    exact absurd ((congrArg (fun b => b[2]?) h).trans hr.payload) (by decide)
  have houtcome : sendWire.payload ≠ r.outcomePayload := by
    intro h
    exact absurd ((congrArg (fun b => b[6]?) h).trans hr.outcomePayload) (by decide)
  have htext : sendWire.payload ≠ utf8 "ok" := by
    intro h
    exact absurd (congrArg List.head? h) (by decide)
  rw [Reply.sha256, if_neg hpayload, if_neg houtcome, if_neg htext]

theorem Wire.parsePayload_exchange {w : Wire} {r : Reply} (hr : r.sha256 w.payload = none) :
    parsePayload (w.exchange r) w.payload = .ok w.parsed := by
  have hsha : (w.exchange r).sha256 w.payload = w.env.sha256 w.payload := by
    simp only [Wire.exchange, Env.withReply, hr, getD_none, Wire.sending]
  have hparsed := w.parsePayload_eq
  simp only [parsePayload, bind_eq_ok, mapError_eq_ok, ensure_eq_ok,
    okOr_eq_ok] at hparsed ⊢
  obtain ⟨value, hvalue, _, hcanonical, _, hvalid, contract, hcontract, hout⟩ := hparsed
  refine ⟨value, hvalue, (), hcanonical, (), hvalid, contract, hcontract, ?_⟩
  rw [hsha, hout]

theorem Wire.prepareSend_exchange {w : Wire} {r : Reply} {me : Identity} {s : Store}
    (hr : r.sha256 w.payload = none) (hpeer : s.performer spec performerRoot = .ok peer)
    (hpayload : Json.canonicalBytes intText (spec.contractJson (w.exchange r) me peer.party
      (uuidV4 draw.contract) (randomId "msg" draw.message) createdAt) = w.payload) :
    ∃ p, prepareSend (w.exchange r) me wireKey spec performerRoot draw createdAt s = .ok p ∧
      ∀ taskId, p.sentRequest taskId = ⟨hex w.digest, taskId, randomId "ctx" draw.context,
        peer.party.root, uuidV4 draw.contract, peer.party.agent, peer.party.issuer,
        randomId "msg" draw.message⟩ := by
  have hparsed := w.parsePayload_exchange hr
  have hsigned : signProposal (w.exchange r) w.payload wireKey =
      .ok (dsseSign (w.exchange r) proposalPayloadType w.payload wireSecret) :=
    bind_eq_ok.2 ⟨w.parsed, mapError_eq_ok.2 hparsed, rfl⟩
  exact ⟨_, prepareSend_of_ok hpeer hpayload hparsed hsigned rfl, fun _ => rfl⟩

theorem exists_sendProposal {r : Reply} (hr : r.Apart) : ∃ p,
    prepareSend (sendWire.exchange r) sendRequester wireKey sendSpec (some sendPerformer.root) sendDraw
      "2026-01-01T00:00:00Z" sendStore = .ok p ∧
    ∀ taskId, p.sentRequest taskId = ⟨hex sendWire.digest, taskId, "ctx-0000000000000000",
      sendPerformer.root, "00000000-0000-4000-8000-000000000000", "d", "c", "msg-0000000000000000"⟩ := by
  have hid : uuidV4 sendDraw.contract = "00000000-0000-4000-8000-000000000000" := by decide
  have hmessage : randomId "msg" sendDraw.message = "msg-0000000000000000" := by decide
  have hcontext : randomId "ctx" sendDraw.context = "ctx-0000000000000000" := by decide
  have hpayload : Json.canonicalBytes intText (sendSpec.contractJson (sendWire.exchange r)
      sendRequester sendPeer.party (uuidV4 sendDraw.contract) (randomId "msg" sendDraw.message)
      "2026-01-01T00:00:00Z") = sendWire.payload := by
    rw [hid, hmessage]
    exact (Json.canonicalBytes_sortKeys intText sendContract).symm
  obtain ⟨p, hprepared, hrecord⟩ := Wire.prepareSend_exchange (sha256_sendWire hr)
    (rfl : sendStore.performer sendSpec (some sendPerformer.root) = .ok sendPeer) hpayload
  refine ⟨p, hprepared, ?_⟩
  intro taskId
  rw [hrecord, hid, hmessage, hcontext]
  rfl

def sendDelivery (r : Reply) : Delivery where
  sender := sendPerformer
  senderRoot := sendPerformer.root
  key := Reply.key.verifying (sendWire.exchange r)
  envelope := r.envelope sendWire.sending
  parts := Reply.parts
  signedAt := "2027-01-15T08:00:00Z"
  now := 1800000000

def sendRecord : SentRequest :=
  ⟨hex sendWire.digest, "task-1", "ctx-0000000000000000", sendPerformer.root,
    "00000000-0000-4000-8000-000000000000", "d", "c", "msg-0000000000000000"⟩

theorem sendTaskBody_ne_payload {r : Reply} (hr : r.Apart) : sendTaskBody ≠ r.payload := by
  intro h
  exact absurd ((congrArg (fun b => b[2]?) h).trans hr.payload) (by decide)

def sendStart : Requester := ⟨sendStore, [], [], [], []⟩

theorem fresh_sendStart : sendStart.Fresh := ⟨rfl, rfl, rfl, rfl, rfl⟩

def sendAccepted (p : SendPrepared) : Requester := ⟨sendStore, [p], [p], [p], []⟩

def sendEnded (p : SendPrepared) : Requester :=
  ⟨putSentRequest (p.sentRequest "task-1") 1800000000 sendStore, [p].erase p, [p], [p], [(p, "task-1")]⟩

section Sample

variable {r : Reply} {p : SendPrepared}

theorem trace_sendEnded (hr : r.Apart)
    (hprepared : prepareSend (sendWire.exchange r) sendRequester wireKey sendSpec
      (some sendPerformer.root) sendDraw "2026-01-01T00:00:00Z" sendStore = .ok p) :
    Trace (RequesterStep (sendWire.exchange r) sendParty wireKey) sendStart
      [.prepare p, .accept p, .record p "task-1"] (sendEnded p) := by
  have hread : (sendWire.exchange r).parseJson sendTaskBody = some sendTask := by
    simp only [Wire.exchange, Env.withReply, Wire.sending, if_neg (sendTaskBody_ne_payload hr), if_true]
  have hanswer : sendPrepared (sendWire.exchange r) (.ok (200, sendTaskBody)) = .ok "task-1" := by
    simp only [sendPrepared, bind_eq_ok, ensure_eq_ok, okOr_eq_ok, exists_const]
    exact ⟨_, rfl, rfl, sendTask, hread, rfl⟩
  have hstep : RequesterStep (sendWire.exchange r) sendParty wireKey (sendAccepted p)
      (.record p "task-1") (sendEnded p) := .record mem_cons_self hanswer
  exact .cons (.prepare hprepared) (.cons (.accept mem_cons_self) (.cons hstep (.nil _)))

end Sample

/-! ## Which results find a record -/

/-- **A result is solicited exactly if its send has come to its end.**  In every run, however sends,
their answers, deliveries and crashes interleave: a result whose manifest verifies, for a proposal
that this endpoint posted and the performer accepted, is refused as unsolicited exactly if no send of
that contract has read its answer and recorded it. -/
theorem accepted_result_solicited_iff (env : Env) (me : Party) (proposalKey : PurposeKey)
    {e₀ e e' : Requester} {ls : List RequesterEvent} (hfresh : e₀.Fresh)
    (hrun : Trace (RequesterStep env me proposalKey) e₀ ls e) {d : Delivery}
    {answer : Except Problem Json}
    (hstep : RequesterStep env me proposalKey e (.deliver d answer) e') {m : ResultManifest}
    {bundleDigest : String}
    (hverify : ResultManifest.verify env d.envelope d.key = .ok (m, bundleDigest)) :
    ∀ p ∈ e.accepted, m.header.contractDigest = p.contractDigest →
      (answer ≠ .error unsolicited ↔
        ∃ q taskId, (q, taskId) ∈ e.ended ∧ q.contractDigest = p.contractDigest) := by
  intro p _ hanswers
  have hrecorded := hfresh.recorded_run hrun
  cases hstep with
  | deliver hdeliver =>
    rw [ne_eq, finalizeResult_unsolicited_iff hverify hdeliver,
      hrecorded.getSentRequest_eq_none_iff, hanswers]
    push Not
    exact Iff.rfl

/-- The honest reply, after the send has come to its end: it is not refused as unsolicited. -/
theorem accepted_result_solicited_iff_ended : ∃ p e ls answer e',
    Trace (RequesterStep (sendWire.exchange sendReply) sendParty wireKey) sendStart ls e ∧
    RequesterStep (sendWire.exchange sendReply) sendParty wireKey e
      (.deliver (sendDelivery sendReply) answer) e' ∧
    p ∈ e.accepted ∧ answer ≠ .error unsolicited := by
  obtain ⟨p, hprepared, hrecord⟩ := exists_sendProposal apart_sendReply
  have hrun := trace_sendEnded apart_sendReply hprepared
  rcases hdeliver : exec ((sendDelivery sendReply).finalize (sendWire.exchange sendReply) sendParty)
    (sendEnded p).store with ⟨answer, s'⟩
  have hstep : RequesterStep (sendWire.exchange sendReply) sendParty wireKey (sendEnded p)
      (.deliver (sendDelivery sendReply) answer) { sendEnded p with store := s' } := .deliver hdeliver
  have hdigest : (sendHeader 0).contractDigest = p.contractDigest :=
    (congrArg SentRequest.contractDigest (hrecord "task-1")).symm
  have hiff := accepted_result_solicited_iff (sendWire.exchange sendReply) sendParty wireKey
    fresh_sendStart hrun hstep (sendReply.verify_envelope sendWire.sending) p mem_cons_self hdigest
  exact ⟨p, _, _, answer, _, hrun, hstep, mem_cons_self,
    hiff.2 ⟨p, "task-1", mem_cons_self, rfl⟩⟩

/-- The same reply, delivered before the answer to the post is read: the performer has accepted the
proposal, its manifest verifies, and it is refused as unsolicited. -/
theorem accepted_result_refused_unsolicited : ∃ p e e' m bundleDigest,
    Trace (RequesterStep (sendWire.exchange sendReply) sendParty wireKey) sendStart
      [.prepare p, .accept p] e ∧
    p ∈ e.accepted ∧
    ResultManifest.verify (sendWire.exchange sendReply) (sendDelivery sendReply).envelope
      (sendDelivery sendReply).key = .ok (m, bundleDigest) ∧
    m.header.contractDigest = p.contractDigest ∧
    RequesterStep (sendWire.exchange sendReply) sendParty wireKey e
      (.deliver (sendDelivery sendReply) (.error unsolicited)) e' := by
  obtain ⟨p, hprepared, hrecord⟩ := exists_sendProposal apart_sendReply
  have hverify := sendReply.verify_envelope sendWire.sending
  rcases hdeliver : exec ((sendDelivery sendReply).finalize (sendWire.exchange sendReply) sendParty)
    sendStore with ⟨answer, s'⟩
  have hrefused : answer = .error unsolicited := (finalizeResult_unsolicited_iff hverify hdeliver).2 rfl
  rw [hrefused] at hdeliver
  exact ⟨p, sendAccepted p, _, _, _, .cons (.prepare hprepared) (.cons (.accept mem_cons_self)
    (.nil _)), mem_cons_self, hverify,
    (congrArg SentRequest.contractDigest (hrecord "task-1")).symm, .deliver hdeliver⟩

/-! ## What the signed outcome names -/

/-- The outcome is about this contract, task and context. -/
structure Outcome.Names (env : Env) (o : Outcome) (contract : Json) (taskId contextId : String) :
    Prop where
  contractId : contract.getStr? "contract_id" = some o.contractId
  contractRevision : contract.getNat? "revision" = some o.contractRevision
  contractDigest : o.contractDigest = hex (env.sha256 (Json.canonicalBytes env.fmtNum contract))
  taskId : o.taskId = taskId
  contextId : o.contextId = contextId

theorem Outcome.forManifest_of_bundleDigest {env : Env} {m : ResultManifest} (requester : Identity)
    (signedAt : String) {bundleDigest : String} (h : m.bundleDigest env = .ok bundleDigest) :
    Outcome.forManifest env m .accepted requester signedAt =
      .ok (m.acceptance requester signedAt bundleDigest) :=
  bind_eq_ok.2 ⟨bundleDigest, mapError_eq_ok.2 h, rfl⟩

theorem exists_bundleDigest_of_signOutcome {env : Env} {m : ResultManifest} {requester : Identity}
    {signedAt : String} {outcomeKey : PurposeKey} {signed : String × Bytes}
    (h : signOutcome env m requester signedAt outcomeKey = .ok signed) :
    ∃ bundleDigest, m.bundleDigest env = .ok bundleDigest := by
  simp only [signOutcome, Outcome.forManifest, bind_eq_ok, mapError_eq_ok] at h
  obtain ⟨-, ⟨bundleDigest, hbundle, -⟩, -⟩ := h
  exact ⟨bundleDigest, hbundle⟩

theorem names_acceptance_iff {env : Env} {me sender : Identity} {senderRoot signedAt : String}
    {proposalKey : PurposeKey} {p : SendPrepared} {contract : Json} {taskId bundleDigest : String}
    {m : ResultManifest} (hproposes : Proposes env me proposalKey p contract)
    (hdigest : p.contractDigest = m.header.contractDigest)
    (hanswers : Answers m sender senderRoot (p.sentRequest taskId)) :
    (m.acceptance me signedAt bundleDigest).Names env contract taskId p.contextId ↔
      m.header.contractRevision = 0 := by
  obtain ⟨hid, hrevision, hcontract⟩ := hproposes.contract
  constructor
  · intro h
    have hsame : some m.header.contractRevision = some 0 := h.contractRevision.symm.trans hrevision
    exact some.inj hsame
  · intro hzero
    refine ⟨?_, ?_, hdigest.symm.trans hcontract, hanswers.taskId.symm, hanswers.contextId.symm⟩
    · rw [hid]
      exact congrArg some hanswers.contractId
    · rw [hrevision]
      exact congrArg some hzero.symm

/-- **The outcome names the contract that was sent exactly if the manifest says revision zero.**  In
every run: a delivery that is accepted answers a send of this endpoint that has come to its end, and
the outcome that is signed for it agrees with the contract of that send in the contract's id, digest
and revision, and with the exchange in the ids of task and context, exactly if the performer's
manifest has the revision zero. -/
theorem signed_outcome_names_contract_iff (env : Env) (me : Party) (proposalKey : PurposeKey)
    {e₀ e e' : Requester} {ls : List RequesterEvent} (hfresh : e₀.Fresh)
    (hrun : Trace (RequesterStep env me proposalKey) e₀ ls e) {d : Delivery} {json : Json}
    (hstep : RequesterStep env me proposalKey e (.deliver d (.ok json)) e') :
    ∃ m bundleDigest o signed p taskId contract,
      ResultManifest.verify env d.envelope d.key = .ok (m, bundleDigest) ∧
      Outcome.forManifest env m .accepted me.identity d.signedAt = .ok o ∧
      signOutcome env m me.identity d.signedAt me.outcomeKey = .ok signed ∧
      (p, taskId) ∈ e.ended ∧ Proposes env me.identity proposalKey p contract ∧
      e.store.getSentRequest m.header.contractDigest = some (p.sentRequest taskId) ∧
      (o.Names env contract taskId p.contextId ↔ m.header.contractRevision = 0) := by
  have hrecorded := hfresh.recorded_run hrun
  cases hstep with
  | deliver hdeliver =>
    obtain ⟨⟨_, ⟨⟩⟩, -⟩ | ⟨m, bundleDigest, rows, signed, write, hpasses, hsigned, -, -⟩ :=
      finalizeResult_cases hdeliver
    -- the record is that of a send that has ended
    obtain ⟨sent, hsent, hanswers⟩ := hpasses.answers
    obtain ⟨row, hrow, rfl, hdigest⟩ := Store.mem_of_getSentRequest hsent
    obtain ⟨p, taskId, hended, hsame⟩ := hrecorded.rows row hrow
    obtain ⟨⟨contract, hproposes⟩, -⟩ := hrecorded.ended p taskId hended
    have hp : p.contractDigest = m.header.contractDigest :=
      (congrArg SentRequest.contractDigest hsame).symm.trans hdigest
    rw [hsame] at hsent hanswers
    obtain ⟨digest, hbundle⟩ := exists_bundleDigest_of_signOutcome hsigned
    exact ⟨m, bundleDigest, m.acceptance me.identity d.signedAt digest, signed, p, taskId, contract,
      hpasses.verified, Outcome.forManifest_of_bundleDigest _ _ hbundle, hsigned, hended, hproposes, hsent,
      names_acceptance_iff hproposes hp hanswers⟩

theorem exists_revised_delivery : ∃ p json e',
    Trace (RequesterStep (sendWire.exchange revisedReply) sendParty wireKey) sendStart
      [.prepare p, .accept p, .record p "task-1"] (sendEnded p) ∧
    RequesterStep (sendWire.exchange revisedReply) sendParty wireKey (sendEnded p)
      (.deliver (sendDelivery revisedReply) (.ok json)) e' := by
  obtain ⟨p, hprepared, hrecord⟩ := exists_sendProposal apart_revisedReply
  have hsent : (sendEnded p).store.getSentRequest (hex sendWire.digest) = some sendRecord := by
    simp only [sendEnded, hrecord "task-1"]
    rfl
  have hanswers : Answers revisedReply.manifest sendPerformer sendPerformer.root sendRecord :=
    ⟨rfl, rfl, rfl, by decide, rfl, rfl, rfl, rfl⟩
  obtain ⟨json, _, _, _, _, hdeliver, -⟩ := Reply.exec_finalizeResult_reply sendWire.sending revisedReply
    1800000000 hanswers hsent (fun row hrow => absurd hrow (not_mem_empty row))
    (fun row hrow => absurd hrow (not_mem_empty row))
  exact ⟨p, json, _, trace_sendEnded apart_revisedReply hprepared, .deliver hdeliver⟩

/-- The reply under revision one, after the send has come to its end: there is a send whose contract
the signed outcome names exactly if the manifest's revision is zero, which it is not. -/
theorem signed_outcome_names_contract_iff_revised : ∃ e json e',
    (∃ ls, Trace (RequesterStep (sendWire.exchange revisedReply) sendParty wireKey) sendStart ls e) ∧
    RequesterStep (sendWire.exchange revisedReply) sendParty wireKey e
      (.deliver (sendDelivery revisedReply) (.ok json)) e' ∧
    ∃ (m : ResultManifest) (o : Outcome) (p : SendPrepared) (taskId : String) (contract : Json),
      (p, taskId) ∈ e.ended ∧
      Proposes (sendWire.exchange revisedReply) sendRequester wireKey p contract ∧
      (o.Names (sendWire.exchange revisedReply) contract taskId p.contextId ↔
        m.header.contractRevision = 0) := by
  obtain ⟨p, json, e', hrun, hstep⟩ := exists_revised_delivery
  obtain ⟨m, _, o, _, q, taskId, contract, -, -, -, hended, hproposes, -, hiff⟩ :=
    signed_outcome_names_contract_iff (sendWire.exchange revisedReply) sendParty wireKey
      fresh_sendStart hrun hstep
  exact ⟨_, json, e', ⟨_, hrun⟩, hstep, m, o, q, taskId, contract, hended, hproposes, hiff⟩

/-- A performer that signs revision one into its manifest gets an outcome signed that names revision
one, while the contract that was sent has revision zero. -/
theorem signed_outcome_names_other_revision : ∃ p json e' o contract,
    Trace (RequesterStep (sendWire.exchange revisedReply) sendParty wireKey) sendStart
      [.prepare p, .accept p, .record p "task-1"] (sendEnded p) ∧
    RequesterStep (sendWire.exchange revisedReply) sendParty wireKey (sendEnded p)
      (.deliver (sendDelivery revisedReply) (.ok json)) e' ∧
    Outcome.forManifest (sendWire.exchange revisedReply) revisedReply.manifest .accepted sendRequester
      "2027-01-15T08:00:00Z" = .ok o ∧
    Proposes (sendWire.exchange revisedReply) sendRequester wireKey p contract ∧
    contract.getNat? "revision" = some 0 ∧ o.contractRevision = 1 := by
  obtain ⟨p, json, e', hrun, hstep⟩ := exists_revised_delivery
  have hrecorded := fresh_sendStart.recorded_run hrun
  obtain ⟨⟨contract, hproposes⟩, -⟩ := hrecorded.ended p "task-1" mem_cons_self
  have houtcome := Outcome.forManifest_of_bundleDigest sendRequester "2027-01-15T08:00:00Z"
    (revisedReply.bundleDigest_eq sendWire.sending)
  exact ⟨p, json, e', _, contract, hrun, hstep, houtcome, hproposes, hproposes.contract.2.1, rfl⟩

end Akson
