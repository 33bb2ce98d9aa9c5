/-
# How often an arrival is logged

A coordination message that verifies is handled in two transactions: the event of its arrival is
appended to the feed, then the request goes on record.  Only the record turns a retry away.
-/
import Akson.Receive.Http

namespace Akson

open Operation

/-! ## One request -/

variable {s₂ s₁ : Store}

section Request

variable {env : Env} {key : Bytes} {config : ReceiveConfig} {req : HttpRequest} {now : Time}

def NoArrival (s s' : Store) : Prop :=
  ∃ appended, s'.coordEvents = s.coordEvents ++ appended ∧
    ∀ e ∈ appended, e.kind ≠ .dispatchReceived

theorem NoArrival.of_eq {s s' : Store} (h : s'.coordEvents = s.coordEvents) : NoArrival s s' :=
  ⟨[], by rw [h, List.append_nil], by simp⟩

theorem NoArrival.refl (s : Store) : NoArrival s s := NoArrival.of_eq rfl

theorem NoArrival.trans (s₁ s₂ s₃ : Store) (h : NoArrival s₁ s₂) (h' : NoArrival s₂ s₃) :
    NoArrival s₁ s₃ := by
  obtain ⟨l, hl, hkinds⟩ := h
  obtain ⟨m, hm, hkinds'⟩ := h'
  refine ⟨l ++ m, by rw [hm, hl, List.append_assoc], ?_⟩
  rw [List.forall_mem_append]
  exact ⟨hkinds, hkinds'⟩

variable {covered : CoveredValues} {envelope : Json} {parts : List Part}

theorem noArrival_receiveRequest {body response : Bytes} {taskId : Option String}
    {responseClass : String} {receipt : Receipt} {s s' : Store}
    (h : receiveRequest env key covered body response taskId responseClass now s =
      .ok (receipt, s')) : NoArrival s s' := by
  obtain ⟨inbox, rfl⟩ := receiveRequest_eq h
  exact NoArrival.of_eq rfl

theorem moves_refused {reject : CoordReject}
    (hverify : verify env envelope parts req.peer config.localPerformer.root = .error reject) :
    Moves NoArrival (handleCoordDispatch env key config req covered envelope parts now) := by
  unfold handleCoordDispatch
  rw [hverify]
  refine Moves.bind NoArrival.trans
    (Moves.commit NoArrival.refl (fun s _ s' h => noArrival_receiveRequest h)) (fun receipt => ?_)
  have hevent : Moves NoArrival (commit (appendCoordEvent .dispatchRefused
      (.obj [("reason", .str reject.reason), ("sender_root", .str req.peer)]) now)
      (id : StoreError → StoreError)) := by
    refine Moves.commit NoArrival.refl (fun s _ s' h => ?_)
    cases h
    exact ⟨[_], rfl, by simp⟩
  by_cases hfresh : receipt = .fresh
  · simp only [hfresh, if_true]
    exact Moves.bind NoArrival.trans hevent.attempt (fun _ => Moves.pure NoArrival.refl _)
  · simp only [hfresh, if_false]
    exact Moves.pure NoArrival.refl _

theorem commits_verified (key : Bytes) (now : Time) (covered : CoveredValues)
    {received : ReceivedDispatch} {s : Store}
    (hverify : verify env envelope parts req.peer config.localPerformer.root = .ok received)
    (hnone : s.priorResponse covered.peer covered.messageId = none) :
    ∃ s' prior, commits (handleCoordDispatch env key config req covered envelope parts now) s =
        [s.appendEventIn .dispatchReceived none (coordReceivedDetail received) now, s'] ∧
      s'.coordEvents =
        (s.appendEventIn .dispatchReceived none (coordReceivedDetail received) now).coordEvents ∧
      s'.priorResponse covered.peer covered.messageId = some prior := by
  have hlater : (s.appendEventIn .dispatchReceived none (coordReceivedDetail received)
      now).priorResponse covered.peer covered.messageId = none := hnone
  obtain ⟨s', hreceive⟩ := receiveRequest_total env key covered req.body
    (env.jsonText (acknowledgement received config.localPerformer.root now)) none "coordination" now
    hlater
  refine ⟨s', _, ?_, ?_, priorResponse_receiveRequest hlater hreceive⟩
  · unfold handleCoordDispatch
    rw [hverify]
    dsimp only
    have hevent : appendCoordEvent .dispatchReceived (coordReceivedDetail received) now s =
        .ok ((), s.appendEventIn .dispatchReceived none (coordReceivedDetail received) now) := rfl
    rw [commits, commit_bind_apply_of_ok hevent, commit_bind_apply_of_ok hreceive]
    rfl
  · obtain ⟨inbox, rfl⟩ := receiveRequest_eq hreceive
    rfl

theorem after_verified {α : Type} {x : Operation Store StoreError α} {s : Store}
    (h : commits x s = [s₁, s₂]) (n : ℕ) :
    (n = 0 ∧ after n x s = s) ∨ (n = 1 ∧ after n x s = s₁) ∨ (2 ≤ n ∧ after n x s = s₂) := by
  match n with
  | 0 => exact .inl ⟨rfl, by rw [after, h]; rfl⟩
  | 1 => exact .inr (.inl ⟨rfl, by rw [after, h]; rfl⟩)
  | n + 2 => exact .inr (.inr ⟨by omega, by rw [after, h]; simp⟩)

theorem commits_of_new {message : Message} {s : Store}
    (hmethod : Text.eqIgnoreAsciiCase req.method "POST" = true)
    (hbody : env.parseRequest req.body = some message)
    (hmessage : resultManifestEnvelope message.parts = none)
    (hcoord : coordDispatchEnvelope message.parts = some envelope)
    (hgates : gates env config.requiredExtensions (ingressOf config req message.messageId) = .ok ())
    (hprior : s.priorResponse req.peer message.messageId = none) :
    commits (handleReceive env key config req now) s =
      commits (handleCoordDispatch env key config req (coveredOf env config req message) envelope
        message.parts now) s := by
  have haccept : admitRequest env key config.requiredExtensions
      (ingressOf config req message.messageId) s = .accept (coveredOf env config req message) :=
    admitRequest_of_new hgates hprior
  rw [handleReceive_of_message hmethod hbody hmessage, handleMessage,
    commits_ask_bind_of_ok (q := fun s => .ok (admitRequest env key config.requiredExtensions
      (ingressOf config req message.messageId) s)) (congrArg _ haccept), hcoord]

theorem request_cases (env : Env) (key : Bytes) (config : ReceiveConfig) (req : HttpRequest)
    (now : Time) (n : ℕ) (s : Store) :
    NoArrival s (after n (handleReceive env key config req now) s) ∨
    ∃ message received, env.parseRequest req.body = some message ∧
      (coordDispatchEnvelope message.parts).isSome ∧
      s.priorResponse req.peer message.messageId = none ∧
      (after n (handleReceive env key config req now) s).coordEvents =
        (s.appendEventIn .dispatchReceived none (coordReceivedDetail received) now).coordEvents ∧
      (n ≠ 1 → ∃ prior, (after n (handleReceive env key config req now) s).priorResponse req.peer
        message.messageId = some prior) := by
  obtain ⟨x, hroute, hrun⟩ := exists_routed env key config req now s
  have hafter : after n (handleReceive env key config req now) s = after n x s :=
    after_congr (congrArg Prod.snd hrun) n
  rw [hafter]
  have hquiet : Moves NoArrival x → NoArrival s (after n x s) :=
    fun hx => hx s _ (after_mem n x s)
  cases hroute with
  | answered response => exact .inl (hquiet (Moves.pure NoArrival.refl _))
  | result =>
    refine .inl (hquiet (moves_handleResult NoArrival.refl NoArrival.trans ?_ _ _ _))
    intro _ _ _ _ _ _ _ s s' _ _ _ h
    obtain ⟨taskOutputs, outcomes, audit, rfl, -⟩ := recordOutcomeWithOutputs_eq h
    exact NoArrival.of_eq rfl
  | proposal =>
    refine .inl (hquiet (Moves.bind NoArrival.trans (moves_dispatchProposal NoArrival.refl
      NoArrival.trans noArrival_receiveRequest ?_ (fun _ s => NoArrival.of_eq rfl)
      (fun row s => NoArrival.of_eq rfl)) (fun _ => Moves.pure NoArrival.refl _)))
    intro received expires verdict s s' _ h
    obtain ⟨-, -, -, rfl⟩ | ⟨-, -, heads, rfl, -⟩ := submitRevision_cases h
    · exact NoArrival.refl s'
    · exact NoArrival.of_eq rfl
  | @coordination message envelope hparse hcoord hnone =>
    have hsome : (coordDispatchEnvelope message.parts).isSome := by
      rw [hcoord]
      rfl
    cases hverify : verify env envelope message.parts req.peer config.localPerformer.root with
    | error reject => exact .inl (hquiet (moves_refused hverify))
    | ok received =>
      obtain ⟨s', prior, hcommits, hevents, hprior⟩ := commits_verified key now
        (coveredOf env config req message) hverify hnone
      rcases after_verified hcommits n with ⟨-, hn⟩ | ⟨hone, hn⟩ | ⟨-, hn⟩
      · rw [hn]
        exact .inl (NoArrival.refl s)
      · rw [hn]
        exact .inr ⟨message, received, hparse, hsome, hnone, rfl, fun hne => absurd hone hne⟩
      · rw [hn]
        exact .inr ⟨message, received, hparse, hsome, hnone, hevents, fun _ => ⟨prior, hprior⟩⟩

end Request

/-! ## Every run -/

/-- What happens to the store of a daemon that receives: a request is handled, up to the given number
of commits, and `appended` is what it logs; a record is moved to a tombstone; or another part of the
daemon writes its own tables. -/
inductive ReceiverEvent where
  | request (config : ReceiveConfig) (req : HttpRequest) (now : Time) (made : ℕ)
      (appended : List CoordEvent)
  | demote (peer messageId : String) (expiresAt : Time)
  | other

/-- One step of a receiving daemon. -/
inductive ReceiverStep (env : Env) (key : Bytes) (s : Store) : ReceiverEvent → Store → Prop
  | request {config : ReceiveConfig} {req : HttpRequest} {now : Time} {made : ℕ}
      {appended : List CoordEvent}
      (h : (after made (handleReceive env key config req now) s).coordEvents =
        s.coordEvents ++ appended) :
      ReceiverStep env key s (.request config req now made appended)
        (after made (handleReceive env key config req now) s)
  | demote {peer messageId : String} {expiresAt : Time} {answer : Except StoreError Bool} {s' : Store}
      (h : transact (demoteToTombstone peer messageId expiresAt) s = (answer, s')) :
      ReceiverStep env key s (.demote peer messageId expiresAt) s'
  | other {s' : Store} (hinbox : s'.inboxObjects = s.inboxObjects)
      (htombstones : s'.replayTombstones = s.replayTombstones) : ReceiverStep env key s .other s'

theorem requestStep {env : Env} {key : Bytes} {config : ReceiveConfig} {req : HttpRequest}
    {now : Time} {made : ℕ} {appended : List CoordEvent} {s s' : Store}
    (h : after made (handleReceive env key config req now) s = s')
    (hevents : s'.coordEvents = s.coordEvents ++ appended) :
    ReceiverStep env key s (.request config req now made appended) s' := by
  subst h
  exact .request hevents

theorem exists_request_step (env : Env) (key : Bytes) (config : ReceiveConfig) (req : HttpRequest)
    (now : Time) (made : ℕ) (s : Store) :
    ∃ appended, ReceiverStep env key s (.request config req now made appended)
      (after made (handleReceive env key config req now) s) := by
  rcases request_cases env key config req now made s with
    ⟨appended, happended, -⟩ | ⟨_, _, -, -, -, hevents, -⟩
  · exact ⟨appended, .request happended⟩
  · exact ⟨_, .request hevents⟩

def ReceiverEvent.arrivals (env : Env) (peer messageId : String) : ReceiverEvent → List CoordEvent
  | .request _ req _ _ appended =>
    if req.peer = peer ∧ (env.parseRequest req.body).map Message.messageId = some messageId then
      appended.filter (fun e => e.kind = .dispatchReceived)
    else []
  | .demote _ _ _ => []
  | .other => []

def ReceiverEvent.Uncut (env : Env) : ReceiverEvent → Prop
  | .request _ req _ made _ =>
    ∀ message, env.parseRequest req.body = some message →
      (coordDispatchEnvelope message.parts).isSome → made ≠ 1
  | .demote _ _ _ => True
  | .other => True

section Runs

variable {env : Env} {key : Bytes} {s s' : Store}

/-- Recorded answers stay. -/
structure KeepsRecords (s s' : Store) : Prop where
  apart : s.KeysApart → s'.KeysApart
  kept : s.KeysApart → ∀ peer messageId prior, s.priorResponse peer messageId = some prior →
    s'.priorResponse peer messageId = some prior

theorem KeepsRecords.refl (s : Store) : KeepsRecords s s := ⟨id, fun _ _ _ _ h => h⟩

theorem KeepsRecords.trans {s₃ : Store} (h : KeepsRecords s₁ s₂) (h' : KeepsRecords s₂ s₃) :
    KeepsRecords s₁ s₃ :=
  ⟨fun hs => h'.apart (h.apart hs), fun hs peer messageId prior hprior =>
    h'.kept (h.apart hs) peer messageId prior (h.kept hs peer messageId prior hprior)⟩

theorem KeepsRecords.of_same (hinbox : s'.inboxObjects = s.inboxObjects)
    (htombstones : s'.replayTombstones = s.replayTombstones) : KeepsRecords s s' := by
  constructor
  · intro hs r hr t ht
    exact hs r (hinbox ▸ hr) t (htombstones ▸ ht)
  · intro _ peer messageId prior hprior
    rw [Store.priorResponse, hinbox, htombstones]
    exact hprior

theorem KeepsRecords.of_deliveryStep {e : DeliveryEvent} (h : DeliveryStep env key s e s') :
    KeepsRecords s s' :=
  ⟨fun hs => (deliveryStep_keeps hs h).1, fun hs => (deliveryStep_keeps hs h).2⟩

theorem keepsRecords_write {config : ReceiveConfig} {req : HttpRequest} {now : Time}
    (h : ReceiveWrite env key config req now s s') : KeepsRecords s s' := by
  cases h with
  | @record covered response taskId responseClass receipt s' h =>
    have hstep : DeliveryStep env key s
        (.receive covered req.body response taskId responseClass now (.ok receipt)) s' := by
      rw [DeliveryStep, transact, h]
    exact .of_deliveryStep hstep
  | event => exact .of_same rfl rfl
  | submit hvalid h =>
    obtain ⟨-, -, -, rfl⟩ | ⟨-, -, heads, rfl, -⟩ := submitRevision_cases h
    · exact .refl s'
    · exact .of_same rfl rfl
  | context => exact .of_same rfl rfl
  | input => exact .of_same rfl rfl
  | outcome hkey hverify hrow h =>
    obtain ⟨taskOutputs, outcomes, audit, rfl, -⟩ := recordOutcomeWithOutputs_eq h
    exact .of_same rfl rfl

variable {e : ReceiverEvent}

theorem keepsRecords_step (h : ReceiverStep env key s e s') : KeepsRecords s s' := by
  cases h with
  | @request config req now made appended _ =>
    have hwrites := moves_handleReceive s _
      (after_mem made (handleReceive env key config req now) s)
    generalize after made (handleReceive env key config req now) s = t at hwrites
    induction hwrites with
    | refl => exact .refl s
    | tail _ hwrite ih => exact ih.trans (keepsRecords_write hwrite)
  | @demote peer messageId expiresAt answer _ h =>
    have hstep : DeliveryStep env key s (.demote peer messageId expiresAt answer) s' := h
    exact .of_deliveryStep hstep
  | other hinbox htombstones => exact .of_same hinbox htombstones

theorem arrivals_step (h : ReceiverStep env key s e s') (huncut : e.Uncut env)
    (peer messageId : String) : e.arrivals env peer messageId = [] ∨
    ((e.arrivals env peer messageId).length = 1 ∧ s.priorResponse peer messageId = none ∧
      ∃ prior, s'.priorResponse peer messageId = some prior) := by
  cases h with
  | @request config req now made appended happended =>
    by_cases hfor : req.peer = peer ∧
        (env.parseRequest req.body).map Message.messageId = some messageId
    · rw [ReceiverEvent.arrivals, if_pos hfor]
      rcases request_cases env key config req now made s with
        ⟨events, hevents, hkinds⟩ | ⟨message, received, hparse, hcoord, hnone, hevents, hrecord⟩
      · left
        obtain rfl := List.append_cancel_left (happended.symm.trans hevents)
        rw [List.filter_eq_nil_iff]
        intro e he
        simpa using hkinds e he
      · right
        obtain ⟨rfl, hid⟩ := hfor
        rw [hparse, Option.map_some, Option.some.injEq] at hid
        subst hid
        obtain rfl := List.append_cancel_left (happended.symm.trans hevents)
        exact ⟨rfl, hnone, hrecord (huncut message hparse hcoord)⟩
    · exact .inl (if_neg hfor)
  | demote => exact .inl rfl
  | other => exact .inl rfl

theorem arrivals_of_recorded {es : List ReceiverEvent} (hs : s.KeysApart)
    (hrun : Trace (ReceiverStep env key) s es s') (huncut : ∀ e ∈ es, e.Uncut env)
    {peer messageId : String} {prior : PriorSighting}
    (hprior : s.priorResponse peer messageId = some prior) :
    es.flatMap (ReceiverEvent.arrivals env peer messageId) = [] := by
  induction hrun with
  | nil => rfl
  | cons hstep _ ih =>
    rw [List.forall_mem_cons] at huncut
    have hkeeps := keepsRecords_step hstep
    have hrest := ih (hkeeps.apart hs) huncut.2 (hkeeps.kept hs _ _ _ hprior)
    rcases arrivals_step hstep huncut.1 peer messageId with hnone | ⟨-, hnew, -⟩
    · rw [List.flatMap_cons, hnone, hrest, List.nil_append]
    · rw [hprior] at hnew
      cases hnew

end Runs

/-- **An arrival is logged at most once unless the daemon stops between its two commits.**  In every
run of a receiving daemon, with any retries, crashes and writes of its other parts, in which no
coordination message is cut off after exactly one commit, at most one arrival is logged for each
message id of each peer. -/
theorem arrivals_logged_once (env : Env) (key : Bytes) (s s' : Store) (es : List ReceiverEvent)
    (hs : s.KeysApart) (hrun : Trace (ReceiverStep env key) s es s')
    (huncut : ∀ e ∈ es, e.Uncut env) (peer messageId : String) :
    (es.flatMap (ReceiverEvent.arrivals env peer messageId)).length ≤ 1 := by
  induction hrun with
  | nil => simp
  | cons hstep hrest ih =>
    rw [List.forall_mem_cons] at huncut
    have hapart := (keepsRecords_step hstep).apart hs
    rw [List.flatMap_cons, List.length_append]
    rcases arrivals_step hstep huncut.1 peer messageId with hnone | ⟨hone, -, prior, hprior⟩
    · rw [hnone, List.length_nil, Nat.zero_add]
      exact ih hapart huncut.2
    · rw [hone, arrivals_of_recorded hapart hrest huncut.2 hprior, List.length_nil]

/-! ## One message, sent twice -/

def arrivalBody : Bytes := Json.canonicalBytes sampleNum (requestJsonOf sampleBase64 sampleMessage)

def arrivalHash : Bytes :=
  beBytes 32 0x09a3c87f5d284f664b934cade6b4ae6ac39341d6b4cdc8656384b1311ab60ccc

def arrivalSha256 (b : Bytes) : Bytes :=
  if b = samplePayload then samplePayloadHash
  else if b = sampleStagedBytes then sampleStagedHash
  else arrivalHash

def arrivalEnv : Env :=
  { sampleEnv with
    sha256 := arrivalSha256
    hmacSha256 := fun _ _ =>
      beBytes 32 0x409edd5c0b20800411c82acbb76e29c560f9fe30cd39d16488c005cf6224c8fa
    jsonText := fun v => Json.utf8 (Json.encode intText v)
    parseRequest := readOne arrivalBody sampleMessage }

def arrivalConfig : ReceiveConfig :=
  { plainConfig with localPerformer := ⟨"agent-recipient", "issuer", "root-recipient-fixture"⟩ }

def arrivalRequest : HttpRequest :=
  { plainRequest with
    contentDigest := some "sha-256=:CaPIf10oT2ZLk0yt5rSuasOTQda0zchlY4SxMRq2DMw=:"
    peer := "root-sender-fixture"
    body := arrivalBody }

theorem sha256_arrivalEnv : arrivalEnv.sha256 = arrivalSha256 := rfl

def arrivalDetail : Json :=
  coordReceivedDetail ⟨hex sampleStagedHash, hex samplePayloadHash, sampleTaskType, "partner",
    "root-sender-fixture", "consent-abc", 14⟩

theorem verify_arrival :
    verify arrivalEnv sampleEnvelope sampleMessage.parts arrivalRequest.peer
      arrivalConfig.localPerformer.root = .ok ⟨hex sampleStagedHash, hex samplePayloadHash,
        sampleTaskType, "partner", "root-sender-fixture", "consent-abc", 14⟩ := by
  have hpayload : arrivalEnv.sha256 samplePayload = samplePayloadHash := by
    rw [sha256_arrivalEnv, arrivalSha256, if_pos rfl]
  have hstaged : arrivalEnv.sha256 sampleStagedBytes = sampleStagedHash := by
    rw [sha256_arrivalEnv, arrivalSha256, if_neg samplePayload_ne.symm, if_pos rfl]
  have hnum : arrivalEnv.fmtNum = sampleNum := rfl
  exact verify_coordMessage (stagedFrom_of hnum hpayload hstaged) rfl envelope_sample _ _

theorem parse_arrival : arrivalEnv.parseRequest arrivalRequest.body = some sampleMessage := by
  have hparse : arrivalEnv.parseRequest = readOne arrivalBody sampleMessage := rfl
  have hbody : arrivalRequest.body = arrivalBody := rfl
  rw [hparse, hbody, readOne_self]

theorem commits_arrival {s : Store} (now : Time)
    (hnone : s.priorResponse "root-sender-fixture" "dispatch-1" = none) :
    ∃ s', commits (handleReceive arrivalEnv sampleKey arrivalConfig arrivalRequest now) s =
        [s.appendEventIn .dispatchReceived none arrivalDetail now, s'] ∧
      s'.coordEvents = (s.appendEventIn .dispatchReceived none arrivalDetail now).coordEvents := by
  have hcommits : commits (handleReceive arrivalEnv sampleKey arrivalConfig arrivalRequest now) s =
      commits (handleCoordDispatch arrivalEnv sampleKey arrivalConfig arrivalRequest
        (coveredOf arrivalEnv arrivalConfig arrivalRequest sampleMessage) sampleEnvelope
        sampleMessage.parts now) s :=
    commits_of_new plain_method parse_arrival (by decide) (coordDispatchEnvelope_coordMessage _ _ _ _)
      (by decide) hnone
  obtain ⟨s', prior, hboth, hevents, -⟩ := commits_verified sampleKey now
    (coveredOf arrivalEnv arrivalConfig arrivalRequest sampleMessage) verify_arrival hnone
  exact ⟨s', hcommits.trans hboth, hevents⟩

/-- The message is accepted and logged, and grants nothing. -/
theorem receiving_grants_nothing_arrival : ∃ s',
    commits (handleReceive arrivalEnv sampleKey arrivalConfig arrivalRequest 1800000000) {} =
        [({} : Store).appendEventIn .dispatchReceived none arrivalDetail 1800000000, s'] ∧
      GrantsNothing {} s' := by
  obtain ⟨s', hcommits, -⟩ := commits_arrival (s := {}) 1800000000 rfl
  exact ⟨s', hcommits, receiving_grants_nothing arrivalEnv sampleKey arrivalConfig arrivalRequest
    1800000000 {} s' (by simp [hcommits])⟩

/-- The message is handled whole, twice. -/
theorem arrivals_logged_once_sample : ∃ s' first second,
    Trace (ReceiverStep arrivalEnv sampleKey) {}
      [.request arrivalConfig arrivalRequest 1800000000 2 first,
        .request arrivalConfig arrivalRequest 1800000060 2 second] s' ∧
    ([ReceiverEvent.request arrivalConfig arrivalRequest 1800000000 2 first,
      .request arrivalConfig arrivalRequest 1800000060 2 second].flatMap
        (ReceiverEvent.arrivals arrivalEnv "root-sender-fixture" "dispatch-1")).length ≤ 1 := by
  obtain ⟨first, hfirst⟩ := exists_request_step arrivalEnv sampleKey arrivalConfig arrivalRequest
    1800000000 2 {}
  obtain ⟨second, hsecond⟩ := exists_request_step arrivalEnv sampleKey arrivalConfig arrivalRequest
    1800000060 2 (after 2 (handleReceive arrivalEnv sampleKey arrivalConfig arrivalRequest
      1800000000) {})
  refine ⟨_, first, second, .cons hfirst (.cons hsecond (.nil _)), ?_⟩
  refine arrivals_logged_once arrivalEnv sampleKey {} _ _ keysApart_new
    (.cons hfirst (.cons hsecond (.nil _))) ?_ _ _
  simp [ReceiverEvent.Uncut]

/-- The daemon stops between the two commits, and logs the arrival again when the sender retries. -/
theorem arrival_logged_twice : ∃ s',
    Trace (ReceiverStep arrivalEnv sampleKey) {}
      [.request arrivalConfig arrivalRequest 1800000000 1
          [⟨1, .dispatchReceived, none, arrivalDetail, 1800000000⟩],
        .request arrivalConfig arrivalRequest 1800000060 2
          [⟨2, .dispatchReceived, none, arrivalDetail, 1800000060⟩]] s' ∧
    ([ReceiverEvent.request arrivalConfig arrivalRequest 1800000000 1
        [⟨1, .dispatchReceived, none, arrivalDetail, 1800000000⟩],
      .request arrivalConfig arrivalRequest 1800000060 2
        [⟨2, .dispatchReceived, none, arrivalDetail, 1800000060⟩]].flatMap
          (ReceiverEvent.arrivals arrivalEnv "root-sender-fixture" "dispatch-1")).length = 2 := by
  obtain ⟨s, hcommits, -⟩ := commits_arrival (s := {}) 1800000000 rfl
  have hfirst : after 1 (handleReceive arrivalEnv sampleKey arrivalConfig arrivalRequest
      1800000000) {} =
      ({} : Store).appendEventIn .dispatchReceived none arrivalDetail 1800000000 := by
    rw [after, hcommits]
    rfl
  obtain ⟨s', hcommits', hevents⟩ := commits_arrival
    (s := ({} : Store).appendEventIn .dispatchReceived none arrivalDetail 1800000000) 1800000060 rfl
  have hsecond : after 2 (handleReceive arrivalEnv sampleKey arrivalConfig arrivalRequest
      1800000060) (({} : Store).appendEventIn .dispatchReceived none arrivalDetail 1800000000) =
      s' := by
    rw [after, hcommits']
    rfl
  refine ⟨s', .cons (requestStep hfirst rfl) (.cons (requestStep hsecond hevents) (.nil s')), ?_⟩
  have hfor : arrivalRequest.peer = "root-sender-fixture" ∧
      (arrivalEnv.parseRequest arrivalRequest.body).map Message.messageId = some "dispatch-1" := by
    rw [parse_arrival]
    exact ⟨rfl, rfl⟩
  simp only [List.flatMap_cons, List.flatMap_nil, ReceiverEvent.arrivals, if_pos hfor]
  rfl

end Akson
