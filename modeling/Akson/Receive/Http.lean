/-
# The receive handler

From the request of an authenticated peer to the response: the profile gates and the look at the
record of earlier requests (`admitRequest`), then one of three routes.
-/
import Akson.Coord.Envelope
import Akson.Receive.Dispatch
import Akson.Receive.Outcome

namespace Akson

open Operation Except Option

def a2aMediaType : String := "application/a2a+json"

def problemMediaType : String := "application/problem+json"

def a2aVersion : String := "1.0"

/-! ## Ingress -/

/-- What the gates read of a request. -/
structure Ingress where
  peer : String
  method : String
  contentType : String
  a2aVersion : Option String
  contentDigest : Option String
  activatedExtensions : List String
  interfaceUrl : String
  tenant : Option String
  messageId : String
  body : Bytes

/-- Why a request is turned away at the gates. -/
inductive Reject where
  | unsupportedMediaType
  | badA2aVersion (found : String)
  | contentDigest (error : DeliveryError)
  | missingRequiredExtensions (missing : List String)
deriving DecidableEq

/-- The verdict on a request: new, seen before, or turned away. -/
inductive Admit where
  | accept (covered : CoveredValues)
  | duplicate (taskId : Option String) (response : Bytes) (responseClass : String)
  | conflict
  | rejected (reject : Reject)

def mediaTypeMatches (header expected : String) : Bool :=
  Text.eqIgnoreAsciiCase (Text.trim (Text.before ';' header)) expected

variable (env : Env)

def gates (requiredExtensions : List String) (req : Ingress) : Except Reject Unit := do
  ensure (mediaTypeMatches req.contentType a2aMediaType) .unsupportedMediaType
  ensure (req.a2aVersion = some a2aVersion) (.badA2aVersion (req.a2aVersion.getD ""))
  (verifyContentDigest env (req.contentDigest.getD "") req.body).mapError .contentDigest
  let missing := requiredExtensions.filter (fun uri => uri ∉ req.activatedExtensions)
  ensure (missing = []) (.missingRequiredExtensions missing)

def Ingress.covered (req : Ingress) : CoveredValues :=
  CoveredValues.normalized
    { peer := req.peer
      messageId := req.messageId
      bodyDigest := bodyDigest env req.body
      interfaceUrl := req.interfaceUrl
      tenant := req.tenant
      a2aVersion := req.a2aVersion.getD Akson.a2aVersion
      extensions := req.activatedExtensions
      contentType := req.contentType
      httpMethod := req.method }

def Admit.of (covered : CoveredValues) (receipt : Receipt) : Except Reject Unit → Admit
  | .error reject => .rejected reject
  | .ok () =>
    match receipt with
    | .fresh => .accept covered
    | .duplicate taskId response responseClass => .duplicate taskId response responseClass
    | .conflict => .conflict

def admitRequest (key : Bytes) (requiredExtensions : List String) (req : Ingress)
    (s : Store) : Admit :=
  Admit.of (req.covered env) (peek env key (req.covered env) s) (gates env requiredExtensions req)

variable {s : Store} {requiredExtensions : List String} {covered : CoveredValues}
  {prior : PriorSighting}

theorem admitRequest_eq_accept {env : Env} {key : Bytes} {req : Ingress}
    (h : admitRequest env key requiredExtensions req s = .accept covered) : covered = req.covered env := by
  unfold admitRequest Admit.of at h
  split at h
  case h_1 => cases h
  case h_2 =>
    split at h
    case h_1 => exact (Admit.accept.inj h).symm
    case h_2 => cases h
    case h_3 => cases h

theorem admitRequest_of_new {env : Env} {key : Bytes} {req : Ingress}
    (hgates : gates env requiredExtensions req = .ok ())
    (hprior : s.priorResponse req.peer req.messageId = none) :
    admitRequest env key requiredExtensions req s = .accept (req.covered env) := by
  have hpeek : peek env key (req.covered env) s = .fresh := by
    rw [peek, show s.priorResponse (req.covered env).peer (req.covered env).messageId = none from
      hprior]
  rw [admitRequest, hgates, hpeek]
  rfl

theorem admitRequest_of_record {env : Env} {key : Bytes} {req : Ingress}
    (hgates : gates env requiredExtensions req = .ok ())
    (hprior : s.priorResponse req.peer req.messageId = some prior)
    (hcommit : prior.commitment = (req.covered env).commitment env key) :
    admitRequest env key requiredExtensions req s =
      .duplicate prior.taskId prior.response prior.responseClass := by
  have hpeek : peek env key (req.covered env) s =
      .duplicate prior.taskId prior.response prior.responseClass := by
    rw [peek, show s.priorResponse (req.covered env).peer (req.covered env).messageId = some prior
      from hprior]
    exact if_neg (not_not.2 hcommit)
  rw [admitRequest, hgates, hpeek]
  rfl

/-! ## Requests and responses -/

/-- What the handler knows of itself and of the peer. -/
structure ReceiveConfig where
  localPerformer : Identity
  requesterOrigin : Identity
  proposalKey : PurposeVerifyingKey
  requiredExtensions : List String
  interfaceUrl : String
  /-- Set if and only if the endpoint accepts delivered results. -/
  outcomeKey : Option PurposeKey
  performerTaskResultKey : Option PurposeVerifyingKey

structure HttpRequest where
  method : String
  contentType : String
  a2aVersion : Option String
  contentDigest : Option String
  activatedExtensions : List String
  tenant : Option String
  peer : String
  body : Bytes

structure HttpResponse where
  status : ℕ
  contentType : String
  body : Bytes

def Problem.respond (p : Problem) : HttpResponse :=
  ⟨p.status, problemMediaType, env.jsonText p.json⟩

def problemResponse (status : ℕ) (kind title : String) : HttpResponse :=
  (Problem.new status kind title).respond env

def contentTypeFor (status : ℕ) : String :=
  if status < 400 then a2aMediaType else problemMediaType

def a2aOk (body : Bytes) : HttpResponse := ⟨200, a2aMediaType, body⟩

def coordRefusedClass : String := "coordination-refused"

def replay (response : Bytes) (responseClass : String) : HttpResponse :=
  if responseClass = coordRefusedClass then ⟨422, problemMediaType, response⟩ else a2aOk response

def rejectToHttp : Reject → HttpResponse
  | .unsupportedMediaType => problemResponse env 415 "ingress-rejected" "unsupported media type"
  | .badA2aVersion _ =>
    problemResponse env 400 "ingress-rejected" "unsupported or missing A2A-Version"
  | .contentDigest _ =>
    problemResponse env 400 "ingress-rejected" "content-digest missing or does not match the body"
  | .missingRequiredExtensions _ =>
    problemResponse env 400 "ingress-rejected" "a required extension was not activated"

/-! ## Delivered results -/

def partEnvelope (part : Part) : Option Envelope :=
  if part.mediaType ≠ dsseEnvelopeMediaType then none
  else
    match part.content with
    | some (.data v) => Envelope.ofJson v
    | _ => none

def resultManifestEnvelope (parts : List Part) : Option Envelope :=
  (parts.filterMap partEnvelope).find? (fun e => e.payloadType = ResultManifest.payloadType)

def deliveredOutputs (parts : List Part) : List DeliveredOutput :=
  parts.filterMap (fun part =>
    match part.content with
    | some (.raw bytes) => some ⟨part.filename, bytes⟩
    | _ => none)

def resultHeadersPass (req : HttpRequest) : Bool :=
  req.contentType = a2aMediaType ∧ req.a2aVersion = some a2aVersion ∧
    verifyContentDigest env (req.contentDigest.getD "") req.body = .ok ()

def handleResult (config : ReceiveConfig) (senderRoot : String) (envelope : Envelope)
    (delivered : List DeliveredOutput) (now : Time) : Operation Store StoreError HttpResponse :=
  match config.outcomeKey, config.performerTaskResultKey with
  | some outcomeKey, some taskResultKey =>
    match env.formatRfc3339 now with
    | none => pure (problemResponse env 500 "internal" "the request could not be processed")
    | some signedAt => do
      match ← attempt (finalizeResult env config.localPerformer config.requesterOrigin senderRoot
          outcomeKey taskResultKey envelope delivered signedAt now) with
      | .ok value => pure (a2aOk (env.jsonText value))
      | .error p => pure (p.respond env)
  | _, _ => pure (problemResponse env 415 "results-not-accepted"
      "this endpoint does not accept delivered results")

/-! ## Coordination messages -/

def appendCoordEvent (kind : CoordEventKind) (detail : Json) (now : Time) (s : Store) :
    Except StoreError (Unit × Store) :=
  .ok ((), s.appendEventIn kind none detail now)

def acknowledgement (received : ReceivedDispatch) (localRoot : String) (now : Time) : Json :=
  .obj [("coordination", .str "acknowledged"), ("payload_sha256", .str received.payloadSha256),
    ("protocol", .str coordProtocol), ("received_at", .num now), ("recipient_root", .str localRoot),
    ("staged_digest", .str received.stagedDigest)]

def coordReceivedDetail (received : ReceivedDispatch) : Json :=
  .obj [("byte_length", .num received.byteLength),
    ("consent_receipt", .str received.consentReceipt),
    ("payload_sha256", .str received.payloadSha256), ("sender_root", .str received.senderRoot),
    ("staged_digest", .str received.stagedDigest), ("task_type", .str received.taskType)]

def coordRefusal : HttpResponse :=
  problemResponse env 422 "coordination-refused" "the coordination envelope was not admitted"

def handleCoordDispatch (key : Bytes) (config : ReceiveConfig) (req : HttpRequest)
    (covered : CoveredValues) (envelope : Json) (parts : List Part) (now : Time) :
    Operation Store StoreError HttpResponse :=
  match verify env envelope parts req.peer config.localPerformer.root with
  | .error reject => do
    let receipt ← commit (receiveRequest env key covered req.body (coordRefusal env).body none
      coordRefusedClass now) id
    -- the reason is kept on first sight only, and whether it could be kept is not looked at
    if receipt = .fresh then
      let _ ← attempt (commit (appendCoordEvent .dispatchRefused
        (.obj [("reason", .str reject.reason), ("sender_root", .str req.peer)]) now) id)
    pure (coordRefusal env)
  | .ok received => do
    let response := env.jsonText (acknowledgement received config.localPerformer.root now)
    commit (appendCoordEvent .dispatchReceived (coordReceivedDetail received) now) id
    let _ ← commit (receiveRequest env key covered req.body response none "coordination" now) id
    pure (a2aOk response)

/-! ## The handler -/

def Receive.DispatchOutcome.status : Receive.DispatchOutcome → ℕ
  | .submitted _ | .duplicate _ => 200
  | .rejected _ => 422
  | .conflict => 409

def Dispatched.respond (d : Dispatched) : HttpResponse :=
  ⟨d.outcome.status, contentTypeFor d.outcome.status, d.response⟩

def ReceiveConfig.parties (config : ReceiveConfig) : Parties :=
  ⟨config.proposalKey, config.requesterOrigin, config.localPerformer⟩

def ingressOf (config : ReceiveConfig) (req : HttpRequest) (messageId : String) : Ingress where
  peer := req.peer
  method := req.method
  contentType := req.contentType
  a2aVersion := req.a2aVersion
  contentDigest := req.contentDigest
  activatedExtensions := req.activatedExtensions
  interfaceUrl := config.interfaceUrl
  tenant := req.tenant
  messageId := messageId
  body := req.body

def handleMessage (key : Bytes) (config : ReceiveConfig) (req : HttpRequest)
    (message : Message) (now : Time) : Operation Store StoreError HttpResponse := do
  match ← ask (fun s => .ok (admitRequest env key config.requiredExtensions
      (ingressOf config req message.messageId) s)) with
  | .rejected reject => pure (rejectToHttp env reject)
  | .duplicate _ response responseClass => pure (replay response responseClass)
  | .conflict => pure (problemResponse env 409 "conflict"
      "a covered value changed for this Message id")
  | .accept covered =>
    match coordDispatchEnvelope message.parts with
    | some envelope => handleCoordDispatch env key config req covered envelope message.parts now
    | none => do
      let dispatched ← dispatchProposal env key covered message.parts message.contextId
        config.parties req.body now
      pure dispatched.respond

/-- The gates, then the route of a request. -/
def handleReceive (key : Bytes) (config : ReceiveConfig) (req : HttpRequest)
    (now : Time) : Operation Store StoreError HttpResponse :=
  if !Text.eqIgnoreAsciiCase req.method "POST" then
    pure (problemResponse env 405 "method-not-allowed" "only POST is supported")
  else
    match env.parseRequest req.body with
    | none => pure (problemResponse env 400 "malformed-request"
        "body is not a SendMessage with a message")
    | some message =>
      match resultManifestEnvelope message.parts with
      | some envelope =>
        if resultHeadersPass env req then
          handleResult env config req.peer envelope (deliveredOutputs message.parts) now
        else pure (problemResponse env 422 "bad-result-envelope"
          "the result delivery fails the A2A header gates")
      | none => handleMessage env key config req message now

/-! ## What a request writes -/

/-- The writes that receiving can make. -/
inductive ReceiveWrite (env : Env) (key : Bytes) (config : ReceiveConfig) (req : HttpRequest)
    (now : Time) (s : Store) : Store → Prop
  | record {covered : CoveredValues} {response : Bytes} {taskId : Option String}
      {responseClass : String} {receipt : Receipt} {s' : Store}
      (h : receiveRequest env key covered req.body response taskId responseClass now s =
        .ok (receipt, s')) : ReceiveWrite env key config req now s s'
  | event (kind : CoordEventKind) (detail : Json) :
      ReceiveWrite env key config req now s (s.appendEventIn kind none detail now)
  | submit {messageId : String} {parts : List Part} {received : ReceivedProposal} {expires : Time}
      {verdict : RevisionVerdict} {s' : Store}
      (hvalid : validateProposal env messageId parts config.parties now = .ok (received, expires))
      (h : submitRevision (taskIdOf received.proposal.digest) received.proposal req.peer expires now
        s = .ok (verdict, s')) : ReceiveWrite env key config req now s s'
  | context (taskId contextId : String) :
      ReceiveWrite env key config req now s (setTaskContext taskId contextId s)
  | input (row : TaskInputRow) : ReceiveWrite env key config req now s (putTaskInput row now s)
  | outcome {taskResultKey : PurposeVerifyingKey} {envelope : Envelope} {manifest : ResultManifest}
      {bundleDigest : String} {row : OutcomeRow} {outputs : List TaskOutputRow}
      {write : OutcomeWrite} {s' : Store} (hkey : config.performerTaskResultKey = some taskResultKey)
      (hverify : ResultManifest.verify env envelope taskResultKey = .ok (manifest, bundleDigest))
      (hrow : row.bundleDigest = bundleDigest)
      (h : recordOutcomeWithOutputs row outputs now s = .ok (write, s')) :
      ReceiveWrite env key config req now s s'

section Writes

variable {env : Env} {key : Bytes} {config : ReceiveConfig} {req : HttpRequest} {now : Time}

abbrev ReceiveWrites (env : Env) (key : Bytes) (config : ReceiveConfig) (req : HttpRequest)
    (now : Time) : Store → Store → Prop :=
  Relation.ReflTransGen (ReceiveWrite env key config req now)

theorem receiveWrites_trans (s₁ s₂ s₃ : Store) (h : ReceiveWrites env key config req now s₁ s₂)
    (h' : ReceiveWrites env key config req now s₂ s₃) : ReceiveWrites env key config req now s₁ s₃ :=
  h.trans h'

variable {parts : List Part} {contextId : String} {parties : Parties} {body : Bytes} {s' : Store}
  {message : Message} {first : HttpResponse}

section Routes

variable {R : Store → Store → Prop} (hrefl : ∀ s, R s s)
  (htrans : ∀ s₁ s₂ s₃, R s₁ s₂ → R s₂ s₃ → R s₁ s₃)

include hrefl htrans

theorem moves_dispatchProposal (hrecord : ∀ {response taskId responseClass receipt s s'},
      receiveRequest env key covered body response taskId responseClass now s = .ok (receipt, s') →
        R s s') (hsubmit : ∀ {received expires verdict s s'},
      validateProposal env covered.messageId parts parties now = .ok (received, expires) →
      submitRevision received.taskId received.proposal covered.peer expires now s =
        .ok (verdict, s') → R s s') (hcontext : ∀ {received expires},
      validateProposal env covered.messageId parts parties now = .ok (received, expires) →
      ∀ s, R s (setTaskContext received.taskId contextId s))
    (hinput : ∀ row s, R s (putTaskInput row now s)) :
    Moves R (dispatchProposal env key covered parts contextId parties body now) := by
  refine Moves.bind htrans (Moves.ask hrefl _) (fun receipt => ?_)
  cases receipt with
  | duplicate taskId response responseClass => exact Moves.pure hrefl _
  | conflict => exact Moves.pure hrefl _
  | fresh =>
    cases hvalid : validateProposal env covered.messageId parts parties now with
    | error reason =>
      exact Moves.bind htrans (Moves.commit hrefl (fun s _ s' h => hrecord h))
        (fun _ => Moves.pure hrefl _)
    | ok validated =>
      obtain ⟨received, expires⟩ := validated
      refine Moves.bind htrans (Moves.commit hrefl (fun s _ s' h => hsubmit hvalid h))
        (fun _ => ?_)
      refine Moves.bind htrans (Moves.commit hrefl ?_) (fun _ => ?_)
      · intro s _ s' h
        cases h
        exact hcontext hvalid s
      refine Moves.bind htrans (Moves.commitEach hrefl htrans hinput _) (fun _ => ?_)
      exact Moves.bind htrans (Moves.commit hrefl (fun s _ s' h => hrecord h))
        (fun _ => Moves.pure hrefl _)

theorem moves_handleCoordDispatch
    (hrecord : ∀ {covered response taskId responseClass receipt s s'},
      receiveRequest env key covered req.body response taskId responseClass now s =
        .ok (receipt, s') → R s s')
    (hevent : ∀ s kind detail, R s (s.appendEventIn kind none detail now))
    (covered : CoveredValues) (envelope : Json) (parts : List Part) :
    Moves R (handleCoordDispatch env key config req covered envelope parts now) := by
  have hfeed : ∀ kind detail, Moves R
      (commit (appendCoordEvent kind detail now) (id : StoreError → StoreError)) := by
    intro kind detail
    refine Moves.commit hrefl (fun s _ s' h => ?_)
    cases h
    exact hevent s kind detail
  unfold handleCoordDispatch
  split
  case h_1 reject _ =>
    refine Moves.bind htrans (Moves.commit hrefl (fun s _ s' h => hrecord h)) (fun receipt => ?_)
    by_cases hfresh : receipt = .fresh
    · simp only [hfresh, if_true]
      exact Moves.bind htrans (hfeed _ _).attempt (fun _ => Moves.pure hrefl _)
    · simp only [hfresh, if_false]
      exact Moves.pure hrefl _
  case h_2 received _ =>
    refine Moves.bind htrans (hfeed _ _) (fun _ => ?_)
    exact Moves.bind htrans (Moves.commit hrefl (fun s _ s' h => hrecord h))
      (fun _ => Moves.pure hrefl _)

theorem moves_handleResult
    (houtcome : ∀ {taskResultKey envelope manifest bundleDigest row outputs write s s'},
      config.performerTaskResultKey = some taskResultKey →
      ResultManifest.verify env envelope taskResultKey = .ok (manifest, bundleDigest) →
      OutcomeRow.bundleDigest row = bundleDigest →
      recordOutcomeWithOutputs row outputs now s = .ok (write, s') → R s s')
    (senderRoot : String) (envelope : Envelope) (delivered : List DeliveredOutput) :
    Moves R (handleResult env config senderRoot envelope delivered now) := by
  unfold handleResult
  split
  case h_2 => exact Moves.pure hrefl _
  case h_1 outcomeKey taskResultKey _ hkey =>
    split
    case h_1 => exact Moves.pure hrefl _
    case h_2 signedAt _ =>
      refine Moves.bind htrans (Moves.attempt ?_) (fun answer => ?_)
      · refine Moves.demand_bind hrefl ?_
        rintro ⟨manifest, bundleDigest⟩ hverify
        refine Moves.bind htrans (Moves.ask hrefl _) (fun _ => ?_)
        refine Moves.bind htrans (Moves.ask hrefl _) (fun outputs => ?_)
        refine Moves.bind htrans (Moves.ask hrefl _) ?_
        rintro ⟨outcomeDigest, outcome⟩
        refine Moves.bind htrans (Moves.commit hrefl ?_) (fun _ => Moves.pure hrefl _)
        exact fun s _ s' h => houtcome hkey (mapError_eq_ok.1 hverify) rfl h
      · cases answer <;> exact Moves.pure hrefl _

end Routes

theorem moves_handleReceive :
    Moves (ReceiveWrites env key config req now) (handleReceive env key config req now) := by
  unfold handleReceive
  split
  case isTrue => exact Moves.pure (fun _ => .refl) _
  case isFalse =>
    split
    case h_1 => exact Moves.pure (fun _ => .refl) _
    case h_2 message _ =>
      split
      case h_1 envelope _ =>
        split
        case isTrue =>
          refine moves_handleResult (fun _ => .refl) receiveWrites_trans ?_ _ _ _
          exact fun hkey hverify hrow h => .single (.outcome hkey hverify hrow h)
        case isFalse => exact Moves.pure (fun _ => .refl) _
      case h_2 =>
        refine Moves.ask_bind (fun _ => .refl) ?_
        rintro verdict ⟨s, hadmit⟩
        cases verdict with
        | rejected reject => exact Moves.pure (fun _ => .refl) _
        | duplicate taskId response responseClass => exact Moves.pure (fun _ => .refl) _
        | conflict => exact Moves.pure (fun _ => .refl) _
        | accept covered =>
          have hpeer : covered.peer = req.peer := by
            obtain rfl := admitRequest_eq_accept (ok.inj hadmit)
            rfl
          cases hcoord : coordDispatchEnvelope message.parts with
          | some envelope =>
            exact moves_handleCoordDispatch (fun _ => .refl) receiveWrites_trans
              (fun h => .single (.record h)) (fun s kind detail => .single (.event kind detail))
              _ _ _
          | none =>
            refine Moves.bind receiveWrites_trans (moves_dispatchProposal (fun _ => .refl)
              receiveWrites_trans (fun h => .single (.record h)) ?_
              (fun _ s => .single (.context _ _)) (fun row s => .single (.input row)))
              (fun _ => Moves.pure (fun _ => .refl) _)
            exact fun hvalid h => .single (.submit hvalid (hpeer ▸ h))

/-! ## Receiving executes nothing -/

/-- No attempt, order, result or call is made. -/
structure GrantsNothing (s s' : Store) : Prop where
  attempts : s'.attempts = s.attempts
  workOrders : s'.workOrders = s.workOrders
  results : s'.results = s.results
  processorCalls : s'.processorCalls = s.processorCalls
  coordConsents : s'.coordConsents = s.coordConsents
  coordDispatches : s'.coordDispatches = s.coordDispatches
  locked : ∀ taskId head, s'.contractHead taskId = .locked head ↔ s.contractHead taskId = .locked head

theorem GrantsNothing.refl (s : Store) : GrantsNothing s s :=
  ⟨rfl, rfl, rfl, rfl, rfl, rfl, fun _ _ => Iff.rfl⟩

theorem GrantsNothing.trans {s₁ s₂ s₃ : Store} (h : GrantsNothing s₁ s₂)
    (h' : GrantsNothing s₂ s₃) : GrantsNothing s₁ s₃ where
  attempts := h'.attempts.trans h.attempts
  workOrders := h'.workOrders.trans h.workOrders
  results := h'.results.trans h.results
  processorCalls := h'.processorCalls.trans h.processorCalls
  coordConsents := h'.coordConsents.trans h.coordConsents
  coordDispatches := h'.coordDispatches.trans h.coordDispatches
  locked taskId head := (h'.locked taskId head).trans (h.locked taskId head)

theorem grantsNothing_submitRevision {taskId originRoot : String} {proposal : ParsedContract}
    {expires : Time} {verdict : RevisionVerdict}
    (h : submitRevision taskId proposal originRoot expires now s = .ok (verdict, s')) :
    GrantsNothing s s' := by
  have hlocked : ∀ u head, s'.contractHead u = .locked head ↔ s.contractHead u = .locked head := by
    intro u head
    by_cases hu : u ≠ taskId ∨ ¬ Chains (s.contractHead taskId) proposal
    · rw [submitRevision_contractHead_of_not h hu]
    · simp only [ne_eq, not_or, not_not] at hu
      obtain ⟨rfl, hchains⟩ := hu
      rw [submitRevision_contractHead_self h hchains]
      constructor
      · intro hopen
        cases hopen
      · intro hlock
        rw [hlock] at hchains
        cases hchains
  obtain ⟨-, -, -, rfl⟩ | ⟨-, -, heads, rfl, -⟩ := submitRevision_cases h
  · exact GrantsNothing.refl s'
  · exact ⟨rfl, rfl, rfl, rfl, rfl, rfl, hlocked⟩

theorem grantsNothing_write (h : ReceiveWrite env key config req now s s') :
    GrantsNothing s s' := by
  cases h with
  | record h =>
    obtain ⟨inbox, rfl⟩ := receiveRequest_eq h
    exact ⟨rfl, rfl, rfl, rfl, rfl, rfl, fun _ _ => Iff.rfl⟩
  | event kind detail => exact ⟨rfl, rfl, rfl, rfl, rfl, rfl, fun _ _ => Iff.rfl⟩
  | submit hvalid h => exact grantsNothing_submitRevision h
  | context taskId contextId =>
    refine ⟨rfl, rfl, rfl, rfl, rfl, rfl, fun u head => ?_⟩
    rw [setTaskContext_contractHead]
  | input row => exact ⟨rfl, rfl, rfl, rfl, rfl, rfl, fun _ _ => Iff.rfl⟩
  | outcome hkey hverify hrow h =>
    obtain ⟨taskOutputs, outcomes, audit, rfl, -⟩ := recordOutcomeWithOutputs_eq h
    exact ⟨rfl, rfl, rfl, rfl, rfl, rfl, fun _ _ => Iff.rfl⟩

/-- **Receiving executes and authorizes nothing.**  Whatever a request is and however it is
answered, in every state it leaves or is cut off in, the attempts, work orders, results, processor
calls, consents and dispatches are those of before, and so are the locked heads. -/
theorem receiving_grants_nothing (env : Env) (key : Bytes) (config : ReceiveConfig)
    (req : HttpRequest) (now : Time) (s : Store) :
    ∀ s' ∈ s :: commits (handleReceive env key config req now) s, GrantsNothing s s' := by
  intro s' hs'
  have hwrites := moves_handleReceive s s' hs'
  clear hs'
  induction hwrites with
  | refl => exact GrantsNothing.refl s
  | tail _ hwrite ih => exact ih.trans (grantsNothing_write hwrite)

/-! ## Replays -/

def coveredOf (env : Env) (config : ReceiveConfig) (req : HttpRequest) (message : Message) :
    CoveredValues :=
  (ingressOf config req message.messageId).covered env

theorem handleReceive_of_message (hmethod : Text.eqIgnoreAsciiCase req.method "POST" = true)
    (hbody : env.parseRequest req.body = some message)
    (hmessage : resultManifestEnvelope message.parts = none) :
    handleReceive env key config req now = handleMessage env key config req message now := by
  simp only [handleReceive, hmethod, hbody, hmessage, Bool.not_true, Bool.false_eq_true, if_false]

theorem priorResponse_of_accept
    (h : admitRequest env key config.requiredExtensions (ingressOf config req message.messageId) s =
      .accept covered) : s.priorResponse req.peer message.messageId = none := by
  cases hprior : s.priorResponse req.peer message.messageId with
  | none => rfl
  | some prior =>
    have hpeek : peek env key ((ingressOf config req message.messageId).covered env) s =
        prior.decide (((ingressOf config req message.messageId).covered env).commitment env key) := by
      rw [peek, show s.priorResponse ((ingressOf config req message.messageId).covered env).peer
        ((ingressOf config req message.messageId).covered env).messageId = some prior from hprior]
    unfold admitRequest Admit.of at h
    split at h
    case h_1 => cases h
    case h_2 =>
      split at h
      case h_1 hfresh => exact absurd (hpeek.symm.trans hfresh) (prior.decide_ne_fresh _)
      case h_2 => cases h
      case h_3 => cases h

/-- Where a request is routed. -/
inductive Routed (env : Env) (key : Bytes) (config : ReceiveConfig) (req : HttpRequest) (now : Time)
    (s : Store) : Operation Store StoreError HttpResponse → Prop
  | answered (response : HttpResponse) : Routed env key config req now s (pure response)
  | result {message : Message} {envelope : Envelope}
      (hparse : env.parseRequest req.body = some message)
      (hresult : resultManifestEnvelope message.parts = some envelope) :
      Routed env key config req now s
        (handleResult env config req.peer envelope (deliveredOutputs message.parts) now)
  | coordination {message : Message} {envelope : Json}
      (hparse : env.parseRequest req.body = some message)
      (hcoord : coordDispatchEnvelope message.parts = some envelope)
      (hnone : s.priorResponse req.peer message.messageId = none) :
      Routed env key config req now s (handleCoordDispatch env key config req
        (coveredOf env config req message) envelope message.parts now)
  | proposal {message : Message} (hparse : env.parseRequest req.body = some message)
      (hnone : s.priorResponse req.peer message.messageId = none) :
      Routed env key config req now s (do
        let dispatched ← dispatchProposal env key (coveredOf env config req message) message.parts
          message.contextId config.parties req.body now
        pure dispatched.respond)

theorem exists_routed (env : Env) (key : Bytes) (config : ReceiveConfig) (req : HttpRequest)
    (now : Time) (s : Store) :
    ∃ x, Routed env key config req now s x ∧ handleReceive env key config req now s = x s := by
  unfold handleReceive
  by_cases hmethod : (!Text.eqIgnoreAsciiCase req.method "POST") = true
  · rw [if_pos hmethod]
    exact ⟨_, .answered _, rfl⟩
  rw [if_neg hmethod]
  cases hparse : env.parseRequest req.body with
  | none => exact ⟨_, .answered _, rfl⟩
  | some message =>
    cases hresult : resultManifestEnvelope message.parts with
    | some envelope =>
      by_cases hheaders : resultHeadersPass env req = true
      · simp only [hresult, hheaders, if_true]
        exact ⟨_, .result hparse hresult, rfl⟩
      · simp only [hresult, hheaders]
        exact ⟨_, .answered _, rfl⟩
    | none =>
      simp only [hresult]
      rw [handleMessage, ask_bind_apply_of_ok (q := fun s => .ok (admitRequest env key
        config.requiredExtensions (ingressOf config req message.messageId) s)) rfl]
      cases hadmit : admitRequest env key config.requiredExtensions
          (ingressOf config req message.messageId) s with
      | rejected reject => exact ⟨_, .answered _, rfl⟩
      | duplicate taskId response responseClass => exact ⟨_, .answered _, rfl⟩
      | conflict => exact ⟨_, .answered _, rfl⟩
      | accept covered =>
        have hnone := priorResponse_of_accept hadmit
        obtain rfl := admitRequest_eq_accept hadmit
        cases hcoord : coordDispatchEnvelope message.parts with
        | none => exact ⟨_, .proposal hparse hnone, rfl⟩
        | some envelope => exact ⟨_, .coordination hparse hcoord hnone, rfl⟩

theorem handleMessage_of_record
    (hgates : gates env config.requiredExtensions (ingressOf config req message.messageId) = .ok ())
    (hprior : s.priorResponse req.peer message.messageId = some prior)
    (hcommit : prior.commitment = (coveredOf env config req message).commitment env key) :
    exec (handleMessage env key config req message now) s =
      (.ok (replay prior.response prior.responseClass), s) := by
  have hdup : admitRequest env key config.requiredExtensions (ingressOf config req message.messageId) s =
      .duplicate prior.taskId prior.response prior.responseClass :=
    admitRequest_of_record hgates hprior hcommit
  rw [handleMessage, exec_ask_bind_of_ok (q := fun s => .ok (admitRequest env key
    config.requiredExtensions (ingressOf config req message.messageId) s)) (congrArg _ hdup)]
  rfl

theorem handleMessage_of_new
    (hgates : gates env config.requiredExtensions (ingressOf config req message.messageId) = .ok ())
    (hprior : s.priorResponse req.peer message.messageId = none) :
    exec (handleMessage env key config req message now) s =
      exec (match coordDispatchEnvelope message.parts with
        | some envelope => handleCoordDispatch env key config req (coveredOf env config req message)
            envelope message.parts now
        | none => do
          let dispatched ← dispatchProposal env key (coveredOf env config req message)
            message.parts message.contextId config.parties req.body now
          pure dispatched.respond) s := by
  have haccept : admitRequest env key config.requiredExtensions (ingressOf config req message.messageId) s =
      .accept (coveredOf env config req message) :=
    admitRequest_of_new hgates hprior
  rw [handleMessage, exec_ask_bind_of_ok (q := fun s => .ok (admitRequest env key
    config.requiredExtensions (ingressOf config req message.messageId) s)) (congrArg _ haccept)]

theorem handleCoordDispatch_records (covered : CoveredValues) {envelope : Json}
    (hnone : s.priorResponse covered.peer covered.messageId = none)
    (h : exec (handleCoordDispatch env key config req covered envelope parts now) s =
      (.ok first, s')) : ∃ responseClass, s'.priorResponse covered.peer covered.messageId =
        some ⟨covered.commitment env key, none, first.body, responseClass⟩ ∧
      replay first.body responseClass = first := by
  unfold handleCoordDispatch at h
  split at h
  case h_1 reject _ =>
    obtain ⟨e, -, hr, -⟩ | ⟨receipt, s₁, hreceive, h⟩ := exec_commit_cases h
    · cases hr
    have hprior := priorResponse_receiveRequest hnone hreceive
    obtain ⟨rfl, -⟩ := receiveRequest_inserts hnone hreceive
    obtain ⟨e, -, hr⟩ | ⟨_, s₂, hevent, h⟩ := exec_bind_cases h
    · cases hr
    cases hevent
    rw [exec_pure, Prod.mk.injEq, ok.injEq] at h
    obtain ⟨rfl, rfl⟩ := h
    exact ⟨coordRefusedClass, hprior, if_pos rfl⟩
  case h_2 received _ =>
    obtain ⟨e, -, hr, -⟩ | ⟨_, s₁, hevent, h⟩ := exec_commit_cases h
    · cases hr
    obtain rfl := (Prod.mk.inj (ok.inj hevent)).2
    obtain ⟨e, -, hr, -⟩ | ⟨receipt, s₂, hreceive, h⟩ := exec_commit_cases h
    · cases hr
    rw [exec_pure, Prod.mk.injEq, ok.injEq] at h
    obtain ⟨rfl, rfl⟩ := h
    exact ⟨"coordination", priorResponse_receiveRequest
      (s := s.appendEventIn .dispatchReceived none (coordReceivedDetail received) now) hnone hreceive,
      if_neg (by decide)⟩

theorem dispatchProposal_records (covered : CoveredValues) {d : Dispatched}
    (hnone : s.priorResponse covered.peer covered.messageId = none)
    (h : exec (dispatchProposal env key covered parts contextId parties body now) s = (.ok d, s')) :
    ∃ taskId responseClass, s'.priorResponse covered.peer covered.messageId =
        some ⟨covered.commitment env key, taskId, d.response, responseClass⟩ ∧
      (replay d.response responseClass = d.respond ↔
        ∃ v, validateProposal env covered.messageId parts parties now = .ok v) := by
  have hfresh : peek env key covered s = .fresh := by
    rw [peek, hnone]
  rcases dispatchProposal_cases h with
    ⟨_, _, _, hdup, -, -⟩ | ⟨hconflict, -, -⟩ | ⟨-, ⟨reason, hinvalid, hreject⟩ | hvalid⟩
  · rw [hfresh] at hdup
    cases hdup
  · rw [hfresh] at hconflict
    cases hconflict
  · obtain ⟨e, -, hr, -⟩ | ⟨receipt, s₁, hreceive, hout⟩ := exec_commit_cases hreject
    · cases hr
    rw [exec_pure, Prod.mk.injEq, ok.injEq] at hout
    obtain ⟨rfl, rfl⟩ := hout
    refine ⟨none, "rejected", priorResponse_receiveRequest hnone hreceive, ?_⟩
    -- the record says nothing of the status, and the replay takes it for a success
    have hstatus : replay (rejectJson env reason) "rejected" ≠
        Dispatched.respond ⟨.rejected reason, rejectJson env reason⟩ := by
      rw [replay, if_neg (by decide)]
      intro heq
      cases congrArg HttpResponse.status heq
    simp [hstatus, hinvalid]
  · obtain ⟨received, expires, hvalid, hsubmit⟩ := hvalid
    obtain ⟨rfl, verdict, s₁, receipt, hrevision, hreceive⟩ := submitProposal_ok hsubmit
    rw [← priorResponse_beforeRecord contextId (received.rows env) hrevision] at hnone
    refine ⟨_, "task", priorResponse_receiveRequest hnone hreceive, ?_⟩
    rw [replay, if_neg (by decide)]
    exact iff_of_true rfl ⟨_, hvalid⟩

theorem handleMessage_records
    (h : exec (handleMessage env key config req message now) s = (.ok first, s'))
    (hnew : s.priorResponse req.peer message.messageId = none)
    (hrecorded : s'.priorResponse req.peer message.messageId = some prior) :
    gates env config.requiredExtensions (ingressOf config req message.messageId) = .ok () ∧
      prior.commitment = (coveredOf env config req message).commitment env key ∧
      (replay prior.response prior.responseClass = first ↔
        (coordDispatchEnvelope message.parts).isSome ∨
          ∃ v, validateProposal env message.messageId message.parts config.parties now = .ok v) := by
  cases hgates : gates env config.requiredExtensions (ingressOf config req message.messageId) with
  | error reject =>
    -- nothing is recorded of a request that is turned away
    obtain ⟨e, he, -⟩ | ⟨verdict, hadmit, h⟩ := exec_ask_cases h
    · cases he
    obtain rfl := ok.inj hadmit
    simp only [admitRequest, hgates, Admit.of, exec_pure, Prod.mk.injEq] at h
    obtain ⟨-, rfl⟩ := h
    rw [hnew] at hrecorded
    cases hrecorded
  | ok u =>
    refine ⟨rfl, ?_⟩
    rw [handleMessage_of_new hgates hnew] at h
    cases hcoord : coordDispatchEnvelope message.parts with
    | some envelope =>
      simp only [hcoord] at h
      obtain ⟨responseClass, hprior, hreplay⟩ := handleCoordDispatch_records
        (coveredOf env config req message) hnew h
      cases hrecorded.symm.trans hprior
      exact ⟨rfl, iff_of_true hreplay (.inl rfl)⟩
    | none =>
      simp only [hcoord] at h
      obtain ⟨e, -, hr⟩ | ⟨d, s₁, hdispatch, h⟩ := exec_bind_cases h
      · cases hr
      rw [exec_pure, Prod.mk.injEq, ok.injEq] at h
      obtain ⟨rfl, rfl⟩ := h
      obtain ⟨taskId, responseClass, hprior, hreplay⟩ := dispatchProposal_records
        (coveredOf env config req message) hnew hdispatch
      cases hrecorded.symm.trans hprior
      refine ⟨rfl, hreplay.trans ?_⟩
      simp only [isSome_none, Bool.false_eq_true, false_or]
      rfl

/-- **A replay gets the first answer unless that was a rejection.**  Let a message that is not on
record be answered, and recorded.  Then the same request, at any later time and from any state
that retains the record, gets the same status, content type and body if and only if the message
is a coordination message or a proposal that was valid when it was first seen. -/
theorem replay_eq_first_iff {config config' : ReceiveConfig} {message : Message}
    {now later : Time} {s s₁ s₂ : Store} {first : HttpResponse} {prior : PriorSighting}
    (hbody : env.parseRequest req.body = some message)
    (hmessage : resultManifestEnvelope message.parts = none)
    (hnew : s.priorResponse req.peer message.messageId = none)
    (hfirst : exec (handleReceive env key config req now) s = (.ok first, s₁))
    (hrecorded : s₁.priorResponse req.peer message.messageId = some prior)
    (hretained : s₂.priorResponse req.peer message.messageId = some prior)
    (hurl : config'.interfaceUrl = config.interfaceUrl)
    (hextensions : config'.requiredExtensions = config.requiredExtensions) :
    (exec (handleReceive env key config' req later) s₂).1 = .ok first ↔
      (coordDispatchEnvelope message.parts).isSome ∨
        ∃ v, validateProposal env message.messageId message.parts config.parties now = .ok v := by
  cases hmethod : Text.eqIgnoreAsciiCase req.method "POST" with
  | false =>
    simp only [handleReceive, hmethod, Bool.not_false, if_true, exec_pure, Prod.mk.injEq] at hfirst
    obtain ⟨-, rfl⟩ := hfirst
    rw [hnew] at hrecorded
    cases hrecorded
  | true =>
    rw [handleReceive_of_message hmethod hbody hmessage] at hfirst ⊢
    obtain ⟨hgates, hcommit, hreplay⟩ := handleMessage_records hfirst hnew hrecorded
    have hingress : ingressOf config' req message.messageId =
        ingressOf config req message.messageId := by
      rw [ingressOf, ingressOf, hurl]
    rw [← hextensions, ← hingress] at hgates
    rw [coveredOf, ← hingress] at hcommit
    rw [handleMessage_of_record hgates hretained hcommit, ← hreplay, ok.injEq]

end Writes

/-! ## A message without a contract -/

def plainMessage : Message := ⟨"m1", "", [⟨"", "", some (.text "hello")⟩]⟩

def plainBody : Bytes :=
  utf8 "\x7b\"message\":\x7b\"messageId\":\"m1\",\"role\":\"ROLE_USER\",\"parts\":[\x7b\"text\":\"hello\"\x7d]\x7d\x7d"

def plainHash : Bytes :=
  beBytes 32 0x25f3c4dc7da5c2a352dc5469e8f5adba8d2e3fd87d47dae30acd7006712bb83d

def plainCommitment : Bytes :=
  beBytes 32 0x1fef4321ef796ecdd58d2ae210eda4a1cce9a1d516d83c056371eda4ee9c1f5f

def plainEnv : Env :=
  { Env.inert with
    sha256 := fun _ => plainHash
    hmacSha256 := fun _ _ => plainCommitment
    fmtNum := intText
    jsonText := fun v => Json.utf8 (Json.encode intText v)
    parseRequest := fun b => if b = plainBody then some plainMessage else none }

def plainConfig : ReceiveConfig where
  localPerformer := Contract.sample.performer
  requesterOrigin := Contract.sample.requester
  proposalKey := ⟨.contractProposal, wirePublic⟩
  requiredExtensions := []
  interfaceUrl := "https://agent.example/a2a"
  outcomeKey := none
  performerTaskResultKey := none

def plainRequest : HttpRequest where
  method := "POST"
  contentType := "application/a2a+json"
  a2aVersion := some "1.0"
  contentDigest := some "sha-256=:JfPE3H2lwqNS3FRp6PWtuo0uP9h9R9rjCs1wBnEruD0=:"
  activatedExtensions := []
  tenant := none
  peer := Contract.sample.requester.root
  body := plainBody

def plainReason : String :=
  "part extraction: no contract-control Part (no Part carries the DSSE-envelope media type)"

theorem plain_method : Text.eqIgnoreAsciiCase plainRequest.method "POST" = true := by decide

theorem plain_body : plainEnv.parseRequest plainRequest.body = some plainMessage := by
  change (if plainBody = plainBody then some plainMessage else none) = some plainMessage
  rw [if_pos rfl]

theorem plain_gates :
    gates plainEnv [] (ingressOf plainConfig plainRequest plainMessage.messageId) = .ok () := by
  decide

theorem exists_run_plain : ∃ s₁,
    exec (handleReceive plainEnv sampleKey plainConfig plainRequest 1800000000) {} =
        (.ok ⟨422, problemMediaType, rejectJson plainEnv plainReason⟩, s₁) ∧
      s₁.priorResponse plainRequest.peer plainMessage.messageId =
        some ⟨plainCommitment, none, rejectJson plainEnv plainReason, "rejected"⟩ := by
  have hnew : ({} : Store).priorResponse plainRequest.peer plainMessage.messageId = none := rfl
  obtain ⟨s₁, hreceive⟩ := receiveRequest_total plainEnv sampleKey
    (coveredOf plainEnv plainConfig plainRequest plainMessage) plainBody
    (rejectJson plainEnv plainReason) none "rejected" 1800000000 hnew
  refine ⟨s₁, ?_, priorResponse_receiveRequest hnew hreceive⟩
  have hreject : exec (dispatchProposal plainEnv sampleKey
      (coveredOf plainEnv plainConfig plainRequest plainMessage) plainMessage.parts
      plainMessage.contextId plainConfig.parties plainRequest.body 1800000000) {} =
        (.ok ⟨.rejected plainReason, rejectJson plainEnv plainReason⟩, s₁) := by
    rw [dispatchProposal, exec_ask_bind_of_ok (q := fun s => .ok (peek plainEnv sampleKey
      (coveredOf plainEnv plainConfig plainRequest plainMessage) s)) (a := .fresh) rfl]
    exact exec_bind_of_ok (exec_commit_of_ok hreceive)
  rw [handleReceive_of_message plain_method plain_body rfl, handleMessage_of_new plain_gates hnew]
  exact exec_bind_of_ok hreject

/-- A message without a contract is refused, and its replay is answered as a success. -/
theorem rejection_replayed_as_success : ∃ first again s₁ prior,
    exec (handleReceive plainEnv sampleKey plainConfig plainRequest 1800000000) {} =
        (.ok first, s₁) ∧
      s₁.priorResponse plainRequest.peer plainMessage.messageId = some prior ∧
      exec (handleReceive plainEnv sampleKey plainConfig plainRequest 1800000060) s₁ =
        (.ok again, s₁) ∧
      first.status = 422 ∧ first.contentType = "application/problem+json" ∧
      again.status = 200 ∧ again.contentType = "application/a2a+json" := by
  obtain ⟨s₁, hfirst, hprior⟩ := exists_run_plain
  refine ⟨_, a2aOk (rejectJson plainEnv plainReason), s₁, _, hfirst, hprior, ?_, rfl, rfl, rfl, rfl⟩
  rw [handleReceive_of_message plain_method plain_body rfl,
    handleMessage_of_record plain_gates hprior rfl, replay, if_neg (by decide)]

theorem replay_eq_first_iff_plain : ∃ first s₁,
    exec (handleReceive plainEnv sampleKey plainConfig plainRequest 1800000000) {} =
        (.ok first, s₁) ∧
      ((exec (handleReceive plainEnv sampleKey plainConfig plainRequest 1800000060) s₁).1 =
          .ok first ↔
        (coordDispatchEnvelope plainMessage.parts).isSome ∨ ∃ v, validateProposal plainEnv
          plainMessage.messageId plainMessage.parts plainConfig.parties 1800000000 = .ok v) := by
  obtain ⟨s₁, hfirst, hprior⟩ := exists_run_plain
  exact ⟨_, s₁, hfirst,
    replay_eq_first_iff plain_body rfl rfl hfirst hprior hprior rfl rfl⟩

end Akson
