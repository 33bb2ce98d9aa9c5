/-
# The coordination surface of the daemon

The operations a driver and the operator call: `stage` puts bytes aside, `stageConsent` shows the
operator a risk card and mints the receipt, `dispatch` spends the receipt and carries the bytes.
-/
import Akson.Lib.Operation
import Akson.Store.Peers
import Akson.Coord.Envelope

namespace Akson

open Operation Except Option List

variable {s s' : Store} {env : Env} {wall : Time} {stageRef : String} {staged : StagedContract}

/-! ## Refusals -/

def unknownPeer : Problem :=
  Problem.new 404 "unknown-peer" "no imported peer answers to that label"

def consentRequired : Problem :=
  Problem.new 409 "consent-required" "no live consent receipt binds that staged digest"

def unknownStage : Problem :=
  Problem.new 404 "unknown-stage" "no staged contract has that reference"

def alreadyConsented : Problem :=
  Problem.new 409 "already-consented"
    "an unconsumed consent receipt already exists for this staged digest"

def timeUncertain : Problem :=
  Problem.new 503 "time-uncertain"
    "the trusted clock moved backward; refusing until time is re-established"

def unroutable (detail : String) : Problem :=
  { Problem.new 409 "unroutable-recipient" "the staged recipient cannot receive a disclosure" with
    detail := some detail }

def alreadyDispatched (record : DispatchRecord) : Problem :=
  { Problem.new 409 "already-dispatched" "this staging has already been dispatched" with
    detail := some ("consent for this staged digest was already spent under execution_key " ++
      record.executionKey ++ " (carriage " ++ record.egressState.asStr ++
      "); re-present that execution_key to resume carriage, which spends nothing") }

def trustedNow (wall : Time) : Operation Store Problem Time :=
  commit (Store.trustedNow wall) (fun _ => timeUncertain)

/-! ## Identifiers -/

def maxIdChars : ℕ := 128

def validId (id : String) : Bool :=
  Text.bounded 1 maxIdChars (fun c => !(Text.isControl c || Text.isWhitespace c)) id

def doubledHyphen : List Char → Bool
  | '-' :: '-' :: _ => true
  | _ :: cs => doubledHyphen cs
  | [] => false

def validLabel (label : String) : Bool :=
  Text.bounded 1 64 (fun c => isLowerAlnum c || c = '-') label &&
    label.toList.head? ≠ some '-' && label.toList.getLast? ≠ some '-' &&
    !doubledHyphen label.toList

/-! ## Staging -/

def maxStagedPayloadBytes : ℕ := 512 * 1024

def CoordStatus.asStr : CoordStatus → String
  | .staged => "staged"
  | .consented => "consented"
  | .dispatched => "dispatched"

def stagedJson (staged : StagedContract) (consent : Json) (alreadyStaged : Bool) : Json :=
  .obj [("already_staged", .bool alreadyStaged), ("byte_length", .num staged.byteLength),
    ("consent", consent), ("payload_sha256", .str staged.payloadSha256),
    ("performer", .str staged.performer), ("stage_ref", .str staged.stageRef),
    ("staged_at", .num staged.stagedAt), ("staged_digest", .str staged.stagedDigest),
    ("status", .str staged.status.asStr), ("task_type", .str staged.taskType)]

def stageable (taskType performer payloadBase64 : String) : Except Problem Bytes := do
  ensure (envelopeAdmitsTaskType taskType) (Problem.new 400 "bad-task-type"
    "task_type must be a bounded printable US-ASCII URI with no whitespace — exactly what the coordination envelope admits")
  ensure (performer = "" ∨ (validLabel performer ∧ envelopeAdmitsRecipientLabel performer))
    unknownPeer
  let payload ← okOr (base64Decode .standard payloadBase64) (Problem.new 400 "bad-payload"
    "payload_base64 is not valid base64 (standard alphabet)")
  ensure (payload ≠ []) (Problem.new 400 "bad-payload" "there are no bytes to stage")
  ensure (payload.length ≤ maxStagedPayloadBytes) (Problem.new 413 "payload-too-large"
    "the staged payload exceeds the coordination ceiling")
  .ok payload

def newStaged (env : Env) (taskType performer : String) (payload : Bytes) : NewStagedContract :=
  let ref := stageReference env payload performer taskType
  { stageRef := ref.stageRef, stagedDigest := ref.stagedDigest, taskType := taskType,
    performer := performer, payloadSha256 := ref.payloadSha256, payload := payload,
    event := .obj [("byte_length", .num payload.length), ("payload_sha256", .str ref.payloadSha256),
      ("performer", .str performer), ("stage_ref", .str ref.stageRef),
      ("staged_digest", .str ref.stagedDigest), ("task_type", .str taskType)] }

def StageOutcome.record : StageOutcome → StagedContract
  | .staged contract | .alreadyStaged contract => contract

def StageOutcome.isAlreadyStaged : StageOutcome → Bool
  | .staged _ => false
  | .alreadyStaged _ => true

def stage (env : Env) (taskType performer payloadBase64 : String) (wall : Time) :
    Operation Store Problem Json := do
  let payload ← demand (stageable taskType performer payloadBase64)
  ask (fun s => ensure (performer = "" ∨ (s.peerImportByLabel performer).isSome) unknownPeer)
  let now ← trustedNow wall
  let outcome ← commit (stageContract (newStaged env taskType performer payload) now)
    (fun _ => internal)
  pure (stagedJson outcome.record .null outcome.isAlreadyStaged)

/-! ## Consent -/

structure Section where
  heading : String
  lines : List String

/-- What the operator is shown before consenting. -/
structure RiskCard where
  sentence : String
  sections : List Section

def egressLine : Option DispatchRecord → String
  | none => "staging was inert: nothing has left this machine yet"
  | some record =>
    match record.egressState with
    | .sent => "ALREADY DISCLOSED: dispatch " ++ record.dispatchReceipt ++
        " was acknowledged by the recipient — these bytes have left this machine"
    | .failed => "ALREADY DISPATCHED: consent was spent on dispatch " ++ record.dispatchReceipt ++
        " and its carriage failed; the bytes may or may not have left"
    | .pending => "ALREADY DISPATCHED: consent was spent on dispatch " ++ record.dispatchReceipt ++
        " and no acknowledgement is recorded; the bytes may or may not have left"

def rootLine (root : String) : String := "root thumbprint: " ++ root

def importLines (env : Env) (s : Store) (imported : PeerImport) : List String :=
  let status := match s.peerByRoot imported.rootThumbprint with
    | some (agent, status) => status ++ " (claims the name " ++ env.debugStr agent ++ ")"
    | none => "imported, not yet introduced"
  [rootLine imported.rootThumbprint, "relationship: " ++ status] ++
    if imported.endpointHint = "" then [] else ["endpoint hint: " ++ imported.endpointHint]

def whoLines (env : Env) (s : Store) (staged : StagedContract) : List String :=
  if staged.performer = "" then ["recipient label: (none)"]
  else ("recipient label: " ++ staged.performer) ::
    match s.peerImportByLabel staged.performer with
    | some imported => importLines env s imported
    | none => ["this label no longer names an imported peer"]

def whatLeaves (staged : StagedContract) : Section where
  heading := "What leaves this machine"
  lines :=
    ["task type:   " ++ staged.taskType, "bytes:       " ++ toString staged.byteLength,
     "payload:     sha256:" ++ staged.payloadSha256, "staged as:   " ++ staged.stagedDigest]

def whoReceives (env : Env) (s : Store) (staged : StagedContract) : Section where
  heading := "Who receives it"
  lines := whoLines env s staged

def whatIsAllowed : Section where
  heading := "What this consent allows"
  lines :=
    ["exactly one dispatch of the staged digest above, once (max_uses 1)",
     "nothing else: it grants no model call, no credential, and no inbound authority",
     "akson does not interpret these bytes — it discloses them as staged"]

def whoStaged (staged : StagedContract) (dispatched : Option DispatchRecord) : Section where
  heading := "Who staged it"
  lines :=
    ["the coordination surface (" ++ coordProtocol ++ "), at unix time " ++
      toString staged.stagedAt, egressLine dispatched]

def riskCard (env : Env) (s : Store) (staged : StagedContract)
    (dispatched : Option DispatchRecord) : RiskCard :=
  let recipient := if staged.performer = "" then "no named recipient"
    else "your peer " ++ env.debugStr staged.performer
  { sentence := "You are about to allow ONE outbound disclosure to " ++ recipient ++ ": " ++
      toString staged.byteLength ++ " bytes of " ++ staged.taskType ++ "."
    sections := [whatLeaves staged, whoReceives env s staged, whatIsAllowed,
      whoStaged staged dispatched] }

def RiskCard.ShowsRoot (card : RiskCard) (root : String) : Prop :=
  ∃ who ∈ card.sections, who.heading = "Who receives it" ∧ rootLine root ∈ who.lines

instance (card : RiskCard) (root : String) : Decidable (card.ShowsRoot root) :=
  inferInstanceAs (Decidable (∃ who ∈ card.sections, _ ∧ _))

/-- A consent, with the card it was given on. -/
structure Consented where
  receipt : ConsentReceipt
  card : RiskCard

def receiptBody (staged : StagedContract) (receiptId : String) (now : Time) : Json :=
  .obj [("max_uses", .num 1), ("minted_at", .num now), ("payload_sha256", .str staged.payloadSha256),
    ("purpose", .str "coord.dispatch"), ("receipt_id", .str receiptId),
    ("stage_ref", .str staged.stageRef), ("staged_digest", .str staged.stagedDigest)]

def consentEvent (staged : StagedContract) (receiptId : String) : Json :=
  .obj [("consent_receipt", .str receiptId), ("max_uses", .num 1), ("stage_ref", .str staged.stageRef),
    ("staged_digest", .str staged.stagedDigest)]

def consentable (stageRef : String) (s : Store) : Except Problem StagedContract := do
  let staged ← okOr (s.stagedContract stageRef) unknownStage
  ensure (s.unconsumedConsent stageRef = none) alreadyConsented
  match s.coordDispatch stageRef with
  | some record => .error (alreadyDispatched record)
  | none => .ok staged

def stageConsent (env : Env) (stageRef : String) (wall : Time) (random : Bytes) :
    Operation Store Problem Consented := do
  let staged ← ask (consentable stageRef)
  let now ← trustedNow wall
  let card ← ask (fun s => .ok (riskCard env s staged none))
  let receiptId := "consent-" ++ hex random
  let minted ← commit (mintConsentReceipt staged.stageRef receiptId
    (env.jsonText (receiptBody staged receiptId now)) (consentEvent staged receiptId) now)
    (fun _ => internal)
  let receipt ← demand (okOr minted alreadyConsented)
  pure ⟨receipt, card⟩

/-! ## Routing -/

def parseEndpoint (env : Env) (endpoint : String) : Option (String × ℕ × String) := do
  let url ← env.parseUrl endpoint
  guard (url.scheme = "https")
  let host ← url.host
  some (host, url.port.getD 443, if url.path = "" then "/" else url.path)

def resolveRoute (env : Env) (s : Store) (staged : StagedContract) : Except Problem CoordRoute := do
  ensure (staged.performer ≠ "") (unroutable
    "this staging named no recipient, so there is nowhere to disclose it")
  let imported ← okOr (s.peerImportByLabel staged.performer) (unroutable
    "that recipient label no longer names an imported peer")
  let peer ← okOr (s.getPeerByRoot imported.rootThumbprint) (unroutable
    "that recipient has never been introduced, so no endpoint is pinned")
  ensure (s.peerStatusByRoot imported.rootThumbprint = some .active) (unroutable
    "that recipient is not an active peer (suspended or removed)")
  ensure ((parseEndpoint env peer.identity.endpointId).isSome) (unroutable
    "that recipient's pinned endpoint is not a usable https URL")
  .ok ⟨staged.performer, imported.rootThumbprint, peer.identity.endpointId,
    peer.identity.tlsCert.value⟩

/-! ## Dispatch -/

/-- A dispatch that can be carried. -/
structure Prepared where
  staged : StagedContract
  route : CoordRoute
  envelope : Json
  payload : Bytes

def prepare (env : Env) (localRoot stageRef consentReceipt executionKey : String) (s : Store) :
    Except Problem Prepared := do
  ensure (validId executionKey) (Problem.new 400 "bad-execution-key"
    "execution_key must be a non-empty bounded printable id")
  ensure (validId stageRef) unknownStage
  ensure (validId consentReceipt) consentRequired
  let staged ← okOr (s.stagedContract stageRef) unknownStage
  let route ← resolveRoute env s staged
  let envelope ← envelope staged route localRoot consentReceipt
  let payload ← okOr (s.stagedPayload stageRef) internal
  .ok ⟨staged, route, envelope, payload⟩

def dispatchEvent (prep : Prepared) (consentReceipt executionKey dispatchReceipt : String) : Json :=
  .obj [("byte_length", .num prep.staged.byteLength), ("consent_receipt", .str consentReceipt),
    ("dispatch_receipt", .str dispatchReceipt), ("execution_key", .str executionKey),
    ("payload_sha256", .str prep.staged.payloadSha256), ("performer", .str prep.staged.performer),
    ("recipient_root", .str prep.route.root), ("stage_ref", .str prep.staged.stageRef),
    ("staged_digest", .str prep.staged.stagedDigest), ("task_type", .str prep.staged.taskType)]

def dispatchSpend (env : Env) (localRoot stageRef consentReceipt executionKey : String) (wall : Time)
    (random : Bytes) : Operation Store Problem (Prepared × DispatchOutcome) := do
  let prep ← ask (prepare env localRoot stageRef consentReceipt executionKey)
  let now ← trustedNow wall
  let dispatchReceipt := "dispatch-" ++ hex random
  let outcome ← commit (dispatchStaged stageRef consentReceipt executionKey dispatchReceipt
    (dispatchEvent prep consentReceipt executionKey dispatchReceipt) now) (fun _ => internal)
  pure (prep, outcome)

def DispatchRecord.egressMayBeAttempted (record : DispatchRecord) : Bool :=
  record.egressState ≠ .sent

/-- What follows the spending of a consent. -/
inductive Next where
  /-- Carry the bytes of this record, and answer for a retry if `replayed`. -/
  | carry (record : DispatchRecord) (replayed : Bool)
  /-- Answer with the record as it stands. -/
  | answer (record : DispatchRecord)

def DispatchOutcome.next : DispatchOutcome → Except Problem Next
  | .dispatched burn => .ok (.carry burn.intoRecord false)
  | .alreadyDispatched record =>
    .ok (if record.egressMayBeAttempted then .carry record true else .answer record)
  | .consentSpent => .error (Problem.new 409 "consent-spent"
      "that consent receipt has already been dispatched; consent is one-shot")
  | .consentUnknown => .error consentRequired
  | .executionKeyConflict _ => .error (Problem.new 409 "execution-key-conflict"
      "that execution_key already names a different dispatch")

/-- How a carriage ended. -/
inductive Carriage where
  | acknowledged (detail : String)
  | failed (detail : String)

def summarize (body : Bytes) (max : ℕ) : String :=
  String.ofList (((utf8Lossy body).toList.filter (fun c => !Text.isControl c)).take max)

def carry (env : Env) (route : CoordRoute) (stagedDigest : String)
    (answer : Except Problem (ℕ × Bytes)) : Carriage :=
  match answer with
  | .error problem => .failed (problem.type ++ ": " ++ problem.detail.getD problem.title)
  | .ok (status, response) =>
    if status ≠ 200 then
      .failed ("the recipient answered " ++ toString status ++ ": " ++ summarize response 200)
    else if (env.parseJson response).any (fun v => v.getStr? "staged_digest" = some stagedDigest) then
      .acknowledged ("acknowledged by " ++ route.root)
    else .failed "the recipient answered 200 without acknowledging this staged digest"

def Carriage.state : Carriage → String
  | .acknowledged _ => "sent"
  | .failed _ => "failed"

def Carriage.detail : Carriage → String
  | .acknowledged detail | .failed detail => detail

def egressEvent (route : CoordRoute) (record : DispatchRecord) (carriage : Carriage) : Json :=
  .obj [("detail", .str carriage.detail), ("dispatch_receipt", .str record.dispatchReceipt),
    ("egress_state", .str carriage.state), ("execution_key", .str record.executionKey),
    ("recipient_root", .str route.root), ("stage_ref", .str record.stageRef),
    ("staged_digest", .str record.stagedDigest)]

def recordCarriage (route : CoordRoute) (record : DispatchRecord) (carriage : Carriage)
    (wall : Time) : Operation Store Problem DispatchRecord := do
  let now ← trustedNow wall
  let row ← commit (recordEgress record.executionKey carriage.state carriage.detail
    (egressEvent route record carriage) now) (fun _ => internal)
  demand (okOr row internal)

/-! ## What the operations can do -/

def Store.atFloor (s : Store) (floor : Option Time) : Store := { s with trustedTime := floor }

theorem exec_trustedNow {r : Except Problem Time}
    (h : exec (trustedNow wall) s = (r, s')) : ∃ floor, s' = s.atFloor floor := by
  cases r with
  | error p =>
    obtain ⟨_, _, _, rfl⟩ := exec_commit_eq_error.1 h
    exact ⟨s'.trustedTime, rfl⟩
  | ok now => exact Store.trustedNow_eq (exec_commit_eq_ok.1 h)

theorem sameCoord_atFloor (s : Store) (floor : Option Time) : SameCoord s (s.atFloor floor) :=
  ⟨rfl, rfl, rfl⟩

theorem exec_stage {taskType performer payloadBase64 : String} {r : Except Problem Json}
    (h : exec (stage env taskType performer payloadBase64 wall) s = (r, s')) :
    ∃ floor, s' = s.atFloor floor ∨ ∃ payload now out,
      stageContract (newStaged env taskType performer payload) now (s.atFloor floor) =
        .ok (out, s') := by
  obtain ⟨_, _, _, rfl⟩ | ⟨payload, _, h⟩ := exec_demand_cases h
  · exact ⟨_, .inl rfl⟩
  obtain ⟨_, _, _, rfl⟩ | ⟨_, _, h⟩ := exec_ask_cases h
  · exact ⟨_, .inl rfl⟩
  obtain ⟨_, hnow, _⟩ | ⟨now, s₁, hnow, h⟩ := exec_bind_cases h
  · obtain ⟨floor, rfl⟩ := exec_trustedNow hnow
    exact ⟨floor, .inl rfl⟩
  obtain ⟨floor, rfl⟩ := exec_trustedNow hnow
  obtain ⟨_, _, _, rfl⟩ | ⟨out, s₂, hout, h⟩ := exec_commit_cases h
  · exact ⟨floor, .inl rfl⟩
  · rw [exec_pure, Prod.mk.injEq] at h
    exact ⟨floor, .inr ⟨payload, now, out, h.2 ▸ hout⟩⟩

theorem consentable_eq_ok (h : consentable stageRef s = .ok staged) :
    s.stagedContract stageRef = some staged ∧ s.unconsumedConsent stageRef = none ∧
      s.coordDispatch stageRef = none := by
  obtain ⟨c, hc, h⟩ := bind_eq_ok.1 h
  obtain ⟨_, hlive, h⟩ := bind_eq_ok.1 h
  rw [okOr_eq_ok] at hc
  rw [ensure_eq_ok] at hlive
  split at h
  case h_1 => cases h
  case h_2 hdispatch =>
    cases h
    exact ⟨hc, hlive, hdispatch⟩

variable {random : Bytes} {consentReceipt executionKey localRoot root p b a : String}
  {route : CoordRoute}

theorem exec_stageConsent {r : Except Problem Consented}
    (h : exec (stageConsent env stageRef wall random) s = (r, s')) :
    ∃ floor, (s' = s.atFloor floor ∧ ∃ p, r = .error p) ∨ ∃ staged now body event c,
      consentable stageRef s = .ok staged ∧
      mintConsentReceipt staged.stageRef ("consent-" ++ hex random) body event now
        (s.atFloor floor) = .ok (some c.receipt, s') ∧
      c.card = riskCard env (s.atFloor floor) staged none ∧ r = .ok c := by
  obtain ⟨p, _, rfl, rfl⟩ | ⟨staged, hstaged, h⟩ := exec_ask_cases h
  · exact ⟨_, .inl ⟨rfl, p, rfl⟩⟩
  obtain ⟨p, hnow, rfl⟩ | ⟨now, s₁, hnow, h⟩ := exec_bind_cases h
  · obtain ⟨floor, rfl⟩ := exec_trustedNow hnow
    exact ⟨floor, .inl ⟨rfl, p, rfl⟩⟩
  obtain ⟨floor, rfl⟩ := exec_trustedNow hnow
  refine ⟨floor, ?_⟩
  obtain ⟨p, _, rfl, rfl⟩ | ⟨card, hcard, h⟩ := exec_ask_cases h
  · exact .inl ⟨rfl, p, rfl⟩
  obtain ⟨_, _, rfl, rfl⟩ | ⟨minted, s₂, hmint, h⟩ := exec_commit_cases h
  · exact .inl ⟨rfl, internal, rfl⟩
  obtain ⟨p, hnone, rfl, rfl⟩ | ⟨receipt, hsome, hlast⟩ := exec_demand_cases h
  · -- the store declined: it wrote nothing
    cases minted with
    | some receipt => cases hnone
    | none =>
      obtain ⟨_, _, ⟨_, _, rfl⟩ | ⟨_, _, _, _, _, hout, _⟩⟩ := mintConsentReceipt_cases hmint
      · exact .inl ⟨rfl, p, rfl⟩
      · cases hout
  · rw [okOr_eq_ok] at hsome
    subst hsome
    rw [exec_pure, Prod.mk.injEq] at hlast
    obtain ⟨rfl, rfl⟩ := hlast
    exact .inr ⟨staged, now, _, _, ⟨receipt, card⟩, hstaged, hmint, (ok.inj hcard).symm, rfl⟩

theorem exec_dispatchSpend {r : Except Problem (Prepared × DispatchOutcome)}
    (h : exec (dispatchSpend env localRoot stageRef consentReceipt executionKey wall random) s =
      (r, s')) : ∃ floor, (s' = s.atFloor floor ∧ ∃ p, r = .error p) ∨ ∃ prep out event now,
      prepare env localRoot stageRef consentReceipt executionKey s = .ok prep ∧
      dispatchStaged stageRef consentReceipt executionKey ("dispatch-" ++ hex random) event now
        (s.atFloor floor) = .ok (out, s') ∧ r = .ok (prep, out) := by
  obtain ⟨p, _, rfl, rfl⟩ | ⟨prep, hprep, h⟩ := exec_ask_cases h
  · exact ⟨_, .inl ⟨rfl, p, rfl⟩⟩
  obtain ⟨p, hnow, rfl⟩ | ⟨now, s₁, hnow, h⟩ := exec_bind_cases h
  · obtain ⟨floor, rfl⟩ := exec_trustedNow hnow
    exact ⟨floor, .inl ⟨rfl, p, rfl⟩⟩
  obtain ⟨floor, rfl⟩ := exec_trustedNow hnow
  refine ⟨floor, ?_⟩
  obtain ⟨_, _, rfl, rfl⟩ | ⟨out, s₂, hout, h⟩ := exec_commit_cases h
  · exact .inl ⟨rfl, internal, rfl⟩
  · rw [exec_pure, Prod.mk.injEq] at h
    obtain ⟨rfl, rfl⟩ := h
    exact .inr ⟨prep, out, _, now, hprep, hout, rfl⟩

theorem exec_recordCarriage {record : DispatchRecord} {carriage : Carriage}
    {r : Except Problem DispatchRecord}
    (h : exec (recordCarriage route record carriage wall) s = (r, s')) :
    ∃ floor, s' = s.atFloor floor ∨ ∃ event now row,
      recordEgress record.executionKey carriage.state carriage.detail event now
        (s.atFloor floor) = .ok (row, s') := by
  obtain ⟨_, hnow, _⟩ | ⟨now, s₁, hnow, h⟩ := exec_bind_cases h
  · obtain ⟨floor, rfl⟩ := exec_trustedNow hnow
    exact ⟨floor, .inl rfl⟩
  obtain ⟨floor, rfl⟩ := exec_trustedNow hnow
  obtain ⟨_, _, _, rfl⟩ | ⟨row, s₂, hrow, h⟩ := exec_commit_cases h
  · exact ⟨floor, .inl rfl⟩
  · rw [demand, exec_ask, Prod.mk.injEq] at h
    exact ⟨floor, .inr ⟨_, now, row, h.2 ▸ hrow⟩⟩

/-! ## Who receives a disclosure -/

def Store.Routable (env : Env) (s : Store) (root : String) : Prop :=
  ∃ peer, s.getPeerByRoot root = some peer ∧ s.peerStatusByRoot root = some .active ∧
    (parseEndpoint env peer.identity.endpointId).isSome = true

theorem resolveRoute_eq_ok (h : resolveRoute env s staged = .ok route) :
    route.label = staged.performer ∧ s.rootOf staged.performer = some route.root ∧
      s.Routable env route.root := by
  simp only [resolveRoute, bind_eq_ok, ensure_eq_ok, okOr_eq_ok] at h
  obtain ⟨-, -, imported, himport, peer, hpeer, -, hactive, -, hurl, hout⟩ := h
  cases hout
  refine ⟨rfl, ?_, peer, hpeer, hactive, hurl⟩
  rw [Store.rootOf, himport]
  rfl

theorem resolveRoute_of_not_routable (hroot : s.rootOf staged.performer = some root)
    (hno : ¬ s.Routable env root) : ∃ p, resolveRoute env s staged = .error p := by
  cases h : resolveRoute env s staged with
  | error p => exact ⟨p, rfl⟩
  | ok route =>
    obtain ⟨-, hroute, hroutable⟩ := resolveRoute_eq_ok h
    rw [hroot, some.injEq] at hroute
    exact absurd (hroute ▸ hroutable) hno

/-- What a prepared dispatch was read from. -/
structure Prepared.From (env : Env) (localRoot stageRef consentReceipt executionKey : String)
    (s : Store) (prep : Prepared) : Prop where
  validKey : validId executionKey = true
  validRef : validId stageRef = true
  validReceipt : validId consentReceipt = true
  staged : s.stagedContract stageRef = some prep.staged
  route : resolveRoute env s prep.staged = .ok prep.route
  envelope : Akson.envelope prep.staged prep.route localRoot consentReceipt = .ok prep.envelope
  payload : s.stagedPayload stageRef = some prep.payload

theorem prepare_eq_ok_iff {prep : Prepared} :
    prepare env localRoot stageRef consentReceipt executionKey s = .ok prep ↔
      prep.From env localRoot stageRef consentReceipt executionKey s := by
  simp only [prepare, bind_eq_ok, ensure_eq_ok, okOr_eq_ok]
  constructor
  · rintro ⟨-, hkey, -, href, -, hreceipt, staged, hstaged, route, hroute, v, hv, payload, hpayload,
      hout⟩
    cases hout
    exact ⟨hkey, href, hreceipt, hstaged, hroute, hv, hpayload⟩
  · intro h
    exact ⟨(), h.validKey, (), h.validRef, (), h.validReceipt, _, h.staged, _, h.route, _,
      h.envelope, _, h.payload, rfl⟩

theorem append_inj_right (h : p ++ a = p ++ b) : a = b := by
  have hlist := congrArg String.toList h
  rw [String.toList_append, String.toList_append] at hlist
  exact String.toList_inj.1 (append_cancel_left hlist)

end Akson
