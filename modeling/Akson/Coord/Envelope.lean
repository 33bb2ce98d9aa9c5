/-
# The coordination envelope

What one staged disclosure looks like on the wire, at both ends.
-/
import Akson.Store.Coord

namespace Akson

open Except

/-! ## The staged reference -/

def stagedContent (payloadSha256 performer taskType : String) : Json :=
  .obj [("payload_sha256", .str payloadSha256), ("performer", .str performer),
    ("task_type", .str taskType)]

/-- The names of staged content. -/
structure StageReference where
  stageRef : String
  stagedDigest : String
  payloadSha256 : String

def stagedBytes (env : Env) (payload : Bytes) (performer taskType : String) : Bytes :=
  Json.canonicalBytes env.fmtNum (stagedContent (hex (env.sha256 payload)) performer taskType)

def stageReference (env : Env) (payload : Bytes) (performer taskType : String) : StageReference :=
  let stagedDigest := hex (env.sha256 (stagedBytes env payload performer taskType))
  { stageRef := "stage-" ++ String.ofList (stagedDigest.toList.take 32)
    stagedDigest := stagedDigest
    payloadSha256 := hex (env.sha256 payload) }

theorem stagedContent_inj {fmt : Rat → List Char} {p p' l l' t t' : String}
    (h : Json.canonicalBytes fmt (stagedContent p l t) =
      Json.canonicalBytes fmt (stagedContent p' l' t')) : p = p' ∧ l = l' ∧ t = t' := by
  have hno : ∀ a b c, Json.NumsIn (fun _ => False) (stagedContent a b c) := by
    simp [stagedContent, Json.NumsIn, Json.NumsInMembers]
  have hsort := Json.canonicalBytes_inj (Json.numText_false fmt) (hno p l t) (hno p' l' t') h
  have hmember : ∀ k s, (k, Json.str s) ∈ [("payload_sha256", Json.str p), ("performer", .str l),
      ("task_type", .str t)] → ∃ w, (k, w) ∈ [("payload_sha256", Json.str p'),
        ("performer", .str l'), ("task_type", .str t')] ∧ Json.str s = Json.sortKeys w :=
    fun k s hm => Json.exists_member_of_sortKeys_eq hsort hm
  have hp := hmember "payload_sha256" p (by simp)
  have hl := hmember "performer" l (by simp)
  have ht := hmember "task_type" t (by simp)
  simp [Json.sortKeys] at hp hl ht
  exact ⟨hp, hl, ht⟩

/-! ## The schema of the envelope -/

def coordProtocol : String := "akson_byom_exchange_v1"

def isTaskType : String → Bool := Text.bounded 1 512 isGraph

def isRecipientLabel (s : String) : Bool :=
  Text.bounded 1 64 (fun c => isLowerAlnum c || c = '-') s &&
    s.toList.head?.all isLowerAlnum && s.toList.getLast?.all isLowerAlnum

def isRoot : String → Bool :=
  Text.bounded 1 128 (fun c => c.isAlphanum || c = '_' || c = '.' || c = ':' || c = '-')

def isOpaqueId : String → Bool := Text.bounded 1 128 isGraph

def coordDispatchMembers : List (String × (Json → Bool)) :=
  [("schema_version", fun v => v = .num 1),
   ("protocol", fun v => v = .str coordProtocol),
   ("task_type", Json.strWith isTaskType),
   ("recipient_label", Json.strWith isRecipientLabel),
   ("recipient_root", Json.strWith isRoot),
   ("sender_root", Json.strWith isRoot),
   ("payload_sha256", Json.strWith isSha256Hex),
   ("staged_digest", Json.strWith isSha256Hex),
   ("consent_receipt", Json.strWith isOpaqueId)]

def validateCoordDispatch : Json → Bool := Json.record coordDispatchMembers []

/-! ## Building -/

def envelopeJson (consentReceipt payloadSha256 recipientLabel recipientRoot senderRoot stagedDigest
    taskType : String) : Json :=
  .obj [("consent_receipt", .str consentReceipt), ("payload_sha256", .str payloadSha256),
    ("protocol", .str coordProtocol), ("recipient_label", .str recipientLabel),
    ("recipient_root", .str recipientRoot), ("schema_version", .num 1),
    ("sender_root", .str senderRoot), ("staged_digest", .str stagedDigest),
    ("task_type", .str taskType)]

theorem validate_envelopeJson (c p l r s d t : String) :
    validateCoordDispatch (envelopeJson c p l r s d t) = true ↔
      isOpaqueId c = true ∧ isSha256Hex p = true ∧ isRecipientLabel l = true ∧ isRoot r = true ∧
        isRoot s = true ∧ isSha256Hex d = true ∧ isTaskType t = true := by
  simp [validateCoordDispatch, Json.record, coordDispatchMembers, envelopeJson, Json.strWith]

def candidateEnvelope (taskType recipientLabel : String) : Json :=
  let digest := "0000000000000000000000000000000000000000000000000000000000000000"
  envelopeJson "consent-candidate" digest recipientLabel "candidate-root" "candidate-root" digest
    taskType

def envelopeAdmitsTaskType (taskType : String) : Bool :=
  validateCoordDispatch (candidateEnvelope taskType "peer")

def envelopeAdmitsRecipientLabel (label : String) : Bool :=
  validateCoordDispatch (candidateEnvelope "https://example.invalid/task/v1" label)

theorem envelopeAdmitsTaskType_iff (taskType : String) :
    envelopeAdmitsTaskType taskType = true ↔ isTaskType taskType = true := by
  rw [envelopeAdmitsTaskType, candidateEnvelope, validate_envelopeJson]
  constructor
  · rintro ⟨-, -, -, -, -, -, h⟩
    exact h
  · intro h
    exact ⟨by decide, by decide, by decide, by decide, by decide, by decide, h⟩

theorem envelopeAdmitsRecipientLabel_iff (label : String) :
    envelopeAdmitsRecipientLabel label = true ↔ isRecipientLabel label = true := by
  rw [envelopeAdmitsRecipientLabel, candidateEnvelope, validate_envelopeJson]
  constructor
  · rintro ⟨-, -, h, -⟩
    exact h
  · intro h
    exact ⟨by decide, by decide, h, by decide, by decide, by decide, by decide⟩

/-- Where a label leads. -/
structure CoordRoute where
  label : String
  root : String
  endpoint : String
  tlsFingerprint : String

def envelope (staged : StagedContract) (route : CoordRoute) (senderRoot consentReceipt : String) :
    Except Problem Json :=
  let value := envelopeJson consentReceipt staged.payloadSha256 route.label route.root senderRoot
    staged.stagedDigest staged.taskType
  if validateCoordDispatch value then .ok value
  else .error (Problem.new 500 "bad-envelope"
    "the coordination envelope does not conform to its own schema")

variable {senderRoot consentReceipt : String} {staged : StagedContract} {route : CoordRoute}
  {env : Env} {payload : Bytes}

theorem envelope_of_valid
    (h : validateCoordDispatch (envelopeJson consentReceipt staged.payloadSha256 route.label
      route.root senderRoot staged.stagedDigest staged.taskType) = true) :
    envelope staged route senderRoot consentReceipt = .ok (envelopeJson consentReceipt
      staged.payloadSha256 route.label route.root senderRoot staged.stagedDigest staged.taskType) :=
  if_pos h

def coordDispatchMediaType : String := "application/vnd.akson-dev.coord-dispatch.v1+json"

def coordPayloadMediaType : String := "application/octet-stream"

def coordMessage (envelope : Json) (payload : Bytes) (dispatchReceipt stageRef : String) :
    Message where
  messageId := dispatchReceipt
  contextId := stageRef
  parts :=
    [{ filename := "", mediaType := coordDispatchMediaType, content := some (.data envelope) },
     { filename := (envelope.getStr? "payload_sha256").getD "",
       mediaType := coordPayloadMediaType, content := some (.raw payload) }]

def messageBody (env : Env) (envelope : Json) (payload : Bytes)
    (dispatchReceipt stageRef : String) : Except Problem Bytes :=
  match env.requestJson (coordMessage envelope payload dispatchReceipt stageRef) with
  | some request => .ok (Json.canonicalBytes env.fmtNum request)
  | none => .error internal

/-! ## Receiving -/

/-- What the recipient learns of a dispatch. -/
structure ReceivedDispatch where
  stagedDigest : String
  payloadSha256 : String
  taskType : String
  recipientLabel : String
  senderRoot : String
  consentReceipt : String
  byteLength : ℕ

/-- Why a dispatch is refused. -/
inductive CoordReject where
  | malformed
  | senderMismatch
  | notTheRecipient
  | payloadDigest
  | stagedDigest

def CoordReject.reason : CoordReject → String
  | .malformed => "malformed-envelope"
  | .senderMismatch => "sender-mismatch"
  | .notTheRecipient => "not-the-recipient"
  | .payloadDigest => "payload-digest"
  | .stagedDigest => "staged-digest"

def coordDispatchEnvelope (parts : List Part) : Option Json :=
  parts.findSome? (fun part =>
    if part.mediaType ≠ coordDispatchMediaType then none
    else
      match part.content with
      | some (.data v) => some v
      | _ => none)

def payloadCandidate (part : Part) : Option Bytes :=
  match part.content with
  | some (.raw bytes) => if part.mediaType = coordPayloadMediaType then some bytes else none
  | _ => none

def coordPayload (parts : List Part) : Option Bytes :=
  match parts.filterMap payloadCandidate with
  | [only] => some only
  | _ => none

def field (envelope : Json) (name : String) : Except CoordReject String :=
  okOr (envelope.getStr? name) .malformed

def verify (env : Env) (envelope : Json) (parts : List Part) (senderRoot localRoot : String) :
    Except CoordReject ReceivedDispatch := do
  ensure (validateCoordDispatch envelope) .malformed
  let claimedSender ← field envelope "sender_root"
  ensure (claimedSender = senderRoot) .senderMismatch
  let recipientRoot ← field envelope "recipient_root"
  ensure (recipientRoot = localRoot) .notTheRecipient
  let payload ← okOr (coordPayload parts) .payloadDigest
  let payloadSha256 ← field envelope "payload_sha256"
  let recipientLabel ← field envelope "recipient_label"
  let taskType ← field envelope "task_type"
  let stagedDigest ← field envelope "staged_digest"
  let derived := stageReference env payload recipientLabel taskType
  ensure (derived.payloadSha256 = payloadSha256) .payloadDigest
  ensure (derived.stagedDigest = stagedDigest) .stagedDigest
  let consentReceipt ← field envelope "consent_receipt"
  .ok ⟨stagedDigest, payloadSha256, taskType, recipientLabel, claimedSender, consentReceipt,
    payload.length⟩

/-- What a verified dispatch has been checked for. -/
structure Verified (env : Env) (v : Json) (parts : List Part) (senderRoot localRoot : String)
    (payload : Bytes) (received : ReceivedDispatch) : Prop where
  valid : validateCoordDispatch v = true
  sender : v.getStr? "sender_root" = some senderRoot
  recipient : v.getStr? "recipient_root" = some localRoot
  payload_eq : coordPayload parts = some payload
  payloadSha256 : v.getStr? "payload_sha256" = some received.payloadSha256
  recipientLabel : v.getStr? "recipient_label" = some received.recipientLabel
  taskType : v.getStr? "task_type" = some received.taskType
  stagedDigest : v.getStr? "staged_digest" = some received.stagedDigest
  consentReceipt : v.getStr? "consent_receipt" = some received.consentReceipt
  derived_payload : (stageReference env payload received.recipientLabel
    received.taskType).payloadSha256 = received.payloadSha256
  derived_staged : (stageReference env payload received.recipientLabel
    received.taskType).stagedDigest = received.stagedDigest
  senderRoot_eq : received.senderRoot = senderRoot
  byteLength_eq : received.byteLength = payload.length

theorem verify_eq_ok_iff {v : Json} {parts : List Part} {localRoot : String}
    {received : ReceivedDispatch} : verify env v parts senderRoot localRoot = .ok received ↔
      ∃ payload, Verified env v parts senderRoot localRoot payload received := by
  simp only [verify, field, bind_eq_ok, ensure_eq_ok, okOr_eq_ok]
  constructor
  · rintro ⟨-, hvalid, sender, hsender, -, rfl, recipient, hrecipient, -, rfl, payload, hpayload,
      p, hp, l, hl, t, ht, d, hd, -, hdp, -, hds, c, hc, hout⟩
    cases hout
    exact ⟨payload, ⟨hvalid, hsender, hrecipient, hpayload, hp, hl, ht, hd, hc, hdp, hds, rfl, rfl⟩⟩
  · rintro ⟨payload, h⟩
    refine ⟨(), h.valid, _, h.sender, (), rfl, _, h.recipient, (), rfl, _, h.payload_eq, _,
      h.payloadSha256, _, h.recipientLabel, _, h.taskType, _, h.stagedDigest, (),
      h.derived_payload, (), h.derived_staged, _, h.consentReceipt, ?_⟩
    rw [← h.senderRoot_eq, ← h.byteLength_eq]

/-! ## The two ends agree -/

def Env.Carries (env : Env) (m : Message) : Prop :=
  ∃ request, env.requestJson m = some request ∧
    env.parseRequest (Json.canonicalBytes env.fmtNum request) = some m

def StagedFrom (env : Env) (payload : Bytes) (staged : StagedContract) : Prop :=
  stageReference env payload staged.performer staged.taskType =
    ⟨staged.stageRef, staged.stagedDigest, staged.payloadSha256⟩

theorem coordDispatchEnvelope_coordMessage (v : Json) (payload : Bytes) (id ref : String) :
    coordDispatchEnvelope (coordMessage v payload id ref).parts = some v := by
  simp [coordDispatchEnvelope, coordMessage]

theorem verify_coordMessage {v : Json} (hstaged : StagedFrom env payload staged)
    (hlabel : route.label = staged.performer)
    (hv : envelope staged route senderRoot consentReceipt = .ok v) (id ref : String) :
    verify env v (coordMessage v payload id ref).parts senderRoot route.root =
      .ok ⟨staged.stagedDigest, staged.payloadSha256, staged.taskType, route.label, senderRoot,
        consentReceipt, payload.length⟩ := by
  unfold envelope at hv
  dsimp only at hv
  split at hv
  case isFalse => cases hv
  case isTrue hvalid =>
    cases hv
    refine verify_eq_ok_iff.2 ⟨payload, ?_⟩
    refine ⟨hvalid, rfl, rfl, rfl, rfl, rfl, rfl, rfl, rfl, ?_, ?_,
      rfl, rfl⟩
    · rw [hlabel, hstaged]
    · rw [hlabel, hstaged]

theorem payload_eq_of_stagedDigest_eq {payload' : Bytes} {label label' taskType taskType' : String}
    (hcf : Set.InjOn env.sha256 {payload, payload', stagedBytes env payload label taskType,
      stagedBytes env payload' label' taskType'})
    (h : (stageReference env payload label taskType).stagedDigest =
      (stageReference env payload' label' taskType').stagedDigest) :
    payload = payload' ∧ label = label' ∧ taskType = taskType' := by
  have hbytes := hcf (by simp) (by simp) (hex_inj h)
  obtain ⟨hdigest, hlabel, htype⟩ := stagedContent_inj hbytes
  exact ⟨hcf (by simp) (by simp) (hex_inj hdigest), hlabel, htype⟩

/-- **A dispatch arrives as it was staged.**  What the sender builds from an admitted staging is
accepted by the receiver, with the sender's digest.  Conversely an accepted message holds exactly
one payload part; its payload, label and task type hash to the reported digest, it names the
authenticated sender and the local root, and its payload is the one any honest sender staged
under that digest. -/
theorem dispatch_arrives_as_staged (env : Env) (hsha : ∀ b, (env.sha256 b).length = 32) :
    (∀ (payload : Bytes) (staged : StagedContract) (route : CoordRoute)
        (senderRoot consentReceipt dispatchReceipt : String),
      StagedFrom env payload staged → route.label = staged.performer →
      envelopeAdmitsTaskType staged.taskType = true →
      envelopeAdmitsRecipientLabel staged.performer = true →
      isRoot senderRoot = true → isRoot route.root = true → isOpaqueId consentReceipt = true →
      (∀ v, envelope staged route senderRoot consentReceipt = .ok v →
        env.Carries (coordMessage v payload dispatchReceipt staged.stageRef)) →
      ∃ v body m received, envelope staged route senderRoot consentReceipt = .ok v ∧
        messageBody env v payload dispatchReceipt staged.stageRef = .ok body ∧
        env.parseRequest body = some m ∧ coordDispatchEnvelope m.parts = some v ∧
        verify env v m.parts senderRoot route.root = .ok received ∧
        received.stagedDigest = staged.stagedDigest) ∧
    (∀ (v : Json) (parts : List Part) (senderRoot localRoot : String)
        (received : ReceivedDispatch),
      verify env v parts senderRoot localRoot = .ok received →
      ∃ payload, parts.filterMap payloadCandidate = [payload] ∧
        v.getStr? "recipient_label" = some received.recipientLabel ∧
        v.getStr? "task_type" = some received.taskType ∧
        hex (env.sha256 (stagedBytes env payload received.recipientLabel received.taskType)) =
          received.stagedDigest ∧
        v.getStr? "sender_root" = some senderRoot ∧ v.getStr? "recipient_root" = some localRoot ∧
        ∀ (payload' : Bytes) (label' taskType' : String),
          (stageReference env payload' label' taskType').stagedDigest = received.stagedDigest →
          Set.InjOn env.sha256 {payload, payload',
            stagedBytes env payload received.recipientLabel received.taskType,
            stagedBytes env payload' label' taskType'} →
          payload = payload') := by
  constructor
  · intro payload staged route senderRoot consentReceipt dispatchReceipt hstaged hlabel htype hperf
      hsender hrecipient hconsent hcarries
    have hdigests : isSha256Hex staged.payloadSha256 = true ∧
        isSha256Hex staged.stagedDigest = true := by
      have hp : _ = staged.payloadSha256 := congrArg StageReference.payloadSha256 hstaged
      have hd : _ = staged.stagedDigest := congrArg StageReference.stagedDigest hstaged
      rw [← hp, ← hd]
      exact ⟨isSha256Hex_hex (hsha _), isSha256Hex_hex (hsha _)⟩
    have hvalid : validateCoordDispatch (envelopeJson consentReceipt staged.payloadSha256 route.label
        route.root senderRoot staged.stagedDigest staged.taskType) = true := by
      rw [validate_envelopeJson, hlabel]
      exact ⟨hconsent, hdigests.1, (envelopeAdmitsRecipientLabel_iff _).1 hperf, hrecipient, hsender,
        hdigests.2, (envelopeAdmitsTaskType_iff _).1 htype⟩
    have hv := envelope_of_valid hvalid
    obtain ⟨request, hrequest, hparse⟩ := hcarries _ hv
    refine ⟨_, _, _, _, hv, ?_, hparse, coordDispatchEnvelope_coordMessage _ _ _ _,
      verify_coordMessage hstaged hlabel hv _ _, rfl⟩
    simp only [messageBody, hrequest]
  · intro v parts senderRoot localRoot received h
    obtain ⟨payload, hver⟩ := verify_eq_ok_iff.1 h
    refine ⟨payload, ?_, hver.recipientLabel, hver.taskType, hver.derived_staged, hver.sender,
      hver.recipient, ?_⟩
    · have hpayload := hver.payload_eq
      unfold coordPayload at hpayload
      split at hpayload
      case h_1 only hparts => rw [hparts, Option.some.inj hpayload]
      case h_2 => cases hpayload
    · intro payload' label' taskType' hdigest hcf
      exact (payload_eq_of_stagedDigest_eq hcf (hver.derived_staged.trans hdigest.symm)).1

/-! ## One staging, at both ends -/

def samplePayload : Bytes := Json.utf8 "outbound bytes".toList

def sampleTaskType : String := "https://byom.example/task/exchange/v1"

def samplePayloadHash : Bytes :=
  beBytes 32 0x6ba4103bc270af5c032d195cb80f2475b1c9626b2745d54dbf7853ae2b8c1e6a

def sampleNum (q : Rat) : List Char := if q = 1 then ['1'] else []

def sampleStagedBytes : Bytes :=
  Json.canonicalBytes sampleNum (stagedContent (hex samplePayloadHash) "partner" sampleTaskType)

def sampleStagedHash : Bytes :=
  beBytes 32 0x1ec198aef1a421db1ecd19e0aa42136a79ac9f9cf38b51a55d4346d4700db9a8

def sampleSha256 (b : Bytes) : Bytes :=
  if b = samplePayload then samplePayloadHash
  else if b = sampleStagedBytes then sampleStagedHash
  else List.replicate 32 0

def partJson (base64 : Bytes → String) (part : Part) : Json :=
  let content := match part.content with
    | some (.text s) => [("text", Json.str s)]
    | some (.raw bytes) => [("raw", .str (base64 bytes))]
    | some (.url s) => [("url", .str s)]
    | some (.data v) => [("data", v)]
    | none => []
  let named := fun k s => if s = "" then [] else [(k, Json.str s)]
  .obj (content ++ named "filename" part.filename ++ named "mediaType" part.mediaType)

def requestJsonOf (base64 : Bytes → String) (m : Message) : Json :=
  .obj [("message", .obj [("contextId", .str m.contextId), ("messageId", .str m.messageId),
    ("parts", .arr (m.parts.map (partJson base64)))])]

def sampleStaged : StagedContract where
  stageRef := "stage-1ec198aef1a421db1ecd19e0aa42136a"
  stagedDigest := hex sampleStagedHash
  taskType := sampleTaskType
  performer := "partner"
  payloadSha256 := hex samplePayloadHash
  byteLength := 14
  status := .consented
  stagedAt := 1800000000

def sampleRoute : CoordRoute where
  label := "partner"
  root := "root-recipient-fixture"
  endpoint := "https://127.0.0.1:18444/a2a"
  tlsFingerprint := "fp-recipient"

def sampleEnvelope : Json :=
  envelopeJson "consent-abc" (hex samplePayloadHash) "partner" "root-recipient-fixture"
    "root-sender-fixture" (hex sampleStagedHash) sampleTaskType

def sampleMessage : Message :=
  coordMessage sampleEnvelope samplePayload "dispatch-1" sampleStaged.stageRef

def sampleBase64 (bytes : Bytes) : String :=
  if bytes = samplePayload then "b3V0Ym91bmQgYnl0ZXM=" else ""

def readOne (wire : Bytes) (m : Message) (b : Bytes) : Option Message :=
  if b = wire then some m else none

theorem readOne_self (wire : Bytes) (m : Message) : readOne wire m wire = some m := if_pos rfl

def sampleEnv : Env :=
  { Env.inert with
    sha256 := sampleSha256
    fmtNum := sampleNum
    jsonText := fun v => Json.utf8 (Json.encode sampleNum v)
    requestJson := fun m => some (requestJsonOf sampleBase64 m)
    parseRequest := readOne
      (Json.canonicalBytes sampleNum (requestJsonOf sampleBase64 sampleMessage)) sampleMessage
    parseUrl := fun s =>
      if s = "https://127.0.0.1:18444/a2a" then
        some ⟨"https", some "127.0.0.1", some 18444, "/a2a"⟩
      else none }

theorem sha256_sampleEnv : sampleEnv.sha256 = sampleSha256 := rfl

theorem fmtNum_sampleEnv : sampleEnv.fmtNum = sampleNum := rfl

theorem parseRequest_sampleEnv :
    sampleEnv.parseRequest =
      readOne (Json.canonicalBytes sampleNum (requestJsonOf sampleBase64 sampleMessage))
        sampleMessage := rfl

theorem length_sampleSha256 (b : Bytes) : (sampleEnv.sha256 b).length = 32 := by
  rw [sha256_sampleEnv, sampleSha256]
  split_ifs <;> rfl

theorem sha256_samplePayload : sampleEnv.sha256 samplePayload = samplePayloadHash := by
  rw [sha256_sampleEnv, sampleSha256, if_pos rfl]

theorem samplePayload_ne : samplePayload ≠ sampleStagedBytes := by
  decide

theorem sha256_sampleStagedBytes : sampleEnv.sha256 sampleStagedBytes = sampleStagedHash := by
  rw [sha256_sampleEnv, sampleSha256, if_neg samplePayload_ne.symm, if_pos rfl]

theorem stagedFrom_of (hnum : env.fmtNum = sampleNum)
    (hpayload : env.sha256 samplePayload = samplePayloadHash)
    (hstaged : env.sha256 sampleStagedBytes = sampleStagedHash) :
    StagedFrom env samplePayload sampleStaged := by
  have href : "stage-" ++ String.ofList ((hex sampleStagedHash).toList.take 32) =
      "stage-1ec198aef1a421db1ecd19e0aa42136a" := by decide
  have hbytes : stagedBytes env samplePayload "partner" sampleTaskType = sampleStagedBytes := by
    rw [stagedBytes, hpayload, hnum, sampleStagedBytes]
  simp only [StagedFrom, stageReference, sampleStaged, hbytes, hpayload, hstaged, href]

theorem stagedBytes_sample :
    stagedBytes sampleEnv samplePayload "partner" sampleTaskType = sampleStagedBytes := by
  rw [stagedBytes, sha256_samplePayload, fmtNum_sampleEnv, sampleStagedBytes]

theorem stagedFrom_sample : StagedFrom sampleEnv samplePayload sampleStaged :=
  stagedFrom_of fmtNum_sampleEnv sha256_samplePayload sha256_sampleStagedBytes

theorem isTaskType_sample : isTaskType sampleTaskType = true := by decide

theorem envelope_sample :
    envelope sampleStaged sampleRoute "root-sender-fixture" "consent-abc" = .ok sampleEnvelope := by
  refine envelope_of_valid ((validate_envelopeJson _ _ _ _ _ _ _).2 ?_)
  exact ⟨by decide, isSha256Hex_hex rfl, by decide +kernel, by decide +kernel,
    by decide, isSha256Hex_hex rfl, isTaskType_sample⟩

theorem verify_sample :
    verify sampleEnv sampleEnvelope sampleMessage.parts "root-sender-fixture"
      "root-recipient-fixture" = .ok ⟨hex sampleStagedHash, hex samplePayloadHash, sampleTaskType,
        "partner", "root-sender-fixture", "consent-abc", 14⟩ :=
  verify_coordMessage stagedFrom_sample rfl envelope_sample _ _

theorem carries_sample : sampleEnv.Carries sampleMessage := by
  refine ⟨requestJsonOf sampleBase64 sampleMessage, rfl, ?_⟩
  rw [fmtNum_sampleEnv, parseRequest_sampleEnv, readOne_self]

theorem injOn_of_ne {f : Bytes → Bytes} {a b : Bytes} (h : f a ≠ f b) :
    Set.InjOn f {a, a, b, b} := by
  have hset : ({a, a, b, b} : Set Bytes) = {a, b} := by simp
  rw [hset, Set.injOn_pair]
  intro hab
  exact absurd hab h

theorem dispatch_arrives_as_staged_sample :
    (∃ v body m received,
      envelope sampleStaged sampleRoute "root-sender-fixture" "consent-abc" = .ok v ∧
      messageBody sampleEnv v samplePayload "dispatch-1" sampleStaged.stageRef = .ok body ∧
      sampleEnv.parseRequest body = some m ∧ coordDispatchEnvelope m.parts = some v ∧
      verify sampleEnv v m.parts "root-sender-fixture" sampleRoute.root = .ok received ∧
      received.stagedDigest = sampleStaged.stagedDigest) ∧
    ∃ payload, sampleMessage.parts.filterMap payloadCandidate = [payload] ∧
      payload = samplePayload := by
  constructor
  · refine (dispatch_arrives_as_staged sampleEnv length_sampleSha256).1 samplePayload sampleStaged
      sampleRoute "root-sender-fixture" "consent-abc" "dispatch-1" stagedFrom_sample rfl
      ((envelopeAdmitsTaskType_iff _).2 isTaskType_sample) (by decide) (by decide +kernel)
      (by decide) (by decide +kernel) ?_
    intro v hv
    rw [envelope_sample] at hv
    cases hv
    exact carries_sample
  · obtain ⟨payload, hparts, -, -, -, -, -, honest⟩ :=
      (dispatch_arrives_as_staged sampleEnv length_sampleSha256).2 _ _ _ _ _ verify_sample
    have hpayload : samplePayload = payload := by
      have hlist : [samplePayload] = [payload] := hparts
      exact (List.cons.inj hlist).1
    refine ⟨payload, hparts, honest samplePayload "partner" sampleTaskType
      (congrArg StageReference.stagedDigest stagedFrom_sample) ?_⟩
    -- only two byte strings are hashed, and their digests differ
    rw [← hpayload, stagedBytes_sample]
    refine injOn_of_ne ?_
    rw [sha256_samplePayload, sha256_sampleStagedBytes]
    decide

end Akson
