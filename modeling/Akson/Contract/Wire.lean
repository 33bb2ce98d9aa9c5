/-
# A proposal on the wire

How the libraries answer along the way of one signed contract: the numbers as RFC 8785 writes
them, the digests and the signature as they are for these bytes.
-/
import Akson.Contract.Proposal
import Akson.Contract.Reads

namespace Akson

open Except List

def intText (q : Rat) : List Char := (toString q.num).toList

section Reading

mutual

def readingOf : Json → Json.Reading
  | .null => .null
  | .bool b => .bool b
  | .num q => if q.den = 1 then .int q.num else .float q
  | .str s => .str s
  | .arr xs => .arr (readingsOf xs) none
  | .obj fs => .obj (readingMembers fs) none

def readingsOf : List Json → List Json.Reading
  | [] => []
  | x :: xs => readingOf x :: readingsOf xs

def readingMembers : List (String × Json) → List (String × Json.Reading)
  | [] => []
  | (k, x) :: fs => (k, readingOf x) :: readingMembers fs

end

end Reading

def wireSecret : Bytes := List.replicate 32 4

def wirePublic : Bytes :=
  beBytes 32 0xca93ac1705187071d67b83c7ff0efe8108e8ec4530575d7726879333dbdabe7c

def wireKey : PurposeKey := ⟨.contractProposal, wireSecret⟩

def wireThumbprint : Bytes :=
  beBytes 32 0x77c31edee27cda385db02b2d5b254caf7fc8dae79e4d81b96a0335fb6af5fdb6

/-- A proposal on the wire, with its digest and signature. -/
structure Wire where
  value : Json
  contract : Contract
  digest : Bytes
  signature : Bytes
  texts : List (String × Bytes)
  valid : validateContract value = true := by decide +kernel
  shape : Contract.ofJson value = some contract := by decide +kernel
  visits : (Json.visit (fun _ => "") 64 0 0 (readingOf value)).map Prod.fst = .ok value := by
    decide +kernel
  small : (Json.encode intText (Json.sortKeys value)).length ≤ 2 * 1024 * 1024 := by decide +kernel
  signed : signature.length = 64 := by rfl

namespace Wire

variable (w : Wire)

def payload : Bytes := Json.canonicalBytes intText w.value

def sha256 (b : Bytes) : Bytes :=
  if b = w.payload then w.digest
  else ((w.texts.find? (fun t => utf8 t.1 = b)).map Prod.snd).getD wireThumbprint

def env : Env :=
  { Env.inert with
    sha256 := w.sha256
    verifyStrict := fun key message signature => key = wirePublic ∧
      message = pae proposalPayloadType w.payload ∧ signature = w.signature
    signEd25519 := fun _ _ => w.signature
    publicKey := fun _ => wirePublic
    isPublicKey := fun key => key = wirePublic
    fmtNum := intText
    readJson := fun _ => (readingOf w.value, none)
    jsonText := fun v => Json.utf8 (Json.encode intText v)
    parseRfc3339 := fun s =>
      if s = "2026-01-01T00:00:00Z" then some 1767225600
      else if s = "2030-01-01T00:00:00Z" then some 1893456000
      else none }

def parsed : ParsedContract := ⟨w.contract, hex w.digest, w.payload⟩

theorem sha256_payload : w.env.sha256 w.payload = w.digest := if_pos rfl

theorem parsePayload_eq : parsePayload w.env w.payload = .ok w.parsed := by
  have hparse : Json.parse w.env.fmtFloat w.env.readJson w.payload = .ok w.value := by
    have hsize : ¬ (w.payload.length > min Json.maxBytes Json.maxBytes) := by
      have hle : w.payload.length ≤ 4 * _ := Json.length_utf8_le _
      have hsmall := w.small
      simp only [min_self, Json.maxBytes]
      omega
    have hvisits := w.visits
    cases hvisit : Json.visit (fun _ => "") 64 0 0 (readingOf w.value) with
    | error e =>
      rw [hvisit] at hvisits
      cases hvisits
    | ok found =>
      rw [hvisit] at hvisits
      have hfound : found.1 = w.value := ok.inj hvisits
      rw [Json.parse, Json.parseWithLimits, if_neg hsize]
      exact bind_eq_ok.2 ⟨found, hvisit, bind_eq_ok.2 ⟨(), rfl, by rw [hfound]⟩⟩
  simp only [parsePayload, bind_eq_ok, mapError_eq_ok, ensure_eq_ok,
    okOr_eq_ok, exists_const]
  exact ⟨w.value, hparse, rfl, w.valid, w.contract, w.shape, by rw [w.sha256_payload]; rfl⟩

theorem signs : w.env.Signs wireSecret (pae proposalPayloadType w.payload) where
  verifies := by simp only [env, and_self, decide_true]
  length := w.signed

def envelope : Envelope := dsseSign w.env proposalPayloadType w.payload wireSecret

theorem signProposal_eq : signProposal w.env w.payload wireKey = .ok w.envelope := by
  simp only [signProposal, bind_eq_ok, mapError_eq_ok]
  exact ⟨w.parsed, w.parsePayload_eq, wireSecret, rfl, rfl⟩

def parts : List Part :=
  ⟨"", dsseEnvelopeMediaType, some (.data w.envelope.json)⟩ ::
    w.texts.map (fun t => ⟨"", "text/plain", some (.text t.1)⟩)

def textInputs : ℕ → List (String × Bytes) → List InputPart
  | _, [] => []
  | n, t :: ts => ⟨"m1", n, "text/plain", .text t.1⟩ :: textInputs (n + 1) ts

def received : ReceivedProposal := ⟨w.parsed, textInputs 1 w.texts⟩

theorem extractParts_texts (n : ℕ) (envelope : Option Envelope) (ts : List (String × Bytes)) :
    extractParts "m1" n envelope
      (ts.map (fun t => ⟨"", "text/plain", some (.text t.1)⟩)) =
        .ok (envelope, textInputs n ts) := by
  have hplain : decide ("text/plain" = dsseEnvelopeMediaType) = false := by decide
  induction ts generalizing n with
  | nil => rfl
  | cons t ts ih =>
    rw [map_cons, extractParts, hplain, ih]
    rfl

theorem extractProposal_eq :
    extractProposal "m1" w.parts = .ok ⟨w.envelope, textInputs 1 w.texts⟩ := by
  have hdsse : decide (dsseEnvelopeMediaType = dsseEnvelopeMediaType) = true := decide_eq_true rfl
  have hparts : extractParts "m1" 0 none w.parts = .ok (some w.envelope, textInputs 1 w.texts) := by
    rw [parts, extractParts, hdsse]
    refine bind_eq_ok.2 ⟨(), rfl, bind_eq_ok.2 ⟨w.envelope, ?_, ?_⟩⟩
    · rw [Envelope.ofJson_json]
      rfl
    · exact extractParts_texts 1 _ w.texts
  rw [extractProposal, hparts]
  rfl

theorem extractProposal_of_nil (htexts : w.texts = []) (messageId : String) :
    extractProposal messageId w.parts = .ok ⟨w.envelope, []⟩ := by
  have hdsse : decide (dsseEnvelopeMediaType = dsseEnvelopeMediaType) = true := decide_eq_true rfl
  have hparts : extractParts messageId 0 none w.parts = .ok (some w.envelope, []) := by
    rw [parts, htexts, extractParts, hdsse]
    refine bind_eq_ok.2 ⟨(), rfl, bind_eq_ok.2 ⟨w.envelope, ?_, rfl⟩⟩
    rw [Envelope.ofJson_json]
    rfl
  rw [extractProposal, hparts]
  rfl

theorem receive {messageId : String} {inputs : List InputPart}
    (hextract : extractProposal messageId w.parts = .ok ⟨w.envelope, inputs⟩)
    (hbound : Bound w.env w.contract.inputs inputs) {now : Time}
    (hwindow : validity w.env w.contract now = .ok .valid) :
    receiveProposal w.env messageId w.parts (wireKey.verifying w.env) w.contract.requester
      w.contract.performer now = .ok ⟨w.parsed, inputs⟩ := by
  obtain ⟨parsed, hparsed, hverify⟩ := verifyProposal_signProposal w.signProposal_eq w.signs
  rw [w.parsePayload_eq, ok.injEq] at hparsed
  subst hparsed
  simp only [receiveProposal, checkProposalIdentities, bind_eq_ok, mapError_eq_ok,
    ensure_eq_ok, bindInputs_eq_ok_iff, Validity.check_eq_ok_iff]
  exact ⟨_, hextract, w.parsed, hverify, (), ⟨(), rfl, rfl⟩, (), hbound, .valid, hwindow, (), rfl, rfl⟩

theorem window (hcreated : w.contract.createdAt = "2026-01-01T00:00:00Z")
    (hexpires : w.contract.expiresAt = "2030-01-01T00:00:00Z") :
    validity w.env w.contract 1800000000 = .ok .valid := by
  have hfrom : parseTimestamp w.env "2026-01-01T00:00:00Z" "created_at" = .ok 1767225600 := rfl
  have huntil : parseTimestamp w.env "2030-01-01T00:00:00Z" "expires_at" = .ok 1893456000 := rfl
  rw [validity, hcreated, hexpires, hfrom, huntil]
  decide

end Wire

/-! ## Sample contracts -/

def sampleIdentity (issuer agent : String) : Json :=
  .obj [("agent", .str agent), ("issuer", .str issuer),
    ("root", .str "root-fixture-aaaaaaaaaaaaaaaaaaaaaaaaaaaaaa")]

def slottedValue (disclosure : String) (slots : List Json) (revision : ℕ)
    (inputs capabilities : List Json) (predecessor task : List (String × Json)) : Json :=
  .obj ([("contract_id", .str "00000000-0000-4000-8000-000000000000"),
    ("created_at", .str "2026-01-01T00:00:00Z"),
    ("deliverables", .arr [.obj [("media_type", .str "text/plain"), ("role", .str "r")]]),
    ("evidence_slots", .arr slots), ("expires_at", .str "2030-01-01T00:00:00Z"),
    ("inputs", .arr inputs),
    ("limits", .obj [("deadline", .str "2030-01-01T00:00:00Z"), ("max_response_bytes", .num 1024)]),
    ("message_id", .str "m1"), ("objective", .str "o"), ("performer", sampleIdentity "c" "d")] ++
    predecessor ++
    [("processor_constraints", .obj [("disclosure", .str disclosure)]),
    ("requested_capabilities", .arr capabilities), ("requester", sampleIdentity "a" "b"),
    ("result_recipient", .str "request-origin"), ("revision", .num revision),
    ("schema_version", .num 1)] ++ task ++ [("task_type", .str "https://akson.invalid/t")])

def sampleValue (revision : ℕ) (inputs capabilities : List Json)
    (predecessor task : List (String × Json)) : Json :=
  slottedValue "none" [] revision inputs capabilities predecessor task

def successorWire : Wire where
  value := sampleValue 1 [] []
    [("predecessor_digest",
      .str "0000000000000000000000000000000000000000000000000000000000000000")]
    [("task_id", .str "task-1")]
  contract := { Contract.sample with
    revision := 1
    predecessorDigest := some "0000000000000000000000000000000000000000000000000000000000000000"
    taskId := some "task-1" }
  digest := beBytes 32 0x79603c424087119c0fb70a54f090dd131458466d8ecb552ab6ff0ee2b9bb205f
  signature := beBytes 32 0xc713e5a435701d201d0c2eb3b3d3d502042f3aef246d73d670587582bb23b605 ++
    beBytes 32 0x5d0568f3691df18ae4d8d582309d7cbe97509060c265d0c1c0bdb7c3382ebc09
  texts := []

def helloHash : Bytes :=
  beBytes 32 0x2cf24dba5fb0a30e26e83b2ac5b9e29e1b161e5c1fa7425e73043362938b9824

def helloEntry (partIndex : ℕ) : InputEntry where
  id := "input"
  messageId := "m1"
  partIndex := partIndex
  kind := .text
  mediaType := "text/plain"
  charset := some "utf-8"
  canonicalRule := .utf8Exact
  byteLength := 5
  sha256 := "2cf24dba5fb0a30e26e83b2ac5b9e29e1b161e5c1fa7425e73043362938b9824"
  workerVisible := true
  processorVisible := false

def helloJson (partIndex : ℕ) (processorVisible : Bool) : Json :=
  .obj [("byte_length", .num 5), ("canonical_rule", .str "utf8-exact"), ("charset", .str "utf-8"),
    ("id", .str "input"), ("kind", .str "text"), ("media_type", .str "text/plain"),
    ("message_id", .str "m1"), ("part_index", .num partIndex),
    ("processor_visible", .bool processorVisible),
    ("sha256", .str "2cf24dba5fb0a30e26e83b2ac5b9e29e1b161e5c1fa7425e73043362938b9824"),
    ("worker_visible", .bool true)]

def repeatedWire : Wire where
  value := sampleValue 0 [helloJson 1 false, helloJson 2 false]
    [.str "respond", .str "read_supplied_inputs", .str "processor_use"] [] []
  contract := { Contract.sample with
    inputs := [helloEntry 1, helloEntry 2]
    requestedCapabilities := [.respond, .readSuppliedInputs, .processorUse] }
  digest := beBytes 32 0x5122983654bb721288862888e4dd74732a3191fb0e11f471787f0c20fa719650
  signature := beBytes 32 0x0ae5fdca9b4b7058cbcb16ffa7852fd1653c53bc21c4d22b2748cec1f4c43e14 ++
    beBytes 32 0xf2a61218b028ab6ebd9e163bcfa7c9fe470733dd4252a1ca4ce2be6aa5580f0d
  texts := [("hello", helloHash), ("hello", helloHash)]

theorem payload_accepted_iff_repeatedWire :
    (∃ value, Json.parse repeatedWire.env.fmtFloat repeatedWire.env.readJson repeatedWire.payload =
        .ok value ∧ Json.canonicalBytes intText value = repeatedWire.payload ∧
        validateContract value = true) ∧
    ∀ parsed, parsePayload repeatedWire.env repeatedWire.payload = .ok parsed →
      parsed.contract = repeatedWire.contract := by
  obtain ⟨haccepted, hdigest⟩ := payload_accepted_iff repeatedWire.env
  have hparsed := repeatedWire.parsePayload_eq
  refine ⟨(haccepted _).1 ⟨_, hparsed⟩, fun parsed h => ?_⟩
  exact hdigest _ _ _ _ (fun _ => rfl) h hparsed
    ((parsePayload_digest h).1.trans (parsePayload_digest hparsed).1.symm)

theorem sha256_hello : repeatedWire.env.sha256 (utf8 "hello") = helloHash := by decide

theorem binds_hello (n : ℕ) :
    Binds repeatedWire.env (helloEntry n) ⟨"m1", n, "text/plain", .text "hello"⟩ where
  kind := rfl
  mediaType := rfl
  rule := rfl
  byteLength := show (utf8 "hello").length = 5 by decide
  sha256 := by
    have hhex : hex helloHash =
        "2cf24dba5fb0a30e26e83b2ac5b9e29e1b161e5c1fa7425e73043362938b9824" := by decide
    rw [PartBody.bytes, sha256_hello, hhex]
    rfl

theorem repeatedWire_bound :
    Bound repeatedWire.env repeatedWire.contract.inputs
      (Wire.textInputs 1 repeatedWire.texts) where
  entries_nodup := by decide
  parts_nodup := by decide
  binds p hp := by
    rcases mem_cons.1 hp with rfl | hp
    · exact ⟨helloEntry 1, by decide, binds_hello 1⟩
    · obtain rfl := mem_singleton.1 hp
      exact ⟨helloEntry 2, by decide, binds_hello 2⟩
  covered := by decide

def exportWire : Wire where
  value := sampleValue 0 [] [.str "respond", .str "artifact_export"] [] []
  contract := { Contract.sample with requestedCapabilities := [.respond, .artifactExport] }
  digest := beBytes 32 0x312ba7e74110925581313d7d5631c42fb56c710bd10c1f1f9bfe11884397235d
  signature := beBytes 32 0x15da1eafd74606c8630a77f3f952c53672fd59e80fd4f1759f8097c04df1298a ++
    beBytes 32 0xb8b676f8469e6f95775c8d35a68c8fa1e2ec9b3539bbed159561c5514bbbf50c
  texts := []

def respondWire : Wire where
  value := sampleValue 0 [] [.str "respond"] [] []
  contract := { Contract.sample with requestedCapabilities := [.respond] }
  digest := beBytes 32 0x1c22f1cf98788bb62ff5548aa77696361ef2bc7d5d386b8f01534ebc0f1da6dd
  signature := beBytes 32 0xa660b1a1bd14851568dddde00c1e95ddb96dc751fa48f75d98d08dfb87f86c5c ++
    beBytes 32 0x93aa2a97a0b7ff498d5ba8ab6c25656acade83b9cd47aca65914214b80caa10f
  texts := []

end Akson
