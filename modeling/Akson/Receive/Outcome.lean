/-
# Finalizing a delivered result

The requester's side of a delivery: the manifest has to verify under the performer's result key,
answer a task this endpoint sent to that performer, and name exactly the outputs that came with it.
-/
import Akson.Lib.Operation
import Akson.Evidence.Reply
import Akson.Store.Outcomes

namespace Akson

open Operation Except Option List Table

/-- An output, as it is delivered. -/
structure DeliveredOutput where
  artifactId : String
  bytes : Bytes

def matchRequest (manifest : ResultManifest) (sender : Identity) (senderRoot : String)
    (sent : Option SentRequest) : Except Problem Unit := do
  let sent ← okOr sent
    (Problem.new 409 "unsolicited-result" "no outstanding request matches this result")
  ensure (sent.taskId = manifest.header.taskId) (Problem.new 409 "result-mismatch"
    "the result's task does not match the outstanding request")
  ensure (sent.performerAgent = sender.agent ∧ sent.performerIssuer = sender.issuer)
    (Problem.new 403 "wrong-performer" "the result was not delivered by the assigned performer")
  -- an empty root is one of a request from before roots were recorded
  ensure (sent.performerRoot ≠ "" ∧ sent.performerRoot = senderRoot ∧
      sender.root = senderRoot)
    (Problem.new 403 "wrong-performer" "the result was not delivered by the assigned performer")
  ensure (sent.contractId = manifest.header.contractId ∧
      sent.contextId = manifest.header.contextId)
    (Problem.new 409 "result-mismatch"
      "the result's contract or context metadata does not match the outstanding request")

def stageOutputs (env : Env) (taskId : String) (delivered : List DeliveredOutput) (ordinal : ℕ) :
    List OutputEntry → Except Problem (List TaskOutputRow)
  | [] => .ok []
  | entry :: entries => do
    let part ← okOr (delivered.find? (fun d => d.artifactId = entry.artifactId))
      (Problem.new 422 "output-missing" "the result did not carry every output its manifest names")
    ensure (part.bytes.length = entry.byteLength ∧
        hex (env.sha256 part.bytes) = entry.sha256)
      (Problem.new 422 "output-digest-mismatch"
        "a delivered output does not match the digest in the signed manifest")
    let rest ← stageOutputs env taskId delivered (ordinal + 1) entries
    .ok (⟨taskId, entry.artifactId, ordinal, entry.role, entry.mediaType, entry.byteLength,
      entry.sha256, part.bytes⟩ :: rest)

def checkOutputs (env : Env) (manifest : ResultManifest) (delivered : List DeliveredOutput) :
    Except Problem (List TaskOutputRow) := do
  ensure (manifest.outputs.map OutputEntry.artifactId).Nodup
    (Problem.new 422 "output-duplicate" "the manifest names the same artifact more than once")
  let rows ← stageOutputs env manifest.header.taskId delivered 0 manifest.outputs
  ensure (delivered.length = manifest.outputs.length)
    (Problem.new 422 "output-unbound" "the result carried an output its manifest does not name")
  .ok rows

def signOutcome (env : Env) (manifest : ResultManifest) (requester : Identity) (signedAt : String)
    (outcomeKey : PurposeKey) : Except Problem (String × Bytes) := do
  let outcome ← (Outcome.forManifest env manifest .accepted requester signedAt).mapError
    (fun _ => Problem.new 500 "outcome" "the outcome could not be built")
  (outcome.checkBindsTo env manifest).mapError
    (fun _ => Problem.new 500 "outcome-binding" "the outcome does not bind the result")
  let envelope ← (outcome.sign env outcomeKey).mapError
    (fun _ => Problem.new 500 "sign-failed" "the outcome could not be signed")
  let digest ← (outcome.digest env).mapError
    (fun _ => Problem.new 500 "outcome" "the outcome could not be digested")
  .ok (digest, env.jsonText envelope.json)

def OutcomeWrite.json (taskId bundleDigest outcomeDigest : String) : OutcomeWrite → Json
  | .recorded => .obj [("bundle_digest", .str bundleDigest), ("finalized", .bool true),
      ("outcome_digest", .str outcomeDigest), ("state", .str "accepted"), ("task_id", .str taskId)]
  | .alreadyRecorded stored => .obj [("finalized", .bool true), ("outcome_digest", .str stored),
      ("redelivery", .bool true), ("state", .str "accepted"), ("task_id", .str taskId)]

/-- Check a delivered result and sign its outcome. -/
def finalizeResult (env : Env) (requester sender : Identity) (senderRoot : String)
    (outcomeKey : PurposeKey) (performerTaskResultKey : PurposeVerifyingKey)
    (manifestEnvelope : Envelope) (delivered : List DeliveredOutput) (signedAt : String)
    (now : Time) : Operation Store Problem Json := do
  let (manifest, bundleDigest) ← demand
    ((ResultManifest.verify env manifestEnvelope performerTaskResultKey).mapError
      (fun _ => Problem.new 422 "manifest-invalid" "the result manifest did not verify"))
  ask (fun s => matchRequest manifest sender senderRoot
    (s.getSentRequest manifest.header.contractDigest))
  let outputs ← demand (checkOutputs env manifest delivered)
  let (outcomeDigest, outcome) ← demand (signOutcome env manifest requester signedAt outcomeKey)
  let write ← commit (recordOutcomeWithOutputs
    ⟨manifest.header.contractDigest, manifest.header.taskId, bundleDigest, outcomeDigest,
      "accepted", outcome, signedAt, now⟩ outputs now) (fun _ => internal)
  pure (write.json manifest.header.taskId bundleDigest outcomeDigest)

/-! ## What is checked -/

/-- The manifest answers the request, and comes from its performer. -/
structure Answers (manifest : ResultManifest) (sender : Identity) (senderRoot : String)
    (sent : SentRequest) : Prop where
  taskId : sent.taskId = manifest.header.taskId
  agent : sent.performerAgent = sender.agent
  issuer : sent.performerIssuer = sender.issuer
  named : sent.performerRoot ≠ ""
  root : sent.performerRoot = senderRoot
  channel : sender.root = senderRoot
  contractId : sent.contractId = manifest.header.contractId
  contextId : sent.contextId = manifest.header.contextId

/-- The parts and the outputs of the manifest are in bijection: the same artifact ids on both
sides, each once, and what stands under an id has the length and the digest that was signed. -/
structure Carries (env : Env) (manifest : ResultManifest) (delivered : List DeliveredOutput) :
    Prop where
  distinct : (manifest.outputs.map OutputEntry.artifactId).Nodup
  ids : (delivered.map DeliveredOutput.artifactId).Perm (manifest.outputs.map OutputEntry.artifactId)
  bytes : ∀ entry ∈ manifest.outputs, ∀ part ∈ delivered, part.artifactId = entry.artifactId →
    part.bytes.length = entry.byteLength ∧ hex (env.sha256 part.bytes) = entry.sha256

def KeptAs (env : Env) (taskId : String) (delivered : List DeliveredOutput) (entry : OutputEntry × ℕ)
    (row : TaskOutputRow) : Prop :=
  ∃ part, delivered.find? (fun d => d.artifactId = entry.1.artifactId) = some part ∧
    part.bytes.length = entry.1.byteLength ∧ hex (env.sha256 part.bytes) = entry.1.sha256 ∧
    row = ⟨taskId, entry.1.artifactId, entry.2, entry.1.role, entry.1.mediaType, entry.1.byteLength,
      entry.1.sha256, part.bytes⟩

section Checks

variable {env : Env} {manifest : ResultManifest} {sender : Identity} {senderRoot taskId : String}
  {delivered : List DeliveredOutput} {rows : List TaskOutputRow}

theorem matchRequest_eq_ok_iff {sent : Option SentRequest} :
    matchRequest manifest sender senderRoot sent = .ok () ↔
      ∃ req, sent = some req ∧ Answers manifest sender senderRoot req := by
  simp only [matchRequest, bind_eq_ok, okOr_eq_ok, ensure_eq_ok, exists_const]
  constructor
  · rintro ⟨req, rfl, htask, ⟨hagent, hissuer⟩, ⟨hnamed, hroot, hchannel⟩, hcontract, hcontext⟩
    exact ⟨req, rfl, htask, hagent, hissuer, hnamed, hroot, hchannel, hcontract, hcontext⟩
  · rintro ⟨req, rfl, h⟩
    exact ⟨req, rfl, h.taskId, ⟨h.agent, h.issuer⟩, ⟨h.named, h.root, h.channel⟩, h.contractId,
      h.contextId⟩

theorem stageOutputs_eq_ok_iff {entries : List OutputEntry} {ordinal : ℕ} :
    stageOutputs env taskId delivered ordinal entries = .ok rows ↔
      List.Forall₂ (KeptAs env taskId delivered) (entries.zipIdx ordinal) rows := by
  induction entries generalizing ordinal rows with
  | nil =>
    rw [stageOutputs, ok.injEq, zipIdx_nil, forall₂_nil_left_iff]
    exact eq_comm
  | cons entry entries ih =>
    simp only [stageOutputs, bind_eq_ok, okOr_eq_ok, ensure_eq_ok,
      exists_const, ok.injEq, ih, zipIdx_cons, forall₂_cons_left_iff, KeptAs]
    constructor
    · rintro ⟨part, hpart, ⟨hlength, hsha⟩, rest, hrest, rfl⟩
      exact ⟨_, rest, ⟨part, hpart, hlength, hsha, rfl⟩, hrest, rfl⟩
    · rintro ⟨row, rest, ⟨part, hpart, hlength, hsha, rfl⟩, hrest, rfl⟩
      exact ⟨part, hpart, ⟨hlength, hsha⟩, rest, hrest, rfl⟩

theorem exists_part_of_kept {entries : List OutputEntry} {ordinal : ℕ}
    (h : List.Forall₂ (KeptAs env taskId delivered) (entries.zipIdx ordinal) rows) :
    ∀ entry ∈ entries, ∃ part ∈ delivered, part.artifactId = entry.artifactId ∧
      part.bytes.length = entry.byteLength ∧ hex (env.sha256 part.bytes) = entry.sha256 := by
  induction entries generalizing ordinal rows with
  | nil => simp
  | cons entry entries ih =>
    rw [zipIdx_cons, forall₂_cons_left_iff] at h
    obtain ⟨row, rest, ⟨part, hpart, hlength, hsha, -⟩, hrest, -⟩ := h
    have hid : part.artifactId = entry.artifactId := by simpa using find?_some hpart
    rw [forall_mem_cons]
    exact ⟨⟨part, mem_of_find?_eq_some hpart, hid, hlength, hsha⟩, ih hrest⟩

theorem checkOutputs_eq_ok (h : checkOutputs env manifest delivered = .ok rows) :
    Carries env manifest delivered ∧
      List.Forall₂ (KeptAs env manifest.header.taskId delivered) (manifest.outputs.zipIdx 0) rows := by
  simp only [checkOutputs, bind_eq_ok, ensure_eq_ok, stageOutputs_eq_ok_iff,
    ok.injEq, exists_const] at h
  obtain ⟨hdistinct, rows, hkept, hcount, rfl⟩ := h
  have hfound := exists_part_of_kept hkept
  -- the outputs' ids are distinct, are all delivered, and are as many as the parts
  have hsubset : manifest.outputs.map OutputEntry.artifactId ⊆
      delivered.map DeliveredOutput.artifactId := by
    intro id hid
    obtain ⟨entry, hentry, rfl⟩ := mem_map.1 hid
    obtain ⟨part, hpart, hsame, -⟩ := hfound entry hentry
    rw [← hsame]
    exact mem_map_of_mem hpart
  have hids : (delivered.map DeliveredOutput.artifactId).Perm
      (manifest.outputs.map OutputEntry.artifactId) := by
    refine ((subperm_of_subset hdistinct hsubset).perm_of_length_le ?_).symm
    rw [length_map, length_map, hcount]
  refine ⟨⟨hdistinct, hids, fun entry hentry part hpart hid => ?_⟩, hkept⟩
  obtain ⟨found, hmem, hfound, hbytes⟩ := hfound entry hentry
  have hsame : part = found :=
    inj_on_of_nodup_map (hids.nodup_iff.2 hdistinct) hpart hmem (hid.trans hfound.symm)
  rw [hsame]
  exact hbytes

end Checks

/-! ## What a delivery does -/

section Deliveries

variable {env : Env} {requester sender : Identity} {senderRoot signedAt : String}
  {outcomeKey : PurposeKey} {key : PurposeVerifyingKey} {envelope : Envelope}
  {delivered : List DeliveredOutput} {now : Time} {s s' : Store}

/-- What an accepted delivery has been checked for. -/
structure Passes (env : Env) (sender : Identity) (senderRoot : String) (key : PurposeVerifyingKey)
    (envelope : Envelope) (delivered : List DeliveredOutput) (s : Store) (manifest : ResultManifest)
    (bundleDigest : String) (rows : List TaskOutputRow) : Prop where
  verified : ResultManifest.verify env envelope key = .ok (manifest, bundleDigest)
  answers : ∃ sent, s.getSentRequest manifest.header.contractDigest = some sent ∧
    Answers manifest sender senderRoot sent
  carries : checkOutputs env manifest delivered = .ok rows

def ResultManifest.outcomeRow (manifest : ResultManifest) (bundleDigest : String)
    (signed : String × Bytes) (signedAt : String) (now : Time) : OutcomeRow :=
  ⟨manifest.header.contractDigest, manifest.header.taskId, bundleDigest, signed.1, "accepted",
    signed.2, signedAt, now⟩

theorem finalizeResult_cases {r : Except Problem Json}
    (h : exec (finalizeResult env requester sender senderRoot outcomeKey key envelope delivered
      signedAt now) s = (r, s')) :
    ((∃ p, r = .error p) ∧ s' = s) ∨
      ∃ manifest bundleDigest rows signed write,
        Passes env sender senderRoot key envelope delivered s manifest bundleDigest rows ∧
        signOutcome env manifest requester signedAt outcomeKey = .ok signed ∧
        recordOutcomeWithOutputs (manifest.outcomeRow bundleDigest signed signedAt now) rows now s =
          .ok (write, s') ∧
        r = .ok (write.json manifest.header.taskId bundleDigest signed.1) := by
  obtain ⟨e, -, hr, hs⟩ | ⟨⟨manifest, bundleDigest⟩, hverify, h⟩ := exec_demand_cases h
  · exact .inl ⟨⟨e, hr⟩, hs⟩
  obtain ⟨e, -, hr, hs⟩ | ⟨u, hmatch, h⟩ := exec_ask_cases h
  · exact .inl ⟨⟨e, hr⟩, hs⟩
  obtain ⟨e, -, hr, hs⟩ | ⟨rows, houtputs, h⟩ := exec_demand_cases h
  · exact .inl ⟨⟨e, hr⟩, hs⟩
  obtain ⟨e, -, hr, hs⟩ | ⟨signed, hsigned, h⟩ := exec_demand_cases h
  · exact .inl ⟨⟨e, hr⟩, hs⟩
  obtain ⟨e, -, hr, hs⟩ | ⟨write, s₁, hrecord, h⟩ := exec_commit_cases h
  · exact .inl ⟨⟨_, hr⟩, hs⟩
  cases h
  exact .inr ⟨manifest, bundleDigest, rows, signed, write,
    ⟨mapError_eq_ok.1 hverify, matchRequest_eq_ok_iff.1 hmatch, houtputs⟩, hsigned, hrecord, rfl⟩

theorem exec_finalizeResult {manifest : ResultManifest} {bundleDigest : String}
    {rows : List TaskOutputRow} {signed : String × Bytes} {write : OutcomeWrite}
    (hpasses : Passes env sender senderRoot key envelope delivered s manifest bundleDigest rows)
    (hsigned : signOutcome env manifest requester signedAt outcomeKey = .ok signed)
    (hrecord : recordOutcomeWithOutputs (manifest.outcomeRow bundleDigest signed signedAt now) rows
      now s = .ok (write, s')) :
    exec (finalizeResult env requester sender senderRoot outcomeKey key envelope delivered signedAt
      now) s = (.ok (write.json manifest.header.taskId bundleDigest signed.1), s') := by
  rw [finalizeResult, exec_demand_bind_of_ok (mapError_eq_ok.2 hpasses.verified)]
  refine (exec_ask_bind_of_ok (q := fun s : Store => matchRequest manifest sender senderRoot
    (s.getSentRequest manifest.header.contractDigest))
    (matchRequest_eq_ok_iff.2 hpasses.answers)).trans ?_
  refine (exec_demand_bind_of_ok hpasses.carries).trans ?_
  refine (exec_demand_bind_of_ok hsigned).trans ?_
  exact exec_bind_of_ok (exec_commit_of_ok hrecord)

end Deliveries

theorem signOutcome_of_valid {env : Env} {manifest : ResultManifest} {requester : Identity}
    {signedAt bundleDigest : String} {outcomeKey : PurposeKey}
    (hbundle : manifest.bundleDigest env = .ok bundleDigest)
    (hvalid : validateOutcome (manifest.acceptance requester signedAt bundleDigest).json = true)
    (hpurpose : outcomeKey.purpose = .requesterOutcome) :
    ∃ signed, signOutcome env manifest requester signedAt outcomeKey = .ok signed := by
  have hfor : Outcome.forManifest env manifest .accepted requester signedAt =
      .ok (manifest.acceptance requester signedAt bundleDigest) :=
    bind_eq_ok.2 ⟨bundleDigest, mapError_eq_ok.2 hbundle, rfl⟩
  have hbinds := Outcome.checkBindsTo_forManifest hfor
  simp only [signOutcome, Outcome.sign, Outcome.digest, Outcome.canonicalBytes, bind_eq_ok,
    mapError_eq_ok, ensure_eq_ok, PurposeKey.secretFor_eq_ok_iff, exists_const]
  exact ⟨_, _, hfor, (), hbinds, _, ⟨_, ⟨hvalid, rfl⟩, _, ⟨hpurpose, rfl⟩, rfl⟩, _,
    ⟨_, ⟨hvalid, rfl⟩, rfl⟩, rfl⟩

/-! ## An answer on the wire

A reply to a request that was sent is recorded with its output; and a small one, with its digests and
signatures. -/

def outcomeKey : PurposeKey := ⟨.requesterOutcome, wireSecret⟩

namespace Reply

def parts : List DeliveredOutput := [⟨"x", utf8 "ok"⟩]

def row (r : Reply) : TaskOutputRow :=
  ⟨r.header.taskId, "x", 0, r.role, "text/plain", 2, hex okHash, utf8 "ok"⟩

theorem checkOutputs_parts (base : Env) (r : Reply) :
    checkOutputs (base.withReply r) r.manifest parts = .ok [r.row] := by
  have hhex : hex ((base.withReply r).sha256 (utf8 "ok")) = hex okHash := by
    rw [sha256_text base r (by decide), if_pos rfl]
  simp only [checkOutputs, bind_eq_ok, ensure_eq_ok, stageOutputs_eq_ok_iff,
    ok.injEq, exists_const]
  refine ⟨nodup_singleton _, [r.row], ?_, rfl, rfl⟩
  have hlength : (utf8 "ok").length = 2 := by decide
  exact List.Forall₂.cons ⟨⟨"x", utf8 "ok"⟩, rfl, hlength, hhex, rfl⟩ List.Forall₂.nil

theorem exec_finalizeResult_reply (base : Env) (r : Reply) {performer : Identity} {sent : SentRequest}
    {s : Store} (now : Time) (hanswers : Answers r.manifest performer performer.root sent)
    (hsent : s.getSentRequest r.header.contractDigest = some sent)
    (hnew : ∀ row ∈ s.outcomes, row.contractDigest ≠ r.header.contractDigest)
    (hfree : ∀ row ∈ s.taskOutputs, row.taskId ≠ r.header.taskId) :
    ∃ json outcomes taskOutputs audit row,
      exec (finalizeResult (base.withReply r) r.requester performer performer.root outcomeKey
        (key.verifying (base.withReply r)) (r.envelope base) parts "2027-01-15T08:00:00Z" now) s =
          (.ok json, { s with taskOutputs := taskOutputs, outcomes := outcomes, audit := audit }) ∧
      s.outcomes.insert row = some outcomes ∧ s.taskOutputs.insert r.row = some taskOutputs ∧
      row.taskId = r.header.taskId ∧ row.bundleDigest = hex r.digest := by
  obtain ⟨signed, hsigned⟩ := signOutcome_of_valid (r.bundleDigest_eq base) r.accepts
    (rfl : outcomeKey.purpose = .requesterOutcome)
  have hpasses : Passes (base.withReply r) performer performer.root
      (key.verifying (base.withReply r)) (r.envelope base) parts s r.manifest (hex r.digest) [r.row] :=
    ⟨r.verify_envelope base, ⟨sent, hsent, hanswers⟩, r.checkOutputs_parts base⟩
  have hnone : s.outcomes.find (fun o => o.contractDigest = r.header.contractDigest) = none :=
    find_eq_none_iff.2 (fun row hrow => decide_eq_false (hnew row hrow))
  have hnone' : s.taskOutputs.find (fun o => o.taskId = r.header.taskId) = none :=
    find_eq_none_iff.2 (fun row hrow => decide_eq_false (hfree row hrow))
  obtain ⟨taskOutputs, hinsert⟩ : ∃ t, s.taskOutputs.insert r.row = some t :=
    insert_of_find_eq_none (fun _ hclash => decide_eq_true hclash.1) hnone'
  have hrows : insertRows s.taskOutputs [r.row] = .ok taskOutputs :=
    bind_eq_ok.2 ⟨taskOutputs, insertRow_eq_ok.2 hinsert, rfl⟩
  obtain ⟨outcomes, audit, houtcome, hrecord⟩ := recordOutcomeWithOutputs_of_new
    (r.manifest.outcomeRow (hex r.digest) signed "2027-01-15T08:00:00Z" now) now hnone hrows
  exact ⟨_, outcomes, taskOutputs, audit, _, exec_finalizeResult hpasses hsigned hrecord, houtcome,
    hinsert, rfl, rfl⟩

end Reply

def answerRequester : Identity := ⟨"c", "d", "root-fixture-aaaaaaaaaaaaaaaaaaaaaaaaaaaaaa"⟩

def answerPerformer : Identity := ⟨"e", "f", "root-fixture-bbbbbbbbbbbbbbbbbbbbbbbbbbbbbb"⟩

def answerHeader : ManifestHeader where
  taskId := "task-1"
  contextId := "context-9"
  contractId := "11111111-1111-4111-8111-111111111111"
  contractRevision := 0
  contractDigest := hex (beBytes 32 0xc54247536ee70cec230745df53940a6a3d1170dcc8fb25cec3854e90c41bfac4)
  attemptDigest := hex (beBytes 32 0xf77bc5bbeb582a896437512e59599ec85ddf5c8c1902aa3ae10dfa0bb2d6d54c)
  workOrderReceiptDigest :=
    hex (beBytes 32 0x1a8dcae2dbe26a5e5ad12b9269696e18d72c90910545877485d3a3a42f34639d)

def answerReply : Reply where
  header := answerHeader
  role := "summary"
  digest := beBytes 32 0xceed824c7518d7bb276583b7c0bcd0e0561d21ae492099abe8abd32c9a90d582
  signature := beBytes 32 0x968892db01d7f6eda176c588f18cd4519c13b778400d7ed053c14f9b8dc4cbab ++
    beBytes 32 0xbcf3b1cac7b7c0d5bf018dbc4bb8e4d43fa2e08362093089766000980cfb7f00
  requester := answerRequester
  outcomeDigest := beBytes 32 0x2edff50f2d16160b42c333ec9daa8fdde8044b55e760c6c51ee160832ba38280
  outcomeSignature :=
    beBytes 32 0xe1e72a48a0b173775b7cb105d9251a86bb68b33593f3b8cf932ae4356f004e7f ++
    beBytes 32 0x67aa4282e8245ae0d0d102474cc93d73a94b2a9300134a1ecca32f1e84981f07
  valid := okManifest_valid (by decide) ⟨by decide, by decide, by decide, by decide,
    isSha256Hex_hex rfl, isSha256Hex_hex rfl, isSha256Hex_hex rfl⟩
  accepts := by decide
  signed := rfl

def answerRequest : SentRequest where
  contractDigest := answerHeader.contractDigest
  taskId := "task-1"
  contextId := "context-9"
  performerRoot := answerPerformer.root
  contractId := answerHeader.contractId
  performerAgent := answerPerformer.agent
  performerIssuer := answerPerformer.issuer
  messageId := "m9"

theorem answers_answerRequest :
    Answers answerReply.manifest answerPerformer answerPerformer.root answerRequest :=
  ⟨rfl, rfl, rfl, by decide, rfl, rfl, rfl, rfl⟩

/-- **A delivered result is bound to what was sent and signed.**  A new outcome is recorded only if
the manifest verifies under the performer's key, answers a request that was sent to the root and the
agent that deliver it, and names the delivered parts one for one; a refused delivery leaves outcomes
and outputs as they are; and a delivery under a contract that has its outcome writes nothing and is
answered with the digest of the stored one. -/
theorem finalized_results_are_bound (env : Env) (requester sender : Identity) (senderRoot : String)
    (outcomeKey : PurposeKey) (key : PurposeVerifyingKey) (envelope : Envelope)
    (delivered : List DeliveredOutput) (signedAt : String) (now : Time) (s s' : Store)
    (r : Except Problem Json)
    (hrun : exec (finalizeResult env requester sender senderRoot outcomeKey key envelope delivered
      signedAt now) s = (r, s')) :
    (∀ row ∈ s'.outcomes, ¬ row ∈ s.outcomes → ∃ manifest sent,
      ResultManifest.verify env envelope key = .ok (manifest, row.bundleDigest) ∧
      row.contractDigest = manifest.header.contractDigest ∧ row.taskId = manifest.header.taskId ∧
      s.getSentRequest row.contractDigest = some sent ∧ Answers manifest sender senderRoot sent ∧
      Carries env manifest delivered) ∧
    (∀ p, r = .error p → s'.outcomes = s.outcomes ∧ s'.taskOutputs = s.taskOutputs) ∧
    (∀ manifest bundleDigest, ∀ row ∈ s.outcomes,
      ResultManifest.verify env envelope key = .ok (manifest, bundleDigest) →
      row.contractDigest = manifest.header.contractDigest →
      s' = s ∧ ∀ json, r = .ok json → json.getStr? "outcome_digest" = some row.outcomeDigest) := by
  obtain ⟨⟨p, rfl⟩, rfl⟩ | ⟨manifest, bundleDigest, rows, signed, write, hpasses, hsigned, hrecord,
    rfl⟩ := finalizeResult_cases hrun
  · exact ⟨fun row hnew hold => absurd hnew hold, fun _ _ => ⟨rfl, rfl⟩,
      fun _ _ _ _ _ _ => ⟨rfl, nofun⟩⟩
  · refine ⟨fun row hnew hold => ?_, nofun, fun manifest' digest' row hrow hverify hdigest => ?_⟩
    · obtain ⟨-, -, -, rfl⟩ | ⟨-, -, taskOutputs, outcomes, audit, -, hinsert, rfl⟩ :=
        recordOutcomeWithOutputs_cases hrecord
      · exact absurd hnew hold
      · obtain rfl := ((mem_insert hinsert).1 hnew).resolve_left hold
        obtain ⟨sent, hsent, hanswers⟩ := hpasses.answers
        exact ⟨manifest, sent, hpasses.verified, rfl, rfl, hsent, hanswers,
          (checkOutputs_eq_ok hpasses.carries).1⟩
    · obtain ⟨rfl, rfl⟩ := Prod.mk.inj (ok.inj (hpasses.verified.symm.trans hverify))
      have hfind : s.outcomes.find (fun o => o.contractDigest = manifest.header.contractDigest) =
          some row := (find_eq_some_iff (onKey OutcomeRow.contractDigest _)).2 ⟨hrow, decide_eq_true hdigest⟩
      obtain ⟨existing, hexisting, rfl, rfl⟩ | ⟨hnone, -⟩ := recordOutcomeWithOutputs_cases hrecord
      · cases hexisting.symm.trans hfind
        refine ⟨rfl, fun json hjson => ?_⟩
        cases hjson
        rfl
      · exact absurd (hnone.symm.trans hfind) (by simp)

def answerStore : Store := putSentRequest answerRequest 1800000000 {}

/-- The answer is recorded, and is bound to what was sent. -/
theorem finalized_results_are_bound_answer : ∃ json s',
    exec (finalizeResult (Env.inert.withReply answerReply) answerRequester answerPerformer
      answerPerformer.root outcomeKey (Reply.key.verifying (Env.inert.withReply answerReply))
      (answerReply.envelope Env.inert) Reply.parts "2027-01-15T08:00:00Z" 1800000000) answerStore =
        (.ok json, s') ∧
    ∃ row, row ∈ s'.outcomes ∧ ∃ manifest sent,
      ResultManifest.verify (Env.inert.withReply answerReply) (answerReply.envelope Env.inert)
        (Reply.key.verifying (Env.inert.withReply answerReply)) = .ok (manifest, row.bundleDigest) ∧
      answerStore.getSentRequest row.contractDigest = some sent ∧
      Answers manifest answerPerformer answerPerformer.root sent ∧
      Carries (Env.inert.withReply answerReply) manifest Reply.parts := by
  obtain ⟨json, outcomes, taskOutputs, audit, row, hrun, hinsert, -⟩ :=
    Reply.exec_finalizeResult_reply Env.inert answerReply (s := answerStore) 1800000000
      answers_answerRequest rfl (fun row hrow => absurd hrow (not_mem_empty row))
      (fun row hrow => absurd hrow (not_mem_empty row))
  have hrow : row ∈ outcomes := (mem_insert hinsert).2 (.inr rfl)
  obtain ⟨hnew, -, -⟩ := finalized_results_are_bound _ _ _ _ _ _ _ _ _ _ _ _ _ hrun
  obtain ⟨manifest, sent, hverify, -, -, hsent, hanswers, hcarries⟩ :=
    hnew row hrow (not_mem_empty row)
  exact ⟨json, _, hrun, row, hrow, manifest, sent, hverify, hsent, hanswers, hcarries⟩

end Akson
