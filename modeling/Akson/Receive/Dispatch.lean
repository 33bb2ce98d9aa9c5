/-
# The receive dispatcher

The durable path of a received proposal, each write a transaction of its own.
-/
import Akson.Lib.Operation
import Akson.Contract.Wire
import Akson.Store.Delivery
import Akson.Store.Tasks

namespace Akson

open Operation Except Option List Table

/-- What became of a proposal. -/
inductive Receive.DispatchOutcome where
  | submitted (taskId : String)
  | duplicate (taskId : Option String)
  | conflict
  | rejected (reason : String)

structure Dispatched where
  outcome : Receive.DispatchOutcome
  response : Bytes

variable (env : Env)

def submittedTaskJson (taskId contextId : String) : Bytes :=
  env.jsonText (.obj ([("id", .str taskId)] ++
    (if contextId = "" then [] else [("contextId", .str contextId)]) ++
    [("status", .obj [("state", .str "TASK_STATE_SUBMITTED")])]))

def rejectJson (reason : String) : Bytes :=
  env.jsonText (.obj [("reason", .str reason), ("state", .str "rejected")])

def conflictJson : Bytes := env.jsonText (.obj [("state", .str "conflict")])

def taskIdOf (digest : String) : String := "task-" ++ String.ofList (digest.toList.take 32)

def workerInput (taskId : String) (inputs : List InputPart) (ordinal : ℕ)
    (entry : InputEntry) : Option TaskInputRow :=
  if entry.workerVisible then
    (inputs.find? (fun p => p.messageId = entry.messageId ∧ p.partIndex = entry.partIndex)).map
      (fun part => ⟨taskId, entry.id, ordinal, entry.mediaType, entry.byteLength, entry.sha256,
        part.body.bytes env⟩)
  else none

def workerInputs (env : Env) (taskId : String) (inputs : List InputPart) :
    ℕ → List InputEntry → List TaskInputRow
  | _, [] => []
  | ordinal, entry :: entries =>
    (workerInput env taskId inputs ordinal entry).toList ++
      workerInputs env taskId inputs (ordinal + 1) entries

def putTaskInputs (now : Time) : List TaskInputRow → Operation Store StoreError Unit :=
  commitEach (fun row => putTaskInput row now) (id : StoreError → StoreError)

abbrev ReceivedProposal.taskId (received : ReceivedProposal) : String :=
  taskIdOf received.proposal.digest

abbrev ReceivedProposal.rows (received : ReceivedProposal) (env : Env) : List TaskInputRow :=
  workerInputs env received.taskId received.inputs 0 received.proposal.contract.inputs

def persistWorkerInputs (taskId : String) (received : ReceivedProposal) (now : Time) :
    Operation Store StoreError Unit :=
  putTaskInputs now (workerInputs env taskId received.inputs 0 received.proposal.contract.inputs)

def reject (key : Bytes) (covered : CoveredValues) (body : Bytes) (now : Time)
    (reason : String) : Operation Store StoreError Dispatched := do
  let response := rejectJson env reason
  let _ ← commit (receiveRequest env key covered body response none "rejected" now) id
  pure ⟨.rejected reason, response⟩

def submitProposal (key : Bytes) (covered : CoveredValues) (contextId : String)
    (received : ReceivedProposal) (expires : Time) (body : Bytes) (now : Time) :
    Operation Store StoreError Dispatched := do
  let taskId := taskIdOf received.proposal.digest
  let _ ← commit (submitRevision taskId received.proposal covered.peer expires now) id
  commit (fun s => .ok ((), setTaskContext taskId contextId s)) id
  persistWorkerInputs env taskId received now
  let response := submittedTaskJson env taskId contextId
  let _ ← commit (receiveRequest env key covered body response (some taskId) "task" now) id
  pure ⟨.submitted taskId, response⟩

/-- The keys and identities of both sides. -/
structure Parties where
  proposalKey : PurposeVerifyingKey
  requesterOrigin : Identity
  localPerformer : Identity

def validateProposal (messageId : String) (parts : List Part) (parties : Parties)
    (now : Time) : Except String (ReceivedProposal × Time) := do
  let received ← (receiveProposal env messageId parts parties.proposalKey parties.requesterOrigin
    parties.localPerformer now).mapError (ReceiveError.message env)
  let expires ← (expiresAtUnix env received.proposal.contract).mapError TimestampError.message
  .ok (received, expires)

/-- Validate a proposal and submit it. -/
def dispatchProposal (key : Bytes) (covered : CoveredValues) (parts : List Part)
    (contextId : String) (parties : Parties) (body : Bytes) (now : Time) :
    Operation Store StoreError Dispatched := do
  match ← ask (fun s => .ok (peek env key covered s)) with
  | .duplicate taskId response _ => pure ⟨.duplicate taskId, response⟩
  | .conflict => pure ⟨.conflict, conflictJson env⟩
  | .fresh =>
    match validateProposal env covered.messageId parts parties now with
    | .error reason => reject env key covered body now reason
    | .ok (received, expires) =>
      submitProposal env key covered contextId received expires body now

def Wire.parties (w : Wire) : Parties :=
  ⟨wireKey.verifying w.env, w.contract.requester, w.contract.performer⟩

variable {inputs : List InputPart} {messageId t : String} {d : Dispatched} {response : Bytes}

theorem Wire.validate (w : Wire)
    (hextract : extractProposal messageId w.parts = .ok ⟨w.envelope, inputs⟩)
    (hbound : Bound w.env w.contract.inputs inputs)
    (hcreated : w.contract.createdAt = "2026-01-01T00:00:00Z")
    (hexpires : w.contract.expiresAt = "2030-01-01T00:00:00Z") :
    validateProposal w.env messageId w.parts w.parties 1800000000 =
      .ok (⟨w.parsed, inputs⟩, 1893456000) := by
  have hexp : expiresAtUnix w.env w.contract = .ok 1893456000 := by
    rw [expiresAtUnix, hexpires]
    rfl
  simp only [validateProposal, bind_eq_ok, mapError_eq_ok]
  exact ⟨_, w.receive hextract hbound (w.window hcreated hexpires), 1893456000, hexp, rfl⟩

def wireCovered : CoveredValues :=
  { sampleCovered with peer := "root-fixture-aaaaaaaaaaaaaaaaaaaaaaaaaaaaaa", messageId := "m1" }

/-! ## What a dispatch does -/

variable {env : Env} {key : Bytes} {covered : CoveredValues} {parts : List Part}
  {contextId : String} {parties : Parties} {body : Bytes} {now expires : Time}
  {received : ReceivedProposal} {s s' : Store}

theorem exec_putTaskInputs (now : Time) (rows : List TaskInputRow) (s : Store) :
    exec (putTaskInputs now rows) s = (.ok (), rows.foldl (fun s row => putTaskInput row now s) s) :=
  exec_commitEach _ _ _ _

theorem foldl_putTaskInput_eq (now : Time) (rows : List TaskInputRow) (s : Store) :
    ∃ audit, rows.foldl (fun s row => putTaskInput row now s) s =
      { s with taskInputs := rows.foldl Table.insertIgnore s.taskInputs, audit := audit } := by
  induction rows generalizing s with
  | nil => exact ⟨s.audit, rfl⟩
  | cons row rows ih =>
    obtain ⟨audit, h⟩ := ih (putTaskInput row now s)
    exact ⟨audit, h⟩

theorem dispatchProposal_cases {r : Except StoreError Dispatched}
    (h : exec (dispatchProposal env key covered parts contextId parties body now) s = (r, s')) :
    (∃ taskId response responseClass, peek env key covered s = .duplicate taskId response responseClass ∧
        r = .ok ⟨.duplicate taskId, response⟩ ∧ s' = s) ∨
      (peek env key covered s = .conflict ∧ r = .ok ⟨.conflict, conflictJson env⟩ ∧ s' = s) ∨
      (peek env key covered s = .fresh ∧
        ((∃ reason, validateProposal env covered.messageId parts parties now = .error reason ∧
            exec (reject env key covered body now reason) s = (r, s')) ∨
          ∃ received expires,
            validateProposal env covered.messageId parts parties now = .ok (received, expires) ∧
            exec (submitProposal env key covered contextId received expires body now) s =
              (r, s'))) := by
  obtain ⟨e, he, -⟩ | ⟨receipt, hpeek, h⟩ := exec_ask_cases h
  · cases he
  cases hpeek
  cases hp : peek env key covered s with
  | duplicate taskId response responseClass =>
    rw [hp, exec_pure, Prod.mk.injEq] at h
    exact .inl ⟨taskId, response, responseClass, rfl, h.1.symm, h.2.symm⟩
  | conflict =>
    rw [hp, exec_pure, Prod.mk.injEq] at h
    exact .inr (.inl ⟨rfl, h.1.symm, h.2.symm⟩)
  | fresh =>
    rw [hp] at h
    refine .inr (.inr ⟨rfl, ?_⟩)
    cases hv : validateProposal env covered.messageId parts parties now with
    | error reason =>
      simp only [hv] at h
      exact .inl ⟨reason, rfl, h⟩
    | ok validated =>
      obtain ⟨received, expires⟩ := validated
      simp only [hv] at h
      exact .inr ⟨received, expires, rfl, h⟩

theorem submitProposal_ok
    (h : exec (submitProposal env key covered contextId received expires body now) s = (.ok d, s')) :
    d = ⟨.submitted received.taskId,
        submittedTaskJson env received.taskId contextId⟩ ∧
      ∃ verdict s₁ receipt,
        submitRevision received.taskId received.proposal covered.peer expires now
          s = .ok (verdict, s₁) ∧
        receiveRequest env key covered body
          (submittedTaskJson env received.taskId contextId)
          (some received.taskId) "task" now
          ((received.rows env).foldl (fun s row => putTaskInput row now s)
            (setTaskContext received.taskId contextId s₁)) =
          .ok (receipt, s') := by
  obtain ⟨e, -, hr, -⟩ | ⟨verdict, s₁, hsubmit, h⟩ := exec_commit_cases h
  · cases hr
  obtain ⟨e, -, hr, -⟩ | ⟨_, s₂, hcontext, h⟩ := exec_commit_cases h
  · cases hr
  obtain rfl := (Prod.mk.inj (ok.inj hcontext)).2
  obtain ⟨e, hput, hr⟩ | ⟨_, s₃, hput, h⟩ := exec_bind_cases h
  · cases hr
  rw [persistWorkerInputs, exec_putTaskInputs, Prod.mk.injEq] at hput
  obtain ⟨-, rfl⟩ := hput
  obtain ⟨e, -, hr, -⟩ | ⟨receipt, s₄, hreceive, h⟩ := exec_commit_cases h
  · cases hr
  rw [exec_pure, Prod.mk.injEq, ok.injEq] at h
  obtain ⟨rfl, rfl⟩ := h
  exact ⟨rfl, verdict, s₁, receipt, hsubmit, hreceive⟩

theorem priorResponse_beforeRecord {verdict : RevisionVerdict} {s₁ : Store} (contextId : String)
    (rows : List TaskInputRow)
    (h : submitRevision t received.proposal covered.peer expires now s = .ok (verdict, s₁)) :
    (rows.foldl (fun s row => putTaskInput row now s)
      (setTaskContext t contextId s₁)).priorResponse = s.priorResponse := by
  obtain ⟨audit, hfold⟩ := foldl_putTaskInput_eq now rows (setTaskContext t contextId s₁)
  rw [hfold]
  obtain ⟨-, -, -, rfl⟩ | ⟨-, -, heads, rfl, -⟩ := submitRevision_cases h
  · rfl
  · rfl

theorem submitProposal_total (env : Env) (key : Bytes)
    (hprior : s.priorResponse covered.peer covered.messageId = none) (contextId : String)
    (received : ReceivedProposal) (expires : Time) (body : Bytes) (now : Time) :
    ∃ s', exec (submitProposal env key covered contextId received expires body now) s =
      (.ok ⟨.submitted received.taskId,
        submittedTaskJson env received.taskId contextId⟩, s') := by
  obtain ⟨verdict, s₁, hsubmit⟩ := submitRevision_total received.taskId
    covered.peer received.proposal expires now s
  have hprior₃ := hprior
  rw [← priorResponse_beforeRecord contextId (received.rows env) hsubmit] at hprior₃
  obtain ⟨s', hreceive⟩ := receiveRequest_total env key covered body
    (submittedTaskJson env received.taskId contextId)
    (some received.taskId) "task" now hprior₃
  refine ⟨s', ?_⟩
  rw [submitProposal, exec_bind_of_ok (exec_commit_of_ok hsubmit),
    exec_bind_of_ok (exec_commit_of_ok rfl),
    exec_bind_of_ok (by rw [persistWorkerInputs, exec_putTaskInputs]),
    exec_bind_of_ok (exec_commit_of_ok hreceive)]
  rfl

theorem dispatchProposal_of_valid
    (hprior : s.priorResponse covered.peer covered.messageId = none)
    (hvalid : validateProposal env covered.messageId parts parties now = .ok (received, expires)) :
    ∃ s', exec (dispatchProposal env key covered parts contextId parties body now) s =
      (.ok ⟨.submitted received.taskId,
        submittedTaskJson env received.taskId contextId⟩, s') := by
  obtain ⟨s', hsubmit⟩ := submitProposal_total env key hprior contextId received expires
    body now
  refine ⟨s', ?_⟩
  rw [dispatchProposal, exec_ask_bind_of_ok (q := fun s => .ok (peek env key covered s)) (a := .fresh)
    (by rw [peek, hprior])]
  simp only [hvalid]
  exact hsubmit

theorem commits_of_recorded {prior : PriorSighting}
    (hprior : s.priorResponse covered.peer covered.messageId = some prior) :
    commits (dispatchProposal env key covered parts contextId parties body now) s = [] := by
  have hpeek : peek env key covered s = prior.decide (covered.commitment env key) := by
    rw [peek, hprior]
  rw [dispatchProposal, commits_ask_bind_of_ok (q := fun s => .ok (peek env key covered s)) rfl, hpeek]
  cases hdecide : prior.decide (covered.commitment env key) with
  | fresh => exact absurd hdecide (prior.decide_ne_fresh _)
  | duplicate taskId response responseClass => rfl
  | conflict => rfl

theorem commits_of_valid
    (hprior : s.priorResponse covered.peer covered.messageId = none)
    (hvalid : validateProposal env covered.messageId parts parties now = .ok (received, expires)) :
    commits (dispatchProposal env key covered parts contextId parties body now) s =
      commits (submitProposal env key covered contextId received expires body now) s := by
  rw [dispatchProposal,
    commits_ask_bind_of_ok (q := fun s => .ok (peek env key covered s)) (a := .fresh)
      (by rw [peek, hprior])]
  simp only [hvalid]

theorem receiveRequest_eq {taskId : Option String} {responseClass : String} {receipt : Receipt}
    (h : receiveRequest env key covered body response taskId responseClass now s =
      .ok (receipt, s')) : ∃ inbox, s' = { s with inboxObjects := inbox } := by
  unfold receiveRequest at h
  split at h
  case h_1 =>
    cases h
    exact ⟨s.inboxObjects, rfl⟩
  case h_2 =>
    obtain ⟨inbox, -, hout⟩ := bind_eq_ok.1 h
    cases hout
    exact ⟨inbox, rfl⟩

theorem dispatchProposal_submitted
    (h : exec (dispatchProposal env key covered parts contextId parties body now) s =
      (.ok ⟨.submitted t, response⟩, s')) : peek env key covered s = .fresh ∧ ∃ received expires,
      validateProposal env covered.messageId parts parties now = .ok (received, expires) ∧
      exec (submitProposal env key covered contextId received expires body now) s =
        (.ok ⟨.submitted t, response⟩, s') := by
  rcases dispatchProposal_cases h with
    ⟨taskId, _, _, -, hr, -⟩ | ⟨-, hr, -⟩ | ⟨hfresh, ⟨reason, -, hreject⟩ | hsubmitted⟩
  · cases hr
  · cases hr
  · obtain ⟨e, -, hr, -⟩ | ⟨receipt, s₁, -, hout⟩ := exec_commit_cases hreject
    · cases hr
    · rw [exec_pure, Prod.mk.injEq] at hout
      cases hout.1
  · exact ⟨hfresh, hsubmitted⟩

theorem submitProposal_contractHead
    (h : exec (submitProposal env key covered contextId received expires body now) s = (.ok d, s')) :
    (Chains (s.contractHead received.taskId) received.proposal →
      s'.contractHead received.taskId = .opened received.proposal.head) ∧
    ∀ u, u ≠ received.taskId ∨
        ¬ Chains (s.contractHead received.taskId) received.proposal →
      s'.contractHead u = s.contractHead u := by
  obtain ⟨-, verdict, s₁, receipt, hsubmit, hreceive⟩ := submitProposal_ok h
  obtain ⟨inbox, hs'⟩ := receiveRequest_eq hreceive
  obtain ⟨audit, hfold⟩ := foldl_putTaskInput_eq now
    (received.rows env)
    (setTaskContext received.taskId contextId s₁)
  have hheads (u : String) : s'.contractHead u = s₁.contractHead u := by
    rw [← setTaskContext_contractHead received.taskId contextId s₁ u, hs', hfold]
    rfl
  refine ⟨fun hchains => ?_, fun u hu => ?_⟩
  · rw [hheads, submitRevision_contractHead_self hsubmit hchains]
  · rw [hheads, submitRevision_contractHead_of_not hsubmit hu]

def HeadAt (s : Store) (taskId digest : String) : Prop := (s.contractHead taskId).digest = some digest

/-- The answer `submitted` names a task whose head is at the proposal's digest, and a later
revision advances the task its contract names, exactly if the head of the task named after the
digest is there already or the proposal chains onto it, and a later revision names that same task
(or one that is at the digest already, when nothing advances). -/
theorem submitted_head_iff {t : String} {response : Bytes}
    (hvalid : validateProposal env covered.messageId parts parties now = .ok (received, expires))
    (hrun : exec (dispatchProposal env key covered parts contextId parties body now) s =
      (.ok ⟨.submitted t, response⟩, s')) :
    (HeadAt s' t received.proposal.digest ∧
      (1 ≤ received.proposal.contract.revision →
        ∃ u, received.proposal.contract.taskId = some u ∧ HeadAt s' u received.proposal.digest ∧
          ∀ v, s'.contractHead v ≠ s.contractHead v → v = u)) ↔
    ((HeadAt s (taskIdOf received.proposal.digest) received.proposal.digest ∨
        Chains (s.contractHead (taskIdOf received.proposal.digest)) received.proposal) ∧
      (1 ≤ received.proposal.contract.revision →
        ∃ u, received.proposal.contract.taskId = some u ∧
          (u = taskIdOf received.proposal.digest ∨ HeadAt s u received.proposal.digest ∧
            ¬ Chains (s.contractHead (taskIdOf received.proposal.digest)) received.proposal))) := by
  obtain ⟨-, received', expires', hvalid', hsubmit⟩ := dispatchProposal_submitted hrun
  rw [hvalid, ok.injEq, Prod.mk.injEq] at hvalid'
  obtain ⟨rfl, rfl⟩ := hvalid'
  obtain ⟨hself, hother⟩ := submitProposal_contractHead hsubmit
  obtain ⟨hd, -⟩ := submitProposal_ok hsubmit
  obtain rfl : t = received.taskId := by
    simpa using congrArg Dispatched.outcome hd
  by_cases hchains : Chains (s.contractHead received.taskId) received.proposal
  · have hat : HeadAt s' received.taskId received.proposal.digest := by
      rw [HeadAt, hself hchains]
      rfl
    have hmoved : s'.contractHead received.taskId ≠
        s.contractHead received.taskId := by
      rw [hself hchains]
      exact ne_opened_of_chains hchains
    refine ⟨fun ⟨_, hlater⟩ => ⟨.inr hchains, fun hrev => ?_⟩, fun ⟨_, hlater⟩ => ⟨hat, fun hrev => ?_⟩⟩
    · obtain ⟨u, hu, -, honly⟩ := hlater hrev
      exact ⟨u, hu, .inl (honly _ hmoved).symm⟩
    · obtain ⟨u, hu, rfl | ⟨-, hnot⟩⟩ := hlater hrev
      · refine ⟨_, hu, hat, fun v hv => ?_⟩
        by_contra hne
        exact hv (hother v (.inl hne))
      · exact absurd hchains hnot
  · have hheads (u : String) : s'.contractHead u = s.contractHead u := hother u (.inr hchains)
    have hat (u digest : String) : HeadAt s' u digest ↔ HeadAt s u digest := by
      rw [HeadAt, HeadAt, hheads]
    rw [hat]
    refine ⟨fun ⟨hhead, hlater⟩ => ⟨.inl hhead, fun hrev => ?_⟩,
      fun ⟨hhead, hlater⟩ => ⟨hhead.resolve_right hchains, fun hrev => ?_⟩⟩
    · obtain ⟨u, hu, hhead', -⟩ := hlater hrev
      exact ⟨u, hu, .inr ⟨(hat _ _).1 hhead', hchains⟩⟩
    · obtain ⟨u, hu, hcase⟩ := hlater hrev
      refine ⟨u, hu, (hat _ _).2 ?_, fun v hv => absurd (hheads v) hv⟩
      rcases hcase with rfl | ⟨hhead', -⟩
      · exact hhead.resolve_right hchains
      · exact hhead'

def storeWithHead : Store :=
  { contractHeads := ⟨[⟨"task-1", "00000000-0000-4000-8000-000000000000", 0,
      "0000000000000000000000000000000000000000000000000000000000000000", .opened, "",
      "root-fixture-aaaaaaaaaaaaaaaaaaaaaaaaaaaaaa"⟩], pairwise_singleton _ _⟩ }

theorem successorWire_validate :
    validateProposal successorWire.env wireCovered.messageId successorWire.parts
      successorWire.parties 1800000000 = .ok (successorWire.received, 1893456000) :=
  successorWire.validate successorWire.extractProposal_eq
    ⟨by decide, by decide, by rintro p ⟨⟩, by rintro e ⟨⟩⟩ rfl rfl

theorem taskIdOf_successorWire :
    successorWire.received.taskId = "task-79603c424087119c0fb70a54f090dd13" := by
  decide

theorem exists_run_successorWire : ∃ response s',
    exec (dispatchProposal successorWire.env sampleKey wireCovered successorWire.parts ""
      successorWire.parties [] 1800000000) storeWithHead =
        (.ok ⟨.submitted "task-79603c424087119c0fb70a54f090dd13", response⟩, s') := by
  obtain ⟨s', hrun⟩ := dispatchProposal_of_valid (s := storeWithHead) rfl
    successorWire_validate
  rw [taskIdOf_successorWire] at hrun
  exact ⟨_, s', hrun⟩

theorem not_chains_successorWire :
    ¬ Chains (storeWithHead.contractHead successorWire.received.taskId)
      successorWire.received.proposal := by
  have hempty : storeWithHead.contractHead successorWire.received.taskId =
      .empty := by
    rw [taskIdOf_successorWire]
    decide
  rw [hempty]
  exact Nat.one_ne_zero

/-- A first successor that chains onto the head of the task it names is answered `submitted` with
another task, which has no head; and the head of its own task stays where it was. -/
theorem successor_submitted_without_head : ∃ response s',
    exec (dispatchProposal successorWire.env sampleKey wireCovered successorWire.parts ""
      successorWire.parties [] 1800000000) storeWithHead =
        (.ok ⟨.submitted "task-79603c424087119c0fb70a54f090dd13", response⟩, s') ∧
    successorWire.contract.revision = 1 ∧ successorWire.contract.taskId = some "task-1" ∧
    Chains (storeWithHead.contractHead "task-1") successorWire.parsed ∧
    s'.contractHead "task-79603c424087119c0fb70a54f090dd13" = .empty ∧
    s'.contractHead "task-1" = storeWithHead.contractHead "task-1" := by
  obtain ⟨response, s', hrun⟩ := exists_run_successorWire
  obtain ⟨-, received, expires, hvalid, hsubmit⟩ := dispatchProposal_submitted hrun
  rw [successorWire_validate, ok.injEq, Prod.mk.injEq] at hvalid
  obtain ⟨rfl, rfl⟩ := hvalid
  have hheads (u : String) : s'.contractHead u = storeWithHead.contractHead u :=
    (submitProposal_contractHead hsubmit).2 u (.inr not_chains_successorWire)
  refine ⟨response, s', hrun, rfl, rfl, ⟨rfl, rfl⟩, ?_, hheads _⟩
  rw [hheads]
  decide

theorem submitted_head_iff_successor : ∃ response s',
    exec (dispatchProposal successorWire.env sampleKey wireCovered successorWire.parts ""
      successorWire.parties [] 1800000000) storeWithHead =
        (.ok ⟨.submitted "task-79603c424087119c0fb70a54f090dd13", response⟩, s') ∧
    ¬ (HeadAt s' "task-79603c424087119c0fb70a54f090dd13" successorWire.parsed.digest ∧
      (1 ≤ successorWire.contract.revision →
        ∃ u, successorWire.contract.taskId = some u ∧ HeadAt s' u successorWire.parsed.digest ∧
          ∀ v, s'.contractHead v ≠ storeWithHead.contractHead v → v = u)) := by
  obtain ⟨response, s', hrun⟩ := exists_run_successorWire
  refine ⟨response, s', hrun, fun hholds => ?_⟩
  rcases ((submitted_head_iff successorWire_validate hrun).1 hholds).1 with hat | hchains
  · change HeadAt storeWithHead successorWire.received.taskId _ at hat
    rw [HeadAt, taskIdOf_successorWire] at hat
    revert hat
    decide
  · exact not_chains_successorWire hchains

/-! ## The inputs of a submitted task -/

/-- The row keeps the bytes of the entry. -/
structure HoldsInput (env : Env) (row : TaskInputRow) (entry : InputEntry) : Prop where
  inputId : row.inputId = entry.id
  mediaType : row.mediaType = entry.mediaType
  byteLength : row.payload.length = entry.byteLength
  sha256 : hex (env.sha256 row.payload) = entry.sha256

def ReceivedProposal.visible (received : ReceivedProposal) : List InputEntry :=
  received.proposal.contract.inputs.filter InputEntry.workerVisible

theorem workerInputs_forall₂ {taskId : String} {n : ℕ} {entries : List InputEntry}
    (h : ∀ e ∈ entries, ∃ p, inputs.find? (fun p => p.messageId = e.messageId ∧
      p.partIndex = e.partIndex) = some p ∧ Binds env e p) :
    List.Forall₂ (HoldsInput env) (workerInputs env taskId inputs n entries)
      (entries.filter InputEntry.workerVisible) := by
  induction entries generalizing n with
  | nil => exact List.Forall₂.nil
  | cons entry entries ih =>
    rw [forall_mem_cons] at h
    obtain ⟨⟨p, hfind, hbinds⟩, hrest⟩ := h
    cases hvisible : entry.workerVisible with
    | false => simpa [workerInputs, workerInput, hvisible] using ih hrest
    | true =>
      simp only [workerInputs, workerInput, hvisible, if_true, hfind, map_some,
        toList_some, singleton_append, filter_cons_of_pos]
      exact List.Forall₂.cons ⟨rfl, rfl, hbinds.byteLength, hbinds.sha256⟩ (ih hrest)

theorem workerInputs_ordered (env : Env) (taskId : String) (inputs : List InputPart) (n : ℕ)
    (entries : List InputEntry) :
    (∀ row ∈ workerInputs env taskId inputs n entries, row.taskId = taskId ∧ n ≤ row.ordinal) ∧
      (workerInputs env taskId inputs n entries).Pairwise (fun a b => a.ordinal < b.ordinal) := by
  induction entries generalizing n with
  | nil => simp [workerInputs]
  | cons entry entries ih =>
    obtain ⟨hall, hpair⟩ := ih (n + 1)
    have hrow : ∀ row, workerInput env taskId inputs n entry = some row →
        row.taskId = taskId ∧ row.ordinal = n := by
      intro row hrow
      unfold workerInput at hrow
      split at hrow
      · obtain ⟨part, -, rfl⟩ := map_eq_some_iff.1 hrow
        exact ⟨rfl, rfl⟩
      · cases hrow
    rw [workerInputs]
    cases hw : workerInput env taskId inputs n entry with
    | none =>
      refine ⟨fun row hmem => ?_, by simpa using hpair⟩
      obtain ⟨htask, hle⟩ := hall row (by simpa using hmem)
      exact ⟨htask, by omega⟩
    | some first =>
      obtain ⟨htask, hordinal⟩ := hrow first hw
      rw [toList_some, singleton_append]
      refine ⟨fun row hmem => ?_, pairwise_cons.2 ⟨fun row hmem => ?_, hpair⟩⟩
      · rcases mem_cons.1 hmem with rfl | hmem
        · exact ⟨htask, hordinal.ge⟩
        · obtain ⟨htask', hle⟩ := hall row hmem
          exact ⟨htask', by omega⟩
      · obtain ⟨-, hle⟩ := hall row hmem
        omega

def FirstSubmission (env : Env) (received : ReceivedProposal) (s : Store) : Prop :=
  ∀ row ∈ s.taskInputs, row.taskId = taskIdOf received.proposal.digest →
    row ∈ workerInputs env (taskIdOf received.proposal.digest) received.inputs 0
      received.proposal.contract.inputs

theorem submitProposal_taskInputs
    (h : exec (submitProposal env key covered contextId received expires body now) s = (.ok d, s')) :
    s'.taskInputs = (received.rows env).foldl Table.insertIgnore s.taskInputs := by
  obtain ⟨-, verdict, s₁, receipt, hsubmit, hreceive⟩ := submitProposal_ok h
  obtain ⟨inbox, rfl⟩ := receiveRequest_eq hreceive
  obtain ⟨audit, hfold⟩ := foldl_putTaskInput_eq now
    (received.rows env)
    (setTaskContext received.taskId contextId s₁)
  have hinputs : s₁.taskInputs = s.taskInputs := by
    obtain ⟨-, -, -, rfl⟩ | ⟨-, -, heads, rfl, -⟩ := submitRevision_cases hsubmit
    · rfl
    · rfl
  rw [hfold]
  change List.foldl Table.insertIgnore s₁.taskInputs _ = _
  rw [hinputs]

theorem listTaskInputs_eq {rows : List TaskInputRow}
    (hrows : s'.taskInputs = rows.foldl Table.insertIgnore s.taskInputs)
    (hfirst : ∀ row ∈ s.taskInputs, row.taskId = t → row ∈ rows)
    (htask : ∀ row ∈ rows, row.taskId = t)
    (hordinals : rows.Pairwise (fun a b => a.ordinal < b.ordinal))
    (hids : (rows.map TaskInputRow.inputId).Nodup) : s'.listTaskInputs t = rows := by
  have hnodup : rows.Nodup := hids.of_map
  have hmem : ∀ row, row ∈ s'.listTaskInputs t ↔ row ∈ rows := by
    intro row
    rw [Store.mem_listTaskInputs, hrows]
    constructor
    · rintro ⟨hrow, ht⟩
      exact (mem_foldl_insertIgnore hrow).elim (fun h => hfirst row h ht) id
    · intro hrow
      refine ⟨?_, htask row hrow⟩
      -- a row in its place has the same id, and is the same row
      obtain ⟨a, ha, rfl | hclash⟩ := exists_clash_foldl_insertIgnore
        (t := s.taskInputs) hrow
      · exact ha
      · have ha' : a ∈ rows := (mem_foldl_insertIgnore ha).elim
          (fun h => hfirst a h (hclash.1.trans (htask row hrow))) id
        rwa [← inj_on_of_nodup_map hids ha' hrow hclash.2]
  have hsorted : rows.Pairwise (fun a b => a.ordinal ≤ b.ordinal) := hordinals.imp le_of_lt
  refine Perm.eq_of_pairwise ?_ ?_ hsorted ((perm_ext_iff_of_nodup
      (Store.listTaskInputs_nodup s' t).of_map hnodup).2 hmem)
  · intro a b ha hb hab hba
    have hdistinct : (rows.map TaskInputRow.ordinal).Nodup :=
      pairwise_map.2 (hordinals.imp ne_of_lt)
    exact inj_on_of_nodup_map hdistinct ((hmem a).1 ha) hb (le_antisymm hab hba)
  · exact pairwise_insertionSort _ _

theorem validateProposal_admitted
    (h : validateProposal env messageId parts parties now = .ok (received, expires)) :
    Admitted env parties.proposalKey parties.requesterOrigin parties.localPerformer now received := by
  simp only [validateProposal, bind_eq_ok, mapError_eq_ok] at h
  obtain ⟨received', hreceive, expires', -, hout⟩ := h
  cases hout
  exact receiveProposal_eq_ok hreceive

/-- When a proposal is first submitted, the inputs listed for its task are the visible entries of
the manifest, in order and with their bytes, exactly if no two of them have the same id. -/
theorem submitted_inputs_iff {t : String} {response : Bytes}
    (hvalid : validateProposal env covered.messageId parts parties now = .ok (received, expires))
    (hfirst : FirstSubmission env received s)
    (hrun : exec (dispatchProposal env key covered parts contextId parties body now) s =
      (.ok ⟨.submitted t, response⟩, s')) :
    List.Forall₂ (HoldsInput env) (s'.listTaskInputs t) received.visible ↔
      (received.visible.map InputEntry.id).Nodup := by
  obtain ⟨-, received', expires', hvalid', hsubmit⟩ := dispatchProposal_submitted hrun
  rw [hvalid, ok.injEq, Prod.mk.injEq] at hvalid'
  obtain ⟨rfl, rfl⟩ := hvalid'
  obtain ⟨hd, -⟩ := submitProposal_ok hsubmit
  obtain rfl : t = received.taskId := by
    simpa using congrArg Dispatched.outcome hd
  have hids : ∀ {rows : List TaskInputRow}, List.Forall₂ (HoldsInput env) rows received.visible →
      rows.map TaskInputRow.inputId = received.visible.map InputEntry.id := by
    intro rows hrows
    rw [← forall₂_eq_eq_eq, forall₂_map_left_iff, forall₂_map_right_iff]
    exact hrows.imp (fun _ _ h => h.inputId)
  constructor
  · intro hlisted
    rw [← hids hlisted]
    exact s'.listTaskInputs_nodup _
  · intro hnodup
    have hbound := (validateProposal_admitted hvalid).bound
    have hrows : List.Forall₂ (HoldsInput env) (received.rows env) received.visible :=
      workerInputs_forall₂ (fun e he => hbound.find_part he)
    obtain ⟨htask, hordinals⟩ := workerInputs_ordered env received.taskId
      received.inputs 0 received.proposal.contract.inputs
    rw [listTaskInputs_eq (submitProposal_taskInputs hsubmit) hfirst (fun row hrow => (htask row hrow).1)
      hordinals (by rw [hids hrows]; exact hnodup)]
    exact hrows

theorem repeatedWire_validate :
    validateProposal repeatedWire.env wireCovered.messageId repeatedWire.parts repeatedWire.parties
      1800000000 = .ok (repeatedWire.received, 1893456000) :=
  repeatedWire.validate repeatedWire.extractProposal_eq repeatedWire_bound rfl rfl

theorem taskIdOf_repeatedWire :
    repeatedWire.received.taskId = "task-5122983654bb721288862888e4dd7473" := by
  decide

theorem exists_run_repeatedWire : ∃ response s',
    exec (dispatchProposal repeatedWire.env sampleKey wireCovered repeatedWire.parts ""
      repeatedWire.parties [] 1800000000) {} =
        (.ok ⟨.submitted "task-5122983654bb721288862888e4dd7473", response⟩, s') := by
  obtain ⟨s', hrun⟩ := dispatchProposal_of_valid (s := {}) rfl repeatedWire_validate
  rw [taskIdOf_repeatedWire] at hrun
  exact ⟨_, s', hrun⟩

/-- Of two inputs with the same id, both for the worker to see, only one is kept. -/
theorem repeated_input_dropped : ∃ response s',
    exec (dispatchProposal repeatedWire.env sampleKey wireCovered repeatedWire.parts ""
      repeatedWire.parties [] 1800000000) {} =
        (.ok ⟨.submitted "task-5122983654bb721288862888e4dd7473", response⟩, s') ∧
    repeatedWire.contract.revision = 0 ∧
    repeatedWire.received.visible = [helloEntry 1, helloEntry 2] ∧
    (s'.listTaskInputs "task-5122983654bb721288862888e4dd7473").map TaskInputRow.inputId =
      ["input"] := by
  obtain ⟨response, s', hrun⟩ := exists_run_repeatedWire
  obtain ⟨-, received, expires, hvalid, hsubmit⟩ := dispatchProposal_submitted hrun
  rw [repeatedWire_validate, ok.injEq, Prod.mk.injEq] at hvalid
  obtain ⟨rfl, rfl⟩ := hvalid
  refine ⟨response, s', hrun, rfl, by decide, ?_⟩
  rw [Store.listTaskInputs, submitProposal_taskInputs hsubmit, ReceivedProposal.rows,
    taskIdOf_repeatedWire]
  decide

theorem submitted_inputs_iff_repeated : ∃ response s',
    exec (dispatchProposal repeatedWire.env sampleKey wireCovered repeatedWire.parts ""
      repeatedWire.parties [] 1800000000) {} =
        (.ok ⟨.submitted "task-5122983654bb721288862888e4dd7473", response⟩, s') ∧
    ¬ List.Forall₂ (HoldsInput repeatedWire.env)
      (s'.listTaskInputs "task-5122983654bb721288862888e4dd7473") repeatedWire.received.visible := by
  obtain ⟨response, s', hrun⟩ := exists_run_repeatedWire
  refine ⟨response, s', hrun, fun hlisted => ?_⟩
  have hnodup := (submitted_inputs_iff repeatedWire_validate (by rintro row ⟨⟩) hrun).1 hlisted
  revert hnodup
  decide

end Akson
