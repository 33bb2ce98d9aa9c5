/-
# Completing a task with its result

What a worker, or the operator in its place, submits for an accepted task: every output has to pass
the gate of the task's work order, the contract's evidence slots have to be satisfied, and the
manifest of it all has to be one that can be signed.
-/
import Akson.Evidence.Slots
import Akson.Store.Outcomes
import Akson.Task.Issue
import Akson.Worker.Gate

namespace Akson

open Operation Except Option List

/-! ## Submissions -/

inductive OutputKind where
  | response
  | artifact

def OutputKind.channel : OutputKind → OutputChannel
  | .response => .response
  | .artifact => .artifact

/-- An output of a worker. -/
structure ResultOutput where
  role : String
  artifactId : String
  kind : OutputKind
  recipient : String
  mediaType : String
  content : Bytes

namespace ResultOutput

def byteLength (o : ResultOutput) : ℕ := o.content.length

def sha256 (env : Env) (o : ResultOutput) : String := hex (env.sha256 o.content)

def proposed (o : ResultOutput) : ProposedOutput :=
  ⟨o.kind.channel, o.recipient, o.mediaType, o.byteLength⟩

def entry (env : Env) (o : ResultOutput) (partIndex : ℕ) : OutputEntry :=
  ⟨o.role, o.artifactId, partIndex, o.mediaType, o.byteLength, o.sha256 env⟩

def row (env : Env) (taskId : String) (o : ResultOutput) (ordinal : ℕ) : TaskOutputRow :=
  ⟨taskId, o.artifactId, ordinal, o.role, o.mediaType, o.byteLength, o.sha256 env, o.content⟩

end ResultOutput

/-- What a worker submits. -/
structure ResultSubmission where
  taskId : String
  outputs : List ResultOutput
  evidence : List EvidenceEntry
  slots : List SlotRecord

/-- What is read of the task of a submission. -/
structure AcceptedTask where
  head : Head
  contract : Contract
  contextId : String
  workOrderId : String
  issued : IssuedWorkOrder
  /-- The attempt has succeeded already. -/
  completed : Bool

def noWorkOrder : Problem := Problem.new 409 "no-work-order" "this task has no issued work order"

def missingWorkOrder : Problem := Problem.new 500 "missing-work-order" "the work order is missing"

variable (env : Env)

def Store.acceptedTask (taskId : String) (s : Store) : Except Problem AcceptedTask := do
  let head ← (s.contractHead taskId).accepted
  let contract ← s.loadContract env head.digest
  let workOrderId ← okOr (s.attemptForTask taskId) noWorkOrder
  let stored ← (s.getWorkOrder workOrderId).mapError (fun _ => internal)
  let issued ← okOr stored missingWorkOrder
  .ok ⟨head, contract, ((s.taskContext taskId).or contract.contextId).getD "", workOrderId, issued,
    s.attemptState workOrderId = some .succeeded⟩

def Contract.requiredSlots (c : Contract) : List RequiredSlot :=
  c.evidenceSlots.map (fun slot => ⟨slot.slotId, .passed, false⟩)

def AcceptedTask.header (task : AcceptedTask) (taskId : String) : ManifestHeader where
  taskId := taskId
  contextId := task.contextId
  contractId := task.contract.contractId
  contractRevision := task.head.revision
  contractDigest := task.head.digest
  attemptDigest := hex (env.sha256 (utf8 task.issued.order.nonce))
  workOrderReceiptDigest := task.issued.digest

namespace ResultSubmission

variable (sub : ResultSubmission)

def manifest (task : AcceptedTask) : ResultManifest :=
  ResultManifest.assemble (task.header env sub.taskId)
    (sub.outputs.mapIdx (fun i o => o.entry env i)) sub.evidence sub.slots []

def rows : List TaskOutputRow :=
  sub.outputs.mapIdx (fun i o => o.row env sub.taskId i)

end ResultSubmission

def ResultManifest.invalidity (m : ResultManifest) : String :=
  if validateResultManifest m.json then
    "manifest arrays are not in the normative canonical order (§14.1)"
  else "schema: instance does not conform to " ++ env.debugStr "result-manifest" ++ ": " ++
    env.schemaError "result-manifest" m.json

def detailed (status : ℕ) (kind title detail : String) : Problem :=
  { Problem.new status kind title with detail := some detail }

def ResultSubmission.attest (taskResultKey : PurposeKey) (sub : ResultSubmission)
    (task : AcceptedTask) : Except Problem (String × Bytes) := do
  (gateOutputs task.issued.order.capabilities (sub.outputs.map ResultOutput.proposed)).mapError
    (fun e => detailed 403 "output-refused" "a worker output exceeds its granted scope"
      (e.message env))
  (checkSlots task.contract.requiredSlots sub.slots).mapError
    (fun e => detailed 422 "evidence-incomplete" "the required evidence slots are not satisfied"
      (e.message env))
  ensure (sub.outputs.map ResultOutput.artifactId).Nodup
    (Problem.new 422 "duplicate-artifact" "two outputs share an artifact id")
  let manifest := sub.manifest env task
  let bundleDigest ← (manifest.bundleDigest env).mapError (fun _ => detailed 422 "manifest-invalid"
    "the result manifest is invalid" (manifest.invalidity env))
  let envelope ← (manifest.sign env taskResultKey).mapError
    (fun _ => Problem.new 500 "sign-failed" "the result manifest could not be signed")
  .ok (bundleDigest, env.jsonText envelope.json)

def stageTaskOutputs (now : Time) : List TaskOutputRow → Operation Store Problem Unit :=
  commitEach (fun row => putTaskOutput row now) (fun (_ : StoreError) => internal)

def ResultSubmission.staged (sub : ResultSubmission) (task : AcceptedTask) :
    List TaskOutputRow :=
  if task.completed then [] else sub.rows env

def ResultSubmission.report (sub : ResultSubmission) (workOrderId bundleDigest : String) : Json :=
  .obj [("bundle_digest", .str bundleDigest), ("completed", .bool true),
    ("outputs", .num sub.outputs.length), ("task_id", .str sub.taskId),
    ("work_order_id", .str workOrderId)]

def CompletionOutcome.answer (report : Json) : CompletionOutcome → Except Problem Json
  | .completed | .alreadyCompleted => .ok report
  | .notRunnable _ => .error (Problem.new 409 "not-runnable"
      "the attempt cannot complete from its current state")

/-- Check, sign and store a result. -/
def submitResult (taskResultKey : PurposeKey) (sub : ResultSubmission) (now : Time) :
    Operation Store Problem Json := do
  let task ← ask (Store.acceptedTask env sub.taskId)
  let signed ← demand (sub.attest env taskResultKey task)
  stageTaskOutputs now (sub.staged env task)
  let outcome ← commit (completeAttemptWithResult task.workOrderId sub.taskId signed.1 signed.2 now)
    (fun _ => internal)
  demand (outcome.answer (sub.report task.workOrderId signed.1))

/-! ## The checks -/

variable {taskId : String}

section Checks

variable {env : Env} {taskResultKey : PurposeKey} {sub : ResultSubmission} {task : AcceptedTask}
  {s : Store}

/-- The task of the submission was accepted. -/
structure Accepts (env : Env) (s : Store) (taskId : String) (task : AcceptedTask) : Prop where
  locked : s.contractHead taskId = .locked task.head
  loaded : s.loadContract env task.head.digest = .ok task.contract
  claimed : s.attemptForTask taskId = some task.workOrderId
  ordered : s.getWorkOrder task.workOrderId = .ok (some task.issued)
  context : task.contextId = ((s.taskContext taskId).or task.contract.contextId).getD ""
  completed : task.completed = true ↔ s.attemptState task.workOrderId = some .succeeded

theorem acceptedTask_eq_ok_iff :
    s.acceptedTask env taskId = .ok task ↔ Accepts env s taskId task := by
  simp only [Store.acceptedTask, bind_eq_ok, mapError_eq_ok, okOr_eq_ok,
    HeadState.accepted_eq_ok_iff, ok.injEq]
  constructor
  · rintro ⟨head, hlocked, c, hloaded, w, hclaimed, stored, hordered, issued, rfl, rfl⟩
    exact ⟨hlocked, hloaded, hclaimed, hordered, rfl, decide_eq_true_iff⟩
  · intro h
    obtain ⟨head, contract, contextId, workOrderId, issued, completed⟩ := task
    refine ⟨head, h.locked, contract, h.loaded, workOrderId, h.claimed, some issued, h.ordered,
      issued, rfl, ?_⟩
    rw [AcceptedTask.mk.injEq]
    exact ⟨rfl, rfl, h.context.symm, rfl, rfl, Bool.eq_iff_iff.2 (decide_eq_true_iff.trans
      h.completed.symm)⟩

/-- What a submission is checked for before it is signed. -/
structure Attestable (env : Env) (taskResultKey : PurposeKey) (sub : ResultSubmission)
    (task : AcceptedTask) : Prop where
  gated : gateOutputs task.issued.order.capabilities (sub.outputs.map ResultOutput.proposed) = .ok ()
  satisfied : checkSlots task.contract.requiredSlots sub.slots = .ok ()
  distinct : (sub.outputs.map ResultOutput.artifactId).Nodup
  valid : (sub.manifest env task).validate = .ok ()
  purpose : taskResultKey.purpose = .taskResult

def ResultSubmission.payload (env : Env) (sub : ResultSubmission) (task : AcceptedTask) : Bytes :=
  Json.canonicalBytes env.fmtNum (sub.manifest env task).json

def ResultSubmission.signed (env : Env) (taskResultKey : PurposeKey) (sub : ResultSubmission)
    (task : AcceptedTask) : String × Bytes :=
  (hex (env.sha256 (sub.payload env task)),
    env.jsonText (dsseSign env ResultManifest.payloadType (sub.payload env task)
      taskResultKey.secret).json)

theorem attest_eq_ok_iff {signed : String × Bytes} :
    sub.attest env taskResultKey task = .ok signed ↔
      Attestable env taskResultKey sub task ∧ signed = sub.signed env taskResultKey task := by
  simp only [ResultSubmission.attest, bind_eq_ok, mapError_eq_ok, ensure_eq_ok,
    ResultManifest.bundleDigest_eq_ok_iff, ResultManifest.sign_eq_ok_iff, ok.injEq,
    Unique.exists_iff, PUnit.default_eq_unit]
  constructor
  · rintro ⟨hgated, hslots, hdistinct, _, ⟨hvalid, rfl⟩, _, ⟨-, hpurpose, rfl⟩, rfl⟩
    exact ⟨⟨hgated, hslots, hdistinct, hvalid, hpurpose⟩, rfl⟩
  · rintro ⟨h, rfl⟩
    exact ⟨h.gated, h.satisfied, h.distinct, _, ⟨h.valid, rfl⟩, _, ⟨h.valid, h.purpose, rfl⟩, rfl⟩

theorem manifest_outputs_perm (env : Env) (sub : ResultSubmission) (task : AcceptedTask) :
    (sub.manifest env task).outputs.Perm (sub.outputs.mapIdx (fun i o => o.entry env i)) :=
  perm_insertionSort _ _

end Checks

/-! ## What a submission writes -/

section Writes

variable {env : Env} {taskResultKey : PurposeKey} {sub : ResultSubmission} {task : AcceptedTask}
  {now : Time} {s s' : Store}

theorem taskId_of_mem_rows {r : TaskOutputRow} (h : r ∈ sub.rows env) : r.taskId = sub.taskId := by
  obtain ⟨i, hi, rfl⟩ := mem_mapIdx.1 h
  rfl

theorem map_artifactId_rows (env : Env) (sub : ResultSubmission) :
    (sub.rows env).map TaskOutputRow.artifactId = sub.outputs.map ResultOutput.artifactId := by
  refine ext_getElem (by simp [ResultSubmission.rows]) (fun i _ _ => ?_)
  simp only [ResultSubmission.rows, getElem_map, getElem_mapIdx, ResultOutput.row]

def Store.withOutputs (s : Store) (rows : List TaskOutputRow) (now : Time) : Store :=
  rows.foldl (fun s row => putTaskOutput row now s) s

theorem withOutputs_eq (rows : List TaskOutputRow) (now : Time) (s : Store) :
    ∃ audit, s.withOutputs rows now =
      { s with taskOutputs := rows.foldl Table.insertIgnore s.taskOutputs, audit := audit } := by
  induction rows generalizing s with
  | nil => exact ⟨s.audit, rfl⟩
  | cons row rows ih =>
    obtain ⟨audit, h⟩ := ih (putTaskOutput row now s)
    exact ⟨audit, h⟩

theorem exec_stageTaskOutputs (now : Time) (rows : List TaskOutputRow) (s : Store) :
    exec (stageTaskOutputs now rows) s = (.ok (), s.withOutputs rows now) :=
  exec_commitEach _ _ _ _

variable {state : AttemptState}

theorem completeAttemptWithResult_eq {workOrderId bundleDigest : String} {manifest : Bytes}
    (hstate : s.attemptState workOrderId = some state) :
    completeAttemptWithResult workOrderId taskId bundleDigest manifest now s =
      if state = .succeeded then .ok (.alreadyCompleted, s)
      else if state.active then stageResult workOrderId taskId bundleDigest manifest state now s
      else .ok (.notRunnable state, s) := by
  rw [completeAttemptWithResult, hstate]
  cases state <;> rfl

def ResultSubmission.complete (env : Env) (taskResultKey : PurposeKey) (sub : ResultSubmission)
    (task : AcceptedTask) (now : Time) : Store → Except StoreError (CompletionOutcome × Store) :=
  completeAttemptWithResult task.workOrderId sub.taskId (sub.signed env taskResultKey task).1
    (sub.signed env taskResultKey task).2 now

def Completes (env : Env) (taskResultKey : PurposeKey) (sub : ResultSubmission) (task : AcceptedTask)
    (now : Time) (s s' : Store) : Prop :=
  ∃ state, s.attemptState task.workOrderId = some state ∧ state.active ∧
    stageResult task.workOrderId sub.taskId (sub.signed env taskResultKey task).1
      (sub.signed env taskResultKey task).2 state now (s.withOutputs (sub.rows env) now) =
        .ok (.completed, s')

theorem AttemptState.active.ne_succeeded (h : state.active) : state ≠ .succeeded := by
  rintro rfl
  rcases h with h | h <;> cases h

theorem Accepts.attemptRow (h : Accepts env s taskId task) :
    ∃ row, s.attemptRow task.workOrderId = some row ∧ row.taskId = taskId ∧
      (task.completed = true ↔ row.state = .succeeded) := by
  obtain ⟨row, hrow, hid⟩ := map_eq_some_iff.1 h.claimed
  have hfind : s.attemptRow task.workOrderId = some row :=
    Store.attemptRow_eq_some_iff.2 ⟨Table.mem_of_find hrow, hid⟩
  refine ⟨row, hfind, by simpa using Table.pred_of_find hrow, ?_⟩
  rw [h.completed, Store.attemptState, hfind, map_some, some.injEq]

theorem Accepts.attemptState (h : Accepts env s taskId task) :
    ∃ state, s.attemptState task.workOrderId = some state ∧
      (task.completed = true ↔ state = .succeeded) := by
  obtain ⟨row, hrow, -, hcompleted⟩ := h.attemptRow
  exact ⟨row.state, congrArg (Option.map AttemptRow.state) hrow, hcompleted⟩

theorem withOutputs_attemptState (rows : List TaskOutputRow) (workOrderId : String) :
    (s.withOutputs rows now).attemptState workOrderId = s.attemptState workOrderId := by
  obtain ⟨audit, h⟩ := withOutputs_eq rows now s
  rw [h]
  rfl

theorem exec_submitResult {outcome : CompletionOutcome} (haccepts : Accepts env s sub.taskId task)
    (hattestable : Attestable env taskResultKey sub task)
    (hcomplete : sub.complete env taskResultKey task now (s.withOutputs (sub.staged env task) now) =
      .ok (outcome, s')) :
    exec (submitResult env taskResultKey sub now) s =
      (outcome.answer (sub.report task.workOrderId (sub.signed env taskResultKey task).1), s') := by
  rw [submitResult, exec_ask_bind_of_ok (acceptedTask_eq_ok_iff.2 haccepts),
    exec_demand_bind_of_ok (attest_eq_ok_iff.2 ⟨hattestable, rfl⟩),
    exec_bind_of_ok (exec_stageTaskOutputs now _ s)]
  exact exec_bind_of_ok (exec_commit_of_ok hcomplete)

theorem ResultSubmission.complete_eq (taskResultKey : PurposeKey) (now : Time)
    (haccepts : Accepts env s sub.taskId task) :
    (task.completed = true ∧ sub.complete env taskResultKey task now
        (s.withOutputs (sub.staged env task) now) = .ok (.alreadyCompleted, s)) ∨
      (task.completed = false ∧ ∃ state, s.attemptState task.workOrderId = some state ∧
        state.active ∧ sub.complete env taskResultKey task now
          (s.withOutputs (sub.staged env task) now) =
            stageResult task.workOrderId sub.taskId (sub.signed env taskResultKey task).1
              (sub.signed env taskResultKey task).2 state now (s.withOutputs (sub.rows env) now)) ∨
      (task.completed = false ∧ ∃ state, s.attemptState task.workOrderId = some state ∧
        ¬ state.active ∧ sub.complete env taskResultKey task now
          (s.withOutputs (sub.staged env task) now) =
            .ok (.notRunnable state, s.withOutputs (sub.rows env) now)) := by
  obtain ⟨state, hstate, hcompleted⟩ := haccepts.attemptState
  rw [ResultSubmission.complete,
    completeAttemptWithResult_eq ((withOutputs_attemptState _ _).trans hstate)]
  by_cases hsucceeded : state = .succeeded
  · have htrue := hcompleted.2 hsucceeded
    rw [if_pos hsucceeded, ResultSubmission.staged, if_pos htrue]
    exact .inl ⟨htrue, rfl⟩
  · have hfalse : task.completed = false := by
      rw [← Bool.not_eq_true, hcompleted]
      exact hsucceeded
    rw [if_neg hsucceeded, ResultSubmission.staged, hfalse]
    by_cases hactive : state.active
    · rw [if_pos hactive]
      exact .inr (.inl ⟨rfl, state, hstate, hactive, rfl⟩)
    · rw [if_neg hactive]
      exact .inr (.inr ⟨rfl, state, hstate, hactive, rfl⟩)

theorem exec_submitResult_eq_ok_iff {json : Json} :
    exec (submitResult env taskResultKey sub now) s = (.ok json, s') ↔
      ∃ task, Accepts env s sub.taskId task ∧ Attestable env taskResultKey sub task ∧
        json = sub.report task.workOrderId (sub.signed env taskResultKey task).1 ∧
        ((task.completed = true ∧ s' = s) ∨
          (task.completed = false ∧ Completes env taskResultKey sub task now s s')) := by
  constructor
  · intro h
    obtain ⟨e, -, he, -⟩ | ⟨task, htask, h⟩ := exec_ask_cases h
    · cases he
    obtain ⟨e, -, he, -⟩ | ⟨signed, hsigned, h⟩ := exec_demand_cases h
    · cases he
    have haccepts := acceptedTask_eq_ok_iff.1 htask
    obtain ⟨hattestable, rfl⟩ := attest_eq_ok_iff.1 hsigned
    rw [exec_bind_of_ok (exec_stageTaskOutputs now _ s)] at h
    obtain ⟨d, -, hd, -⟩ | ⟨outcome, s₁, hcomplete, h⟩ := exec_commit_cases h
    · cases hd
    obtain ⟨hanswer, rfl⟩ := Prod.mk.inj h
    refine ⟨task, haccepts, hattestable, ?_⟩
    obtain ⟨hcompleted, heq⟩ | ⟨hpending, state, hstate, hactive, heq⟩ | ⟨-, state, -, -, heq⟩ :=
      sub.complete_eq taskResultKey now haccepts
    · obtain ⟨rfl, rfl⟩ := Prod.mk.inj (ok.inj (hcomplete.symm.trans heq))
      exact ⟨(ok.inj hanswer).symm, .inl ⟨hcompleted, rfl⟩⟩
    · have hstage := heq.symm.trans hcomplete
      obtain ⟨rfl, -⟩ := stageResult_cases hstage
      exact ⟨(ok.inj hanswer).symm, .inr ⟨hpending, state, hstate, hactive, hstage⟩⟩
    · obtain ⟨rfl, rfl⟩ := Prod.mk.inj (ok.inj (hcomplete.symm.trans heq))
      cases hanswer
  · rintro ⟨task, haccepts, hattestable, rfl, ⟨hcompleted, rfl⟩ | ⟨hcompleted, state, hstate, hactive,
      hstage⟩⟩
    · have hcomplete : sub.complete env taskResultKey task now
          (s'.withOutputs (sub.staged env task) now) = .ok (.alreadyCompleted, s') := by
        rw [ResultSubmission.staged, if_pos hcompleted]
        exact completeAttemptWithResult_eq (haccepts.completed.1 hcompleted)
      exact exec_submitResult haccepts hattestable hcomplete
    · have hcomplete : sub.complete env taskResultKey task now
          (s.withOutputs (sub.staged env task) now) = .ok (.completed, s') := by
        rw [ResultSubmission.staged, hcompleted, if_neg Bool.false_ne_true, ResultSubmission.complete,
          completeAttemptWithResult_eq ((withOutputs_attemptState _ _).trans hstate),
          if_neg hactive.ne_succeeded, if_pos hactive, hstage]
      exact exec_submitResult haccepts hattestable hcomplete

/-- The submission reaches its writes. -/
structure Writes (env : Env) (taskResultKey : PurposeKey) (sub : ResultSubmission)
    (task : AcceptedTask) (s : Store) : Prop where
  accepts : Accepts env s sub.taskId task
  attestable : Attestable env taskResultKey sub task
  pending : task.completed = false

theorem mem_commits_submitResult (h : s' ∈ commits (submitResult env taskResultKey sub now) s) :
    s' = s ∨ ∃ task, Writes env taskResultKey sub task s ∧
      ((∃ n, s' = s.withOutputs ((sub.rows env).take n) now) ∨
        Completes env taskResultKey sub task now s s') := by
  obtain ⟨task, htask, h⟩ := mem_commits_ask_bind h
  obtain ⟨signed, hsigned, h⟩ := mem_commits_ask_bind h
  have haccepts := acceptedTask_eq_ok_iff.1 htask
  obtain ⟨hattestable, rfl⟩ := attest_eq_ok_iff.1 hsigned
  obtain h | ⟨u, s₁, hstaged, h⟩ := mem_commits_bind h
  · obtain ⟨n, rfl⟩ := mem_commits_commitEach h
    cases hcompleted : task.completed with
    | true =>
      rw [ResultSubmission.staged, if_pos hcompleted, take_nil]
      exact .inl rfl
    | false =>
      rw [ResultSubmission.staged, hcompleted]
      exact .inr ⟨task, ⟨haccepts, hattestable, hcompleted⟩, .inl ⟨n, rfl⟩⟩
  · rw [exec_stageTaskOutputs, Prod.mk.injEq] at hstaged
    obtain ⟨-, rfl⟩ := hstaged
    obtain h | ⟨outcome, s₂, -, h⟩ := mem_commits_bind h
    · obtain ⟨outcome, hcomplete⟩ := exists_of_mem_commits_commit h
      obtain ⟨-, heq⟩ | ⟨hpending, state, hstate, hactive, heq⟩ | ⟨hpending, state, -, -, heq⟩ :=
        sub.complete_eq taskResultKey now haccepts
      · exact .inl (Prod.mk.inj (ok.inj (hcomplete.symm.trans heq))).2
      · have hstage := heq.symm.trans hcomplete
        obtain ⟨rfl, -⟩ := stageResult_cases hstage
        exact .inr ⟨task, ⟨haccepts, hattestable, hpending⟩,
          .inr ⟨state, hstate, hactive, hstage⟩⟩
      · refine .inr ⟨task, ⟨haccepts, hattestable, hpending⟩, .inl ⟨(sub.rows env).length, ?_⟩⟩
        rw [take_length]
        exact (Prod.mk.inj (ok.inj (hcomplete.symm.trans heq))).2
    · cases h

theorem exec_submitResult_cases {r : Except Problem Json}
    (h : exec (submitResult env taskResultKey sub now) s = (r, s')) :
    s' = s ∨ ∃ task, Writes env taskResultKey sub task s ∧
      (Completes env taskResultKey sub task now s s' ∨
        (s' = s.withOutputs (sub.rows env) now ∧
          ((∃ state, s.attemptState task.workOrderId = some state ∧ ¬ state.active) ∨
            s.resultRow task.workOrderId ≠ none))) := by
  obtain ⟨e, -, -, hs⟩ | ⟨task, htask, h⟩ := exec_ask_cases h
  · exact .inl hs
  obtain ⟨e, -, -, hs⟩ | ⟨signed, hsigned, h⟩ := exec_demand_cases h
  · exact .inl hs
  have haccepts := acceptedTask_eq_ok_iff.1 htask
  obtain ⟨hattestable, rfl⟩ := attest_eq_ok_iff.1 hsigned
  rw [exec_bind_of_ok (exec_stageTaskOutputs now _ s)] at h
  obtain ⟨hcompleted, heq⟩ | ⟨hpending, state, hstate, hactive, heq⟩ | ⟨hpending, state, hstate, hactive,
    heq⟩ := sub.complete_eq taskResultKey now haccepts
  · have hrun := (exec_bind_of_ok (exec_commit_of_ok heq)).symm.trans h
    exact .inl (Prod.mk.inj hrun).2.symm
  · refine .inr ⟨task, ⟨haccepts, hattestable, hpending⟩, ?_⟩
    obtain ⟨d, hfails, -, rfl⟩ | ⟨outcome, s₁, hcomplete, h⟩ := exec_commit_cases h
    · -- the one thing that can fail is the insertion of the result
      refine .inr ⟨by rw [ResultSubmission.staged, hpending]; rfl, .inr (fun hfree => ?_)⟩
      obtain ⟨audit, hstaged⟩ := withOutputs_eq (sub.rows env) now s
      obtain ⟨s₁, hstage⟩ := stageResult_total ((withOutputs_attemptState _ _).trans hstate)
        (by rw [hstaged]; exact hfree) sub.taskId (sub.signed env taskResultKey task).1
        (sub.signed env taskResultKey task).2 now
      cases hfails.symm.trans (heq.trans hstage)
    · cases h
      have hstage := heq.symm.trans hcomplete
      obtain ⟨rfl, -⟩ := stageResult_cases hstage
      exact .inl ⟨state, hstate, hactive, hstage⟩
  · refine .inr ⟨task, ⟨haccepts, hattestable, hpending⟩, .inr ⟨?_, .inl ⟨state, hstate, hactive⟩⟩⟩
    have hrun := (exec_bind_of_ok (exec_commit_of_ok heq)).symm.trans h
    exact (Prod.mk.inj hrun).2.symm

theorem Completes.accepts (h : Completes env taskResultKey sub task now s s')
    (haccepts : Accepts env s taskId task) :
    Accepts env s' taskId { task with completed := true } := by
  obtain ⟨state, hstate, hactive, hstage⟩ := h
  obtain ⟨audit, hstaged⟩ := withOutputs_eq (sub.rows env) now s
  rw [hstaged] at hstage
  obtain ⟨s₁, hcas, h⟩ := bind_eq_ok.1 hstage
  obtain ⟨results, hinsert, hout⟩ := bind_eq_ok.1 h
  cases hout
  have htask := casAttempt_attemptForTask hcas taskId
  obtain ⟨row, attempts, -, -, rfl, hself, -⟩ := casAttempt_cases hcas
  exact ⟨haccepts.locked, haccepts.loaded, htask.trans haccepts.claimed, haccepts.ordered,
    haccepts.context, iff_of_true rfl (congrArg (Option.map AttemptRow.state) hself)⟩

end Writes

end Akson
