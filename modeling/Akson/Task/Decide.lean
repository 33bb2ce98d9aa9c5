/-
# Deciding a task

The operator's decision on a submitted task: the stored proposal is loaded, the decision about its
exact revision is signed, and an acceptance locks the head.
-/
import Akson.Lib.Operation
import Akson.Contract.Decision
import Akson.Store.Heads

namespace Akson

open Operation Except

def noSuchTask : Problem := Problem.new 404 "no-such-task" "no such task"

def HeadState.undecided : HeadState → Except Problem Head
  | .opened head => .ok head
  | .locked _ => .error (Problem.new 409 "already-decided" "this task is already accepted")
  | .empty => .error noSuchTask

def Store.loadContract (env : Env) (s : Store) (digest : String) : Except Problem Contract := do
  let payload ← okOr (s.getContract digest) noSuchTask
  let parsed ← (parsePayload env payload).mapError
    (fun _ => Problem.new 500 "corrupt-contract" "the stored contract could not be parsed")
  .ok parsed.contract

/-- A decision as it is reported. -/
structure DecisionRecord where
  taskId : String
  kind : DecisionKind
  /-- The signed decision. -/
  decision : Envelope
  accepted : Bool

namespace Decision

def draft (env : Env) (taskId : String) (kind : DecisionKind) (reasonCode note : Option String)
    (decider : Identity) (decidedAt : String) (s : Store) : Except Problem Decision := do
  let head ← (s.contractHead taskId).undecided
  let contract ← s.loadContract env head.digest
  .ok ⟨1, kind, contract.contractId, head.revision, head.digest, taskId,
    (s.taskContext taskId).getD "", decider, reasonCode, note, decidedAt⟩

def decide (env : Env) (taskId : String) (kind : DecisionKind) (reasonCode note : Option String)
    (decider : Identity) (decisionKey : PurposeKey) (decidedAt : String) (now : Time) :
    Operation Store Problem DecisionRecord := do
  let decision ← ask (draft env taskId kind reasonCode note decider decidedAt)
  let signed ← demand ((decision.sign env decisionKey).mapError
    (fun _ => Problem.new 500 "sign-failed" "the decision could not be signed"))
  if kind = .accept then
    match ← commit (acceptContract env taskId decision.contractDigest now) (fun _ => internal) with
    | .ok () => pure ⟨taskId, kind, signed, true⟩
    | .error _ => demand (.error (Problem.new 409 "accept-conflict" "the task could not be accepted"))
  else pure ⟨taskId, kind, signed, false⟩

end Decision

/-! ## What a decision does -/

theorem HeadState.undecided_eq_ok_iff {state : HeadState} {head : Head} :
    state.undecided = .ok head ↔ state = .opened head := by
  cases state <;> simp [HeadState.undecided]

variable {digest : String} {c : Contract}

theorem Store.loadContract_eq_ok_iff {env : Env} {s : Store} :
    s.loadContract env digest = .ok c ↔ ∃ payload parsed, s.getContract digest = some payload ∧
      parsePayload env payload = .ok parsed ∧ parsed.contract = c := by
  simp only [Store.loadContract, bind_eq_ok, okOr_eq_ok, mapError_eq_ok,
    ok.injEq, exists_and_left]

theorem Store.loadContract_of_reads {env env' : Env} {s : Store}
    (h : s.loadContract env digest = .ok c) (hread : env'.readJson = env.readJson)
    (hfloat : env'.fmtFloat = env.fmtFloat) (hnum : env'.fmtNum = env.fmtNum) :
    s.loadContract env' digest = .ok c := by
  obtain ⟨payload, parsed, hpayload, hparsed, rfl⟩ := Store.loadContract_eq_ok_iff.1 h
  simp only [parsePayload, bind_eq_ok, mapError_eq_ok, ensure_eq_ok,
    okOr_eq_ok] at hparsed
  obtain ⟨value, hvalue, -, hcanonical, -, hvalid, contract, hcontract, hout⟩ := hparsed
  cases hout
  refine Store.loadContract_eq_ok_iff.2 ⟨payload, ⟨contract, hex (env'.sha256 payload), payload⟩,
    hpayload, ?_, rfl⟩
  simp only [parsePayload, bind_eq_ok, mapError_eq_ok, ensure_eq_ok,
    okOr_eq_ok, hread, hfloat, hnum]
  exact ⟨value, hvalue, (), hcanonical, (), hvalid, contract, hcontract, rfl⟩

theorem Store.conforms_of_loadContract {env : Env} {s : Store}
    (h : s.loadContract env digest = .ok c) : c.Conforms := by
  obtain ⟨payload, parsed, -, hparsed, rfl⟩ := Store.loadContract_eq_ok_iff.1 h
  exact Contract.conforms_of_parsePayload hparsed

namespace Decision

variable {env : Env} {taskId decidedAt : String} {kind : DecisionKind}
  {reasonCode note : Option String} {decider : Identity} {decisionKey : PurposeKey} {now : Time}
  {s s' : Store}

variable {d : Decision}

theorem draft_eq_ok_iff : draft env taskId kind reasonCode note decider decidedAt s = .ok d ↔
      ∃ head contract, s.contractHead taskId = .opened head ∧
        s.loadContract env head.digest = .ok contract ∧
        (⟨1, kind, contract.contractId, head.revision, head.digest, taskId,
          (s.taskContext taskId).getD "", decider, reasonCode, note, decidedAt⟩ : Decision) = d := by
  simp only [draft, bind_eq_ok, HeadState.undecided_eq_ok_iff, ok.injEq,
    exists_and_left]

theorem decide_of_sign_error {e : DecisionError}
    (hdraft : draft env taskId kind reasonCode note decider decidedAt s = .ok d)
    (h : d.sign env decisionKey = .error e) :
    decide env taskId kind reasonCode note decider decisionKey decidedAt now s =
      (.error (Problem.new 500 "sign-failed" "the decision could not be signed"), []) := by
  rw [decide, ask_bind_apply_of_ok hdraft]
  apply demand_bind_apply_of_error
  rw [h]
  rfl

theorem decide_accept (now : Time) {envelope : Envelope}
    (hdraft : draft env taskId .accept reasonCode note decider decidedAt s = .ok d)
    (h : d.sign env decisionKey = .ok envelope) :
    ∃ s₁, acceptContract env taskId d.contractDigest now s = .ok (.ok (), s₁) ∧
      decide env taskId .accept reasonCode note decider decisionKey decidedAt now s =
        (.ok ⟨taskId, .accept, envelope, true⟩, [s₁]) := by
  obtain ⟨head, contract, hhead, -, rfl⟩ := draft_eq_ok_iff.1 hdraft
  obtain ⟨answer, s₁, haccept⟩ := acceptContract_total env taskId head.digest now s
  obtain ⟨e, -, hrefused, -⟩ | ⟨rfl, -⟩ := acceptContract_cases haccept
  · rw [hhead, acceptHead_eq_ok_iff.2 ⟨head, rfl, rfl, rfl⟩] at hrefused
    cases hrefused
  · refine ⟨s₁, haccept, ?_⟩
    rw [decide, ask_bind_apply_of_ok hdraft, demand_bind_apply_of_ok (mapError_eq_ok.2 h),
      if_pos rfl]
    exact commit_bind_apply_of_ok haccept

theorem decide_keeps {r : Except Problem DecisionRecord} (hkind : kind ≠ .accept)
    (h : exec (decide env taskId kind reasonCode note decider decisionKey decidedAt now) s =
      (r, s')) : s' = s := by
  obtain ⟨e, -, -, hs⟩ | ⟨d, -, h⟩ := exec_ask_cases h
  · exact hs
  obtain ⟨e, -, -, hs⟩ | ⟨signed, -, h⟩ := exec_demand_cases h
  · exact hs
  · rw [if_neg hkind] at h
    exact (Prod.mk.inj h).2.symm

end Decision

end Akson
