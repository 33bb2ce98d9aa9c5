/-
# Standing approvals

The reactor looks at each task that has arrived and approves it if the operator's standing policy
for the root it arrived from covers it: an active peer that answers to the contract's requester, a
task type the policy lists, no more bytes than it allows, and nothing that discloses outward.
-/
import Akson.Task.Approve

namespace Akson

open Operation Except Option

def HeadState.openHead : HeadState → Option Head
  | .opened head => some head
  | .empty | .locked _ => none

def standingApproval (env : Env) (taskId : String) (s : Store) : Option Unit := do
  let head ← (s.contractHead taskId).openHead
  let contract ← (s.loadContract env head.digest).toOption
  let root ← s.originRoot taskId
  guard (root ≠ "")
  let requester ← s.getPeerByRoot root
  guard (requester.identity.agentId = contract.requester.agent)
  guard (s.peerStatusByRoot root = some .active)
  let policy ← s.autoApproveForRoot root
  guard (contract.taskType ∈ policy.taskTypes)
  guard (contract.limits.maxResponseBytes ≤ policy.maxResponseBytes)
  guard (contract.requestedCapabilities.all (fun cap => !cap.outward))

def autoApproval (taskId nonce : String) (now : Time) : Approval := ⟨taskId, none, false, nonce, now⟩

def autoApproveIfAllowed (env : Env) (me : LocalAuthority) (taskId nonce : String) (now : Time) :
    Operation Store Problem Bool := do
  match ← ask (fun s => .ok (standingApproval env taskId s)) with
  | none => pure false
  | some () =>
    match ← attempt (approveAndIssue env me (autoApproval taskId nonce now)) with
    | .ok _ => pure true
    | .error _ => pure false

/-- The task is within its peer's policy. -/
structure Covered (env : Env) (s : Store) (taskId : String) (root : String) (c : Contract)
    (policy : AutoApprovePolicy) : Prop where
  opened : ∃ head, s.contractHead taskId = .opened head ∧ s.loadContract env head.digest = .ok c
  origin : s.originRoot taskId = some root
  named : root ≠ ""
  requester : ∃ peer, s.getPeerByRoot root = some peer ∧
    peer.identity.agentId = c.requester.agent
  active : s.peerStatusByRoot root = some .active
  standing : s.autoApproveForRoot root = some policy
  taskType : c.taskType ∈ policy.taskTypes
  bytes : c.limits.maxResponseBytes ≤ policy.maxResponseBytes
  inward : ∀ cap ∈ c.requestedCapabilities, cap.outward = false

theorem HeadState.openHead_eq_some_iff {state : HeadState} {head : Head} :
    state.openHead = some head ↔ state = .opened head := by
  cases state <;> simp [HeadState.openHead]

section Runs

variable {env : Env} {me : LocalAuthority} {taskId nonce : String} {now : Time} {s s' : Store}

theorem covered_of_standingApproval (h : standingApproval env taskId s = some ()) :
    ∃ root c policy, Covered env s taskId root c policy := by
  simp only [standingApproval, bind_eq_bind, bind_eq_some_iff,
    HeadState.openHead_eq_some_iff, guard_eq_some', List.all_eq_true, Bool.not_eq_true',
    exists_const] at h
  obtain ⟨head, hhead, c, hload, root, horigin, hnamed, peer, hpeer, hagent, hactive, policy, hpolicy,
    htype, hbytes, hinward⟩ := h
  have hload : s.loadContract env head.digest = .ok c := by
    cases hc : s.loadContract env head.digest with
    | error e => simp [hc, Except.toOption] at hload
    | ok c' => simpa [hc, Except.toOption] using hload
  exact ⟨root, c, policy, ⟨head, hhead, hload⟩, horigin, hnamed, ⟨peer, hpeer, hagent⟩, hactive,
    hpolicy, htype, hbytes, hinward⟩

theorem Covered.standingApproval {root : String} {c : Contract} {policy : AutoApprovePolicy}
    (h : Covered env s taskId root c policy) : standingApproval env taskId s = some () := by
  obtain ⟨head, hhead, hload⟩ := h.opened
  obtain ⟨peer, hpeer, hagent⟩ := h.requester
  simp only [Akson.standingApproval, bind_eq_bind, bind_eq_some_iff,
    HeadState.openHead_eq_some_iff, guard_eq_some', List.all_eq_true, Bool.not_eq_true',
    exists_const]
  exact ⟨head, hhead, c, by rw [hload]; rfl, root, h.origin, h.named, peer, hpeer, hagent, h.active,
    policy, h.standing, h.taskType, h.bytes, h.inward⟩

theorem autoApproveIfAllowed_cases {r : Except Problem Bool}
    (h : exec (autoApproveIfAllowed env me taskId nonce now) s = (r, s')) :
    (standingApproval env taskId s = none ∧ r = .ok false ∧ s' = s) ∨
      (standingApproval env taskId s = some () ∧ ∃ answer,
        exec (approveAndIssue env me (autoApproval taskId nonce now)) s = (answer, s') ∧
        r = .ok answer.isOk) := by
  obtain ⟨e, he, -⟩ | ⟨covered, hcovered, h⟩ := exec_ask_cases h
  · cases he
  cases hcovered
  cases hstanding : standingApproval env taskId s with
  | none =>
    rw [hstanding] at h
    obtain ⟨hr, hs⟩ := Prod.mk.inj h
    exact .inl ⟨rfl, hr.symm, hs.symm⟩
  | some u =>
    rw [hstanding] at h
    refine .inr ⟨rfl, ?_⟩
    rcases hrun : exec (approveAndIssue env me (autoApproval taskId nonce now)) s with ⟨answer, s₁⟩
    rw [exec_bind_of_ok (exec_attempt hrun)] at h
    refine ⟨answer, ?_⟩
    cases answer with
    | ok json =>
      obtain ⟨hr, hs⟩ := Prod.mk.inj h
      exact ⟨by rw [← hs]; rfl, hr.symm⟩
    | error e =>
      obtain ⟨hr, hs⟩ := Prod.mk.inj h
      exact ⟨by rw [← hs]; rfl, hr.symm⟩

theorem mem_commits_autoApproveIfAllowed
    (h : s' ∈ commits (autoApproveIfAllowed env me taskId nonce now) s) :
    standingApproval env taskId s = some () ∧
      s' ∈ commits (approveAndIssue env me (autoApproval taskId nonce now)) s := by
  obtain ⟨covered, hcovered, h⟩ := mem_commits_ask_bind h
  cases hcovered
  cases hstanding : standingApproval env taskId s with
  | none =>
    rw [hstanding] at h
    cases h
  | some u =>
    rw [hstanding] at h
    refine ⟨rfl, ?_⟩
    obtain h | ⟨answer, s₁, -, h⟩ := mem_commits_bind h
    · exact h
    · cases answer <;> cases h

end Runs

end Akson
