/-
# Contract heads

Each task has one head: the contract revision that a decision would be about.
-/
import Akson.Store.Schema
import Akson.Contract.Contract
import Akson.Lib.Trace

namespace Akson

open Except Option List Table

variable {s s' c : Store} {taskId t : String} {now expiresAt : Time} {env : Env}
  {proposal : ParsedContract} {answer : RevisionVerdict} {l : List (ParsedContract × String)}
  {r : HeadRow} {e : HeadEvent} {es : List HeadEvent}

/-! ## The verdicts -/

/-- A revision and its digest. -/
structure Head where
  revision : ℕ
  digest : String
deriving DecidableEq

/-- The head of a task. -/
inductive HeadState where
  | empty
  /-- Awaiting a decision, and open to a successor that chains onto it. -/
  | opened (head : Head)
  /-- Accepted: no successor is allowed. -/
  | locked (head : Head)
deriving DecidableEq

/-- Why a revision is stale. -/
inductive StaleReason where
  | headAlreadyExists
  | noHead
  | nonSequential
  | predecessorMismatch
  | headLocked
deriving DecidableEq

/-- The verdict on a revision. -/
inductive RevisionVerdict where
  | advance (head : Head)
  | stale (reason : StaleReason)

/-- Why a head is not locked. -/
inductive LockError where
  | noOpenHead
  | digestMismatch
  | alreadyLocked

/-- The head that the proposal would make. -/
def ParsedContract.head (proposed : ParsedContract) : Head :=
  ⟨proposed.contract.revision, proposed.digest⟩

/-- The verdict on a proposed revision. -/
def applyRevision (head : HeadState) (proposed : ParsedContract) : RevisionVerdict :=
  if proposed.contract.revision = 0 then
    match head with
    | .empty => .advance proposed.head
    | _ => .stale .headAlreadyExists
  else
    match head with
    | .empty => .stale .noHead
    | .locked _ => .stale .headLocked
    | .opened current =>
      if proposed.contract.revision ≠ current.revision + 1 then .stale .nonSequential
      else if proposed.contract.predecessorDigest ≠ some current.digest then
        .stale .predecessorMismatch
      else .advance proposed.head

/-- The proposal continues the head. -/
def Chains (head : HeadState) (proposed : ParsedContract) : Prop :=
  match head with
  | .empty => proposed.contract.revision = 0
  | .opened current => proposed.contract.revision = current.revision + 1 ∧
      proposed.contract.predecessorDigest = some current.digest
  | .locked _ => False

variable {head : HeadState} {proposed : ParsedContract} {answer' : RevisionVerdict} {later : Time}
  {c₁ : Store}

theorem applyRevision_eq_advance_iff {new : Head} :
    applyRevision head proposed = .advance new ↔ Chains head proposed ∧ new = proposed.head := by
  unfold applyRevision Chains
  by_cases hzero : proposed.contract.revision = 0
  · cases head <;> simp [hzero, eq_comm]
  · cases head with
    | empty => simp [hzero]
    | locked current => simp [hzero]
    | opened current =>
      by_cases hnext : proposed.contract.revision = current.revision + 1
      · by_cases hpred : proposed.contract.predecessorDigest = some current.digest
        · simp [hnext, hpred, eq_comm]
        · simp [hnext, hpred]
      · simp [hzero, hnext]

/-- The head after an acceptance of `acceptedDigest`. -/
def acceptHead (head : HeadState) (acceptedDigest : String) : Except LockError HeadState :=
  match head with
  | .empty => .error .noOpenHead
  | .locked _ => .error .alreadyLocked
  | .opened current =>
    if current.digest = acceptedDigest then .ok (.locked current) else .error .digestMismatch

theorem acceptHead_eq_ok_iff {new : HeadState} {digest : String} :
    acceptHead head digest = .ok new ↔
      ∃ current, head = .opened current ∧ current.digest = digest ∧ new = .locked current := by
  unfold acceptHead
  cases head with
  | empty => simp
  | locked current => simp
  | opened current =>
    by_cases hdigest : current.digest = digest
    · simp [hdigest, eq_comm]
    · simp [hdigest]

/-! ## The stored head -/

/-- The head that a row stands for. -/
def HeadRow.state (r : HeadRow) : HeadState :=
  match r.status with
  | .opened => .opened ⟨r.revision, r.digest⟩
  | .locked => .locked ⟨r.revision, r.digest⟩

namespace Store

/-- The row of the task. -/
def headRow (s : Store) (taskId : String) : Option HeadRow :=
  s.contractHeads.find (fun r => r.taskId = taskId)

/-- The head of the task. -/
def contractHead (s : Store) (taskId : String) : HeadState :=
  match s.headRow taskId with
  | none => .empty
  | some row => row.state

/-- The root that sent the first revision. -/
def originRoot (s : Store) (taskId : String) : Option String :=
  (s.headRow taskId).map HeadRow.originRoot

/-- The context of the task, if it has one. -/
def taskContext (s : Store) (taskId : String) : Option String :=
  ((s.headRow taskId).map HeadRow.contextId).filter (fun c => c ≠ "")

/-- The payload of a stored revision. -/
def getContract (s : Store) (digest : String) : Option Bytes :=
  (s.contracts.find (fun r => r.digest = digest)).map ContractRow.payload

end Store

theorem HeadRow.state_ne_empty (r : HeadRow) : r.state ≠ .empty := by
  unfold HeadRow.state
  cases r.status <;> simp

theorem Store.contractHead_eq_empty_iff :
    s.contractHead taskId = .empty ↔ s.headRow taskId = none := by
  unfold Store.contractHead
  cases s.headRow taskId with
  | none => simp
  | some row => simp [row.state_ne_empty]

theorem Store.contractHead_of_some {row : HeadRow}
    (h : s.headRow taskId = some row) : s.contractHead taskId = row.state := by
  rw [Store.contractHead, h]

theorem HeadRow.state_eq_opened_iff {head : Head} :
    r.state = .opened head ↔ r.status = .opened ∧ head = ⟨r.revision, r.digest⟩ := by
  unfold HeadRow.state
  cases r.status <;> simp [eq_comm]

theorem HeadRow.state_eq_locked_iff {head : Head} :
    r.state = .locked head ↔ r.status = .locked ∧ head = ⟨r.revision, r.digest⟩ := by
  unfold HeadRow.state
  cases r.status <;> simp [eq_comm]

/-- The row after a successor. -/
def HeadRow.advanced (contractId : String) (head : Head) (r : HeadRow) : HeadRow :=
  { r with contractId := contractId, revision := head.revision, digest := head.digest,
           status := .opened }

/-- The row after its acceptance. -/
def HeadRow.accepted (r : HeadRow) : HeadRow := { r with status := .locked }

/-- The row in another context. -/
def HeadRow.inContext (contextId : String) (r : HeadRow) : HeadRow := { r with contextId }

/-! ## The operations -/

/-- The first row of a task. -/
def ParsedContract.headRow (proposal : ParsedContract) (taskId originRoot : String) : HeadRow :=
  { taskId, contractId := proposal.contract.contractId, revision := proposal.contract.revision,
    digest := proposal.digest, status := .opened, contextId := "", originRoot }

/-- The stored revision. -/
def ParsedContract.row (proposal : ParsedContract) (taskId : String) (expiresAt : Time) :
    ContractRow :=
  { digest := proposal.digest, taskId, contractId := proposal.contract.contractId,
    revision := proposal.contract.revision, payload := proposal.payload, expiresAt }

/-- A revision is submitted. -/
def submitRevision (taskId : String) (proposal : ParsedContract) (originRoot : String)
    (expiresAtUnix now : Time) (s : Store) : Except StoreError (RevisionVerdict × Store) :=
  match applyRevision (s.contractHead taskId) proposal with
  | .stale reason => .ok (.stale reason, s)
  | .advance newHead =>
    match s.contractHeads.upsert (fun r => r.taskId = taskId)
      (HeadRow.advanced proposal.contract.contractId newHead)
      (proposal.headRow taskId originRoot) with
    | none => .error .db
    | some heads =>
      let s := { s with
        contractHeads := heads
        contracts := s.contracts.insertIgnore (proposal.row taskId expiresAtUnix) }
      .ok (.advance newHead, s.auditAppend now "contract.submitted" proposal.digest)

/-- The row is open at this digest. -/
def HeadRow.isOpenAt (taskId digest : String) (r : HeadRow) : Bool :=
  r.taskId = taskId ∧ r.digest = digest ∧ r.status = .opened

theorem HeadRow.isOpenAt_iff {digest : String} :
    r.isOpenAt taskId digest = true ↔ r.taskId = taskId ∧ r.digest = digest ∧ r.status = .opened := by
  simp [HeadRow.isOpenAt]

/-- A revision is accepted, and its head locked. -/
def acceptContract (env : Env) (taskId acceptedDigest : String) (now : Time) (s : Store) :
    Except StoreError (Except LockError Unit × Store) :=
  match acceptHead (s.contractHead taskId) acceptedDigest with
  | .error e => .ok (.error e, s)
  | .ok _ =>
    if s.contractHeads.count (HeadRow.isOpenAt taskId acceptedDigest) ≠ 1 then
      .error (.corrupt s!"contract head for {env.debugStr taskId} moved under accept (digest {env.debugStr acceptedDigest})")
    else
      let s := { s with
        contractHeads := s.contractHeads.updateWhere (HeadRow.isOpenAt taskId acceptedDigest)
          HeadRow.accepted }
      .ok (.ok (), s.auditAppend now "contract.accepted" acceptedDigest)

/-- The context of a task is replaced. -/
def setTaskContext (taskId contextId : String) (s : Store) : Store :=
  { s with
    contractHeads := s.contractHeads.updateWhere (fun r => r.taskId = taskId)
      (HeadRow.inContext contextId) }

/-- The row after the proposal, with or without one before. -/
def HeadRow.next (proposal : ParsedContract) (taskId originRoot : String) (row : Option HeadRow) :
    HeadRow :=
  (row.map (HeadRow.advanced proposal.contract.contractId proposal.head)).getD
    (proposal.headRow taskId originRoot)

theorem HeadRow.next_state (proposal : ParsedContract) (taskId originRoot : String)
    (row : Option HeadRow) :
    (HeadRow.next proposal taskId originRoot row).state = .opened proposal.head := by
  cases row <;> rfl

/-- A submission is refused, or makes the head that chains. -/
theorem submitRevision_cases {originRoot : String}
    (h : submitRevision taskId proposal originRoot expiresAt now s = .ok (answer, s')) :
    (∃ reason, answer = .stale reason ∧ ¬ Chains (s.contractHead taskId) proposal ∧ s' = s) ∨
      (answer = .advance proposal.head ∧ Chains (s.contractHead taskId) proposal ∧
        ∃ heads, s' = ({ s with
            contractHeads := heads
            contracts := s.contracts.insertIgnore (proposal.row taskId expiresAt) } :
              Store).auditAppend now "contract.submitted" proposal.digest ∧
          s'.headRow taskId = some (HeadRow.next proposal taskId originRoot (s.headRow taskId)) ∧
          ∀ u, u ≠ taskId → s'.headRow u = s.headRow u) := by
  unfold submitRevision at h
  split at h
  case h_1 reason hverdict =>
    cases h
    refine .inl ⟨reason, rfl, fun hchains => ?_, rfl⟩
    rw [applyRevision_eq_advance_iff.2 ⟨hchains, rfl⟩] at hverdict
    cases hverdict
  case h_2 newHead hverdict =>
    obtain ⟨hchains, rfl⟩ := applyRevision_eq_advance_iff.1 hverdict
    split at h
    case h_1 => cases h
    case h_2 heads hupsert =>
      cases h
      refine .inr ⟨rfl, hchains, heads, rfl, ?_, fun u hu => ?_⟩
      · exact find_upsert_self hupsert (fun _ => rfl) (decide_eq_true rfl)
      · refine find_upsert_of_not hupsert (fun _ => rfl) (decide_eq_true rfl) (fun a ha => ?_)
        exact decide_eq_false (fun hau => hu (hau ▸ of_decide_eq_true ha))

theorem submitRevision_total (taskId originRoot : String) (proposal : ParsedContract)
    (expiresAt now : Time) (s : Store) :
    ∃ answer s', submitRevision taskId proposal originRoot expiresAt now s = .ok (answer, s') := by
  unfold submitRevision
  split
  case h_1 => exact ⟨_, _, rfl⟩
  case h_2 =>
    split
    case h_1 hnone =>
      obtain ⟨a, hclash, hnot⟩ := clash_of_upsert_eq_none hnone
      exact absurd hclash (of_decide_eq_false hnot)
    case h_2 => exact ⟨_, _, rfl⟩

theorem Store.headRow_eq_some_iff {row : HeadRow} :
    s.headRow taskId = some row ↔ row ∈ s.contractHeads ∧ row.taskId = taskId := by
  rw [Store.headRow, find_eq_some_iff (onKey HeadRow.taskId taskId), decide_eq_true_iff]

/-- An acceptance is refused, or locks the open head. -/
theorem acceptContract_cases {digest : String}
    {answer : Except LockError Unit} (h : acceptContract env taskId digest now s = .ok (answer, s')) :
    (∃ e, answer = .error e ∧ acceptHead (s.contractHead taskId) digest = .error e ∧ s' = s) ∨
      (answer = .ok () ∧
        ∃ row heads, s.headRow taskId = some row ∧ row.status = .opened ∧ row.digest = digest ∧
          s' = ({ s with contractHeads := heads } : Store).auditAppend now "contract.accepted"
            digest ∧
          s'.headRow taskId = some row.accepted ∧
          ∀ u, u ≠ taskId → s'.headRow u = s.headRow u) := by
  unfold acceptContract at h
  split at h
  case h_1 e hrefused =>
    cases h
    exact .inl ⟨e, rfl, hrefused, rfl⟩
  case h_2 hlock =>
    split at h
    case isTrue => cases h
    case isFalse hcount =>
      cases h
      obtain ⟨row, hrow, hmatch⟩ := exists_of_count_eq_one (not_not.1 hcount)
      obtain ⟨htask, hdigest, hopen⟩ := HeadRow.isOpenAt_iff.1 hmatch
      have hfind := Store.headRow_eq_some_iff.2 ⟨hrow, htask⟩
      refine .inr ⟨rfl, row, _, hfind, hopen, hdigest, rfl, ?_, fun u hu => ?_⟩
      · exact find_updateWhere_self (f := HeadRow.accepted) hfind hmatch (fun _ => rfl)
      · refine find_updateWhere_of_not (f := HeadRow.accepted) (fun _ => rfl) (fun other hother => ?_)
        exact decide_eq_false (fun htasku => hu (htasku.symm.trans (HeadRow.isOpenAt_iff.1 hother).1))

theorem acceptContract_total (env : Env) (taskId digest : String) (now : Time) (s : Store) :
    ∃ answer s', acceptContract env taskId digest now s = .ok (answer, s') := by
  unfold acceptContract
  split
  case h_1 => exact ⟨_, _, rfl⟩
  case h_2 hlock =>
    obtain ⟨current, hhead, rfl, -⟩ := acceptHead_eq_ok_iff.1 hlock
    cases hrow : s.headRow taskId with
    | none => simp [Store.contractHead_eq_empty_iff.2 hrow] at hhead
    | some row =>
      rw [Store.contractHead_of_some hrow, HeadRow.state_eq_opened_iff] at hhead
      obtain ⟨hopen, rfl⟩ := hhead
      obtain ⟨hmem, htask⟩ := Store.headRow_eq_some_iff.1 hrow
      have hcount : s.contractHeads.count (HeadRow.isOpenAt taskId row.digest) = 1 :=
        count_eq_one (fun a b ha hb =>
          (HeadRow.isOpenAt_iff.1 ha).1.trans (HeadRow.isOpenAt_iff.1 hb).1.symm) hmem
          (HeadRow.isOpenAt_iff.2 ⟨htask, rfl, hopen⟩)
      rw [if_neg (not_not.2 hcount)]
      exact ⟨_, _, rfl⟩

theorem acceptContract_locks {digest : String}
    {head : Head} (hopen : s.contractHead taskId = .opened head)
    (h : acceptContract env taskId digest now s = .ok (.ok (), s')) :
    s'.contractHead taskId = .locked head ∧
      (∀ u, u ≠ taskId → s'.contractHead u = s.contractHead u) ∧
      ∃ heads audit, s' = { s with contractHeads := heads, audit := audit } := by
  obtain ⟨e, he, -⟩ | ⟨-, row, heads, hrow, hstatus, -, hs', hself, hother⟩ := acceptContract_cases h
  · cases he
  · rw [Store.contractHead_of_some hrow, HeadRow.state_eq_opened_iff] at hopen
    refine ⟨?_, fun u hu => ?_, heads, _, hs'⟩
    · rw [Store.contractHead_of_some hself, hopen.2]
      rfl
    · rw [Store.contractHead, hother u hu, Store.contractHead]

theorem setTaskContext_headRow (taskId contextId : String) (s : Store) (u : String) :
    (setTaskContext taskId contextId s).headRow u =
      (s.headRow u).map (fun r => if r.taskId = taskId then r.inContext contextId else r) := by
  rw [setTaskContext, Store.headRow, Store.headRow,
    find_updateWhere (f := HeadRow.inContext contextId) (fun _ => rfl)]
  simp

theorem setTaskContext_contractHead (taskId contextId : String) (s : Store) (u : String) :
    (setTaskContext taskId contextId s).contractHead u = s.contractHead u := by
  unfold Store.contractHead
  rw [setTaskContext_headRow]
  cases s.headRow u with
  | none => rfl
  | some row =>
    change (if row.taskId = taskId then row.inContext contextId else row).state = row.state
    by_cases htask : row.taskId = taskId
    · rw [if_pos htask]
      rfl
    · rw [if_neg htask]

def HeadState.digest : HeadState → Option String
  | .empty => none
  | .opened head | .locked head => some head.digest

theorem submitRevision_contractHead_self {originRoot : String}
    (h : submitRevision taskId proposal originRoot expiresAt now s = .ok (answer, s'))
    (hchains : Chains (s.contractHead taskId) proposal) :
    s'.contractHead taskId = .opened proposal.head := by
  obtain ⟨-, -, hnot, -⟩ | ⟨-, -, heads, -, hself, -⟩ := submitRevision_cases h
  · exact absurd hchains hnot
  · rw [Store.contractHead_of_some hself, HeadRow.next_state]

theorem submitRevision_contractHead_of_not {originRoot : String}
    (h : submitRevision taskId proposal originRoot expiresAt now s = .ok (answer, s')) {u : String}
    (hu : u ≠ taskId ∨ ¬ Chains (s.contractHead taskId) proposal) :
    s'.contractHead u = s.contractHead u := by
  obtain ⟨-, -, -, rfl⟩ | ⟨-, hchains, heads, -, -, hother⟩ := submitRevision_cases h
  · rfl
  · rw [Store.contractHead, Store.contractHead, hother u (hu.resolve_right (not_not.2 hchains))]

theorem ne_opened_of_chains (h : Chains head proposed) : HeadState.opened proposed.head ≠ head := by
  rintro rfl
  have hrev : proposed.contract.revision = proposed.contract.revision + 1 := h.1
  omega

theorem not_chains_of_submitRevision {originRoot : String}
    (h : submitRevision taskId proposal originRoot expiresAt now s = .ok (answer, s')) :
    ¬ Chains (s'.contractHead taskId) proposal := by
  intro hagain
  by_cases hchains : Chains (s.contractHead taskId) proposal
  · rw [submitRevision_contractHead_self h hchains] at hagain
    exact ne_opened_of_chains hagain rfl
  · rw [submitRevision_contractHead_of_not h (.inr hchains)] at hagain
    exact hchains hagain

theorem submitRevision_again {originRoot : String} {s₁ : Store}
    (h : submitRevision taskId proposal originRoot expiresAt now s = .ok (answer, s₁))
    (hhead : c.contractHead taskId = s₁.contractHead taskId)
    (hagain : submitRevision taskId proposal originRoot expiresAt later c = .ok (answer', c₁)) :
    c₁ = c := by
  rcases submitRevision_cases hagain with ⟨_, -, -, hsame⟩ | ⟨-, hchains, -⟩
  · exact hsame
  · rw [hhead] at hchains
    exact absurd hchains (not_chains_of_submitRevision h)

theorem submitRevision_congr {originRoot : String} {s₁ : Store}
    (h : submitRevision taskId proposal originRoot expiresAt now s = .ok (answer, s₁))
    (hheads : c.contractHeads = s.contractHeads) (hcontracts : c.contracts = s.contracts)
    (hlater : submitRevision taskId proposal originRoot expiresAt later c = .ok (answer', c₁)) :
    c₁.contractHeads = s₁.contractHeads ∧ c₁.contracts = s₁.contracts := by
  have hhead : c.contractHead taskId = s.contractHead taskId := by
    rw [Store.contractHead, Store.headRow, hheads, ← Store.headRow, ← Store.contractHead]
  unfold submitRevision at h hlater
  rw [hhead, hheads, hcontracts] at hlater
  split at h
  case h_1 reason hverdict =>
    simp only [hverdict] at hlater
    cases h
    cases hlater
    exact ⟨hheads, hcontracts⟩
  case h_2 newHead hverdict =>
    simp only [hverdict] at hlater
    split at h
    case h_1 => cases h
    case h_2 heads hupsert =>
      simp only [hupsert] at hlater
      cases h
      cases hlater
      exact ⟨rfl, rfl⟩

theorem setTaskContext_congr (taskId contextId : String) (h : c.contractHeads = s.contractHeads) :
    (setTaskContext taskId contextId c).contractHeads =
      (setTaskContext taskId contextId s).contractHeads := by
  simp only [setTaskContext, h]

theorem setTaskContext_again (taskId contextId : String) (s : Store) :
    setTaskContext taskId contextId (setTaskContext taskId contextId s) =
      setTaskContext taskId contextId s := by
  unfold setTaskContext
  simp only [updateWhere_updateWhere (f := HeadRow.inContext contextId) (fun _ => rfl)]

/-! ## Runs -/

/-- The operations on heads, with their answers. -/
inductive HeadEvent where
  | submit (taskId : String) (proposal : ParsedContract) (originRoot : String)
      (expiresAt now : Time) (answer : Except StoreError RevisionVerdict)
  | accept (taskId digest : String) (now : Time)
      (answer : Except StoreError (Except LockError Unit))
  | context (taskId contextId : String)

/-- One operation on the heads. -/
def HeadStep (env : Env) (s : Store) (e : HeadEvent) (s' : Store) : Prop :=
  match e with
  | .submit taskId proposal originRoot expiresAt now answer =>
    transact (submitRevision taskId proposal originRoot expiresAt now) s = (answer, s')
  | .accept taskId digest now answer =>
    transact (acceptContract env taskId digest now) s = (answer, s')
  | .context taskId contextId => s' = setTaskContext taskId contextId s

namespace HeadEvent

/-- The revision of the task that the event accepts. -/
def accepted (t : String) : HeadEvent → Option (ParsedContract × String)
  | .submit taskId proposal originRoot _ _ (.ok (.advance _)) =>
    if taskId = t then some (proposal, originRoot) else none
  | _ => none

/-- The event locks the task. -/
def locks (t : String) : HeadEvent → Bool
  | .accept taskId _ _ (.ok (.ok ())) => taskId = t
  | _ => false

end HeadEvent

/-- Rows that differ in the context at most. -/
def HeadRow.SameHead (r r' : HeadRow) : Prop := ∃ contextId, r' = r.inContext contextId

theorem HeadRow.sameHead_self (r : HeadRow) : r.SameHead r := ⟨r.contextId, rfl⟩

/-- What one operation does to the head of a task. -/
theorem headStep_cases (h : HeadStep env s e s') (t : String) :
    (∃ p root expiresAt now, e = .submit t p root expiresAt now (.ok (.advance p.head)) ∧
        Chains (s.contractHead t) p ∧ s'.headRow t = some (HeadRow.next p t root (s.headRow t))) ∨
      (∃ now row, e = .accept t row.digest now (.ok (.ok ())) ∧ s.headRow t = some row ∧
        row.status = .opened ∧ s'.headRow t = some row.accepted) ∨
      (e.accepted t = none ∧ e.locks t = false ∧
        Option.Rel HeadRow.SameHead (s.headRow t) (s'.headRow t)) := by
  have hrefl : ∀ o : Option HeadRow, Option.Rel HeadRow.SameHead o o := by
    rintro (_ | r)
    · exact Option.Rel.none
    · exact Option.Rel.some r.sameHead_self
  cases e with
  | submit u p root expiresAt now answer =>
    obtain ⟨verdict, s₁, hrun⟩ := submitRevision_total u root p expiresAt now s
    simp only [HeadStep, transact, hrun] at h
    cases h
    rcases submitRevision_cases hrun with ⟨reason, rfl, -, rfl⟩ | ⟨rfl, hchains, heads, rfl, hself, hother⟩
    · exact .inr (.inr ⟨rfl, rfl, hrefl _⟩)
    · by_cases hut : u = t
      · subst hut
        exact .inl ⟨p, root, expiresAt, now, rfl, hchains, hself⟩
      · refine .inr (.inr ⟨if_neg hut, rfl, ?_⟩)
        rw [hother t (Ne.symm hut)]
        exact hrefl _
  | accept u digest now answer =>
    obtain ⟨locked, s₁, hrun⟩ := acceptContract_total env u digest now s
    simp only [HeadStep, transact, hrun] at h
    cases h
    rcases acceptContract_cases hrun with
      ⟨reason, rfl, -, rfl⟩ | ⟨rfl, row, heads, hrow, hopen, rfl, rfl, hself, hother⟩
    · exact .inr (.inr ⟨rfl, rfl, hrefl _⟩)
    · by_cases hut : u = t
      · subst hut
        exact .inr (.inl ⟨now, row, rfl, hrow, hopen, hself⟩)
      · refine .inr (.inr ⟨rfl, decide_eq_false hut, ?_⟩)
        rw [hother t (Ne.symm hut)]
        exact hrefl _
  | context u contextId =>
    rw [show s' = setTaskContext u contextId s from h]
    refine .inr (.inr ⟨rfl, rfl, ?_⟩)
    rw [setTaskContext_headRow]
    cases s.headRow t with
    | none => exact Option.Rel.none
    | some row =>
      rw [map_some]
      refine Option.Rel.some ?_
      split
      · exact ⟨contextId, rfl⟩
      · exact row.sameHead_self

/-- Revisions counted from zero, each naming the one before. -/
def Chained (l : List (ParsedContract × String)) : Prop :=
  ∀ i a, l[i]? = some a → a.1.contract.revision = i ∧
    (0 < i → ∃ b, l[i - 1]? = some b ∧ a.1.contract.predecessorDigest = some b.1.digest)

theorem chained_nil : Chained [] := by
  intro i a h
  simp at h

theorem Chained.concat (h : Chained l)
    {a : ParsedContract × String} (hrev : a.1.contract.revision = l.length)
    (hpred : ∀ b, l.getLast? = some b → a.1.contract.predecessorDigest = some b.1.digest) :
    Chained (l ++ [a]) := by
  intro i c hc
  rw [getElem?_append] at hc
  split at hc
  case isTrue hi =>
    obtain ⟨hrevc, hprev⟩ := h i c hc
    refine ⟨hrevc, fun hpos => ?_⟩
    obtain ⟨b, hb, hdigest⟩ := hprev hpos
    exact ⟨b, by rw [getElem?_append_left (by omega), hb], hdigest⟩
  case isFalse hi =>
    obtain ⟨hi', rfl⟩ : i = l.length ∧ c = a := by
      rw [getElem?_singleton] at hc
      split at hc
      · exact ⟨by omega, (some.inj hc).symm⟩
      · cases hc
    subst hi'
    refine ⟨hrev, fun hpos => ?_⟩
    obtain ⟨b, hb⟩ : ∃ b, l.getLast? = some b := by
      rw [← isSome_iff_exists, getLast?_isSome]
      exact ne_nil_of_length_pos hpos
    refine ⟨b, ?_, hpred b hb⟩
    rw [getElem?_append_left (by omega), ← getLast?_eq_getElem?, hb]

/-- The head and its origin are those of the accepted revisions. -/
structure Follows (t : String) (l : List (ParsedContract × String)) (s : Store) : Prop where
  chained : Chained l
  head : (s.headRow t).map (fun r => (⟨r.revision, r.digest⟩ : Head)) =
    l.getLast?.map (fun a => a.1.head)
  origin : s.originRoot t = l.head?.map Prod.snd

theorem follows_nil (h : s.contractHead t = .empty) : Follows t [] s := by
  have hrow := Store.contractHead_eq_empty_iff.1 h
  exact ⟨chained_nil, by rw [hrow]; rfl, by rw [Store.originRoot, hrow]; rfl⟩

theorem Follows.of_rel
    (h : Follows t l s) (hrel : Option.Rel HeadRow.SameHead (s.headRow t) (s'.headRow t)) :
    Follows t l s' := by
  have hsame : (s'.headRow t).map (fun r => (⟨r.revision, r.digest⟩ : Head)) =
        (s.headRow t).map (fun r => ⟨r.revision, r.digest⟩) ∧
      s'.originRoot t = s.originRoot t := by
    rw [Store.originRoot, Store.originRoot]
    generalize s.headRow t = o, s'.headRow t = o' at hrel
    cases hrel with
    | none => exact ⟨rfl, rfl⟩
    | some hr =>
      obtain ⟨contextId, rfl⟩ := hr
      exact ⟨rfl, rfl⟩
  exact ⟨h.chained, hsame.1.trans h.head, hsame.2.trans h.origin⟩

theorem Follows.advance {root : String}
    {p : ParsedContract} (h : Follows t l s) (hchains : Chains (s.contractHead t) p)
    (hrow' : s'.headRow t = some (HeadRow.next p t root (s.headRow t))) :
    Follows t (l ++ [(p, root)]) s' := by
  have hhead := h.head
  have horigin := h.origin
  rw [Store.originRoot] at horigin
  cases hrow : s.headRow t with
  | none =>
    -- no row: the history is empty, and the revision is the first one
    rw [hrow, map_none, eq_comm, map_eq_none_iff, getLast?_eq_none_iff] at hhead
    subst hhead
    rw [Store.contractHead_eq_empty_iff.2 hrow] at hchains
    refine ⟨h.chained.concat hchains (by simp), ?_, ?_⟩
    · rw [hrow', hrow]
      rfl
    · rw [Store.originRoot, hrow', hrow]
      rfl
  | some row =>
    rw [hrow, map_some, eq_comm, map_eq_some_iff] at hhead
    obtain ⟨b, hlast, hb⟩ := hhead
    have hne : l ≠ [] := by
      rintro rfl
      cases hlast
    -- a row: the revision chains onto the last one of the history
    rw [Store.contractHead_of_some hrow] at hchains
    have hrevb : b.1.contract.revision = row.revision := congrArg Head.revision hb
    have hdigestb : b.1.digest = row.digest := congrArg Head.digest hb
    have hbrev : b.1.contract.revision = l.length - 1 :=
      (h.chained _ b (by rw [← getLast?_eq_getElem?, hlast])).1
    have hpos := length_pos_of_ne_nil hne
    obtain ⟨hrev, hpred⟩ : p.contract.revision = row.revision + 1 ∧
        p.contract.predecessorDigest = some row.digest := by
      cases hstate : row.state with
      | empty => exact absurd hstate row.state_ne_empty
      | locked current => rw [hstate] at hchains; exact hchains.elim
      | opened current =>
        rw [hstate] at hchains
        rw [(HeadRow.state_eq_opened_iff.1 hstate).2] at hchains
        exact hchains
    refine ⟨h.chained.concat (by rw [hrev]; omega) (fun c hc => ?_), ?_, ?_⟩
    · rw [hlast] at hc
      rw [hpred, ← some.inj hc, hdigestb]
    · rw [hrow', hrow, getLast?_concat]
      rfl
    · rw [Store.originRoot, hrow', hrow, head?_append_of_ne_nil _ hne, ← horigin, hrow]
      rfl

theorem Follows.lock {row : HeadRow} (h : Follows t l s) (hrow : s.headRow t = some row)
    (hrow' : s'.headRow t = some row.accepted) : Follows t l s' := by
  refine ⟨h.chained, ?_, ?_⟩
  · rw [← h.head, hrow, hrow']
    rfl
  · rw [← h.origin, Store.originRoot, Store.originRoot, hrow, hrow']
    rfl

theorem Follows.step (h : Follows t l s) (he : HeadStep env s e s') :
    Follows t (l ++ (e.accepted t).toList) s' := by
  rcases headStep_cases he t with
    ⟨p, root, expiresAt, now, rfl, hchains, hrow'⟩ | ⟨now, row, rfl, hrow, -, hrow'⟩ |
      ⟨hnone, -, hrel⟩
  · rw [HeadEvent.accepted, if_pos rfl]
    exact h.advance hchains hrow'
  · change Follows t (l ++ []) s'
    rw [append_nil]
    exact h.lock hrow hrow'
  · rw [hnone, toList_none, append_nil]
    exact h.of_rel hrel

/-- A run extends the chain by what it accepts. -/
theorem Follows.run (h : Follows t l s) (run : Trace (HeadStep env) s es s') :
    Follows t (l ++ es.filterMap (HeadEvent.accepted t)) s' := by
  induction run generalizing l with
  | nil => simpa using h
  | @cons s s₁ s' e es he _ ih =>
    have hstep := ih (h.step he)
    rw [append_assoc] at hstep
    cases hacc : e.accepted t with
    | none => simpa [hacc, filterMap_cons] using hstep
    | some a => simpa [hacc, filterMap_cons] using hstep

/-! ## Locking -/

theorem Store.contractHead_eq_locked_iff {head : Head} :
    s.contractHead taskId = .locked head ↔
      ∃ row, s.headRow taskId = some row ∧ row.status = .locked ∧
        head = ⟨row.revision, row.digest⟩ := by
  unfold Store.contractHead
  cases s.headRow taskId with
  | none => simp
  | some row => simp [HeadRow.state_eq_locked_iff]

theorem headStep_locked {head : Head}
    (he : HeadStep env s e s') (h : s.contractHead t = .locked head) :
    s'.contractHead t = .locked head ∧ e.accepted t = none ∧ e.locks t = false := by
  obtain ⟨row, hrow, hlocked, rfl⟩ := Store.contractHead_eq_locked_iff.1 h
  rcases headStep_cases he t with
    ⟨p, root, expiresAt, now, rfl, hchains, -⟩ | ⟨now, row', rfl, hrow', hopen, -⟩ |
      ⟨hnone, hlocks, hrel⟩
  · rw [h] at hchains
    exact hchains.elim
  · rw [hrow, some.injEq] at hrow'
    rw [← hrow', hlocked] at hopen
    cases hopen
  · refine ⟨?_, hnone, hlocks⟩
    rw [hrow] at hrel
    generalize hs' : s'.headRow t = o' at hrel
    cases hrel with
    | some hr =>
      obtain ⟨contextId, rfl⟩ := hr
      exact Store.contractHead_eq_locked_iff.2 ⟨_, hs', hlocked, rfl⟩

theorem headStep_locks {digest : String}
    (he : HeadStep env s (.accept t digest now (.ok (.ok ()))) s') :
    ∃ revision, s.contractHead t = .opened ⟨revision, digest⟩ ∧
      s'.contractHead t = .locked ⟨revision, digest⟩ := by
  rcases headStep_cases he t with
    ⟨p, root, expiresAt, now, hne, -⟩ | ⟨now, row, heq, hrow, hopen, hrow'⟩ | ⟨-, hlocks, -⟩
  · cases hne
  · obtain ⟨-, rfl, -, -⟩ := HeadEvent.accept.inj heq
    refine ⟨row.revision, ?_, Store.contractHead_eq_locked_iff.2 ⟨_, hrow', rfl, rfl⟩⟩
    rw [Store.contractHead_of_some hrow, HeadRow.state_eq_opened_iff]
    exact ⟨hopen, rfl⟩
  · simp [HeadEvent.locks] at hlocks

theorem headStep_submit_answer {root : String} {p : ParsedContract}
    {answer : Except StoreError RevisionVerdict}
    (he : HeadStep env s (.submit t p root expiresAt now answer) s')
    (hnone : (HeadEvent.submit t p root expiresAt now answer).accepted t = none) :
    ∃ reason, answer = .ok (.stale reason) := by
  obtain ⟨verdict, s₁, hrun⟩ := submitRevision_total t root p expiresAt now s
  simp only [HeadStep, transact, hrun] at he
  cases he
  cases verdict with
  | stale reason => exact ⟨reason, rfl⟩
  | advance head => simp [HeadEvent.accepted] at hnone

theorem run_locked {head : Head}
    (run : Trace (HeadStep env) s es s') (h : s.contractHead t = .locked head) :
    s'.contractHead t = .locked head :=
  run.invariant (I := fun s => s.contractHead t = .locked head)
    (fun _ _ _ hs he => (headStep_locked he hs).1) h

theorem countP_locks_le_one (t : String)
    (run : Trace (HeadStep env) s es s') : es.countP (HeadEvent.locks t) ≤ 1 := by
  refine run.countP_le_one (I := fun _ => True) (P := fun s => ∃ head, s.contractHead t = .locked head)
    (fun _ _ _ _ _ => trivial) ?_ ?_ ?_ trivial
  · rintro s e s' - ⟨head, hs⟩ he
    exact ⟨head, (headStep_locked he hs).1⟩
  · rintro s e s' - he hlocks
    rcases headStep_cases he t with
      ⟨p, root, expiresAt, now, rfl, -⟩ | ⟨now, row, rfl, -, -, hrow'⟩ | ⟨-, hnot, -⟩
    · cases hlocks
    · exact ⟨_, Store.contractHead_eq_locked_iff.2 ⟨_, hrow', rfl, rfl⟩⟩
    · rw [hnot] at hlocks
      cases hlocks
  · rintro s e s' - ⟨head, hs⟩ he
    exact (headStep_locked he hs).2.2

/-- **One head, one lock.**  In every run of the heads from a store that has none for the task:
a head that is locked stays at its revision and digest, and later submissions are stale; the
accepted revisions are a chain; at most one acceptance succeeds, and it names the digest of the
head it finds; and the head keeps the origin of the first revision. -/
theorem heads_chain_and_lock_once (env : Env) (t : String) {s₀ s₁ s₂ : Store}
    {es₁ es₂ : List HeadEvent} (hfresh : s₀.contractHead t = .empty)
    (run₁ : Trace (HeadStep env) s₀ es₁ s₁) (run₂ : Trace (HeadStep env) s₁ es₂ s₂) :
    (∀ head, s₁.contractHead t = .locked head → s₂.contractHead t = .locked head ∧
      ∀ p root expiresAt now answer, .submit t p root expiresAt now answer ∈ es₂ →
        ∃ reason, answer = .ok (.stale reason)) ∧
    (∀ i p root, (es₁.filterMap (HeadEvent.accepted t))[i]? = some (p, root) →
      p.contract.revision = i ∧
        (0 < i → ∃ q root', (es₁.filterMap (HeadEvent.accepted t))[i - 1]? = some (q, root') ∧
          p.contract.predecessorDigest = some q.digest)) ∧
    (es₁.countP (HeadEvent.locks t) ≤ 1 ∧
      ∀ digest now s, HeadStep env s₁ (.accept t digest now (.ok (.ok ()))) s →
        ∃ revision, s₁.contractHead t = .opened ⟨revision, digest⟩ ∧
          s.contractHead t = .locked ⟨revision, digest⟩) ∧
    (∀ root, s₁.originRoot t = some root →
      ∃ p, (es₁.filterMap (HeadEvent.accepted t))[0]? = some (p, root) ∧
        p.contract.revision = 0) := by
  have hfollows : Follows t (es₁.filterMap (HeadEvent.accepted t)) s₁ := (follows_nil hfresh).run run₁
  refine ⟨fun head hlocked => ⟨run_locked run₂ hlocked, ?_⟩, ?_,
    ⟨countP_locks_le_one t run₁, fun _ _ _ he => headStep_locks he⟩, ?_⟩
  · have hall := run₂.forall_mem_of_stable (I := fun _ => True)
      (P := fun s => s.contractHead t = .locked head)
      (Q := fun e => ∀ p root expiresAt now answer, e = .submit t p root expiresAt now answer →
        ∃ reason, answer = .ok (.stale reason))
      (fun _ _ _ _ _ => trivial) (fun _ _ _ _ hs he => (headStep_locked he hs).1)
      (by
        rintro s e s' - hs he p root expiresAt now answer rfl
        exact headStep_submit_answer he (headStep_locked he hs).2.1) trivial hlocked
    intro p root expiresAt now answer hmem
    exact hall _ hmem p root expiresAt now answer rfl
  · intro i p root hi
    obtain ⟨hrev, hprev⟩ := hfollows.chained i (p, root) hi
    refine ⟨hrev, fun hpos => ?_⟩
    obtain ⟨⟨q, root'⟩, hq, hdigest⟩ := hprev hpos
    exact ⟨q, root', hq, hdigest⟩
  · intro root hroot
    rw [hfollows.origin, head?_eq_getElem?, map_eq_some_iff] at hroot
    obtain ⟨⟨p, _⟩, hp, rfl⟩ := hroot
    exact ⟨p, hp, (hfollows.chained 0 _ hp).1⟩

/-- A first revision, the one that chains onto it, its acceptance, and a second successor. -/
theorem heads_chain_and_lock_once_sample : ∃ s₁ s₂ es₁ es₂,
    Store.contractHead {} "task-1" = .empty ∧ Trace (HeadStep Env.inert) {} es₁ s₁ ∧
    Trace (HeadStep Env.inert) s₁ es₂ s₂ ∧ es₁.countP (HeadEvent.locks "task-1") = 1 ∧
    (es₁.filterMap (HeadEvent.accepted "task-1")).length = 2 ∧
    s₂.contractHead "task-1" = .locked ⟨1, "d1"⟩ := by
  let first : ParsedContract := ⟨Contract.sample, "d0", []⟩
  let second (digest : String) : ParsedContract :=
    ⟨{ Contract.sample with revision := 1, predecessorDigest := some "d0" }, digest, []⟩
  have run₁ : Trace (HeadStep Env.inert) {} [.submit "task-1" first "root" 100 1 _,
      .submit "task-1" (second "d1") "root" 100 2 _, .accept "task-1" "d1" 3 _] _ :=
    .cons rfl (.cons rfl (.cons rfl (.nil _)))
  have run₂ (s : Store) : Trace (HeadStep Env.inert) s [.submit "task-1" (second "d2") "root" 100 4 _] _ :=
    .cons rfl (.nil _)
  exact ⟨_, _, _, _, rfl, run₁, run₂ _, by decide, by decide +kernel,
    ((heads_chain_and_lock_once Env.inert "task-1" rfl run₁ (run₂ _)).1 ⟨1, "d1"⟩
      (by decide)).1⟩

end Akson
