/-
# The context of a locked task

The context id stands on the row of the head, and a signed decision refers to it.
-/
import Akson.Receive.Http

namespace Akson

open Operation

/-! ## One write -/

def KeepsRow (t : String) (row : HeadRow) (s s' : Store) : Prop :=
  s.headRow t = some row → s'.headRow t = some row

section Writes

variable {t : String} {row : HeadRow}

theorem KeepsRow.refl (s : Store) : KeepsRow t row s s := fun h => h

theorem KeepsRow.trans (s₁ s₂ s₃ : Store) (h : KeepsRow t row s₁ s₂) (h' : KeepsRow t row s₂ s₃) :
    KeepsRow t row s₁ s₃ :=
  fun hrow => h' (h hrow)

theorem KeepsRow.of_eq {s s' : Store} (h : s'.contractHeads = s.contractHeads) :
    KeepsRow t row s s' := by
  intro hrow
  rw [Store.headRow, h]
  exact hrow

theorem keepsRow_submitRevision (hlocked : row.status = .locked) {u originRoot : String}
    {proposal : ParsedContract} {expires now : Time} {verdict : RevisionVerdict} {s s' : Store}
    (h : submitRevision u proposal originRoot expires now s = .ok (verdict, s')) :
    KeepsRow t row s s' := by
  intro hrow
  obtain ⟨-, -, -, rfl⟩ | ⟨-, hchains, heads, -, -, hother⟩ := submitRevision_cases h
  · exact hrow
  · by_cases hu : t = u
    · subst hu
      have hhead : s.contractHead t = .locked ⟨row.revision, row.digest⟩ := by
        rw [Store.contractHead_of_some hrow, HeadRow.state, hlocked]
      rw [hhead] at hchains
      cases hchains
    · rw [hother t hu]
      exact hrow

theorem keepsRow_setTaskContext {u contextId : String} (h : u = t → contextId = row.contextId)
    (s : Store) : KeepsRow t row s (setTaskContext u contextId s) := by
  intro hrow
  have htask := (Store.headRow_eq_some_iff.1 hrow).2
  rw [setTaskContext_headRow, hrow, Option.map_some]
  by_cases hu : row.taskId = u
  · rw [if_pos hu, h (hu.symm.trans htask)]
    rfl
  · rw [if_neg hu]

end Writes

/-! ## One proposal -/

/-- A proposal as it comes in, and after how many commits it is cut off. -/
structure ProposalRequest where
  covered : CoveredValues
  parts : List Part
  contextId : String
  parties : Parties
  body : Bytes
  now : Time
  made : ℕ

def ProposalRequest.dispatch (env : Env) (key : Bytes) (r : ProposalRequest) :
    Operation Store StoreError Dispatched :=
  dispatchProposal env key r.covered r.parts r.contextId r.parties r.body r.now

def ProposalRequest.InContext (env : Env) (t : String) (s : Store) (r : ProposalRequest) : Prop :=
  ∀ row received expires, s.headRow t = some row →
    s.priorResponse r.covered.peer r.covered.messageId = none →
    validateProposal env r.covered.messageId r.parts r.parties r.now = .ok (received, expires) →
    taskIdOf received.proposal.digest = t → r.contextId = row.contextId

theorem headRow_proposal {env : Env} {key : Bytes} {t : String} {r : ProposalRequest} {s : Store}
    {row : HeadRow} (hrow : s.headRow t = some row) (hlocked : row.status = .locked)
    (hcontext : r.InContext env t s) :
    ∀ s' ∈ s :: commits (r.dispatch env key) s, s'.headRow t = some row := by
  cases hprior : s.priorResponse r.covered.peer r.covered.messageId with
  | some prior =>
    have hnothing : commits (r.dispatch env key) s = [] := commits_of_recorded hprior
    intro s' hs'
    rw [hnothing, List.mem_singleton] at hs'
    rw [hs']
    exact hrow
  | none =>
    have hkeeps : Moves (KeepsRow t row) (r.dispatch env key) := by
      refine moves_dispatchProposal KeepsRow.refl KeepsRow.trans ?_
        (fun _ h => keepsRow_submitRevision hlocked h) ?_ (fun row s => KeepsRow.of_eq rfl)
      · intro _ _ _ _ s s' h
        obtain ⟨inbox, rfl⟩ := receiveRequest_eq h
        exact KeepsRow.of_eq rfl
      · intro received expires hvalid s
        exact keepsRow_setTaskContext (hcontext row received expires hrow hprior hvalid) s
    intro s' hs'
    exact hkeeps s s' hs' hrow

/-! ## Every run -/

def ProposalStep (env : Env) (key : Bytes) (s : Store) (r : ProposalRequest) (s' : Store) : Prop :=
  s' = after r.made (r.dispatch env key) s

/-- **A locked task keeps its context as long as no proposal for it comes under another one.**  In
every run of received proposals, from any peers and cut off anywhere, in which each proposal for the
task that validates and is not on record comes under the context that is recorded, the head of a
locked task stays where it is, locked, and so does the recorded context. -/
theorem locked_task_keeps_context (env : Env) (key : Bytes) (t : String) (head : Head)
    (s s' : Store) (rs : List ProposalRequest) (hlocked : s.contractHead t = .locked head)
    (hrun : Trace (fun s r s' => ProposalStep env key s r s' ∧ r.InContext env t s) s rs s') :
    s'.contractHead t = .locked head ∧ s'.taskContext t = s.taskContext t := by
  cases hrow : s.headRow t with
  | none =>
    rw [Store.contractHead, hrow] at hlocked
    cases hlocked
  | some row =>
    rw [Store.contractHead_of_some hrow] at hlocked
    have hstatus := (HeadRow.state_eq_locked_iff.1 hlocked).1
    have hrow' : s'.headRow t = some row := by
      refine hrun.invariant (I := fun s => s.headRow t = some row) ?_ hrow
      rintro s r _ hs ⟨rfl, hcontext⟩
      exact headRow_proposal hs hstatus hcontext _ (after_mem _ _ _)
    rw [Store.contractHead_of_some hrow', Store.taskContext, Store.taskContext, hrow', hrow]
    exact ⟨hlocked, rfl⟩

theorem headRow_of_resent {env : Env} (key : Bytes) (r : ProposalRequest) {s : Store}
    {received : ReceivedProposal} {expires : Time} {row : HeadRow}
    (hnone : s.priorResponse r.covered.peer r.covered.messageId = none)
    (hvalid : validateProposal env r.covered.messageId r.parts r.parties r.now =
      .ok (received, expires))
    (hrow : s.headRow received.taskId = some row)
    (hlocked : row.status = .locked) :
    ∃ response s', exec (r.dispatch env key) s =
        (.ok ⟨.submitted received.taskId, response⟩, s') ∧
      s'.headRow received.taskId = some (row.inContext r.contextId) := by
  obtain ⟨s', hrun⟩ : ∃ s', exec (r.dispatch env key) s = _ := dispatchProposal_of_valid hnone hvalid
  refine ⟨_, s', hrun, ?_⟩
  obtain ⟨-, received', expires', hvalid', hsubmit⟩ := dispatchProposal_submitted hrun
  obtain ⟨rfl, rfl⟩ := Prod.mk.inj (Except.ok.inj (hvalid.symm.trans hvalid'))
  obtain ⟨-, verdict, s₁, receipt, hrevision, hreceive⟩ := submitProposal_ok hsubmit
  obtain ⟨inbox, rfl⟩ := receiveRequest_eq hreceive
  have hrow₁ := keepsRow_submitRevision hlocked hrevision hrow
  have htask := (Store.headRow_eq_some_iff.1 hrow).2
  have hcontext : (setTaskContext received.taskId r.contextId s₁).headRow
      received.taskId = some (row.inContext r.contextId) := by
    rw [setTaskContext_headRow, hrow₁, Option.map_some, if_pos htask]
  obtain ⟨audit, hinputs⟩ := foldl_putTaskInput_eq r.now (received.rows env)
    (setTaskContext received.taskId r.contextId s₁)
  rw [hinputs]
  exact hcontext

/-! ## One contract, under two contexts -/

theorem validate_exportWire (messageId : String) :
    validateProposal exportWire.env messageId exportWire.parts exportWire.parties 1800000000 =
      .ok (⟨exportWire.parsed, []⟩, 1893456000) :=
  exportWire.validate (exportWire.extractProposal_of_nil rfl messageId)
    ⟨by decide, by decide, by rintro p ⟨⟩, by rintro e ⟨⟩⟩ rfl rfl

def acceptedRow : HeadRow where
  taskId := "task-312ba7e74110925581313d7d5631c42f"
  contractId := "00000000-0000-4000-8000-000000000000"
  revision := 0
  digest := exportWire.parsed.digest
  status := .locked
  contextId := "ctx-1"
  originRoot := "root-fixture-aaaaaaaaaaaaaaaaaaaaaaaaaaaaaa"

def acceptedStore : Store :=
  { contractHeads := ⟨[acceptedRow], List.pairwise_singleton _ _⟩ }

theorem headRow_acceptedStore :
    acceptedStore.headRow "task-312ba7e74110925581313d7d5631c42f" = some acceptedRow := by
  rw [Store.headRow_eq_some_iff]
  exact ⟨List.mem_singleton.2 rfl, rfl⟩

def resent (contextId : String) : ProposalRequest where
  covered := { wireCovered with messageId := "m2" }
  parts := exportWire.parts
  contextId := contextId
  parties := exportWire.parties
  body := []
  now := 1800000000
  made := 3

theorem locked_task_keeps_context_resent : ∃ s',
    ProposalStep exportWire.env sampleKey acceptedStore (resent "ctx-1") s' ∧
    acceptedStore.contractHead "task-312ba7e74110925581313d7d5631c42f" =
      .locked ⟨0, exportWire.parsed.digest⟩ ∧
    s'.contractHead "task-312ba7e74110925581313d7d5631c42f" =
      .locked ⟨0, exportWire.parsed.digest⟩ ∧
    s'.taskContext "task-312ba7e74110925581313d7d5631c42f" =
      acceptedStore.taskContext "task-312ba7e74110925581313d7d5631c42f" := by
  have hlocked : acceptedStore.contractHead "task-312ba7e74110925581313d7d5631c42f" =
      .locked ⟨0, exportWire.parsed.digest⟩ := by
    rw [Store.contractHead_of_some headRow_acceptedStore]
    rfl
  refine ⟨_, rfl, hlocked, locked_task_keeps_context exportWire.env sampleKey _ _ acceptedStore _
    [resent "ctx-1"] hlocked (.cons ⟨rfl, ?_⟩ (.nil _))⟩
  intro row received expires hrow _ _ _
  rw [headRow_acceptedStore] at hrow
  rw [← Option.some.inj hrow]
  rfl

/-- The accepted contract is sent again in another context: its revision is stale, the task stays
locked, and its context is the new one. -/
theorem resent_changes_context : ∃ response s',
    exec ((resent "ctx-2").dispatch exportWire.env sampleKey) acceptedStore =
      (.ok ⟨.submitted "task-312ba7e74110925581313d7d5631c42f", response⟩, s') ∧
    acceptedStore.contractHead "task-312ba7e74110925581313d7d5631c42f" =
      .locked ⟨0, exportWire.parsed.digest⟩ ∧
    acceptedStore.taskContext "task-312ba7e74110925581313d7d5631c42f" = some "ctx-1" ∧
    s'.taskContext "task-312ba7e74110925581313d7d5631c42f" = some "ctx-2" := by
  have htask : taskIdOf exportWire.parsed.digest = "task-312ba7e74110925581313d7d5631c42f" := by
    decide
  have hrow : acceptedStore.headRow (taskIdOf exportWire.parsed.digest) = some acceptedRow := by
    rw [htask]
    exact headRow_acceptedStore
  obtain ⟨response, s', hrun, hrow'⟩ := headRow_of_resent sampleKey (resent "ctx-2")
    (s := acceptedStore) rfl (validate_exportWire "m2") hrow rfl
  rw [ReceivedProposal.taskId, htask] at hrun hrow'
  refine ⟨response, s', hrun, ?_, ?_, ?_⟩
  · rw [Store.contractHead_of_some headRow_acceptedStore]
    rfl
  · rw [Store.taskContext, headRow_acceptedStore]
    rfl
  · rw [Store.taskContext, hrow']
    rfl

end Akson
