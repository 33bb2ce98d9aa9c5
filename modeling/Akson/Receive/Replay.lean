/-
# A proposal that is sent again after a crash

The dispatch of a valid proposal is a row of transactions, and only the last of them puts the
request on record.
-/
import Akson.Receive.Dispatch

namespace Akson

open Operation Except List

variable {env : Env} {key : Bytes} {covered : CoveredValues} {parts : List Part}
  {contextId : String} {parties : Parties} {body : Bytes} {now later expires : Time}
  {received : ReceivedProposal} {s s₁ c : Store}

/-! ## What is left -/

def InboxRow.undated (r : InboxRow) : InboxRow := { r with receivedAt := 0 }

/-- Tasks and receipts are as they were. -/
structure Store.SameTasks (s s' : Store) : Prop where
  heads : s'.contractHeads = s.contractHeads
  contracts : s'.contracts = s.contracts
  inputs : s'.taskInputs = s.taskInputs
  records : s'.inboxObjects.rows.map InboxRow.undated = s.inboxObjects.rows.map InboxRow.undated

variable {verdict : RevisionVerdict} {d : Dispatched} {s' : Store}

theorem submitProposal_leaves (hprior : s.priorResponse covered.peer covered.messageId = none)
    (hrevision : submitRevision received.taskId received.proposal covered.peer
      expires now s = .ok (verdict, s₁))
    (h : exec (submitProposal env key covered contextId received expires body now) s =
      (.ok d, s')) : s'.contractHeads =
        (setTaskContext received.taskId contextId s₁).contractHeads ∧
      s'.contracts = s₁.contracts ∧
      s'.taskInputs = (received.rows env).foldl Table.insertIgnore s.taskInputs ∧
      s'.inboxObjects.rows = s.inboxObjects.rows ++ [⟨covered.peer, covered.messageId,
        covered.commitment env key, covered.bodyDigest,
        some received.taskId, "task", body,
        submittedTaskJson env received.taskId contextId, now⟩] := by
  have hinputs := submitProposal_taskInputs h
  obtain ⟨-, _, _, receipt, hrevision', hreceive⟩ := submitProposal_ok h
  obtain ⟨rfl, rfl⟩ := Prod.mk.inj (ok.inj (hrevision.symm.trans hrevision'))
  rw [← priorResponse_beforeRecord contextId (received.rows env) hrevision] at hprior
  obtain ⟨-, inbox, rfl, hinsert⟩ := receiveRequest_inserts hprior hreceive
  obtain ⟨audit, hfold⟩ := foldl_putTaskInput_eq now (received.rows env)
    (setTaskContext received.taskId contextId s₁)
  have hinbox : s₁.inboxObjects = s.inboxObjects := by
    obtain ⟨-, -, -, rfl⟩ | ⟨-, -, heads, rfl, -⟩ := submitRevision_cases hrevision
    · rfl
    · rfl
  have hrows := (Table.insert_eq_some_iff.1 hinsert).2
  rw [hfold] at hinputs hrows ⊢
  refine ⟨rfl, rfl, hinputs, ?_⟩
  rw [← hinbox]
  exact hrows

/-! ## Where a dispatch can be cut -/

theorem commits_submitProposal (env : Env) (key : Bytes) (contextId : String) (body : Bytes)
    (hprior : s.priorResponse covered.peer covered.messageId = none)
    (hrevision : submitRevision received.taskId received.proposal covered.peer
      expires now s = .ok (verdict, s₁)) :
    ∃ s', commits (submitProposal env key covered contextId received expires body now) s =
      (s₁ :: setTaskContext received.taskId contextId s₁ ::
        commits (putTaskInputs now (received.rows env))
          (setTaskContext received.taskId contextId s₁)) ++ [s'] := by
  rw [← priorResponse_beforeRecord contextId (received.rows env) hrevision] at hprior
  obtain ⟨s', hreceive⟩ := receiveRequest_total env key covered body
    (submittedTaskJson env received.taskId contextId)
    (some received.taskId) "task" now hprior
  refine ⟨s', ?_⟩
  rw [submitProposal, commits_bind_of_ok (exec_commit_of_ok hrevision), commits_commit_of_ok hrevision,
    commits_bind_of_ok (exec_commit_of_ok rfl), commits_commit_of_ok rfl, persistWorkerInputs,
    commits_bind_of_ok (exec_putTaskInputs _ _ _),
    commits_bind_of_ok (exec_commit_of_ok hreceive), commits_commit_of_ok hreceive, commits_pure]
  rfl

/-- What an interrupted submission has left of its work: nothing of the heads and the contracts, or
the revision, with or without the context; and some of the inputs, from the first on. -/
structure Interrupted (env : Env) (received : ReceivedProposal) (contextId : String)
    (s s₁ c : Store) : Prop where
  heads : c.contractHeads = s.contractHeads ∧ c.contracts = s.contracts ∨
    (c.contractHeads = s₁.contractHeads ∨ c.contractHeads =
      (setTaskContext (taskIdOf received.proposal.digest) contextId s₁).contractHeads) ∧
      c.contracts = s₁.contracts
  inputs : ∃ n, c.taskInputs = ((workerInputs env (taskIdOf received.proposal.digest)
    received.inputs 0 received.proposal.contract.inputs).take n).foldl Table.insertIgnore
      s.taskInputs
  inbox : c.inboxObjects = s.inboxObjects
  unseen : c.priorResponse = s.priorResponse

theorem interrupted_of_cut
    (hrevision : submitRevision received.taskId received.proposal covered.peer
      expires now s = .ok (verdict, s₁))
    (hc : c ∈ s :: s₁ :: setTaskContext received.taskId contextId s₁ ::
      commits (putTaskInputs now (received.rows env))
        (setTaskContext received.taskId contextId s₁)) :
    Interrupted env received contextId s s₁ c := by
  have hrest : s₁.taskInputs = s.taskInputs ∧ s₁.inboxObjects = s.inboxObjects ∧
      s₁.priorResponse = s.priorResponse := by
    obtain ⟨-, -, -, rfl⟩ | ⟨-, -, heads, rfl, -⟩ := submitRevision_cases hrevision
    · exact ⟨rfl, rfl, rfl⟩
    · exact ⟨rfl, rfl, rfl⟩
  obtain ⟨hinputs, hinbox, hseen⟩ := hrest
  rcases mem_cons.1 hc with rfl | hc
  · exact ⟨.inl ⟨rfl, rfl⟩, ⟨0, rfl⟩, rfl, rfl⟩
  rcases mem_cons.1 hc with rfl | hc
  · exact ⟨.inr ⟨.inl rfl, rfl⟩, ⟨0, hinputs⟩, hinbox, hseen⟩
  rcases mem_cons.1 hc with rfl | hc
  · exact ⟨.inr ⟨.inr rfl, rfl⟩, ⟨0, hinputs⟩, hinbox, hseen⟩
  obtain ⟨n, rfl⟩ := mem_commits_commitEach hc
  obtain ⟨audit, hfold⟩ := foldl_putTaskInput_eq now ((received.rows env).take n)
    (setTaskContext received.taskId contextId s₁)
  rw [hfold]
  refine ⟨.inr ⟨.inr rfl, rfl⟩, ⟨n, ?_⟩, hinbox, hseen⟩
  rw [← hinputs]
  rfl

/-! ## The second dispatch -/

theorem Interrupted.converges {d' : Dispatched} {c' : Store}
    (hc : Interrupted env received contextId s s₁ c)
    (hprior : s.priorResponse covered.peer covered.messageId = none)
    (hrevision : submitRevision received.taskId received.proposal covered.peer
      expires now s = .ok (verdict, s₁))
    (h : exec (submitProposal env key covered contextId received expires body now) s =
      (.ok d, s'))
    (hagain : exec (submitProposal env key covered contextId received expires body later) c =
      (.ok d', c')) : s'.SameTasks c' := by
  obtain ⟨verdict', c₁, hrevision'⟩ := submitRevision_total received.taskId
    covered.peer received.proposal expires later c
  obtain ⟨hheads, hcontracts, hinputs, hinbox⟩ := submitProposal_leaves hprior hrevision h
  obtain ⟨hheads', hcontracts', hinputs', hinbox'⟩ :=
    submitProposal_leaves (by rw [hc.unseen, hprior]) hrevision' hagain
  have hsame : c'.contractHeads = s'.contractHeads ∧ c₁.contracts = s₁.contracts := by
    rw [hheads, hheads']
    rcases hc.heads with ⟨hnone, hnone'⟩ | ⟨hsome, hcontracts₁⟩
    · -- the revision itself was not submitted
      obtain ⟨hheads₁, hcontracts₁⟩ := submitRevision_congr hrevision hnone hnone' hrevision'
      exact ⟨setTaskContext_congr _ _ hheads₁, hcontracts₁⟩
    · have hhead : c.contractHead received.taskId =
          s₁.contractHead received.taskId := by
        rcases hsome with hsome | hsome
        · rw [Store.contractHead, Store.headRow, hsome, ← Store.headRow, ← Store.contractHead]
        · rw [Store.contractHead, Store.headRow, hsome, ← Store.headRow, ← Store.contractHead,
            setTaskContext_contractHead]
      obtain rfl := submitRevision_again hrevision hhead hrevision'
      refine ⟨?_, hcontracts₁⟩
      rcases hsome with hsome | hsome
      · exact setTaskContext_congr _ _ hsome
      · rw [setTaskContext_congr _ _ hsome, setTaskContext_again]
  obtain ⟨n, htaken⟩ := hc.inputs
  refine ⟨hsame.1, hcontracts'.trans (hsame.2.trans hcontracts.symm), ?_, ?_⟩
  · rw [hinputs', htaken, hinputs]
    refine Table.foldl_insertIgnore_take ?_ n s.taskInputs
    intro row _
    exact ⟨rfl, rfl⟩
  · rw [hinbox', hinbox, hc.inbox]
    simp only [map_append]
    rfl

theorem validateProposal_later
    (h : validateProposal env covered.messageId parts parties now = .ok (received, expires))
    (hle : now ≤ later) (hlt : later < expires) :
    validateProposal env covered.messageId parts parties later = .ok (received, expires) := by
  simp only [validateProposal, bind_eq_ok, mapError_eq_ok] at h ⊢
  obtain ⟨_, hreceive, _, hexpires, hout⟩ := h
  cases hout
  exact ⟨_, receiveProposal_later hreceive hle hexpires hlt, _, hexpires, rfl⟩

/-- **A valid proposal that is sent again after a crash ends where it would have ended.**  Whatever
the store, however many of the commits of the dispatch were made before the crash, short of the last,
and however late the request is sent again before its contract expires: the second dispatch answers
the first one's `submitted`, and leaves the heads with their contexts, the contracts, the inputs and
the records that the dispatch would have left if it had not been interrupted. -/
theorem interrupted_proposal_converges (env : Env) (key : Bytes) (covered : CoveredValues)
    (parts : List Part) (contextId : String) (parties : Parties) (body : Bytes)
    (now later expires : Time) (received : ReceivedProposal) (s : Store) (n : ℕ)
    (hvalid : validateProposal env covered.messageId parts parties now = .ok (received, expires))
    (hle : now ≤ later) (hlt : later < expires)
    (hn : n < (commits (dispatchProposal env key covered parts contextId parties body now) s).length) :
    ∃ response s' c',
      exec (dispatchProposal env key covered parts contextId parties body now) s =
        (.ok ⟨.submitted (taskIdOf received.proposal.digest), response⟩, s') ∧
      exec (dispatchProposal env key covered parts contextId parties body later)
          (after n (dispatchProposal env key covered parts contextId parties body now) s) =
        (.ok ⟨.submitted (taskIdOf received.proposal.digest), response⟩, c') ∧
      s'.SameTasks c' := by
  have hlater := validateProposal_later hvalid hle hlt
  have hprior : s.priorResponse covered.peer covered.messageId = none := by
    cases hseen : s.priorResponse covered.peer covered.messageId with
    | none => rfl
    | some prior =>
      rw [commits_of_recorded hseen] at hn
      cases hn
  obtain ⟨verdict, s₁, hrevision⟩ := submitRevision_total received.taskId
    covered.peer received.proposal expires now s
  obtain ⟨last, hlast⟩ := commits_submitProposal env key contextId body hprior hrevision
  have hcut := after_mem_dropLast hn
  rw [commits_of_valid hprior hvalid, hlast, dropLast_concat] at hcut
  have hc := interrupted_of_cut hrevision hcut
  obtain ⟨s', hrun⟩ := dispatchProposal_of_valid hprior hvalid
  obtain ⟨c', hagain⟩ := dispatchProposal_of_valid (by rw [hc.unseen, hprior]) hlater
  obtain ⟨-, _, _, hvalid', hsubmit⟩ := dispatchProposal_submitted hrun
  obtain ⟨rfl, rfl⟩ := Prod.mk.inj (ok.inj (hvalid.symm.trans hvalid'))
  obtain ⟨-, _, _, hlater', hsubmit'⟩ := dispatchProposal_submitted hagain
  obtain ⟨rfl, rfl⟩ := Prod.mk.inj (ok.inj (hlater.symm.trans hlater'))
  exact ⟨_, s', c', hrun, hagain, hc.converges hprior hrevision hsubmit hsubmit'⟩

/-- The head of the task is there, in its context, and the request is not on record. -/
theorem interrupted_proposal_converges_repeated : ∃ response s' c',
    exec (dispatchProposal repeatedWire.env sampleKey wireCovered repeatedWire.parts "ctx-1"
      repeatedWire.parties [] 1800000000) {} =
        (.ok ⟨.submitted (taskIdOf repeatedWire.received.proposal.digest), response⟩, s') ∧
    exec (dispatchProposal repeatedWire.env sampleKey wireCovered repeatedWire.parts "ctx-1"
        repeatedWire.parties [] 1800000060)
        (after 2 (dispatchProposal repeatedWire.env sampleKey wireCovered repeatedWire.parts "ctx-1"
          repeatedWire.parties [] 1800000000) {}) =
      (.ok ⟨.submitted (taskIdOf repeatedWire.received.proposal.digest), response⟩, c') ∧
    s'.SameTasks c' := by
  refine interrupted_proposal_converges repeatedWire.env sampleKey wireCovered repeatedWire.parts
    "ctx-1" repeatedWire.parties [] 1800000000 1800000060 1893456000 repeatedWire.received {} 2
    repeatedWire_validate (by decide) (by decide) ?_
  obtain ⟨verdict, s₁, hrevision⟩ := submitRevision_total
    repeatedWire.received.taskId wireCovered.peer repeatedWire.received.proposal
    1893456000 1800000000 {}
  obtain ⟨last, hlast⟩ := commits_submitProposal repeatedWire.env sampleKey "ctx-1" [] rfl hrevision
  rw [commits_of_valid rfl repeatedWire_validate, hlast, length_append, length_cons,
    length_cons, length_singleton]
  omega

end Akson
