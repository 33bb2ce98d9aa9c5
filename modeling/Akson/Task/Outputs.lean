/-
# Two roles, one table of outputs

A daemon performs the tasks it was sent, and sends tasks to others.  In both roles it keeps the
bytes of results in one table, under the id of the task.
-/
import Akson.Receive.Outcome
import Akson.Task.Approve
import Akson.Task.Completion

namespace Akson

open Operation Option List Table

/-! ## The system -/

/-- The keys of a daemon in both roles. -/
structure Party where
  authority : LocalAuthority
  identity : Identity
  taskResultKey : PurposeKey
  outcomeKey : PurposeKey

/-- A result that a performer delivers. -/
structure Delivery where
  sender : Identity
  senderRoot : String
  key : PurposeVerifyingKey
  envelope : Envelope
  parts : List DeliveredOutput
  signedAt : String
  now : Time

/-- The delivery, as the daemon handles it. -/
def Delivery.finalize (env : Env) (me : Party) (d : Delivery) : Operation Store Problem Json :=
  finalizeResult env me.identity d.sender d.senderRoot me.outcomeKey d.key d.envelope d.parts
    d.signedAt d.now

/-- A store, and whether the daemon is up. -/
structure Desk where
  store : Store
  up : Bool

/-- What happens at the daemon, in both roles. -/
inductive DeskEvent where
  | submit (sub : ResultSubmission) (now : Time) (answer : Except Problem Json)
  /-- The process died inside a submission. -/
  | cutSubmit (sub : ResultSubmission) (now : Time)
  | deliver (d : Delivery) (answer : Except Problem Json)
  /-- The performer has answered a task that was sent. -/
  | send (req : SentRequest) (now : Time)
  /-- A revision of the inbound task came in. -/
  | propose (taskId : String) (verdict : RevisionVerdict)
  | approve (a : Approval) (answer : Except Problem Json)
  | cutApprove (a : Approval)
  /-- A worker starts, or has failed. -/
  | advance (workOrderId : String) (event : AttemptEvent)
  | elsewhere
  | crash
  | restart (now : Time)

/-- A step that touches none of the tables here. -/
structure DeskElsewhere (s s' : Store) : Prop where
  heads : ∀ t, s'.contractHead t = s.contractHead t
  attempts : s'.attempts = s.attempts
  results : s'.results = s.results
  taskOutputs : s'.taskOutputs = s.taskOutputs
  outcomes : s'.outcomes = s.outcomes
  sentRequests : s'.sentRequests = s.sentRequests

/-- One step of the daemon. -/
inductive DeskStep (env : Env) (me : Party) : Desk → DeskEvent → Desk → Prop
  | submit {s s' sub now answer}
      (hrun : exec (submitResult env me.taskResultKey sub now) s = (answer, s')) :
      DeskStep env me ⟨s, true⟩ (.submit sub now answer) ⟨s', true⟩
  | cutSubmit {s s' sub now} (hrun : s' ∈ commits (submitResult env me.taskResultKey sub now) s) :
      DeskStep env me ⟨s, true⟩ (.cutSubmit sub now) ⟨s', false⟩
  | deliver {s s' d answer} (hrun : exec (d.finalize env me) s = (answer, s')) :
      DeskStep env me ⟨s, true⟩ (.deliver d answer) ⟨s', true⟩
  | send {s req now} : DeskStep env me ⟨s, true⟩ (.send req now) ⟨putSentRequest req now s, true⟩
  | propose {s s' taskId proposal root expires now verdict}
      (hrun : submitRevision taskId proposal root expires now s = .ok (verdict, s')) :
      DeskStep env me ⟨s, true⟩ (.propose taskId verdict) ⟨s', true⟩
  | approve {s s' a answer} (hrun : exec (approveAndIssue env me.authority a) s = (answer, s')) :
      DeskStep env me ⟨s, true⟩ (.approve a answer) ⟨s', true⟩
  | cutApprove {s s' a} (hrun : s' ∈ commits (approveAndIssue env me.authority a) s) :
      DeskStep env me ⟨s, true⟩ (.cutApprove a) ⟨s', false⟩
  | advance {s s' w event now answer} (hevent : event = .start ∨ event = .fail)
      (hrun : transact (advanceAttempt w event now) s = (answer, s')) :
      DeskStep env me ⟨s, true⟩ (.advance w event) ⟨s', true⟩
  | elsewhere {s s'} (hrun : DeskElsewhere s s') :
      DeskStep env me ⟨s, true⟩ .elsewhere ⟨s', true⟩
  | crash {s up} : DeskStep env me ⟨s, up⟩ .crash ⟨s, false⟩
  | restart {s now} :
      DeskStep env me ⟨s, false⟩ (.restart now) ⟨(resolveCrashedAttempts now s).2, true⟩

/-! ## What is kept -/

/-- What a manifest says of an output. -/
def OutputEntry.summary (o : OutputEntry) : String × ℕ × String := (o.artifactId, o.byteLength, o.sha256)

/-- What a row says of an output. -/
def TaskOutputRow.summary (r : TaskOutputRow) : String × ℕ × String :=
  (r.artifactId, r.byteLength, r.sha256)

/-- The outputs listed for the task are those of the manifest. -/
structure KeepsOutputs (env : Env) (s : Store) (taskId : String) (m : ResultManifest) : Prop where
  listed : ((s.listTaskOutputs taskId).map TaskOutputRow.summary).Perm
    (m.outputs.map OutputEntry.summary)
  once : ((s.listTaskOutputs taskId).map TaskOutputRow.artifactId).Nodup
  intact : ∀ r ∈ s.listTaskOutputs taskId,
    r.payload.length = r.byteLength ∧ hex (env.sha256 r.payload) = r.sha256

/-- The invariant of the two roles. -/
structure Orderly (env : Env) (e : Desk) : Prop where
  /-- A task has one attempt at most. -/
  single : ∀ w w' a b, e.store.attemptRow w = some a → e.store.attemptRow w' = some b →
    a.taskId = b.taskId → w = w'
  /-- The task of an attempt was accepted. -/
  locked : ∀ w a, e.store.attemptRow w = some a → ∃ head, e.store.contractHead a.taskId = .locked head
  /-- An order that has a result was completed. -/
  settled : ∀ w, e.store.resultRow w ≠ none → e.store.attemptState w = some .succeeded
  /-- An outcome answers a task that was sent. -/
  answered : ∀ o ∈ e.store.outcomes, ∃ q, e.store.getSentRequest o.contractDigest = some q ∧
    q.taskId = o.taskId
  /-- A task that was sent is not an inbound one. -/
  apart : ∀ q ∈ e.store.sentRequests, e.store.contractHead q.taskId = .empty
  /-- Outputs belong to an attempt that cannot run any more, or to an outcome. -/
  owned : ∀ r ∈ e.store.taskOutputs,
    (∃ w a, e.store.attemptRow w = some a ∧ a.taskId = r.taskId ∧ (e.up = true → ¬ a.state.active)) ∨
      ∃ o ∈ e.store.outcomes, o.taskId = r.taskId
  /-- The outputs of a completed task are those of its manifest. -/
  attested : ∀ w a, e.store.attemptRow w = some a → a.state = .succeeded →
    ∃ m, e.store.KeepsResult env w m ∧ KeepsOutputs env e.store a.taskId m

/-- Results, outputs, outcomes and sent tasks are as they were. -/
structure SameRecords (s s' : Store) : Prop where
  results : s'.results = s.results
  taskOutputs : s'.taskOutputs = s.taskOutputs
  outcomes : s'.outcomes = s.outcomes
  sentRequests : s'.sentRequests = s.sentRequests

/-- The attempt stays, or leaves an active state without success. -/
def MovesOn (s s' : Store) (w : String) : Prop :=
  s'.attemptRow w = s.attemptRow w ∨ ∃ a new, s.attemptRow w = some a ∧ a.state.active ∧
    new ≠ .succeeded ∧ s'.attemptRow w = some (a.withState new)

variable {m : ResultManifest} {taskId : String} {rows : List TaskOutputRow}
  {answer : Except Problem Json} {parts : List DeliveredOutput}

section Invariant

variable {env : Env} {me : Party} {e e' : Desk} {s s' : Store}

variable {w t : String} {a : AttemptRow} {up : Bool} {state : AttemptState} {event : AttemptEvent}

theorem MovesOn.back {a' : AttemptRow} (h : MovesOn s s' w) (ha' : s'.attemptRow w = some a') :
    ∃ a, s.attemptRow w = some a ∧ a'.taskId = a.taskId ∧
      (a'.state = .succeeded → a' = a) := by
  rcases h with h | ⟨a, new, ha, -, hnew, h⟩
  · exact ⟨a', h ▸ ha', rfl, fun _ => rfl⟩
  · obtain rfl := some.inj (h.symm.trans ha')
    exact ⟨a, ha, rfl, fun hsucceeded => absurd hsucceeded hnew⟩

theorem MovesOn.forth (h : MovesOn s s' w) (ha : s.attemptRow w = some a) :
    ∃ a', s'.attemptRow w = some a' ∧ a'.taskId = a.taskId ∧
      (¬ a.state.active → a' = a) := by
  rcases h with h | ⟨b, new, hb, hactive, -, h⟩
  · exact ⟨a, h.trans ha, rfl, fun _ => rfl⟩
  · cases hb.symm.trans ha
    exact ⟨_, h, rfl, fun hnot => absurd hactive hnot⟩

theorem KeepsOutputs.of_eq (h : KeepsOutputs env s t m)
    (heq : s'.listTaskOutputs t = s.listTaskOutputs t) : KeepsOutputs env s' t m :=
  ⟨heq ▸ h.listed, heq ▸ h.once, heq ▸ h.intact⟩

theorem Store.KeepsResult.of_eq (h : s.KeepsResult env w m) (heq : s'.resultRow w = s.resultRow w) :
    s'.KeepsResult env w m := by
  obtain ⟨hvalid, secret, hrow⟩ := h
  refine ⟨hvalid, secret, ?_⟩
  rw [Store.resultManifest, heq]
  exact hrow

/-- Steps that keep the records keep the invariant. -/
theorem Orderly.move (h : Orderly env e) (hsame : SameRecords e.store e'.store)
    (hlocked : ∀ t head, e.store.contractHead t = .locked head →
      e'.store.contractHead t = .locked head)
    (hempty : ∀ q ∈ e.store.sentRequests, e'.store.contractHead q.taskId = .empty)
    (hmove : ∀ w, MovesOn e.store e'.store w)
    (hquiet : ∀ w a a', e.store.attemptRow w = some a → (e.up = true → ¬ a.state.active) →
      e'.store.attemptRow w = some a' → e'.up = true → ¬ a'.state.active) : Orderly env e' where
  single w w' a b ha hb htask := by
    obtain ⟨a₀, ha₀, hta, -⟩ := (hmove w).back ha
    obtain ⟨b₀, hb₀, htb, -⟩ := (hmove w').back hb
    exact h.single w w' a₀ b₀ ha₀ hb₀ (hta.symm.trans (htask.trans htb))
  locked w a ha := by
    obtain ⟨a₀, ha₀, hta, -⟩ := (hmove w).back ha
    obtain ⟨head, hhead⟩ := h.locked w a₀ ha₀
    rw [hta]
    exact ⟨head, hlocked _ _ hhead⟩
  settled w hresult := by
    rw [Store.resultRow, hsame.results] at hresult
    obtain ⟨a, ha, hsucceeded⟩ := map_eq_some_iff.1 (h.settled w hresult)
    obtain ⟨a', ha', -, hkept⟩ := (hmove w).forth ha
    rw [Store.attemptState, ha', hkept (fun hactive => hactive.ne_succeeded hsucceeded)]
    exact congrArg some hsucceeded
  answered o ho := by
    rw [hsame.outcomes] at ho
    rw [Store.getSentRequest, hsame.sentRequests]
    exact h.answered o ho
  apart q hq := hempty q (hsame.sentRequests ▸ hq)
  owned r hr := by
    rw [hsame.taskOutputs] at hr
    rcases h.owned r hr with ⟨w, a, ha, htask, hdone⟩ | hout
    · obtain ⟨a', ha', htask', -⟩ := (hmove w).forth ha
      exact .inl ⟨w, a', ha', htask'.trans htask, hquiet w a a' ha hdone ha'⟩
    · rw [hsame.outcomes]
      exact .inr hout
  attested w a' ha' hsucceeded := by
    obtain ⟨a, ha, -, hsame'⟩ := (hmove w).back ha'
    obtain rfl := hsame' hsucceeded
    obtain ⟨m, hkeeps, houtputs⟩ := h.attested w a' ha hsucceeded
    refine ⟨m, hkeeps.of_eq ?_, houtputs.of_eq ?_⟩
    · rw [Store.resultRow, hsame.results, Store.resultRow]
    · rw [Store.listTaskOutputs, hsame.taskOutputs, Store.listTaskOutputs]

theorem Orderly.moveHeads (h : Orderly env e) (hsame : SameRecords e.store e'.store)
    (hattempts : e'.store.attempts = e.store.attempts) (hup : e'.up = true → e.up = true)
    (hlocked : ∀ t head, e.store.contractHead t = .locked head →
      e'.store.contractHead t = .locked head)
    (hempty : ∀ q ∈ e.store.sentRequests, e'.store.contractHead q.taskId = .empty) :
    Orderly env e' := by
  have hrows : ∀ w, e'.store.attemptRow w = e.store.attemptRow w := by
    intro w
    rw [Store.attemptRow, hattempts, Store.attemptRow]
  refine h.move hsame hlocked hempty (fun w => .inl (hrows w)) ?_
  intro w a a' ha hdone ha' hup'
  obtain rfl := some.inj (ha.symm.trans ((hrows w).symm.trans ha'))
  exact hdone (hup hup')

theorem orderly_crash (h : Orderly env ⟨s, up⟩) : Orderly env ⟨s, false⟩ :=
  h.moveHeads ⟨rfl, rfl, rfl, rfl⟩ rfl nofun (fun _ _ => id) h.apart

theorem orderly_elsewhere (h : Orderly env ⟨s, true⟩) (hrun : DeskElsewhere s s') :
    Orderly env ⟨s', true⟩ := by
  refine h.moveHeads ⟨hrun.results, hrun.taskOutputs, hrun.outcomes, hrun.sentRequests⟩ hrun.attempts
    id ?_ ?_
  · intro t head hhead
    exact (hrun.heads t).trans hhead
  · intro q hq
    exact (hrun.heads q.taskId).trans (h.apart q hq)

theorem orderly_propose {root : String} {proposal : ParsedContract} {expires now : Time}
    {verdict : RevisionVerdict} (h : Orderly env ⟨s, true⟩)
    (hnew : ∀ q ∈ s.sentRequests, q.taskId ≠ taskId)
    (hrun : submitRevision taskId proposal root expires now s = .ok (verdict, s')) :
    Orderly env ⟨s', true⟩ := by
  obtain ⟨reason, -, -, rfl⟩ | ⟨-, hchains, heads, hs', -, hother⟩ := submitRevision_cases hrun
  · exact h
  have hheads : ∀ u, u ≠ taskId → s'.contractHead u = s.contractHead u := by
    intro u hu
    rw [Store.contractHead, hother u hu, Store.contractHead]
  refine h.moveHeads (by rw [hs']; exact ⟨rfl, rfl, rfl, rfl⟩) (by rw [hs']; rfl) id ?_ ?_
  · intro t head hhead
    by_cases ht : t = taskId
    · subst ht
      rw [show s.contractHead t = .locked head from hhead] at hchains
      cases hchains
    · exact (hheads t ht).trans hhead
  · intro q hq
    exact (hheads q.taskId (hnew q hq)).trans (h.apart q hq)

theorem orderly_claim {order : WorkOrder} {now : Time} {outcome : ClaimOutcome}
    (h : Orderly env ⟨s, up⟩) (hlocked : ∃ head, s.contractHead order.taskId = .locked head)
    (hnone : ∀ w a, s.attemptRow w = some a → a.taskId ≠ order.taskId)
    (hclaim : claimAttempt env order now s = .ok (outcome, s')) : Orderly env ⟨s', up⟩ := by
  obtain ⟨-, -, -, rfl⟩ | ⟨-, -, -, rfl⟩ | ⟨-, hfree, attempts, hins, rfl⟩ := claimAttempt_cases hclaim
  · exact h
  · exact h
  -- the new row stands under its own id, and the others are found as before
  have hrows : ∀ w a, ({ s with attempts := attempts } : Store).attemptRow w = some a →
      (a = order.claimRow env now ∧ w = order.workOrderId) ∨ s.attemptRow w = some a := by
    intro w a ha
    obtain ⟨hmem, hid⟩ := Store.attemptRow_eq_some_iff.1 ha
    rcases (mem_insert hins).1 hmem with hmem | rfl
    · exact .inr (Store.attemptRow_eq_some_iff.2 ⟨hmem, hid⟩)
    · exact .inl ⟨rfl, hid.symm⟩
  have hkept : ∀ w a, s.attemptRow w = some a →
      ({ s with attempts := attempts } : Store).attemptRow w = some a :=
    fun w a ha => find_insert_of_some hins ha
  constructor
  case single =>
    intro w w' a b ha hb htask
    rcases hrows w a ha with ⟨rfl, rfl⟩ | ha
    · rcases hrows w' b hb with ⟨rfl, rfl⟩ | hb
      · rfl
      · exact absurd htask.symm (hnone w' b hb)
    · rcases hrows w' b hb with ⟨rfl, rfl⟩ | hb
      · exact absurd htask (hnone w a ha)
      · exact h.single w w' a b ha hb htask
  case locked =>
    intro w a ha
    rcases hrows w a ha with ⟨rfl, rfl⟩ | ha
    · exact hlocked
    · exact h.locked w a ha
  case settled =>
    intro w hresult
    obtain ⟨a, ha, hsucceeded⟩ := map_eq_some_iff.1 (h.settled w hresult)
    exact map_eq_some_iff.2 ⟨a, hkept w a ha, hsucceeded⟩
  case answered => exact h.answered
  case apart => exact h.apart
  case owned =>
    intro r hr
    rcases h.owned r hr with ⟨w, a, ha, hdone⟩ | hout
    · exact .inl ⟨w, a, hkept w a ha, hdone⟩
    · exact .inr hout
  case attested =>
    intro w a ha hsucceeded
    rcases hrows w a ha with ⟨rfl, rfl⟩ | ha
    · cases hsucceeded
    · obtain ⟨m, hkeeps, houtputs⟩ := h.attested w a ha hsucceeded
      exact ⟨m, hkeeps.of_eq rfl, houtputs.of_eq rfl⟩

theorem orderly_approve {a : Approval} (h : Orderly env ⟨s, up⟩)
    (hrun : s' ∈ s :: commits (approveAndIssue env me.authority a) s) : Orderly env ⟨s', up⟩ := by
  obtain rfl | hrun := mem_cons.1 hrun
  · exact h
  obtain ⟨head, c, tls, decisionId, s₁, happ, haccept, hrest⟩ := mem_commits_approveAndIssue hrun
  obtain ⟨hlocked, hother, heads, audit, hs₁⟩ := acceptContract_locks happ.opened haccept
  have hnone : ∀ w b, s.attemptRow w = some b → b.taskId ≠ a.taskId := by
    rintro w b hb htask
    obtain ⟨head', hhead'⟩ := h.locked w b hb
    rw [htask] at hhead'
    cases happ.opened.symm.trans hhead'
  have h₁ : Orderly env ⟨s₁, up⟩ := by
    refine h.moveHeads (by rw [hs₁]; exact ⟨rfl, rfl, rfl, rfl⟩) (by rw [hs₁]) id ?_ ?_
    · intro t head' hhead'
      by_cases ht : t = a.taskId
      · subst ht
        cases happ.opened.symm.trans hhead'
      · exact (hother t ht).trans hhead'
    · intro q hq
      have hq' := h.apart q hq
      by_cases ht : q.taskId = a.taskId
      · rw [ht] at hq'
        cases happ.opened.symm.trans hq'
      · exact (hother _ ht).trans hq'
  obtain rfl | ⟨order, outcome, s₂, hdraft, hclaim, hrest⟩ := hrest
  · exact h₁
  have htask : order.taskId = a.taskId := (draftOrder_approval hlocked hdraft).2.2
  have h₂ : Orderly env ⟨s₂, up⟩ := by
    refine orderly_claim h₁ ⟨head, htask ▸ hlocked⟩ ?_ hclaim
    intro w b hb
    rw [hs₁] at hb
    rw [htask]
    exact hnone w b hb
  obtain rfl | rfl := hrest
  · exact h₂
  · obtain ⟨orders, audit, heq⟩ := putWorkOrder_eq (order.issue env me.authority.workOrderKey) a.now s₂
    rw [heq]
    exact h₂.moveHeads ⟨rfl, rfl, rfl, rfl⟩ rfl id (fun _ _ => id) h₂.apart

theorem AttemptState.active_of_next {new : AttemptState} (hevent : event = .start ∨ event = .fail)
    (h : state.next event = .ok new) : state.active := by
  rcases hevent with rfl | rfl
  · revert h
    cases state <;> cases new <;> decide
  · revert h
    cases state <;> cases new <;> decide

theorem orderly_advance {now : Time}
    {answer : Except StoreError (Except TransitionError AttemptState)} (h : Orderly env ⟨s, true⟩)
    (hevent : event = .start ∨ event = .fail)
    (hrun : transact (advanceAttempt w event now) s = (answer, s')) : Orderly env ⟨s', true⟩ := by
  obtain ⟨-, -, rfl⟩ | ⟨out, -, hop⟩ := transact_cases hrun
  · exact h
  obtain ⟨row, hrow, hnext, ⟨e, -, rfl⟩ | ⟨new, attempts, rfl, hs', hself, hother⟩⟩ :=
    advanceAttempt_cases hop
  · exact h
  have hmove : ∀ u, MovesOn s s' u := by
    intro u
    by_cases hu : u = w
    · subst hu
      exact .inr ⟨row, new, hrow, AttemptState.active_of_next hevent hnext.symm,
        AttemptState.next_ne_succeeded hevent hnext.symm, hself⟩
    · exact .inl (hother u hu)
  refine h.move (by rw [hs']; exact ⟨rfl, rfl, rfl, rfl⟩) ?_ ?_ hmove ?_
  · intro t head hhead
    rw [hs']
    exact hhead
  · intro q hq
    rw [hs']
    exact h.apart q hq
  · intro u a a' ha hdone ha' _
    obtain ⟨b, hb, -, hkept⟩ := (hmove u).forth ha
    obtain rfl := some.inj (hb.symm.trans ha')
    rw [hkept (hdone rfl)]
    exact hdone rfl

theorem AttemptRow.unsettled_iff : a.unsettled = true ↔ a.state.active :=
  decide_eq_true_iff

theorem orderly_restart (h : Orderly env ⟨s, false⟩) (now : Time) :
    Orderly env ⟨(resolveCrashedAttempts now s).2, true⟩ := by
  have hrows := resolveCrashedAttempts_attemptRow now s
  obtain ⟨attempts, audit, heq⟩ := foldl_markAmbiguous_eq now
    ((s.attempts.select AttemptRow.unsettled).map AttemptRow.workOrderId) s
  have hs' : (resolveCrashedAttempts now s).2 = { s with attempts := attempts, audit := audit } := heq
  refine h.move (by rw [hs']; exact ⟨rfl, rfl, rfl, rfl⟩) ?_ ?_ ?_ ?_
  · intro t head hhead
    rw [hs']
    exact hhead
  · intro q hq
    rw [hs']
    exact h.apart q hq
  · intro w
    cases hrow : s.attemptRow w with
    | none =>
      refine .inl ?_
      rw [hrows, hrow]
      rfl
    | some a =>
      by_cases hactive : a.state.active
      · refine .inr ⟨a, .ambiguous, hrow, hactive, by decide, ?_⟩
        rw [hrows, hrow, map_some, if_pos (AttemptRow.unsettled_iff.2 hactive)]
      · refine .inl ?_
        rw [hrows, hrow, map_some,
          if_neg (fun hun => hactive (AttemptRow.unsettled_iff.1 hun))]
  · intro w a a' ha _ ha' _
    rw [hrows, ha, map_some, some.injEq] at ha'
    subst ha'
    by_cases hactive : a.state.active
    · rw [if_pos (AttemptRow.unsettled_iff.2 hactive)]
      rintro (hstate | hstate) <;> cases hstate
    · rwa [if_neg (fun hun => hactive (AttemptRow.unsettled_iff.1 hun))]

theorem orderly_send {req : SentRequest} (now : Time) (h : Orderly env ⟨s, true⟩)
    (hempty : s.contractHead req.taskId = .empty) :
    Orderly env ⟨putSentRequest req now s, true⟩ := by
  obtain heq | ⟨sent, audit, hins, heq⟩ := putSentRequest_cases req now s
  · rw [heq]
    exact h
  rw [heq]
  refine ⟨h.single, h.locked, h.settled, ?_, ?_, h.owned, ?_⟩
  · intro o ho
    obtain ⟨q, hq, htask⟩ := h.answered o ho
    obtain ⟨row, hrow, hrow'⟩ := map_eq_some_iff.1 hq
    exact ⟨q, map_eq_some_iff.2 ⟨row, find_insert_of_some hins hrow, hrow'⟩, htask⟩
  · intro q hq
    rcases (mem_insert hins).1 hq with hq | rfl
    · exact h.apart q hq
    · exact hempty
  · intro w a ha hsucceeded
    obtain ⟨m, hkeeps, houtputs⟩ := h.attested w a ha hsucceeded
    exact ⟨m, hkeeps.of_eq rfl, houtputs.of_eq rfl⟩

section Submissions

variable {sub : ResultSubmission} {task : AcceptedTask} {now : Time}

theorem Writes.pendingRow (hwrites : Writes env me.taskResultKey sub task s)
    (h : Orderly env ⟨s, true⟩) : ∃ a, s.attemptRow task.workOrderId = some a ∧
      a.taskId = sub.taskId ∧ a.state ≠ .succeeded ∧
      ∀ w b, s.attemptRow w = some b → b.taskId = sub.taskId → w = task.workOrderId := by
  obtain ⟨a, ha, htask, hcompleted⟩ := hwrites.accepts.attemptRow
  refine ⟨a, ha, htask, ?_, ?_⟩
  · rw [Ne, ← hcompleted, hwrites.pending]
    exact Bool.false_ne_true
  · intro w b hb htask'
    exact h.single _ _ b a hb ha (htask'.trans htask.symm)

theorem Writes.taskId_ne (hwrites : Writes env me.taskResultKey sub task s)
    (h : Orderly env ⟨s, true⟩) {b : AttemptRow} (hb : s.attemptRow w = some b)
    (hsucceeded : b.state = .succeeded) : b.taskId ≠ sub.taskId := by
  intro htask
  obtain ⟨a, ha, -, hpending, hsingle⟩ := hwrites.pendingRow h
  obtain rfl := hsingle w b hb htask
  cases ha.symm.trans hb
  exact hpending hsucceeded

theorem orderly_stage (hwrites : Writes env me.taskResultKey sub task s) (h : Orderly env ⟨s, true⟩)
    (hended : up = true → ∃ state,
      s.attemptState task.workOrderId = some state ∧ ¬ state.active) (n : ℕ) :
    Orderly env ⟨s.withOutputs ((sub.rows env).take n) now, up⟩ := by
  obtain ⟨audit, heq⟩ := withOutputs_eq ((sub.rows env).take n) now s
  have htask : ∀ r ∈ (sub.rows env).take n, r.taskId = sub.taskId :=
    fun r hr => taskId_of_mem_rows (mem_of_mem_take hr)
  rw [heq]
  refine ⟨h.single, h.locked, h.settled, h.answered, h.apart, ?_, ?_⟩
  · intro r hr
    rcases mem_foldl_insertIgnore hr with hr | hr
    · rcases h.owned r hr with ⟨w, a, ha, hta, hdone⟩ | hout
      · exact .inl ⟨w, a, ha, hta, fun _ => hdone rfl⟩
      · exact .inr hout
    · obtain ⟨a, ha, hta, -⟩ := hwrites.pendingRow h
      refine .inl ⟨task.workOrderId, a, ha, hta.trans (htask r hr).symm, fun hup => ?_⟩
      obtain ⟨state, hstate, hactive⟩ := hended hup
      rw [Store.attemptState, ha, map_some, some.injEq] at hstate
      rwa [hstate]
  · intro w a ha hsucceeded
    obtain ⟨m, hkeeps, houtputs⟩ := h.attested w a ha hsucceeded
    refine ⟨m, hkeeps.of_eq rfl, houtputs.of_eq ?_⟩
    have hne := hwrites.taskId_ne h ha hsucceeded
    refine congrArg _ (select_foldl_insertIgnore_of_not _ (fun r hr => ?_))
    rw [htask r hr]
    exact decide_eq_false hne.symm

theorem Writes.noOutputs (hwrites : Writes env me.taskResultKey sub task s)
    (h : Orderly env ⟨s, true⟩) (hstate : s.attemptState task.workOrderId = some state)
    (hactive : state.active) : ∀ r ∈ s.taskOutputs, r.taskId ≠ sub.taskId := by
  intro r hr htask
  obtain ⟨a, ha, hta, -, hsingle⟩ := hwrites.pendingRow h
  rcases h.owned r hr with ⟨w, b, hb, htb, hdone⟩ | ⟨o, ho, hto⟩
  · obtain rfl := hsingle w b hb (htb.trans htask)
    rw [Store.attemptState, hb, map_some, some.injEq] at hstate
    exact hdone rfl (hstate ▸ hactive)
  · -- an outcome under the id would answer a sent task under the id of an inbound one
    obtain ⟨q, hq, htq⟩ := h.answered o ho
    obtain ⟨row, hrow, rfl⟩ := map_eq_some_iff.1 hq
    have hempty := h.apart row (mem_of_find hrow)
    obtain ⟨head, hhead⟩ := h.locked _ a ha
    rw [hta, ← htask, ← hto, ← htq] at hhead
    cases hempty.symm.trans hhead

theorem keepsOutputs_of_rows (hlist : s.listTaskOutputs t = rows) (hrows : rows.Perm (sub.rows env))
    (hdistinct : (sub.outputs.map ResultOutput.artifactId).Nodup) :
    KeepsOutputs env s t (sub.manifest env task) where
  listed := by
    have hentries : (sub.outputs.mapIdx (fun i o => o.entry env i)).map OutputEntry.summary =
        (sub.rows env).map TaskOutputRow.summary := by
      rw [ResultSubmission.rows, List.mapIdx_eq_zipIdx_map, List.mapIdx_eq_zipIdx_map, List.map_map,
        List.map_map]
      rfl
    rw [hlist]
    refine (hrows.map _).trans ?_
    rw [← hentries]
    exact ((manifest_outputs_perm env sub task).map _).symm
  once := by
    rw [hlist, (hrows.map _).nodup_iff, map_artifactId_rows]
    exact hdistinct
  intact r hr := by
    rw [hlist] at hr
    obtain ⟨i, hi, rfl⟩ := mem_mapIdx.1 (hrows.mem_iff.1 hr)
    exact ⟨rfl, rfl⟩

/-- A completion writes the outputs of its manifest. -/
theorem orderly_complete (hwrites : Writes env me.taskResultKey sub task s)
    (h : Orderly env ⟨s, true⟩) (hcompletes : Completes env me.taskResultKey sub task now s s') :
    Orderly env ⟨s', true⟩ := by
  have hkeeps := hcompletes.keepsResult hwrites.attestable
  obtain ⟨state, hstate, hactive, hstage⟩ := hcompletes
  have hfree := hwrites.noOutputs h hstate hactive
  obtain ⟨a, ha, hta, hpending, hsingle⟩ := hwrites.pendingRow h
  obtain ⟨audit', hstaged⟩ := withOutputs_eq (sub.rows env) now s
  obtain ⟨-, row, attempts, results, audit, hrow, hinsert, hs', hself, hother⟩ :=
    stageResult_cases hstage
  rw [hstaged] at hrow hinsert hs'
  obtain rfl : a = row := some.inj (ha.symm.trans hrow)
  have hrest : ∀ w, w ≠ task.workOrderId → s'.attemptRow w = s.attemptRow w := by
    intro w hw
    rw [hother w hw, hstaged]
    rfl
  -- no row of the task was there, so all of the submission's are appended
  have hrows : s'.taskOutputs.rows = s.taskOutputs.rows ++ sub.rows env := by
    rw [hs']
    refine rows_foldl_insertIgnore ?_ ?_
    · rintro r hr b hb ⟨htask, -⟩
      exact hfree b hb (htask.trans (taskId_of_mem_rows hr))
    · have hdistinct := hwrites.attestable.distinct
      rw [← map_artifactId_rows env, List.Nodup, pairwise_map] at hdistinct
      exact hdistinct.imp (fun hne hclash => hne hclash.2)
  have hback : ∀ w b, s'.attemptRow w = some b →
      (w = task.workOrderId ∧ b = a.withState .succeeded) ∨
        (w ≠ task.workOrderId ∧ s.attemptRow w = some b) := by
    intro w b hb
    by_cases hw : w = task.workOrderId
    · subst hw
      exact .inl ⟨rfl, some.inj (hb.symm.trans hself)⟩
    · exact .inr ⟨hw, (hrest w hw).symm.trans hb⟩
  have hheads : ∀ t, s'.contractHead t = s.contractHead t := by
    intro t
    rw [hs']
    rfl
  constructor
  case single =>
    intro w w' b c hb hc htask
    rcases hback w b hb with ⟨rfl, rfl⟩ | ⟨hw, hb⟩
    · rcases hback w' c hc with ⟨rfl, rfl⟩ | ⟨hw', hc⟩
      · rfl
      · exact (hsingle w' c hc (htask.symm.trans hta)).symm
    · rcases hback w' c hc with ⟨rfl, rfl⟩ | ⟨hw', hc⟩
      · exact hsingle w b hb (htask.trans hta)
      · exact h.single w w' b c hb hc htask
  case locked =>
    intro w b hb
    rw [hheads]
    rcases hback w b hb with ⟨rfl, rfl⟩ | ⟨hw, hb⟩
    · exact h.locked _ a ha
    · exact h.locked w b hb
  case settled =>
    intro w hresult
    by_cases hw : w = task.workOrderId
    · rw [hw, Store.attemptState, hself]
      rfl
    · have hold : s.resultRow w ≠ none := by
        intro hnone
        refine hresult ?_
        rw [hs', Store.resultRow, find_insert_of_not hinsert (decide_eq_false (Ne.symm hw))]
        exact hnone
      rw [Store.attemptState, hrest w hw]
      exact h.settled w hold
  case answered =>
    intro o ho
    rw [hs'] at ho ⊢
    exact h.answered o ho
  case apart =>
    intro q hq
    rw [hheads]
    rw [hs'] at hq
    exact h.apart q hq
  case owned =>
    intro r hr
    rw [Table.mem_def, hrows, List.mem_append] at hr
    rcases hr with hr | hr
    · rcases h.owned r hr with ⟨w, b, hb, htb, hdone⟩ | hout
      · have hw : w ≠ task.workOrderId := by
          rintro rfl
          cases ha.symm.trans hb
          exact hfree r hr (htb.symm.trans hta)
        exact .inl ⟨w, b, (hrest w hw).trans hb, htb, hdone⟩
      · rw [hs']
        exact .inr hout
    · refine .inl ⟨task.workOrderId, _, hself, hta.trans (taskId_of_mem_rows hr).symm, fun _ => ?_⟩
      rintro (hclaimed | hrunning)
      · cases hclaimed
      · cases hrunning
  case attested =>
    intro w b hb hsucceeded
    rcases hback w b hb with ⟨rfl, rfl⟩ | ⟨hw, hb⟩
    · have hlist := Store.listTaskOutputs_of_fresh hrows (fun r hr => taskId_of_mem_rows hr) hfree
      rw [← hta] at hlist
      exact ⟨_, hkeeps, keepsOutputs_of_rows hlist (perm_insertionSort _ _)
        hwrites.attestable.distinct⟩
    · obtain ⟨m, hkept, houtputs⟩ := h.attested w b hb hsucceeded
      have hne := hwrites.taskId_ne h hb hsucceeded
      refine ⟨m, hkept.of_eq ?_, houtputs.of_eq (Store.listTaskOutputs_of_append hrows
        (fun r hr => (taskId_of_mem_rows hr).trans_ne hne.symm))⟩
      rw [hs', Store.resultRow, find_insert_of_not hinsert (decide_eq_false (Ne.symm hw)),
        Store.resultRow]

theorem orderly_submit (h : Orderly env ⟨s, true⟩)
    (hrun : exec (submitResult env me.taskResultKey sub now) s = (answer, s')) :
    Orderly env ⟨s', true⟩ := by
  obtain rfl | ⟨task, hwrites, hcompletes | ⟨rfl, hended⟩⟩ := exec_submitResult_cases hrun
  · exact h
  · exact orderly_complete hwrites h hcompletes
  · rw [← take_length (l := sub.rows env)]
    refine orderly_stage hwrites h (fun _ => ?_) _
    rcases hended with hended | hresult
    · exact hended
    · -- an order that has a result was completed
      exact ⟨_, h.settled _ hresult, fun hactive => hactive.ne_succeeded rfl⟩

theorem orderly_cutSubmit (h : Orderly env ⟨s, true⟩)
    (hrun : s' ∈ commits (submitResult env me.taskResultKey sub now) s) :
    Orderly env ⟨s', false⟩ := by
  obtain rfl | ⟨task, hwrites, ⟨n, rfl⟩ | hcompletes⟩ := mem_commits_submitResult hrun
  · exact orderly_crash h
  · refine orderly_stage hwrites h (fun hup => ?_) n
    cases hup
  · exact orderly_crash (orderly_complete hwrites h hcompletes)

end Submissions

section Deliveries

variable {d : Delivery}

theorem taskId_of_kept {entries : List (OutputEntry × ℕ)}
    (h : List.Forall₂ (KeptAs env taskId parts) entries rows) : ∀ r ∈ rows, r.taskId = taskId := by
  induction h with
  | nil => simp
  | cons hkept _ ih =>
    obtain ⟨part, -, -, -, rfl⟩ := hkept
    rw [forall_mem_cons]
    exact ⟨rfl, ih⟩

theorem deliver_cases (hrun : exec (d.finalize env me) s = (answer, s')) :
    s' = s ∨ ∃ manifest bundleDigest rows q row outcomes taskOutputs audit,
      Passes env d.sender d.senderRoot d.key d.envelope d.parts s manifest bundleDigest rows ∧
      s.getSentRequest manifest.header.contractDigest = some q ∧ q.taskId = manifest.header.taskId ∧
      row.contractDigest = manifest.header.contractDigest ∧ row.taskId = manifest.header.taskId ∧
      (∀ o ∈ s.outcomes, o.contractDigest ≠ manifest.header.contractDigest) ∧
      s.outcomes.insert row = some outcomes ∧ taskOutputs.rows = s.taskOutputs.rows ++ rows ∧
      s' = { s with taskOutputs := taskOutputs, outcomes := outcomes, audit := audit } := by
  obtain ⟨-, rfl⟩ | ⟨manifest, bundleDigest, rows, signed, write, hpasses, -, hrecord, -⟩ :=
    finalizeResult_cases hrun
  · exact .inl rfl
  obtain ⟨-, -, -, rfl⟩ | ⟨hnone, -, taskOutputs, outcomes, audit, houtputs, hinsert, rfl⟩ :=
    recordOutcomeWithOutputs_cases hrecord
  · exact .inl rfl
  obtain ⟨q, hq, hanswers⟩ := hpasses.answers
  refine .inr ⟨manifest, bundleDigest, rows, q, _, outcomes, taskOutputs, audit, hpasses, hq,
    hanswers.taskId, rfl, rfl, ?_, hinsert, rows_of_insertRows houtputs, rfl⟩
  exact fun o ho => of_decide_eq_false (find_eq_none_iff.1 hnone o ho)

theorem orderly_deliver (h : Orderly env ⟨s, true⟩)
    (hrun : exec (d.finalize env me) s = (answer, s')) : Orderly env ⟨s', true⟩ := by
  obtain rfl | ⟨manifest, bundleDigest, rows, q, row, outcomes, taskOutputs, audit, hpasses, hq, htq,
    hdigest, htask, -, hinsert, hrows, rfl⟩ := deliver_cases hrun
  · exact h
  have hkept := taskId_of_kept (checkOutputs_eq_ok hpasses.carries).2
  refine ⟨h.single, h.locked, h.settled, ?_, h.apart, ?_, ?_⟩
  · intro o ho
    rcases (mem_insert hinsert).1 ho with ho | rfl
    · exact h.answered o ho
    · exact ⟨q, hdigest ▸ hq, htq.trans htask.symm⟩
  · intro r hr
    rw [Table.mem_def, hrows, List.mem_append] at hr
    rcases hr with hr | hr
    · rcases h.owned r hr with hattempt | ⟨o, ho, hto⟩
      · exact .inl hattempt
      · exact .inr ⟨o, (mem_insert hinsert).2 (.inl ho), hto⟩
    · exact .inr ⟨row, (mem_insert hinsert).2 (.inr rfl), htask.trans (hkept r hr).symm⟩
  · intro w a ha hsucceeded
    obtain ⟨m, hkeeps, houtputs⟩ := h.attested w a ha hsucceeded
    refine ⟨m, hkeeps.of_eq rfl, houtputs.of_eq (Store.listTaskOutputs_of_append hrows ?_)⟩
    intro r hr hra
    -- the task of the attempt was accepted, and the one that was sent is no inbound task
    obtain ⟨head, hhead⟩ := h.locked w a ha
    obtain ⟨sent, hsent, rfl⟩ := map_eq_some_iff.1 hq
    have hempty := h.apart sent (mem_of_find hsent)
    rw [← hra, hkept r hr, ← htq] at hhead
    cases hempty.symm.trans hhead

end Deliveries

end Invariant

/-! ## Outputs of completed tasks -/

/-- The step keeps inbound and sent tasks under different ids. -/
def DeskEvent.Apart (s : Store) : DeskEvent → Prop
  | .send req _ => s.contractHead req.taskId = .empty
  | .propose taskId _ => ∀ q ∈ s.sentRequests, q.taskId ≠ taskId
  | _ => True

/-- A step that keeps the roles apart. -/
def ApartStep (env : Env) (me : Party) (e : Desk) (l : DeskEvent) (e' : Desk) : Prop :=
  DeskStep env me e l e' ∧ l.Apart e.store

/-- A daemon that has kept nothing yet. -/
structure Desk.Clean (e : Desk) : Prop where
  noOutputs : ∀ r, ¬ r ∈ e.store.taskOutputs
  noOutcomes : ∀ o, ¬ o ∈ e.store.outcomes
  noResults : ∀ w, e.store.resultRow w = none
  noRequests : ∀ q, ¬ q ∈ e.store.sentRequests
  single : ∀ w w' a b, e.store.attemptRow w = some a → e.store.attemptRow w' = some b →
    a.taskId = b.taskId → w = w'
  locked : ∀ w a, e.store.attemptRow w = some a → ∃ head, e.store.contractHead a.taskId = .locked head
  unfinished : ∀ w a, e.store.attemptRow w = some a → a.state ≠ .succeeded

theorem Desk.Clean.orderly {env : Env} {e : Desk} (h : e.Clean) : Orderly env e where
  single := h.single
  locked := h.locked
  settled w hresult := absurd (h.noResults w) hresult
  answered o ho := absurd ho (h.noOutcomes o)
  apart q hq := absurd hq (h.noRequests q)
  owned r hr := absurd hr (h.noOutputs r)
  attested w a ha hsucceeded := absurd hsucceeded (h.unfinished w a ha)

/-- Every step keeps the invariant. -/
theorem orderly_step {env : Env} {me : Party} {e e' : Desk} {l : DeskEvent} (h : Orderly env e)
    (hstep : ApartStep env me e l e') : Orderly env e' := by
  obtain ⟨hstep, hapart⟩ := hstep
  cases hstep with
  | submit hrun => exact orderly_submit h hrun
  | cutSubmit hrun => exact orderly_cutSubmit h hrun
  | deliver hrun => exact orderly_deliver h hrun
  | send => exact orderly_send _ h hapart
  | propose hrun => exact orderly_propose h hapart hrun
  | approve hrun => exact orderly_approve h (mem_of_exec hrun)
  | cutApprove hrun => exact orderly_crash (orderly_approve h (mem_cons_of_mem _ hrun))
  | advance hevent hrun => exact orderly_advance h hevent hrun
  | elsewhere hrun => exact orderly_elsewhere h hrun
  | crash => exact orderly_crash h
  | restart => exact orderly_restart h _

/-- **The outputs of a completed task are those of its signed manifest**, in every state that is
reached by steps that keep the ids of the two roles apart. -/
theorem outputs_match_manifest (env : Env) (me : Party) {e₀ e : Desk} {ls : List DeskEvent}
    (hclean : e₀.Clean) (ht : Trace (ApartStep env me) e₀ ls e) {w : String} {a : AttemptRow}
    (ha : e.store.attemptRow w = some a) (hsucceeded : a.state = .succeeded) :
    ∃ m, e.store.KeepsResult env w m ∧ KeepsOutputs env e.store a.taskId m := by
  have horderly : Orderly env e :=
    ht.invariant (fun _ _ _ h hstep => orderly_step h hstep) hclean.orderly
  exact horderly.attested w a ha hsucceeded

/-! The daemon of the sample has claimed its task, and has sent one that the performer has put under
the same id. -/

def deskEnv : Env := exportEnv.withReply answerReply

def deskParty : Party :=
  ⟨⟨answerRequester, ⟨.contractDecision, wireSecret⟩, wireSecret⟩, answerRequester, exportKey, outcomeKey⟩

def deskStore : Store := putSentRequest answerRequest 1800000000 exportStore

def answerDelivery : Delivery :=
  ⟨answerPerformer, answerPerformer.root, Reply.key.verifying deskEnv, answerReply.envelope exportEnv,
    Reply.parts, "2027-01-15T08:00:00Z", 1800000000⟩

theorem clean_exportStore (up : Bool) : Desk.Clean ⟨exportStore, up⟩ where
  noOutputs := not_mem_empty
  noOutcomes := not_mem_empty
  noResults _ := rfl
  noRequests := not_mem_empty
  single w w' a b ha hb _ := by
    obtain ⟨hmem, rfl⟩ := Store.attemptRow_eq_some_iff.1 ha
    obtain ⟨hmem', rfl⟩ := Store.attemptRow_eq_some_iff.1 hb
    rw [mem_singleton.1 hmem, mem_singleton.1 hmem']
  locked w a ha := by
    rw [mem_singleton.1 (Store.attemptRow_eq_some_iff.1 ha).1]
    exact ⟨_, exportWire.contractHead_stored .locked⟩
  unfinished w a ha := by
    rw [mem_singleton.1 (Store.attemptRow_eq_some_iff.1 ha).1]
    decide

theorem hashes_desk : HashesExport deskEnv where
  nonce := by
    rw [deskEnv, Reply.sha256_text _ _ (by decide), if_neg (by decide), hashesExport.nonce]
  zeros := by
    rw [deskEnv, Reply.sha256_text _ _ (by decide), if_neg (by decide), hashesExport.zeros]

theorem attestable_desk : Attestable deskEnv exportKey oneOutput exportTask where
  gated := attestable_oneOutput.gated
  satisfied := attestable_oneOutput.satisfied
  distinct := attestable_oneOutput.distinct
  valid := by
    rw [hashes_desk.manifest_oneOutput, ← hashesExport.manifest_oneOutput]
    exact attestable_oneOutput.valid
  purpose := rfl

theorem completes_desk {s : Store} (haccepts : Accepts deskEnv s "task-1" exportTask)
    (hstate : s.attemptState exportOrder.workOrderId = some .claimed)
    (hfree : s.resultRow exportOrder.workOrderId = none) (now : Time) :
    ∃ json s', exec (submitResult deskEnv exportKey oneOutput now) s = (.ok json, s') ∧
      s'.KeepsResult deskEnv exportOrder.workOrderId (exportManifest [exportEntry "a" 0]) ∧
      (∃ row attempts results audit, s.attemptRow exportOrder.workOrderId = some row ∧
        s'.attemptRow exportOrder.workOrderId = some (row.withState .succeeded) ∧
        s' = { s with taskOutputs := (oneOutput.rows deskEnv).foldl Table.insertIgnore s.taskOutputs,
                      attempts := attempts, results := results, audit := audit }) := by
  obtain ⟨audit, hstaged⟩ := withOutputs_eq (oneOutput.rows deskEnv) now s
  obtain ⟨s', hstage⟩ := stageResult_total ((withOutputs_attemptState _ _).trans hstate)
    (by rw [hstaged]; exact hfree) "task-1" (oneOutput.signed deskEnv exportKey exportTask).1
    (oneOutput.signed deskEnv exportKey exportTask).2 now
  have hcompletes : Completes deskEnv exportKey oneOutput exportTask now s s' :=
    ⟨.claimed, hstate, .inl rfl, hstage⟩
  have hkeeps := hcompletes.keepsResult attestable_desk
  rw [hashes_desk.manifest_oneOutput] at hkeeps
  refine ⟨_, s', exec_submitResult_eq_ok_iff.2 ⟨exportTask, haccepts, attestable_desk, rfl,
    .inr ⟨rfl, hcompletes⟩⟩, hkeeps, ?_⟩
  obtain ⟨-, row, attempts, results, audit', hrow, -, hs', hself, -⟩ := stageResult_cases hstage
  rw [hstaged] at hrow hs'
  exact ⟨row, attempts, results, audit', hrow, hself, hs'⟩

theorem accepts_desk : Accepts deskEnv exportStore "task-1" exportTask where
  locked := accepts_exportStore.locked
  loaded := Store.loadContract_of_reads loadContract_exportEnv rfl rfl rfl
  claimed := accepts_exportStore.claimed
  ordered := accepts_exportStore.ordered
  context := accepts_exportStore.context
  completed := accepts_exportStore.completed

/-- The task alone, completed: its outputs are those of its manifest. -/
theorem outputs_match_manifest_export : ∃ e m,
    (∃ json, Trace (ApartStep deskEnv deskParty) ⟨exportStore, true⟩
      [.submit oneOutput 1800000000 (.ok json)] e) ∧
    e.store.KeepsResult deskEnv exportOrder.workOrderId m ∧
    KeepsOutputs deskEnv e.store "task-1" m := by
  obtain ⟨json, s', hrun, -, row, -, -, -, hrow, hself, -⟩ :=
    completes_desk accepts_desk rfl rfl 1800000000
  have ht : Trace (ApartStep deskEnv deskParty) ⟨exportStore, true⟩
      [.submit oneOutput 1800000000 (.ok json)] ⟨s', true⟩ := .cons ⟨.submit hrun, trivial⟩ (.nil _)
  obtain ⟨m, hkeeps, houtputs⟩ :=
    outputs_match_manifest deskEnv deskParty (clean_exportStore true) ht hself rfl
  obtain rfl : row = exportAttempt := mem_singleton.1 (Store.attemptRow_eq_some_iff.1 hrow).1
  exact ⟨_, m, ⟨json, ht⟩, hkeeps, houtputs⟩

theorem exists_mixed_run : ∃ json₁ json₂ s₂ s₃ row a,
    exec (answerDelivery.finalize deskEnv deskParty) deskStore = (.ok json₁, s₂) ∧
    row ∈ s₂.outcomes ∧ row.taskId = "task-1" ∧ row.bundleDigest = hex answerReply.digest ∧
    exec (submitResult deskEnv exportKey oneOutput 1800000001) s₂ = (.ok json₂, s₃) ∧
    s₃.attemptRow exportOrder.workOrderId = some a ∧ a.taskId = "task-1" ∧ a.state = .succeeded ∧
    s₃.KeepsResult deskEnv exportOrder.workOrderId (exportManifest [exportEntry "a" 0]) ∧
    answerReply.row ∈ s₃.listTaskOutputs "task-1" ∧
    ∃ r ∈ s₃.listTaskOutputs "task-1", r.artifactId = "a" := by
  obtain ⟨json₁, outcomes, taskOutputs, audit, row, hdeliver, hinsert, houtput, htask, hbundle⟩ :=
    Reply.exec_finalizeResult_reply exportEnv answerReply (s := deskStore) 1800000000
      answers_answerRequest rfl (fun row hrow => absurd hrow (not_mem_empty row))
      (fun row hrow => absurd hrow (not_mem_empty row))
  have haccepts : Accepts deskEnv { deskStore with
      taskOutputs := taskOutputs, outcomes := outcomes, audit := audit } "task-1" exportTask :=
    ⟨accepts_desk.locked, accepts_desk.loaded, accepts_desk.claimed, accepts_desk.ordered,
      accepts_desk.context, accepts_desk.completed⟩
  obtain ⟨json₂, s₃, hsubmit, hkeeps, attempt, attempts, results, audit', hrow, hself, hs₃⟩ :=
    completes_desk haccepts rfl rfl 1800000001
  have hattempt : attempt = exportAttempt :=
    mem_singleton.1 (Store.attemptRow_eq_some_iff.1 hrow).1
  have hlisted : ∀ r ∈ (oneOutput.rows deskEnv).foldl Table.insertIgnore taskOutputs,
      r.taskId = "task-1" → r ∈ s₃.listTaskOutputs "task-1" := by
    intro r hr htask
    rw [Store.listTaskOutputs, mem_insertionSort, hs₃]
    exact mem_filter.2 ⟨hr, decide_eq_true htask⟩
  have hanswer : answerReply.row ∈ taskOutputs := (mem_insert houtput).2 (.inr rfl)
  refine ⟨json₁, json₂, _, s₃, row, _, hdeliver, (mem_insert hinsert).2 (.inr rfl), htask,
    hbundle, hsubmit, hself, by rw [hattempt]; rfl, rfl, hkeeps,
    hlisted _ (mem_foldl_insertIgnore_of_mem hanswer) rfl, ?_⟩
  obtain ⟨r, hr, htask₀, hid⟩ : ∃ r ∈ oneOutput.rows deskEnv, r.taskId = "task-1" ∧ r.artifactId = "a" :=
    ⟨_, mem_cons_self, rfl, rfl⟩
  obtain ⟨kept, hkept, rfl | ⟨htask', hid'⟩⟩ :=
    exists_clash_foldl_insertIgnore (t := taskOutputs) hr
  · exact ⟨kept, hlisted kept hkept htask₀, hid⟩
  · exact ⟨kept, hlisted kept hkept (htask'.trans htask₀), hid'.trans hid⟩

/-- The completed task has an output that its manifest does not name. -/
theorem completed_task_lists_foreign_output : ∃ ls e a m,
    Trace (DeskStep deskEnv deskParty) ⟨exportStore, true⟩ ls e ∧
    e.store.attemptRow exportOrder.workOrderId = some a ∧ a.state = .succeeded ∧
    e.store.KeepsResult deskEnv exportOrder.workOrderId m ∧
    ¬ KeepsOutputs deskEnv e.store a.taskId m := by
  obtain ⟨json₁, json₂, s₂, s₃, -, a, hdeliver, -, -, -, hsubmit, ha, htask, hsucceeded, hkeeps, hanswer,
    -⟩ := exists_mixed_run
  refine ⟨[.send answerRequest 1800000000, .deliver answerDelivery (.ok json₁),
    .submit oneOutput 1800000001 (.ok json₂)], ⟨s₃, true⟩, a, _,
    .cons .send (.cons (.deliver hdeliver) (.cons (.submit hsubmit) (.nil _))), ha, hsucceeded, hkeeps,
    fun houtputs => ?_⟩
  rw [htask] at houtputs
  have hnamed := houtputs.listed.subset (mem_map_of_mem hanswer)
  obtain ⟨entry, hentry, hsummary⟩ := mem_map.1 hnamed
  rw [mem_singleton.1 hentry] at hsummary
  exact absurd (congrArg Prod.fst hsummary) (by decide)

/-! ## Outputs of accepted outcomes -/

/-- Tasks that are sent have ids of their own. -/
def DeskEvent.Distinct (s : Store) : DeskEvent → Prop
  | .send req _ => ∀ q ∈ s.sentRequests, q.taskId = req.taskId → q.contractDigest = req.contractDigest
  | _ => True

/-- A step that keeps all ids apart. -/
def DistinctStep (env : Env) (me : Party) (e : Desk) (l : DeskEvent) (e' : Desk) : Prop :=
  ApartStep env me e l e' ∧ l.Distinct e.store

/-- Sent tasks have ids of their own. -/
structure Separate (env : Env) (e : Desk) : Prop extends Orderly env e where
  unique : ∀ q ∈ e.store.sentRequests, ∀ q' ∈ e.store.sentRequests, q.taskId = q'.taskId →
    q.contractDigest = q'.contractDigest

section Outcomes

variable {env : Env} {me : Party} {e e' : Desk} {l : DeskEvent} {s s' : Store}

theorem sameRecords_approve {a : Approval}
    (h : s' ∈ s :: commits (approveAndIssue env me.authority a) s) : SameRecords s s' := by
  obtain rfl | h := mem_cons.1 h
  · exact ⟨rfl, rfl, rfl, rfl⟩
  obtain ⟨head, c, tls, decisionId, s₁, happ, haccept, hrest⟩ := mem_commits_approveAndIssue h
  obtain ⟨-, -, heads, audit, rfl⟩ := acceptContract_locks happ.opened haccept
  obtain rfl | ⟨order, outcome, s₂, -, hclaim, hrest⟩ := hrest
  · exact ⟨rfl, rfl, rfl, rfl⟩
  have h₂ : SameRecords s s₂ := by
    obtain ⟨-, -, -, rfl⟩ | ⟨-, -, -, rfl⟩ | ⟨-, -, attempts, -, rfl⟩ := claimAttempt_cases hclaim <;>
      exact ⟨rfl, rfl, rfl, rfl⟩
  obtain rfl | rfl := hrest
  · exact h₂
  · obtain ⟨orders, audit, heq⟩ := putWorkOrder_eq (order.issue env me.authority.workOrderKey) a.now s₂
    rw [heq]
    exact ⟨h₂.results, h₂.taskOutputs, h₂.outcomes, h₂.sentRequests⟩

theorem deskStep_cases (h : DeskStep env me e l e') :
    SameRecords e.store e'.store ∨
      (∃ req now, l = .send req now ∧ e'.store = putSentRequest req now e.store) ∨
      (∃ sub now, e'.store ∈ e.store :: commits (submitResult env me.taskResultKey sub now) e.store) ∨
      ∃ d answer, l = .deliver d answer ∧ exec (d.finalize env me) e.store = (answer, e'.store) := by
  cases h with
  | submit hrun => exact .inr (.inr (.inl ⟨_, _, mem_of_exec hrun⟩))
  | cutSubmit hrun => exact .inr (.inr (.inl ⟨_, _, mem_cons_of_mem _ hrun⟩))
  | deliver hrun => exact .inr (.inr (.inr ⟨_, _, rfl, hrun⟩))
  | send => exact .inr (.inl ⟨_, _, rfl, rfl⟩)
  | propose hrun =>
    obtain ⟨reason, -, -, rfl⟩ | ⟨-, -, heads, rfl, -⟩ := submitRevision_cases hrun <;>
      exact .inl ⟨rfl, rfl, rfl, rfl⟩
  | approve hrun => exact .inl (sameRecords_approve (mem_of_exec hrun))
  | cutApprove hrun => exact .inl (sameRecords_approve (mem_cons_of_mem _ hrun))
  | advance _ hrun =>
    obtain ⟨-, -, rfl⟩ | ⟨out, -, hop⟩ := transact_cases hrun
    · exact .inl ⟨rfl, rfl, rfl, rfl⟩
    obtain ⟨row, -, -, ⟨e, -, rfl⟩ | ⟨new, attempts, -, rfl, -⟩⟩ := advanceAttempt_cases hop <;>
      exact .inl ⟨rfl, rfl, rfl, rfl⟩
  | elsewhere hrun =>
    exact .inl ⟨hrun.results, hrun.taskOutputs, hrun.outcomes, hrun.sentRequests⟩
  | crash => exact .inl ⟨rfl, rfl, rfl, rfl⟩
  | restart =>
    refine .inl ?_
    obtain ⟨attempts, audit, heq⟩ := foldl_markAmbiguous_eq _ _ _
    change SameRecords _ (List.foldl _ _ _)
    rw [heq]
    exact ⟨rfl, rfl, rfl, rfl⟩

theorem submission_outputs {sub : ResultSubmission} {now : Time}
    (h : s' ∈ s :: commits (submitResult env me.taskResultKey sub now) s) :
    s'.outcomes = s.outcomes ∧ s'.sentRequests = s.sentRequests ∧
      (s'.taskOutputs = s.taskOutputs ∨ ∃ task n, Writes env me.taskResultKey sub task s ∧
        s'.taskOutputs = ((sub.rows env).take n).foldl Table.insertIgnore s.taskOutputs) := by
  obtain rfl | h := mem_cons.1 h
  · exact ⟨rfl, rfl, .inl rfl⟩
  obtain rfl | ⟨task, hwrites, ⟨n, rfl⟩ | ⟨state, -, -, hstage⟩⟩ := mem_commits_submitResult h
  · exact ⟨rfl, rfl, .inl rfl⟩
  · obtain ⟨audit, heq⟩ := withOutputs_eq ((sub.rows env).take n) now s
    rw [heq]
    exact ⟨rfl, rfl, .inr ⟨task, n, hwrites, rfl⟩⟩
  · obtain ⟨audit', heq⟩ := withOutputs_eq (sub.rows env) now s
    obtain ⟨-, row, attempts, results, audit, -, -, rfl, -⟩ := stageResult_cases hstage
    rw [heq]
    refine ⟨rfl, rfl, .inr ⟨task, (sub.rows env).length, hwrites, ?_⟩⟩
    rw [take_length]

/-- Every step keeps the ids apart. -/
theorem separate_step (h : Separate env e) (hstep : DistinctStep env me e l e') :
    Separate env e' := by
  refine ⟨orderly_step h.toOrderly hstep.1, ?_⟩
  have hkept : e'.store.sentRequests = e.store.sentRequests →
      ∀ q ∈ e'.store.sentRequests, ∀ q' ∈ e'.store.sentRequests, q.taskId = q'.taskId →
        q.contractDigest = q'.contractDigest := by
    intro heq
    rw [heq]
    exact h.unique
  obtain hsame | ⟨req, now, rfl, hs'⟩ | ⟨sub, now, hrun⟩ | ⟨d, answer, rfl, hrun⟩ :=
    deskStep_cases hstep.1.1
  · exact hkept hsame.sentRequests
  · obtain heq | ⟨sent, audit, hins, heq⟩ := putSentRequest_cases req now e.store
    · exact hkept (by rw [hs', heq])
    · have hdistinct : ∀ q ∈ e.store.sentRequests, q.taskId = req.taskId →
          q.contractDigest = req.contractDigest := hstep.2
      rw [hs', heq]
      intro q hq q' hq' htask
      rcases (mem_insert hins).1 hq with hq | rfl
      · rcases (mem_insert hins).1 hq' with hq' | rfl
        · exact h.unique q hq q' hq' htask
        · exact hdistinct q hq htask
      · rcases (mem_insert hins).1 hq' with hq' | rfl
        · exact (hdistinct q' hq' htask.symm).symm
        · rfl
  · exact hkept (submission_outputs hrun).2.1
  · obtain heq | ⟨_, _, _, _, _, _, _, _, -, -, -, -, -, -, -, -, heq⟩ := deliver_cases hrun
    · exact hkept (by rw [heq])
    · exact hkept (by rw [heq])

variable {digest : String} {q : SentRequest} {entries : List OutputEntry} {d : Delivery}

theorem Separate.contractDigest_eq (h : Separate env e) {o : OutcomeRow} (ho : o ∈ e.store.outcomes)
    (hq : e.store.getSentRequest digest = some q) (htask : q.taskId = o.taskId) :
    digest = o.contractDigest := by
  obtain ⟨q', hq', htask'⟩ := h.answered o ho
  obtain ⟨row, hrow, rfl, rfl⟩ := Store.mem_of_getSentRequest hq
  obtain ⟨row', hrow', rfl, hdigest⟩ := Store.mem_of_getSentRequest hq'
  rw [← hdigest]
  exact h.unique row hrow row' hrow' (htask.trans htask'.symm)

theorem Separate.noOutputs (h : Separate env e) (hq : e.store.getSentRequest digest = some q)
    (hnew : ∀ o ∈ e.store.outcomes, o.contractDigest ≠ digest) :
    ∀ r ∈ e.store.taskOutputs, r.taskId ≠ q.taskId := by
  intro r hr htask
  rcases h.owned r hr with ⟨w, a, ha, hta, -⟩ | ⟨o, ho, hto⟩
  · obtain ⟨head, hhead⟩ := h.locked w a ha
    obtain ⟨row, hrow, rfl, -⟩ := Store.mem_of_getSentRequest hq
    rw [hta, htask] at hhead
    cases (h.apart row hrow).symm.trans hhead
  · exact hnew o ho (h.contractDigest_eq ho hq (htask.symm.trans hto.symm)).symm

/-- The outcome of the task is recorded, and these are its outputs. -/
def HoldsRows (taskId contractDigest : String) (rows : List TaskOutputRow) (s : Store) : Prop :=
  (∃ o ∈ s.outcomes, o.taskId = taskId ∧ o.contractDigest = contractDigest) ∧
    s.listTaskOutputs taskId = rows

/-- Recorded outputs stay as they are. -/
theorem holdsRows_step (h : Separate env e) (hholds : HoldsRows taskId digest rows e.store)
    (hstep : DistinctStep env me e l e') : HoldsRows taskId digest rows e'.store := by
  obtain ⟨⟨o, ho, rfl, rfl⟩, rfl⟩ := hholds
  obtain hsame | ⟨req, now, -, hs'⟩ | ⟨sub, now, hrun⟩ | ⟨d, answer, -, hrun⟩ :=
    deskStep_cases hstep.1.1
  · refine ⟨⟨o, hsame.outcomes ▸ ho, rfl, rfl⟩, ?_⟩
    rw [Store.listTaskOutputs, hsame.taskOutputs, Store.listTaskOutputs]
  · rw [hs']
    obtain heq | ⟨sent, audit, -, heq⟩ := putSentRequest_cases req now e.store
    · rw [heq]
      exact ⟨⟨o, ho, rfl, rfl⟩, rfl⟩
    · rw [heq]
      exact ⟨⟨o, ho, rfl, rfl⟩, rfl⟩
  · obtain ⟨houtcomes, -, houtputs⟩ := submission_outputs hrun
    refine ⟨⟨o, houtcomes ▸ ho, rfl, rfl⟩, ?_⟩
    obtain heq | ⟨task, n, hwrites, heq⟩ := houtputs
    · rw [Store.listTaskOutputs, heq, Store.listTaskOutputs]
    · -- the submission is for an inbound task
      have hne : sub.taskId ≠ o.taskId := by
        intro htask
        obtain ⟨q, hq, htq⟩ := h.answered o ho
        obtain ⟨row, hrow, rfl, -⟩ := Store.mem_of_getSentRequest hq
        have hlocked := hwrites.accepts.locked
        rw [htask, ← htq] at hlocked
        cases (h.apart row hrow).symm.trans hlocked
      rw [Store.listTaskOutputs, heq, select_foldl_insertIgnore_of_not, Store.listTaskOutputs]
      intro r hr
      rw [taskId_of_mem_rows (mem_of_mem_take hr)]
      exact decide_eq_false hne
  · obtain heq | ⟨manifest, bundleDigest, rows, q, row, outcomes, taskOutputs, audit, hpasses, hq, htq,
      -, -, hnew, hinsert, hrows, heq⟩ := deliver_cases hrun
    · rw [heq]
      exact ⟨⟨o, ho, rfl, rfl⟩, rfl⟩
    · have hkept := taskId_of_kept (checkOutputs_eq_ok hpasses.carries).2
      refine ⟨⟨o, ?_, rfl, rfl⟩, Store.listTaskOutputs_of_append (by rw [heq]; exact hrows) ?_⟩
      · rw [heq]
        exact (mem_insert hinsert).2 (.inl ho)
      · intro r hr htask
        exact hnew o ho (h.contractDigest_eq ho hq
          (htq.trans ((hkept r hr).symm.trans htask))).symm

theorem sorted_of_kept {n : ℕ}
    (h : List.Forall₂ (KeptAs env taskId parts) (entries.zipIdx n) rows) :
    (∀ r ∈ rows, n ≤ r.ordinal) ∧ rows.Pairwise (fun a b => a.ordinal ≤ b.ordinal) := by
  induction entries generalizing n rows with
  | nil =>
    rw [zipIdx_nil, forall₂_nil_left_iff] at h
    subst h
    exact ⟨by simp, List.Pairwise.nil⟩
  | cons entry entries ih =>
    rw [zipIdx_cons, forall₂_cons_left_iff] at h
    obtain ⟨row, rest, ⟨part, -, -, -, hrow⟩, hrest, rfl⟩ := h
    obtain ⟨hlater, hsorted⟩ := ih hrest
    have hordinal : row.ordinal = n := by rw [hrow]
    refine ⟨forall_mem_cons.2 ⟨hordinal.ge, fun r hr => ?_⟩, pairwise_cons.2
      ⟨fun r hr => ?_, hsorted⟩⟩
    · have := hlater r hr
      omega
    · have := hlater r hr
      omega

theorem map_artifactId_of_kept {n : ℕ}
    (h : List.Forall₂ (KeptAs env taskId parts) (entries.zipIdx n) rows) :
    rows.map TaskOutputRow.artifactId = entries.map OutputEntry.artifactId := by
  induction entries generalizing n rows with
  | nil =>
    rw [zipIdx_nil, forall₂_nil_left_iff] at h
    rw [h]
    rfl
  | cons entry entries ih =>
    rw [zipIdx_cons, forall₂_cons_left_iff] at h
    obtain ⟨row, rest, ⟨part, -, -, -, hrow⟩, hrest, rfl⟩ := h
    rw [map_cons, map_cons, ih hrest, hrow]

theorem holdsRows_deliver {row : OutcomeRow} (h : Separate env ⟨s, true⟩)
    (hrun : exec (d.finalize env me) s = (answer, s')) (hrow : row ∈ s'.outcomes)
    (hnew : ¬ row ∈ s.outcomes) :
    ∃ m rows, ResultManifest.verify env d.envelope d.key = .ok (m, row.bundleDigest) ∧
      row.taskId = m.header.taskId ∧
      List.Forall₂ (KeptAs env m.header.taskId d.parts) (m.outputs.zipIdx 0) rows ∧
      HoldsRows m.header.taskId row.contractDigest rows s' := by
  obtain ⟨-, rfl⟩ | ⟨m, bundleDigest, rows, signed, write, hpasses, -, hrecord, -⟩ :=
    finalizeResult_cases hrun
  · exact absurd hrow hnew
  obtain ⟨-, -, -, rfl⟩ | ⟨hnone, -, taskOutputs, outcomes, audit, houtputs, hinsert, rfl⟩ :=
    recordOutcomeWithOutputs_cases hrecord
  · exact absurd hrow hnew
  obtain rfl := ((mem_insert hinsert).1 hrow).resolve_left hnew
  obtain ⟨q, hq, hanswers⟩ := hpasses.answers
  have hkept := (checkOutputs_eq_ok hpasses.carries).2
  have hfirst : ∀ o ∈ s.outcomes, o.contractDigest ≠ m.header.contractDigest :=
    fun o ho => of_decide_eq_false (find_eq_none_iff.1 hnone o ho)
  refine ⟨m, rows, hpasses.verified, rfl, hkept, ⟨_, hrow, rfl, rfl⟩, ?_⟩
  have hfresh : ∀ r ∈ s.taskOutputs, r.taskId ≠ m.header.taskId := by
    rw [← hanswers.taskId]
    exact h.noOutputs hq hfirst
  rw [Store.listTaskOutputs_of_fresh (rows_of_insertRows houtputs) (taskId_of_kept hkept) hfresh]
  exact (sorted_of_kept hkept).2.insertionSort_eq

theorem exists_ok_of_passes {bundleDigest : String} {signed : String × Bytes}
    (h : Separate env ⟨s, true⟩)
    (hpasses : Passes env d.sender d.senderRoot d.key d.envelope d.parts s m bundleDigest rows)
    (hsigned : signOutcome env m me.identity d.signedAt me.outcomeKey = .ok signed) :
    ∃ json s', exec (d.finalize env me) s = (.ok json, s') := by
  cases hfind : s.outcomes.find (fun r => r.contractDigest = m.header.contractDigest) with
  | some existing =>
    have hrecord : recordOutcomeWithOutputs (m.outcomeRow bundleDigest signed d.signedAt d.now) rows d.now
        s = .ok (.alreadyRecorded existing.outcomeDigest, s) := by
      rw [recordOutcomeWithOutputs, ResultManifest.outcomeRow, hfind]
    exact ⟨_, s, exec_finalizeResult hpasses hsigned hrecord⟩
  | none =>
    obtain ⟨q, hq, hanswers⟩ := hpasses.answers
    obtain ⟨hcarries, hkept⟩ := checkOutputs_eq_ok hpasses.carries
    have hfresh := h.noOutputs hq
      (fun o ho => of_decide_eq_false (find_eq_none_iff.1 hfind o ho))
    obtain ⟨taskOutputs, houtputs⟩ : ∃ u, insertRows s.taskOutputs rows = .ok u := by
      refine insertRows_of_free ?_ ?_
      · rintro r hr b hb ⟨htask, -⟩
        exact hfresh b hb (htask.trans ((taskId_of_kept hkept r hr).trans hanswers.taskId.symm))
      · have hdistinct := hcarries.distinct
        rw [← map_artifactId_of_kept hkept, List.Nodup, pairwise_map] at hdistinct
        exact hdistinct.imp (fun hne hclash => hne hclash.2)
    obtain ⟨outcomes, audit, -, hrecord⟩ := recordOutcomeWithOutputs_of_new
      (m.outcomeRow bundleDigest signed d.signedAt d.now) d.now hfind houtputs
    exact ⟨_, _, exec_finalizeResult hpasses hsigned hrecord⟩

/-- **An accepted outcome keeps its outputs**: after every run in which inbound tasks and sent ones
are under ids of their own, a delivery that passes its checks is answered; and where it records an
outcome, the outputs listed under the id of its task are, in every later state, those of its manifest
in their order. -/
theorem outcomes_keep_their_outputs (env : Env) (me : Party) {e₀ e₁ : Desk} {ls₁ : List DeskEvent}
    (hclean : e₀.Clean) (h₁ : Trace (DistinctStep env me) e₀ ls₁ e₁) :
    (∀ (d : Delivery) m bundleDigest rows signed, e₁.up = true →
      Passes env d.sender d.senderRoot d.key d.envelope d.parts e₁.store m bundleDigest rows →
      signOutcome env m me.identity d.signedAt me.outcomeKey = .ok signed →
      ∃ json s', exec (d.finalize env me) e₁.store = (.ok json, s')) ∧
    (∀ d answer e₂ row, DistinctStep env me e₁ (.deliver d answer) e₂ →
      row ∈ e₂.store.outcomes → ¬ row ∈ e₁.store.outcomes →
      ∃ m, ResultManifest.verify env d.envelope d.key = .ok (m, row.bundleDigest) ∧
        row.taskId = m.header.taskId ∧
        ∀ ls₂ e₃, Trace (DistinctStep env me) e₂ ls₂ e₃ →
          List.Forall₂ (KeptAs env m.header.taskId d.parts) (m.outputs.zipIdx 0)
            (e₃.store.listTaskOutputs row.taskId)) := by
  have hstart : Separate env e₀ := ⟨hclean.orderly, fun q hq => absurd hq (hclean.noRequests q)⟩
  have hseparate : Separate env e₁ :=
    h₁.invariant (fun _ _ _ h hstep => separate_step h hstep) hstart
  constructor
  · intro d m bundleDigest rows signed hup hpasses hsigned
    obtain ⟨s, up⟩ := e₁
    obtain rfl : up = true := hup
    exact exists_ok_of_passes hseparate hpasses hsigned
  · intro d answer e₂ row hstep hrow hnew
    have hseparate₂ : Separate env e₂ := separate_step hseparate hstep
    cases hstep.1.1 with
    | deliver hrun =>
      obtain ⟨m, rows, hverify, htask, hkept, hholds⟩ := holdsRows_deliver hseparate hrun hrow hnew
      refine ⟨m, hverify, htask, fun ls₂ e₃ h₂ => ?_⟩
      have hlater : HoldsRows m.header.taskId row.contractDigest rows e₃.store :=
        h₂.stable (P := fun e => HoldsRows m.header.taskId row.contractDigest rows e.store)
          (fun _ _ _ h hstep => separate_step h hstep)
          (fun _ _ _ h hholds hstep => holdsRows_step h hholds hstep) hseparate₂ hholds
      rw [htask, hlater.2]
      exact hkept

end Outcomes

theorem clean_empty (up : Bool) : Desk.Clean ⟨{}, up⟩ where
  noOutputs := not_mem_empty
  noOutcomes := not_mem_empty
  noResults _ := rfl
  noRequests := not_mem_empty
  single _ _ _ _ ha _ _ := by cases ha
  locked _ _ ha := by cases ha
  unfinished _ _ ha := by cases ha

/-- The answer, delivered to a daemon that has sent its task and nothing else. -/
theorem outcomes_keep_their_outputs_answer : ∃ e₂ m,
    (∃ answer, Trace (DistinctStep deskEnv deskParty) ⟨{}, true⟩
      [.send answerRequest 1800000000, .deliver answerDelivery answer] e₂) ∧
    ResultManifest.verify deskEnv answerDelivery.envelope answerDelivery.key =
      .ok (m, hex answerReply.digest) ∧
    ∀ ls e₃, Trace (DistinctStep deskEnv deskParty) e₂ ls e₃ →
      List.Forall₂ (KeptAs deskEnv m.header.taskId Reply.parts) (m.outputs.zipIdx 0)
        (e₃.store.listTaskOutputs "task-1") := by
  obtain ⟨json, outcomes, taskOutputs, audit, row, hdeliver, hinsert, -, htask, hbundle⟩ :=
    Reply.exec_finalizeResult_reply exportEnv answerReply (s := answerStore) 1800000000
      answers_answerRequest rfl (fun row hrow => absurd hrow (not_mem_empty row))
      (fun row hrow => absurd hrow (not_mem_empty row))
  have hsend : DistinctStep deskEnv deskParty ⟨{}, true⟩ (.send answerRequest 1800000000)
      ⟨answerStore, true⟩ := ⟨⟨.send, rfl⟩, fun q hq => absurd hq (not_mem_empty q)⟩
  have hstep : DistinctStep deskEnv deskParty ⟨answerStore, true⟩ (.deliver answerDelivery (.ok json))
      ⟨{ answerStore with taskOutputs := taskOutputs, outcomes := outcomes, audit := audit }, true⟩ :=
    ⟨⟨.deliver hdeliver, trivial⟩, trivial⟩
  obtain ⟨-, hkept⟩ :=
    outcomes_keep_their_outputs deskEnv deskParty (clean_empty true) (.cons hsend (.nil _))
  obtain ⟨m, hverify, -, hlater⟩ := hkept _ _ _ row hstep ((mem_insert hinsert).2 (.inr rfl))
    (not_mem_empty row)
  rw [hbundle] at hverify
  rw [htask] at hlater
  exact ⟨_, m, ⟨_, .cons hsend (.cons hstep (.nil _))⟩, hverify, hlater⟩

/-- The performer of a task that was sent has put it under the id of the daemon's own task, and the
outputs of the accepted outcome are mixed with those of that task. -/
theorem outcome_lists_foreign_output : ∃ e₁ e₂ e₃ answer answer' row m,
    Trace (DeskStep deskEnv deskParty) ⟨exportStore, true⟩ [.send answerRequest 1800000000] e₁ ∧
    DeskStep deskEnv deskParty e₁ (.deliver answerDelivery answer) e₂ ∧
    row ∈ e₂.store.outcomes ∧
    ResultManifest.verify deskEnv answerDelivery.envelope answerDelivery.key =
      .ok (m, row.bundleDigest) ∧ row.taskId = m.header.taskId ∧
    DeskStep deskEnv deskParty e₂ (.submit oneOutput 1800000001 answer') e₃ ∧
    ¬ List.Forall₂ (KeptAs deskEnv m.header.taskId Reply.parts) (m.outputs.zipIdx 0)
      (e₃.store.listTaskOutputs row.taskId) := by
  obtain ⟨json₁, json₂, s₂, s₃, row, -, hdeliver, hrow, htask, hbundle, hsubmit, -, -, -, -, -, r, hr,
    hid⟩ := exists_mixed_run
  refine ⟨⟨deskStore, true⟩, ⟨s₂, true⟩, ⟨s₃, true⟩, .ok json₁, .ok json₂, row, answerReply.manifest,
    .cons .send (.nil _), .deliver hdeliver, hrow, ?_, htask, .submit hsubmit, fun hkept => ?_⟩
  · rw [hbundle]
    exact answerReply.verify_envelope exportEnv
  · have hids := map_artifactId_of_kept hkept
    rw [htask] at hids
    have hmem : r.artifactId ∈ answerReply.manifest.outputs.map OutputEntry.artifactId := by
      rw [← hids]
      exact mem_map_of_mem hr
    rw [hid] at hmem
    exact absurd hmem (by decide)

end Akson
