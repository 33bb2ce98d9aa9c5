/-
# The life of a task

Everything that acts on the tasks of an endpoint: peers whose requests are received, the operator
who approves and denies, the reactor that sweeps, the worker's attempts, and the operator's changes
to peers and policies.
-/
import Akson.Receive.Server
import Akson.Task.Reactor

namespace Akson

open Operation Except Option List

/-- The operator's changes to peers and policies. -/
inductive PeerCall where
  | remove (root : String) (now : Time)
  | introduce (root : String) (epoch : ℕ) (peer : StoredPeer) (keys : List (String × Bytes))
      (now : Time)
  | setPolicy (agentId root : String) (policy : AutoApprovePolicy) (now : Time)
  | dropPolicy (root : String)

def PeerCall.run (s : Store) : PeerCall → Store
  | .remove root now => (removeRelationship root now s).2
  | .introduce root epoch peer keys now =>
    (transact (commitIntroducedPeer root epoch peer keys now) s).2
  | .setPolicy agentId root policy now => (transact (putAutoApprove agentId root policy now) s).2
  | .dropPolicy root => deleteAutoApprove root s

/-- A step that touches none of the tables here. -/
structure Elsewhere (s s' : Store) : Prop where
  contractHeads : s'.contractHeads = s.contractHeads
  attempts : s'.attempts = s.attempts
  workOrders : s'.workOrders = s.workOrders
  taskReactions : s'.taskReactions = s.taskReactions

/-- How far a sweep has come. -/
inductive Sweep where
  | idle
  /-- It holds the store: the tasks it has still to look at, and those it has looked at. -/
  | deciding (wall : Time) (trusted : Option Time) (todo seen : List String)
  /-- The tasks it has still to mark. -/
  | marking (wall : Time) (todo : List String)

def Sweep.free : Sweep → Prop
  | .idle | .marking .. => True
  | .deciding .. => False

/-- The store and the sweep. -/
structure Endpoint where
  store : Store
  sweep : Sweep

def clockReading (wall : Time) (s : Store) : Option Time × Store :=
  match Store.trustedNow wall s with
  | .ok (now, s') => (some now, s')
  | .error _ => (none, s)

/-- What happens to tasks. -/
inductive TaskEvent where
  | sweep (wall : Time)
  /-- The reactor decided on a task. -/
  | auto (a : Approval) (approved : Bool)
  /-- The clock is uncertain: the reactor passes over the task. -/
  | pass (taskId : String)
  | release
  | mark (taskId : String)
  | rest
  | approve (a : Approval) (answer : Except Problem Json)
  | deny (taskId reason : String) (now : Time) (answer : Except Problem Json)
  | receive
  | attempt (call : AttemptCall)
  | peer (call : PeerCall)
  | elsewhere
  /-- The process died inside the operator's approval. -/
  | cut (a : Approval)
  /-- The process died inside an approval of the reactor. -/
  | cutAuto (a : Approval)
  | crash

/-- One step of the task system. -/
inductive TaskStep (env : Env) (me : LocalAuthority) : Endpoint → TaskEvent → Endpoint → Prop
  /-- The reactor takes the store, reads the trusted clock and lists the tasks. -/
  | sweep {s s' : Store} {wall : Time} {trusted : Option Time}
      (hclock : clockReading wall s = (trusted, s')) :
      TaskStep env me ⟨s, .idle⟩ (.sweep wall)
        ⟨s', .deciding wall trusted (s'.tasksAwaitingReaction.map TaskHead.taskId) []⟩
  | auto {s s' : Store} {wall now : Time} {t nonce : String} {todo seen : List String}
      {approved : Bool}
      (hrun : exec (autoApproveIfAllowed env me t nonce now) s = (.ok approved, s')) :
      TaskStep env me ⟨s, .deciding wall (some now) (t :: todo) seen⟩
        (.auto (autoApproval t nonce now) approved)
        ⟨s', .deciding wall (some now) todo (seen ++ [t])⟩
  | pass {s : Store} {wall : Time} {t : String} {todo seen : List String} :
      TaskStep env me ⟨s, .deciding wall none (t :: todo) seen⟩ (.pass t)
        ⟨s, .deciding wall none todo (seen ++ [t])⟩
  | release {s : Store} {wall : Time} {trusted : Option Time} {seen : List String} :
      TaskStep env me ⟨s, .deciding wall trusted [] seen⟩ .release ⟨s, .marking wall seen⟩
  | mark {s : Store} {wall : Time} {t : String} {todo : List String} :
      TaskStep env me ⟨s, .marking wall (t :: todo)⟩ (.mark t)
        ⟨markTaskReacted t wall s, .marking wall todo⟩
  | rest {s : Store} {wall : Time} : TaskStep env me ⟨s, .marking wall []⟩ .rest ⟨s, .idle⟩
  | approve {s s' : Store} {w : Sweep} {a : Approval} {answer : Except Problem Json} (hfree : w.free)
      (hrun : exec (approveAndIssue env me a) s = (answer, s')) :
      TaskStep env me ⟨s, w⟩ (.approve a answer) ⟨s', w⟩
  | deny {s s' : Store} {w : Sweep} {t reason : String} {now : Time} {answer : Except Problem Json}
      (hfree : w.free) (hrun : exec (deny env me t reason now) s = (answer, s')) :
      TaskStep env me ⟨s, w⟩ (.deny t reason now answer) ⟨s', w⟩
  | receive {s s' : Store} {w : Sweep} {key : Bytes} {st : ReceiveState} {fp : Option String}
      {req : HttpRequest} {wall : Time} (hfree : w.free)
      (hrun : s' ∈ s :: commits (respond env key st fp req wall) s) :
      TaskStep env me ⟨s, w⟩ .receive ⟨s', w⟩
  | attempt {s s' : Store} {w : Sweep} {call : AttemptCall} (hfree : w.free)
      (hclaims : call.claims = false) (hrun : AttemptStep env s call s') :
      TaskStep env me ⟨s, w⟩ (.attempt call) ⟨s', w⟩
  | peer {s : Store} {w : Sweep} {call : PeerCall} (hfree : w.free) :
      TaskStep env me ⟨s, w⟩ (.peer call) ⟨call.run s, w⟩
  | elsewhere {s s' : Store} {w : Sweep} (hfree : w.free) (hrun : Elsewhere s s') :
      TaskStep env me ⟨s, w⟩ .elsewhere ⟨s', w⟩
  | cut {s s' : Store} {w : Sweep} {a : Approval} (hfree : w.free)
      (hrun : s' ∈ commits (approveAndIssue env me a) s) :
      TaskStep env me ⟨s, w⟩ (.cut a) ⟨s', .idle⟩
  | cutAuto {s s' : Store} {wall now : Time} {t nonce : String} {todo seen : List String}
      (hrun : s' ∈ commits (autoApproveIfAllowed env me t nonce now) s) :
      TaskStep env me ⟨s, .deciding wall (some now) (t :: todo) seen⟩
        (.cutAuto (autoApproval t nonce now)) ⟨s', .idle⟩
  | crash {s : Store} {w : Sweep} : TaskStep env me ⟨s, w⟩ .crash ⟨s, .idle⟩

/-! ## What the other actors leave alone -/

theorem Elsewhere.refl (s : Store) : Elsewhere s s := ⟨rfl, rfl, rfl, rfl⟩

variable {wall now : Time} {req : HttpRequest} {key : Bytes} {config : ReceiveConfig}

theorem elsewhere_clockReading {trusted : Option Time} {s s' : Store}
    (h : clockReading wall s = (trusted, s')) : Elsewhere s s' := by
  unfold clockReading at h
  split at h
  case h_1 now s₁ hnow =>
    cases h
    obtain ⟨floor, rfl⟩ := Store.trustedNow_eq hnow
    exact ⟨rfl, rfl, rfl, rfl⟩
  case h_2 =>
    cases h
    exact Elsewhere.refl s

theorem PeerCall.elsewhere (call : PeerCall) (s : Store) : Elsewhere s (call.run s) := by
  cases call with
  | remove root now =>
    change Elsewhere s (removeRelationship root now s).2
    unfold removeRelationship
    split
    case h_1 s₁ himport =>
      obtain rfl := (Prod.mk.inj himport).2
      exact ⟨rfl, rfl, rfl, rfl⟩
    case h_2 s₁ himport =>
      obtain rfl := (Prod.mk.inj himport).2
      exact ⟨rfl, rfl, rfl, rfl⟩
  | introduce root epoch peer keys now =>
    rcases hrun : transact (commitIntroducedPeer root epoch peer keys now) s with ⟨answer, s'⟩
    rw [PeerCall.run, hrun]
    obtain ⟨e, -, rfl⟩ | ⟨out, -, hop⟩ := transact_cases hrun
    · exact Elsewhere.refl s'
    · obtain ⟨peers, peerKeys, audit, rfl⟩ := commitIntroducedPeer_eq hop
      exact ⟨rfl, rfl, rfl, rfl⟩
  | setPolicy agentId root policy now =>
    rcases hrun : transact (putAutoApprove agentId root policy now) s with ⟨answer, s'⟩
    rw [PeerCall.run, hrun]
    obtain ⟨e, -, rfl⟩ | ⟨out, -, hop⟩ := transact_cases hrun
    · exact Elsewhere.refl s'
    · obtain ⟨rows, rfl⟩ := putAutoApprove_eq hop
      exact ⟨rfl, rfl, rfl, rfl⟩
  | dropPolicy root => exact ⟨rfl, rfl, rfl, rfl⟩

/-- Locks, attempts and orders are as they were. -/
structure Keeps (s s' : Store) : Prop where
  locked : ∀ t head, s'.contractHead t = .locked head ↔ s.contractHead t = .locked head
  attempts : ∀ w, (s'.attemptRow w).map (AttemptRow.withState .claimed) =
    (s.attemptRow w).map (AttemptRow.withState .claimed)
  workOrders : s'.workOrders = s.workOrders
  reacted : ∀ t, s.reacted t = true → s'.reacted t = true

theorem Keeps.refl (s : Store) : Keeps s s := ⟨fun _ _ => Iff.rfl, fun _ => rfl, rfl, fun _ => id⟩

theorem Keeps.trans (s₁ s₂ s₃ : Store) (h : Keeps s₁ s₂) (h' : Keeps s₂ s₃) : Keeps s₁ s₃ where
  locked t head := (h'.locked t head).trans (h.locked t head)
  attempts w := (h'.attempts w).trans (h.attempts w)
  workOrders := h'.workOrders.trans h.workOrders
  reacted t ht := h'.reacted t (h.reacted t ht)

theorem Elsewhere.keeps {s s' : Store} (h : Elsewhere s s') : Keeps s s' where
  locked t head := by rw [Store.contractHead, Store.headRow, h.contractHeads]; rfl
  attempts w := by rw [Store.attemptRow, h.attempts]; rfl
  workOrders := h.workOrders
  reacted t ht := by rwa [Store.reacted, h.taskReactions]

theorem keeps_markTaskReacted (t : String) (now : Time) (s : Store) :
    Keeps s (markTaskReacted t now s) := by
  refine ⟨fun _ _ => Iff.rfl, fun _ => rfl, rfl, fun u hu => ?_⟩
  rw [Store.reacted_markTaskReacted, hu, Bool.true_or]

theorem keeps_attemptStep {env : Env} {s s' : Store} {call : AttemptCall}
    (h : AttemptStep env s call s') (hclaims : call.claims = false) : Keeps s s' := by
  have hrows := attemptStep_of_not_claims h hclaims
  obtain ⟨attempts, results, audit, rfl⟩ := attemptStep_eq h
  exact ⟨fun _ _ => Iff.rfl, hrows, rfl, fun _ => id⟩

theorem keeps_receiveWrite {env : Env} {s s' : Store}
    (h : ReceiveWrite env key config req now s s') : Keeps s s' := by
  have hgrants := grantsNothing_write h
  have hreactions : s'.taskReactions = s.taskReactions := by
    cases h with
    | record h =>
      obtain ⟨inbox, rfl⟩ := receiveRequest_eq h
      rfl
    | event kind detail => rfl
    | submit hvalid h =>
      obtain ⟨-, -, -, rfl⟩ | ⟨-, -, heads, rfl, -⟩ := submitRevision_cases h <;> rfl
    | context taskId contextId => rfl
    | input row => rfl
    | outcome hkey hverify hrow h =>
      obtain ⟨taskOutputs, outcomes, audit, rfl, -⟩ := recordOutcomeWithOutputs_eq h
      rfl
  refine ⟨hgrants.locked, fun w => ?_, hgrants.workOrders, fun t ht => ?_⟩
  · rw [Store.attemptRow, hgrants.attempts]
    rfl
  · rwa [Store.reacted, hreactions]

theorem keeps_receiveWrites {env : Env} {s s' : Store}
    (h : ReceiveWrites env key config req now s s') : Keeps s s' := by
  induction h with
  | refl => exact Keeps.refl s
  | tail _ hwrite ih => exact ih.trans _ _ _ (keeps_receiveWrite hwrite)

theorem keeps_respond {env : Env} {st : ReceiveState} {fp : Option String} {s s' : Store}
    (h : s' ∈ s :: commits (respond env key st fp req wall) s) : Keeps s s' := by
  obtain rfl | h := mem_cons.1 h
  · exact Keeps.refl s'
  cases fp with
  | none => cases h
  | some fp =>
    have hclock : ∀ floor, Keeps s { s with trustedTime := floor } :=
      fun floor => ⟨fun _ _ => Iff.rfl, fun _ => rfl, rfl, fun _ => id⟩
    obtain ⟨floor, rfl | ⟨peer, now, -, hwrites⟩⟩ := respond_commits h
    · exact hclock floor
    · exact (hclock floor).trans _ _ _ (keeps_receiveWrites hwrites)

/-! ## What the deciders do -/

section Deciders

variable {env : Env} {me : LocalAuthority} {a : Approval} {s s' : Store}

variable {t : String} {P : WorkOrder → Prop}

theorem deny_cases {reason : String} {answer : Except Problem Json}
    (h : exec (deny env me t reason now) s = (answer, s')) :
    ((∃ e, answer = .error e) ∧ s' = s) ∨ s' = markTaskReacted t now s := by
  obtain ⟨e, -, rfl, rfl⟩ | ⟨decidedAt, -, h⟩ := exec_demand_cases h
  · exact .inl ⟨⟨e, rfl⟩, rfl⟩
  obtain ⟨e, hdecide, rfl⟩ | ⟨record, s₁, hdecide, h⟩ := exec_bind_cases h
  · exact .inl ⟨⟨e, rfl⟩, Decision.decide_keeps (by decide) hdecide⟩
  · rw [Decision.decide_keeps (by decide) hdecide] at h
    obtain ⟨d, hd, -⟩ | ⟨u, s₂, hmark, h⟩ := exec_commit_cases h
    · cases hd
    · cases hmark
      exact .inr (Prod.mk.inj h).2.symm

/-- Locks and reactions are kept. -/
structure Grows (s s' : Store) : Prop where
  locked : ∀ t head, s.contractHead t = .locked head → s'.contractHead t = .locked head
  reacted : ∀ t, s.reacted t = true → s'.reacted t = true

theorem Grows.refl (s : Store) : Grows s s := ⟨fun _ _ => id, fun _ => id⟩

theorem Grows.trans (s₁ s₂ s₃ : Store) (h : Grows s₁ s₂) (h' : Grows s₂ s₃) : Grows s₁ s₃ :=
  ⟨fun t head ht => h'.locked t head (h.locked t head ht),
    fun t ht => h'.reacted t (h.reacted t ht)⟩

theorem Keeps.grows {s s' : Store} (h : Keeps s s') : Grows s s' :=
  ⟨fun t head => (h.locked t head).2, h.reacted⟩

theorem grows_acceptContract {digest : String} {answer : Except LockError Unit}
    (h : acceptContract env t digest now s = .ok (answer, s')) : Grows s s' := by
  obtain ⟨e, -, -, rfl⟩ | ⟨-, row, heads, hrow, hopen, -, rfl, hself, hother⟩ :=
    acceptContract_cases h
  · exact Grows.refl s'
  · refine ⟨fun u head hu => ?_, fun _ => id⟩
    by_cases hut : u = t
    · subst hut
      rw [Store.contractHead_of_some hrow, HeadRow.state_eq_locked_iff, hopen] at hu
      cases hu.1
    · rw [← hu, Store.contractHead, hother u hut, Store.contractHead]

theorem grows_claimAttempt {order : WorkOrder} {outcome : ClaimOutcome}
    (h : claimAttempt env order now s = .ok (outcome, s')) : Grows s s' := by
  obtain ⟨-, -, -, rfl⟩ | ⟨-, -, -, rfl⟩ | ⟨-, -, attempts, -, rfl⟩ := claimAttempt_cases h <;>
    exact ⟨fun _ _ => id, fun _ => id⟩

section Moves

variable {R : Store → Store → Prop} (hrefl : ∀ s, R s s)
  (htrans : ∀ s₁ s₂ s₃, R s₁ s₂ → R s₂ s₃ → R s₁ s₃)
  (hclaim : ∀ order outcome s s', claimAttempt env order a.now s = .ok (outcome, s') → R s s')
  (hput : ∀ order config s₀ s, config.processorGrant = a.processor →
    config.grantArtifacts = a.grantArtifacts →
    draftOrder env a.taskId config a.now s₀ = .ok order →
    R s (putWorkOrder (order.issue env config.workOrderKey) a.now s))

include hrefl htrans hclaim hput

theorem moves_issueApproved (tls : String) (decision : Envelope) :
    Moves R (issueApproved env me a tls decision) := by
  refine Moves.bind htrans ?_ (fun issued => Moves.pure hrefl _)
  refine Moves.ask_bind hrefl (fun order hdraft => ?_)
  obtain ⟨s₀, hdraft⟩ := hdraft
  refine Moves.bind htrans
    (Moves.commit hrefl (fun s outcome s' h => hclaim order outcome s s' h)) (fun outcome => ?_)
  have hkept : Moves R (commit (fun s => Except.ok ((), putWorkOrder
      (order.issue env (a.config me tls (decisionIdOf env decision)).workOrderKey) a.now s))
      (fun (_ : StoreError) => internal)) := by
    refine Moves.commit hrefl (fun s u s' h => ?_)
    obtain rfl := snd_eq_of_ok h
    exact hput order _ s₀ s rfl rfl hdraft
  cases outcome with
  | claimed | alreadyClaimed state => exact Moves.bind htrans hkept (fun _ => Moves.pure hrefl _)
  | nonceReused => exact Moves.ask hrefl _

theorem moves_approval
    (haccept : ∀ digest answer s s', acceptContract env a.taskId digest a.now s = .ok (answer, s') →
      R s s') : Moves R (approveAndIssue env me a) := by
  refine Moves.bind htrans (Moves.ask hrefl _) (fun tls => ?_)
  refine Moves.bind htrans (Moves.ask hrefl _) (fun decidedAt => ?_)
  refine Moves.bind htrans ?_
    (fun record => moves_issueApproved hrefl htrans hclaim hput tls record.decision)
  refine Moves.bind htrans (Moves.ask hrefl _) (fun decision => ?_)
  refine Moves.bind htrans (Moves.ask hrefl _) (fun signed => ?_)
  rw [if_pos rfl]
  refine Moves.bind htrans
    (Moves.commit hrefl (fun s answer s' h => haccept decision.contractDigest answer s s' h))
    (fun answer => ?_)
  cases answer with
  | ok u => exact Moves.pure hrefl _
  | error e => exact Moves.ask hrefl _

end Moves

theorem grows_putWorkOrder (issued : IssuedWorkOrder) (now : Time) (s : Store) :
    Grows s (putWorkOrder issued now s) := by
  obtain ⟨orders, audit, heq⟩ := putWorkOrder_eq issued now s
  rw [heq]
  exact ⟨fun _ _ => id, fun _ => id⟩

theorem moves_approveAndIssue : Moves Grows (approveAndIssue env me a) :=
  moves_approval Grows.refl Grows.trans (fun _ _ _ _ h => grows_claimAttempt h)
    (fun _ _ _ _ _ _ _ => grows_putWorkOrder _ _ _) (fun _ _ _ _ h => grows_acceptContract h)

theorem locked_of_mem_commits (h : s' ∈ commits (approveAndIssue env me a) s) :
    ∃ head, s'.contractHead a.taskId = .locked head := by
  obtain ⟨head, c, tls, decisionId, s₁, happ, haccept, hrest⟩ := mem_commits_approveAndIssue h
  obtain ⟨hlocked, -, -⟩ := acceptContract_locks happ.opened haccept
  obtain rfl | ⟨order, outcome, s₂, -, hclaim, hput⟩ := hrest
  · exact ⟨head, hlocked⟩
  · have hclaimed := (grows_claimAttempt hclaim).locked _ _ hlocked
    obtain rfl | rfl := hput
    · exact ⟨head, hclaimed⟩
    · exact ⟨head, (grows_putWorkOrder _ _ _).locked _ _ hclaimed⟩

theorem approvable_of_ok {json : Json}
    (h : exec (approveAndIssue env me a) s = (.ok json, s')) :
    ∃ head c, Approvable env me a s head c := by
  by_contra hnot
  have hnone : ∀ head c, ¬ Approvable env me a s head c := fun head c hc => hnot ⟨head, c, hc⟩
  obtain ⟨e, hrun⟩ := approveAndIssue_of_not_approvable hnone
  rw [exec, hrun] at h
  cases (Prod.mk.inj h).1

def IssuesOnly (P : WorkOrder → Prop) (s s' : Store) : Prop :=
  ∀ row ∈ s'.workOrders, row ∈ s.workOrders ∨ ∃ issued, row.order = some issued ∧ P issued.order

theorem IssuesOnly.of_eq (h : s'.workOrders = s.workOrders) : IssuesOnly P s s' :=
  fun _ hrow => .inl (h ▸ hrow)

theorem IssuesOnly.trans (s₁ s₂ s₃ : Store) (h : IssuesOnly P s₁ s₂) (h' : IssuesOnly P s₂ s₃) :
    IssuesOnly P s₁ s₃ := by
  intro row hrow
  obtain hrow | hnew := h' row hrow
  · exact h row hrow
  · exact .inr hnew

theorem issuesOnly_putWorkOrder {issued : IssuedWorkOrder} (h : P issued.order) :
    IssuesOnly P s (putWorkOrder issued now s) := by
  unfold putWorkOrder
  split
  · exact IssuesOnly.of_eq rfl
  case h_2 orders hins =>
    intro row hrow
    obtain hrow | rfl := (Table.mem_insert hins).1 hrow
    · exact .inl hrow
    · exact .inr ⟨issued, rfl, h⟩

theorem moves_approveAndIssue_orders :
    Moves (IssuesOnly (fun order => ∃ config s₀, config.processorGrant = a.processor ∧
      config.grantArtifacts = a.grantArtifacts ∧
      draftOrder env a.taskId config a.now s₀ = .ok order)) (approveAndIssue env me a) := by
  refine moves_approval (fun _ => IssuesOnly.of_eq rfl) IssuesOnly.trans ?_ ?_ ?_
  · intro order outcome s s' h
    obtain ⟨-, -, -, rfl⟩ | ⟨-, -, -, rfl⟩ | ⟨-, -, attempts, -, rfl⟩ := claimAttempt_cases h <;>
      exact IssuesOnly.of_eq rfl
  · intro order config s₀ s hprocessor hartifacts hdraft
    exact issuesOnly_putWorkOrder ⟨config, s₀, hprocessor, hartifacts, hdraft⟩
  · intro digest answer s s' h
    obtain ⟨e, -, -, rfl⟩ | ⟨-, row, heads, -, -, -, rfl, -⟩ := acceptContract_cases h <;>
      exact IssuesOnly.of_eq rfl

end Deciders

theorem taskStep_cases {env : Env} {me : LocalAuthority} {e e' : Endpoint} {l : TaskEvent}
    (h : TaskStep env me e l e') :
    Keeps e.store e'.store ∨
      (∃ a answer, exec (approveAndIssue env me a) e.store = (answer, e'.store) ∧
        (l = .approve a answer ∨
          l = .auto a answer.isOk ∧ standingApproval env a.taskId e.store = some ())) ∨
      ∃ a, e'.store ∈ commits (approveAndIssue env me a) e.store ∧
        (l = .cut a ∨ l = .cutAuto a ∧ standingApproval env a.taskId e.store = some ()) := by
  cases h with
  | sweep hclock => exact .inl (elsewhere_clockReading hclock).keeps
  | @auto s s' wall now t nonce todo seen approved hrun =>
    obtain ⟨-, -, rfl⟩ | ⟨hstanding, answer, happrove, hanswer⟩ := autoApproveIfAllowed_cases hrun
    · exact .inl (Keeps.refl _)
    · cases hanswer
      exact .inr (.inl ⟨autoApproval t nonce now, answer, happrove, .inr ⟨rfl, hstanding⟩⟩)
  | pass => exact .inl (Keeps.refl _)
  | release => exact .inl (Keeps.refl _)
  | mark => exact .inl (keeps_markTaskReacted _ _ _)
  | rest => exact .inl (Keeps.refl _)
  | approve _ hrun => exact .inr (.inl ⟨_, _, hrun, .inl rfl⟩)
  | deny _ hrun =>
    obtain ⟨-, rfl⟩ | rfl := deny_cases hrun
    · exact .inl (Keeps.refl _)
    · exact .inl (keeps_markTaskReacted _ _ _)
  | receive _ hrun => exact .inl (keeps_respond hrun)
  | attempt _ hclaims hrun => exact .inl (keeps_attemptStep hrun hclaims)
  | peer _ => exact .inl (PeerCall.elsewhere _ _).keeps
  | elsewhere _ hrun => exact .inl hrun.keeps
  | cut _ hrun => exact .inr (.inr ⟨_, hrun, .inl rfl⟩)
  | cutAuto hrun =>
    obtain ⟨hstanding, hmem⟩ := mem_commits_autoApproveIfAllowed hrun
    exact .inr (.inr ⟨_, hmem, .inr ⟨rfl, hstanding⟩⟩)
  | crash => exact .inl (Keeps.refl _)

/-! ## Approval is all or nothing -/

def TaskEvent.Whole (env : Env) (me : LocalAuthority) (s : Store) : TaskEvent → Prop
  | .approve a _ => ∀ head c, Approvable env me a s head c → Issuable env a s head c
  | .auto a _ => standingApproval env a.taskId s = some () →
      ∀ head c, Approvable env me a s head c → Issuable env a s head c
  | .cut a | .cutAuto a => ∀ head c, ¬ Approvable env me a s head c
  | _ => True

def WholeStep (env : Env) (me : LocalAuthority) (e : Endpoint) (l : TaskEvent) (e' : Endpoint) :
    Prop :=
  TaskStep env me e l e' ∧ l.Whole env me e.store

theorem AttemptRow.eq_of_withState {state : AttemptState} {row row' : AttemptRow}
    (h : row.withState state = row'.withState state) :
    row.taskId = row'.taskId ∧ row.workOrderDigest = row'.workOrderDigest := by
  have htask := congrArg AttemptRow.taskId h
  have hdigest := congrArg AttemptRow.workOrderDigest h
  exact ⟨htask, hdigest⟩

theorem AllOrNothing.of_keeps {s s' : Store} (h : AllOrNothing s) (hkeeps : Keeps s s') :
    AllOrNothing s' := by
  -- the rows of the two stores are the same up to their states
  have hforth : ∀ row ∈ s.attempts, ∃ row' ∈ s'.attempts, row'.workOrderId = row.workOrderId ∧
      row'.taskId = row.taskId := by
    intro row hrow
    have hrow' := hkeeps.attempts row.workOrderId
    rw [Store.attemptRow_eq_some_iff.2 ⟨hrow, rfl⟩, map_some, map_eq_some_iff] at hrow'
    obtain ⟨row', hrow', hsame⟩ := hrow'
    obtain ⟨hmem, hid⟩ := Store.attemptRow_eq_some_iff.1 hrow'
    exact ⟨row', hmem, hid, (AttemptRow.eq_of_withState hsame).1⟩
  have hback : ∀ row' ∈ s'.attempts, ∃ row ∈ s.attempts, row.workOrderId = row'.workOrderId ∧
      row.taskId = row'.taskId ∧ row.workOrderDigest = row'.workOrderDigest := by
    intro row' hrow'
    have hrow := (hkeeps.attempts row'.workOrderId).symm
    rw [Store.attemptRow_eq_some_iff.2 ⟨hrow', rfl⟩, map_some, map_eq_some_iff] at hrow
    obtain ⟨row, hrow, hsame⟩ := hrow
    obtain ⟨hmem, hid⟩ := Store.attemptRow_eq_some_iff.1 hrow
    exact ⟨row, hmem, hid, AttemptRow.eq_of_withState hsame⟩
  constructor
  · intro t head ht
    obtain ⟨row, hrow, htask⟩ := h.claimed t head ((hkeeps.locked t head).1 ht)
    obtain ⟨row', hrow', -, htask'⟩ := hforth row hrow
    exact ⟨row', hrow', htask'.trans htask⟩
  · intro row' hrow'
    obtain ⟨row, hrow, -, htask, -⟩ := hback row' hrow'
    obtain ⟨head, hhead⟩ := h.accepted row hrow
    exact ⟨head, (hkeeps.locked _ head).2 (htask ▸ hhead)⟩
  · intro row' hrow'
    obtain ⟨row, hrow, hid, htask, hdigest⟩ := hback row' hrow'
    obtain ⟨issued, hstored, horder, hbytes⟩ := h.stored row hrow
    refine ⟨issued, ?_, horder.trans htask, hbytes.trans hdigest⟩
    rw [← hid, Store.getWorkOrder, hkeeps.workOrders]
    exact hstored
  · intro o ho
    rw [hkeeps.workOrders] at ho
    obtain ⟨row, hrow, hid⟩ := h.needed o ho
    obtain ⟨row', hrow', hid', -⟩ := hforth row hrow
    exact ⟨row', hrow', hid'.trans hid⟩

theorem wholeStep_allOrNothing {env : Env} {me : LocalAuthority} {e e' : Endpoint} {l : TaskEvent}
    (h : AllOrNothing e.store) (hstep : WholeStep env me e l e') : AllOrNothing e'.store := by
  obtain ⟨hstep, hwhole⟩ := hstep
  obtain hkeeps | ⟨a, answer, hrun, hl⟩ | ⟨a, hmem, hl⟩ := taskStep_cases hstep
  · exact h.of_keeps hkeeps
  · have hcondition : ∀ head c, Approvable env me a e.store head c → Issuable env a e.store head c := by
      obtain rfl | ⟨rfl, hstanding⟩ := hl
      · exact hwhole
      · exact hwhole hstanding
    have hafter := (approveAndIssue_allOrNothing_iff h).2 hcondition
    rwa [hrun] at hafter
  · have hcondition : ∀ head c, ¬ Approvable env me a e.store head c := by
      obtain rfl | ⟨rfl, -⟩ := hl <;> exact hwhole
    exact (approveAndIssue_commits_allOrNothing_iff h).2 hcondition _ hmem

/-- **Approval is all or nothing, where it can be issued.**  A completed approval leaves all or
nothing exactly if it either stops before the lock or can be issued; at its commit boundaries it
does so exactly if it stops before the lock; and a run whose approvals can all be issued, and are
not cut off, never leaves anything else. -/
theorem approval_all_or_nothing (env : Env) (me : LocalAuthority) :
    (∀ a s, AllOrNothing s →
      (AllOrNothing (exec (approveAndIssue env me a) s).2 ↔
        ∀ head c, Approvable env me a s head c → Issuable env a s head c) ∧
      ((∀ s' ∈ commits (approveAndIssue env me a) s, AllOrNothing s') ↔
        ∀ head c, ¬ Approvable env me a s head c)) ∧
    ∀ e ls e', AllOrNothing e.store → Trace (WholeStep env me) e ls e' → AllOrNothing e'.store :=
  ⟨fun _ _ h => ⟨approveAndIssue_allOrNothing_iff h, approveAndIssue_commits_allOrNothing_iff h⟩,
    fun _ _ _ h htrace => Trace.invariant (I := fun e => AllOrNothing e.store)
      (fun _ _ _ hs hstep => wholeStep_allOrNothing hs hstep) htrace h⟩

/-- A processor that is not configured: the approval is refused once the task is already locked,
and nothing can approve or issue it again. -/
theorem approval_refused_with_head_locked : ∃ e s' head,
    AllOrNothing repeatedWire.submitted ∧
    exec (approveAndIssue repeatedWire.taskEnv .sample (.sample (some "gpt")))
      repeatedWire.submitted = (.error e, s') ∧
    s'.contractHead "task-1" = .locked head ∧ ¬ ∃ row ∈ s'.attempts, row.taskId = "task-1" := by
  have hnot : ¬ Draftable repeatedWire.taskEnv repeatedWire.contract (some "gpt") false 1800000000
      repeatedWire.submitted := by
    intro hdraft
    have hconfigured := (hdraft.processor "gpt" rfl).2
    cases hconfigured
  obtain ⟨e, s', hrun, hlocked, hattempts⟩ :=
    approveAndIssue_strands (approvable_repeatedWire (some "gpt")) hnot
  refine ⟨e, s', _, allOrNothing_submitted repeatedWire, hrun, hlocked, ?_⟩
  rintro ⟨row, hrow, -⟩
  rw [hattempts] at hrow
  exact absurd hrow not_mem_nil

/-- The same approval without the processor goes through as a whole. -/
theorem approval_all_or_nothing_repeatedWire : ∃ answer s' row,
    Trace (WholeStep repeatedWire.taskEnv .sample) ⟨repeatedWire.submitted, .idle⟩
      [.approve (.sample none) answer] ⟨s', .idle⟩ ∧ AllOrNothing s' ∧
    row ∈ s'.attempts ∧ row.taskId = "task-1" := by
  rcases hrun : exec (approveAndIssue repeatedWire.taskEnv .sample (.sample none))
    repeatedWire.submitted with ⟨answer, s'⟩
  have happ := approvable_repeatedWire none
  have hwhole : ∀ head c, Approvable repeatedWire.taskEnv .sample (.sample none)
      repeatedWire.submitted head c →
        Issuable repeatedWire.taskEnv (.sample none) repeatedWire.submitted head c := by
    intro head c h
    have hhead := h.opened.symm.trans happ.opened
    rw [HeadState.opened.injEq] at hhead
    subst hhead
    have hc := h.loaded.symm.trans happ.loaded
    rw [ok.injEq] at hc
    subst hc
    exact issuable_repeatedWire
  have htrace : Trace (WholeStep repeatedWire.taskEnv .sample) ⟨repeatedWire.submitted, .idle⟩
      [.approve (.sample none) answer] ⟨s', .idle⟩ :=
    .cons ⟨.approve trivial hrun, hwhole⟩ (.nil _)
  have hafter := (approval_all_or_nothing repeatedWire.taskEnv .sample).2 _ _ _
    (allOrNothing_submitted repeatedWire) htrace
  have hlocked := approveAndIssue_locks happ
  rw [hrun] at hlocked
  obtain ⟨row, hrow, htask⟩ := hafter.claimed _ _ hlocked
  exact ⟨answer, s', row, htrace, hafter, hrow, htask⟩

/-! ## What the reactor never does -/

def TaskEvent.autoApproves (t : String) : TaskEvent → Bool
  | .auto a approved => approved && a.taskId = t
  | .cutAuto a => a.taskId = t
  | _ => false

def TaskEvent.denies (t : String) : TaskEvent → Bool
  | .deny t' _ _ answer => answer.isOk && t' = t
  | _ => false

def WorkOrder.Inward (order : WorkOrder) : Prop :=
  ∀ g ∈ order.capabilities.grants, g.component = .respond ∨ g.component = .readSuppliedInputs

section Reactor

variable {env : Env} {me : LocalAuthority} {e e' : Endpoint} {l : TaskEvent} {t : String}

theorem autoApproves_cases (h : TaskStep env me e l e') (hl : l.autoApproves t = true) :
    ∃ a, a.taskId = t ∧ a.processor = none ∧ a.grantArtifacts = false ∧
      standingApproval env t e.store = some () ∧
      (∃ head, e'.store.contractHead t = .locked head) ∧
      e'.store ∈ e.store :: commits (approveAndIssue env me a) e.store := by
  cases h with
  | @auto s s' wall now u nonce todo seen approved hrun =>
    simp only [TaskEvent.autoApproves, Bool.and_eq_true, decide_eq_true_eq] at hl
    obtain ⟨rfl, rfl⟩ := hl
    obtain ⟨-, hanswer, -⟩ | ⟨hstanding, answer, happrove, hanswer⟩ := autoApproveIfAllowed_cases hrun
    · cases hanswer
    refine ⟨autoApproval u nonce now, rfl, rfl, rfl, hstanding, ?_, mem_of_exec happrove⟩
    cases answer with
    | error e => cases hanswer
    | ok json =>
      obtain ⟨head, c, happ⟩ := approvable_of_ok happrove
      have hlocked := approveAndIssue_locks happ
      rw [happrove] at hlocked
      exact ⟨head, hlocked⟩
  | @cutAuto s s' wall now u nonce todo seen hrun =>
    simp only [TaskEvent.autoApproves, decide_eq_true_eq] at hl
    subst hl
    obtain ⟨hstanding, hmem⟩ := mem_commits_autoApproveIfAllowed hrun
    exact ⟨autoApproval u nonce now, rfl, rfl, rfl, hstanding, locked_of_mem_commits hmem,
      mem_cons_of_mem _ hmem⟩
  | _ => cases hl

theorem grows_taskStep (h : TaskStep env me e l e') : Grows e.store e'.store := by
  obtain hkeeps | ⟨a, answer, hrun, -⟩ | ⟨a, hmem, -⟩ := taskStep_cases h
  · exact hkeeps.grows
  · exact moves_approveAndIssue.exec hrun
  · exact moves_approveAndIssue e.store e'.store (mem_cons_of_mem _ hmem)

def Endpoint.accepted (t : String) (e : Endpoint) : Prop :=
  ∃ head, e.store.contractHead t = .locked head

theorem accepted_step (he : e.accepted t) (h : TaskStep env me e l e') : e'.accepted t := by
  obtain ⟨head, hhead⟩ := he
  exact ⟨head, (grows_taskStep h).locked t head hhead⟩

theorem not_autoApproves_of_accepted (he : e.accepted t) (h : TaskStep env me e l e') :
    l.autoApproves t = false := by
  by_contra hl
  rw [Bool.not_eq_false] at hl
  obtain ⟨a, -, -, -, hstanding, -⟩ := autoApproves_cases h hl
  obtain ⟨root, c, policy, hcovered⟩ := covered_of_standingApproval hstanding
  obtain ⟨head, hopened, -⟩ := hcovered.opened
  obtain ⟨locked, hlocked⟩ := he
  rw [hopened] at hlocked
  cases hlocked

/-- The task was looked at, and no sweep will decide it. -/
structure Endpoint.Settled (t : String) (e : Endpoint) : Prop where
  reacted : e.store.reacted t = true
  passed : ∀ wall trusted todo seen, e.sweep = .deciding wall trusted todo seen → t ∉ todo

theorem Endpoint.Settled.of_free {s : Store} {w : Sweep} (hreacted : s.reacted t = true)
    (hfree : w.free) : Endpoint.Settled t ⟨s, w⟩ := by
  refine ⟨hreacted, ?_⟩
  rintro wall trusted todo seen rfl
  exact absurd hfree id

theorem settled_step (he : e.Settled t) (h : TaskStep env me e l e') : e'.Settled t := by
  have hreacted := (grows_taskStep h).reacted t he.reacted
  cases h with
  | sweep hclock =>
    refine ⟨hreacted, ?_⟩
    rintro wall trusted todo seen ⟨⟩ hmem
    obtain ⟨listed, hlisted, rfl⟩ := mem_map.1 hmem
    obtain ⟨row, -, -, -, hunmarked⟩ := Store.mem_tasksAwaitingReaction.1 hlisted
    rw [hreacted] at hunmarked
    cases hunmarked
  | auto | pass =>
    refine ⟨hreacted, ?_⟩
    rintro wall trusted todo seen ⟨⟩ hmem
    exact he.passed _ _ _ _ rfl (mem_cons_of_mem _ hmem)
  | release | mark | rest | cut | cutAuto | crash => exact .of_free hreacted trivial
  | approve hfree | deny hfree | receive hfree | attempt hfree | peer hfree | elsewhere hfree =>
    exact .of_free hreacted hfree

theorem not_autoApproves_of_settled (he : e.Settled t) (h : TaskStep env me e l e') :
    l.autoApproves t = false := by
  have hnext : ∀ wall trusted u todo seen, e.sweep = .deciding wall trusted (u :: todo) seen →
      u ≠ t := by
    rintro wall trusted u todo seen hsweep rfl
    exact he.passed _ _ _ _ hsweep mem_cons_self
  cases h with
  | @auto s s' wall now u nonce todo seen approved =>
    have hne : (autoApproval u nonce now).taskId ≠ t := hnext _ _ _ _ _ rfl
    rw [TaskEvent.autoApproves, decide_eq_false hne, Bool.and_false]
  | @cutAuto s s' wall now u nonce todo seen =>
    have hne : (autoApproval u nonce now).taskId ≠ t := hnext _ _ _ _ _ rfl
    exact decide_eq_false hne
  | _ => rfl

theorem settled_of_denies (h : TaskStep env me e l e') (hl : l.denies t = true) :
    e'.Settled t := by
  cases h with
  | @deny s s' w u reason now answer hfree hrun =>
    simp only [TaskEvent.denies, Bool.and_eq_true, decide_eq_true_eq] at hl
    obtain ⟨hok, rfl⟩ := hl
    obtain ⟨⟨e, rfl⟩, -⟩ | rfl := deny_cases hrun
    · cases hok
    · refine .of_free ?_ hfree
      rw [Store.reacted_markTaskReacted, decide_eq_true rfl, Bool.or_true]
  | _ => cases hl

/-- **What the reactor never does.**  It approves a task only where, in the store as it then is, the
standing policy of the active peer the task came from covers it, and issues nothing that discloses
outward; once the operator has denied a task it never approves it; and it approves no task
twice. -/
theorem auto_approval_covered (env : Env) (me : LocalAuthority) (t : String) :
    (∀ e l e', TaskStep env me e l e' → l.autoApproves t = true →
      (∃ root c policy, Covered env e.store t root c policy) ∧
        IssuesOnly WorkOrder.Inward e.store e'.store) ∧
    ∀ e ls e', Trace (TaskStep env me) e ls e' →
      (∀ before l after, ls = before ++ l :: after → l.denies t = true →
        ∀ m ∈ after, m.autoApproves t = false) ∧
      ls.countP (TaskEvent.autoApproves t) ≤ 1 := by
  refine ⟨fun e l e' h hl => ?_, fun e ls e' htrace => ⟨?_, ?_⟩⟩
  · obtain ⟨a, rfl, hprocessor, hartifacts, hstanding, -, hmem⟩ := autoApproves_cases h hl
    refine ⟨covered_of_standingApproval hstanding, fun row hrow => ?_⟩
    obtain hold | ⟨issued, hissued, config, s₀, hp, ha, hdraft⟩ :=
      moves_approveAndIssue_orders e.store e'.store hmem row hrow
    · exact .inl hold
    · exact .inr ⟨issued, hissued,
        inward_of_draftOrder (hp.trans hprocessor) (ha.trans hartifacts) hdraft⟩
  · rintro before l after rfl hl
    obtain ⟨e₁, -, hrest⟩ := Trace.append_iff.1 htrace
    obtain ⟨e₂, hstep, hafter⟩ := Trace.cons_iff.1 hrest
    exact Trace.forall_mem_of_stable (I := fun _ => True) (fun _ _ _ _ _ => trivial)
      (fun _ _ _ _ he hstep => settled_step he hstep)
      (fun _ _ _ _ he hstep => not_autoApproves_of_settled he hstep) hafter trivial
      (settled_of_denies hstep hl)
  · exact Trace.countP_le_one (I := fun _ => True) (P := Endpoint.accepted t)
      (fun _ _ _ _ _ => trivial) (fun _ _ _ _ he hstep => accepted_step he hstep)
      (fun _ _ _ _ hstep hl => by
        obtain ⟨a, -, -, -, -, hlocked, -⟩ := autoApproves_cases hstep hl
        exact hlocked)
      (fun _ _ _ _ he hstep => not_autoApproves_of_accepted he hstep) htrace trivial

end Reactor

end Akson
