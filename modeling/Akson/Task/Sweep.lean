/-
# A sweep of the reactor

One sweep from its start to its end: the reactor reads the trusted clock, lists the tasks that await
it, decides on each of them, and marks them all.
-/
import Akson.Task.System

namespace Akson

open Operation Except List

/-! ## The sweep -/

def readClock (wall : Time) : Operation Store Problem (Option Time) := do
  let reading ← attempt (commit (Store.trustedNow wall) id)
  pure reading.toOption

def decideTask (env : Env) (me : LocalAuthority) (taskId nonce : String) :
    Option Time → Operation Store Problem Bool
  | some now => autoApproveIfAllowed env me taskId nonce now
  | none => pure false

def decideTasks (env : Env) (me : LocalAuthority) (nonce : String → String) (trusted : Option Time) :
    List String → Operation Store Problem (List (String × Bool))
  | [] => pure []
  | taskId :: tasks => do
    let auto ← decideTask env me taskId (nonce taskId) trusted
    let rest ← decideTasks env me nonce trusted tasks
    pure ((taskId, auto) :: rest)

def markTasks (wall : Time) : List String → Operation Store Problem Unit :=
  commitEach (fun taskId => markTaskReacted taskId wall) (fun (_ : StoreError) => internal)

/-- One sweep over the tasks that await a reaction. -/
def reactOnce (env : Env) (me : LocalAuthority) (nonce : String → String) (wall : Time) :
    Operation Store Problem (List (String × Bool)) := do
  let trusted ← readClock wall
  let tasks ← ask (fun s => .ok s.tasksAwaitingReaction)
  let pending ← decideTasks env me nonce trusted (tasks.map TaskHead.taskId)
  markTasks wall (pending.map Prod.fst)
  pure pending

/-! ## What a sweep does -/

variable {env : Env} {me : LocalAuthority} {nonce : String → String} {wall : Time}
  {trusted : Option Time} {s s' : Store}

theorem exec_readClock (wall : Time) (s : Store) :
    exec (readClock wall) s = (.ok (clockReading wall s).1, (clockReading wall s).2) := by
  unfold readClock clockReading
  cases h : Store.trustedNow wall s with
  | error e => rw [exec_bind_of_ok (exec_attempt (exec_commit_of_error h))]; rfl
  | ok out => rw [exec_bind_of_ok (exec_attempt (exec_commit_of_ok h))]; rfl

theorem tasksAwaitingReaction_clockReading (h : clockReading wall s = (trusted, s')) :
    s'.tasksAwaitingReaction = s.tasksAwaitingReaction := by
  have helsewhere := elsewhere_clockReading h
  unfold Store.tasksAwaitingReaction Store.reacted
  rw [helsewhere.contractHeads, helsewhere.taskReactions]

theorem exec_decideTask {t : String} (wall : Time) (todo seen : List String) {r : Except Problem Bool}
    (h : exec (decideTask env me t (nonce t) trusted) s = (r, s')) :
    ∃ approved l, r = .ok approved ∧
      TaskStep env me ⟨s, .deciding wall trusted (t :: todo) seen⟩ l
        ⟨s', .deciding wall trusted todo (seen ++ [t])⟩ ∧
      (trusted = none → approved = false ∧ s' = s) := by
  cases trusted with
  | none =>
    cases h
    exact ⟨false, _, rfl, .pass, fun _ => ⟨rfl, rfl⟩⟩
  | some now =>
    have hanswer : ∃ approved, r = .ok approved := by
      rcases autoApproveIfAllowed_cases h with ⟨-, hr, -⟩ | ⟨-, answer, -, hr⟩
      · exact ⟨_, hr⟩
      · exact ⟨_, hr⟩
    obtain ⟨approved, rfl⟩ := hanswer
    exact ⟨approved, _, rfl, .auto h, by simp⟩

theorem exec_decideTasks {ts : List String} (wall : Time) (seen : List String)
    {r : Except Problem (List (String × Bool))}
    (h : exec (decideTasks env me nonce trusted ts) s = (r, s')) :
    ∃ pending ls, r = .ok pending ∧ pending.map Prod.fst = ts ∧
      Trace (TaskStep env me) ⟨s, .deciding wall trusted ts seen⟩ ls
        ⟨s', .deciding wall trusted [] (seen ++ ts)⟩ ∧
      (trusted = none → (∀ p ∈ pending, p.2 = false) ∧ s' = s) := by
  induction ts generalizing s s' seen r with
  | nil =>
    rw [decideTasks, exec_pure] at h
    cases h
    refine ⟨[], [], rfl, rfl, ?_, by simp⟩
    rw [append_nil]
    exact .nil _
  | cons t ts ih =>
    rcases hfirst : exec (decideTask env me t (nonce t) trusted) s with ⟨q, s₁⟩
    obtain ⟨approved, l, rfl, hstep, hpassed⟩ := exec_decideTask wall ts seen hfirst
    rw [decideTasks, exec_bind_of_ok hfirst] at h
    rcases hrest : exec (decideTasks env me nonce trusted ts) s₁ with ⟨q, s₂⟩
    obtain ⟨pending, ls, rfl, hfst, htrace, hnone⟩ := ih (seen ++ [t]) hrest
    rw [exec_bind_of_ok hrest] at h
    cases h
    refine ⟨(t, approved) :: pending, l :: ls, rfl, by rw [map_cons, hfst], ?_, ?_⟩
    · rw [append_assoc, singleton_append] at htrace
      exact .cons hstep htrace
    · intro htrusted
      obtain ⟨hfalse, rfl⟩ := hnone htrusted
      obtain ⟨rfl, rfl⟩ := hpassed htrusted
      exact ⟨forall_mem_cons.2 ⟨rfl, hfalse⟩, rfl⟩

theorem reacted_foldl_mark (wall : Time) (ts : List String) (s : Store) (u : String) :
    (ts.foldl (fun s t => markTaskReacted t wall s) s).reacted u = (s.reacted u || u ∈ ts) := by
  induction ts generalizing s with
  | nil => simp
  | cons t ts ih =>
    rw [foldl_cons, ih, Store.reacted_markTaskReacted, Bool.or_assoc]
    congr 1
    simp

theorem trace_mark (env : Env) (me : LocalAuthority) (wall : Time) (ts : List String) (s : Store) :
    ∃ ls, Trace (TaskStep env me) ⟨s, .marking wall ts⟩ ls
      ⟨ts.foldl (fun s t => markTaskReacted t wall s) s, .idle⟩ := by
  induction ts generalizing s with
  | nil => exact ⟨_, .cons .rest (.nil _)⟩
  | cons t ts ih =>
    obtain ⟨ls, htrace⟩ := ih (markTaskReacted t wall s)
    exact ⟨_, .cons .mark htrace⟩

theorem exec_reactOnce (env : Env) (me : LocalAuthority) (nonce : String → String) (wall : Time)
    (s : Store) : ∃ pending s' ls, exec (reactOnce env me nonce wall) s = (.ok pending, s') ∧
      pending.map Prod.fst = s.tasksAwaitingReaction.map TaskHead.taskId ∧
      (∀ p ∈ pending, s'.reacted p.1 = true) ∧
      Trace (TaskStep env me) ⟨s, .idle⟩ ls ⟨s', .idle⟩ ∧
      ((clockReading wall s).1 = none → ∀ p ∈ pending, p.2 = false) := by
  rcases hclock : clockReading wall s with ⟨trusted, s₁⟩
  have hread : exec (readClock wall) s = (.ok trusted, s₁) := by
    rw [exec_readClock, hclock]
  rcases hdecide : exec (decideTasks env me nonce trusted
    (s₁.tasksAwaitingReaction.map TaskHead.taskId)) s₁ with ⟨r, s₂⟩
  obtain ⟨pending, ls, rfl, hfst, htrace, hnone⟩ := exec_decideTasks wall [] hdecide
  obtain ⟨ls', hmark⟩ := trace_mark env me wall (pending.map Prod.fst) s₂
  rw [hfst] at hmark
  refine ⟨pending, _, _, ?_, ?_, ?_,
    .cons (.sweep hclock) (Trace.append_iff.2 ⟨_, htrace, .cons .release hmark⟩), fun h => (hnone h).1⟩
  · have hmarked : exec (markTasks wall (pending.map Prod.fst)) s₂ = _ := exec_commitEach _ _ _ _
    rw [reactOnce, exec_bind_of_ok hread, exec_ask_bind_of_ok
      (q := fun s : Store => .ok s.tasksAwaitingReaction) rfl, exec_bind_of_ok hdecide,
      exec_bind_of_ok hmarked, hfst]
    rfl
  · rw [hfst, tasksAwaitingReaction_clockReading hclock]
  · intro p hp
    rw [← hfst, reacted_foldl_mark, decide_eq_true (mem_map_of_mem hp), Bool.or_true]

/-! ## After an uncertain clock -/

def Qualifies (env : Env) (me : LocalAuthority) (taskId nonce : String) (wall : Time) (s : Store) :
    Prop :=
  ∃ now s₁ s', s.trustedNow wall = .ok (now, s₁) ∧
    exec (autoApproveIfAllowed env me taskId nonce now) s₁ = (.ok true, s')

/-- **What an uncertain clock costs.**  A sweep that finds the clock uncertain approves nothing, and
whatever the endpoint does afterwards, no later sweep approves a task that awaited it: each of them
that qualifies is approved in a later sweep only if none of them qualifies. -/
theorem uncertain_sweep_eligible_iff (env : Env) (me : LocalAuthority)
    (nonce nonce' : String → String) (wall later : Time) (s s₁ s₂ : Store)
    (pending : List (String × Bool)) (ls : List TaskEvent)
    (huncertain : s.trustedNow wall = .error .timeUncertain)
    (hsweep : exec (reactOnce env me nonce wall) s = (.ok pending, s₁))
    (hbetween : Trace (TaskStep env me) ⟨s₁, .idle⟩ ls ⟨s₂, .idle⟩) :
    (∀ p ∈ pending, p.2 = false) ∧
    ((∀ head ∈ s.tasksAwaitingReaction,
        Qualifies env me head.taskId (nonce' head.taskId) later s₂ →
          ∃ pending' s', exec (reactOnce env me nonce' later) s₂ = (.ok pending', s') ∧
            (head.taskId, true) ∈ pending') ↔
      ∀ head ∈ s.tasksAwaitingReaction,
        ¬ Qualifies env me head.taskId (nonce' head.taskId) later s₂) := by
  obtain ⟨pending₁, s₁', _, hrun, hfst, hmarked, -, hnone⟩ := exec_reactOnce env me nonce wall s
  obtain ⟨hpending, rfl⟩ := Prod.mk.inj (hsweep.symm.trans hrun)
  cases hpending
  have hclock : (clockReading wall s).1 = none := by
    rw [clockReading, huncertain]
  refine ⟨hnone hclock, ?_, fun hno head hhead hqualifies => absurd hqualifies (hno head hhead)⟩
  intro heligible head hhead hqualifies
  obtain ⟨pending', s', hlater, hmem⟩ := heligible head hhead hqualifies
  -- the task was marked, the mark stays, and a sweep lists no task that has one
  have hlisted : head.taskId ∈ pending.map Prod.fst := by
    rw [hfst]
    exact mem_map_of_mem hhead
  obtain ⟨p, hp, hpid⟩ := mem_map.1 hlisted
  have hsettled : Endpoint.Settled head.taskId ⟨s₂, .idle⟩ :=
    hbetween.invariant (I := Endpoint.Settled head.taskId)
      (fun _ _ _ he hstep => settled_step he hstep) (.of_free (hpid ▸ hmarked p hp) trivial)
  obtain ⟨pending₂, _, _, hrun₂, hfst₂, -⟩ := exec_reactOnce env me nonce' later s₂
  obtain ⟨hpending₂, -⟩ := Prod.mk.inj (hlater.symm.trans hrun₂)
  cases hpending₂
  have hagain : head.taskId ∈ pending'.map Prod.fst := mem_map_of_mem hmem
  rw [hfst₂] at hagain
  obtain ⟨listed, hlisted, hid⟩ := mem_map.1 hagain
  obtain ⟨row, -, -, -, hunmarked⟩ := Store.mem_tasksAwaitingReaction.1 hlisted
  rw [hid, hsettled.reacted] at hunmarked
  cases hunmarked

/-! ### A task that a policy covers -/

def standingStore : Store :=
  { respondWire.submitted with
    autoApprove := ⟨[⟨"root-fixture-aaaaaaaaaaaaaaaaaaaaaaaaaaaaaa", "b", "https://akson.invalid/t",
      4096, 1800000000⟩], pairwise_singleton _ _⟩
    trustedTime := some 1800000000 }

def sweptStore : Store := markTaskReacted "task-1" 1799999000 standingStore

theorem sweep_standingStore :
    exec (reactOnce respondWire.taskEnv .sample (fun _ => "nonce") 1799999000) standingStore =
      (.ok [("task-1", false)], sweptStore) := rfl

theorem approvable_sweptStore :
    Approvable respondWire.taskEnv .sample (autoApproval "task-1" "nonce" 1800000000) sweptStore
      ⟨0, hex respondWire.digest⟩ respondWire.contract :=
  respondWire.approvable (respondWire.contractHead_stored .opened)
    (respondWire.loadContract_stored .opened) (by decide) ⟨.respond, by decide, by decide⟩ rfl (by decide)

theorem issuable_sweptStore :
    Issuable respondWire.taskEnv (autoApproval "task-1" "nonce" 1800000000) sweptStore
      ⟨0, hex respondWire.digest⟩ respondWire.contract where
  draftable := {
    window := by decide
    deadline := ⟨"2027-01-15T09:00:00Z", by decide⟩
    processor := nofun
    artifacts := nofun }
  once := by decide
  unclaimed _ hrow := absurd hrow not_mem_nil

theorem covered_sweptStore :
    Covered respondWire.taskEnv sweptStore "task-1" "root-fixture-aaaaaaaaaaaaaaaaaaaaaaaaaaaaaa"
      respondWire.contract ⟨["https://akson.invalid/t"], 4096⟩ where
  opened := ⟨_, respondWire.contractHead_stored .opened, respondWire.loadContract_stored .opened⟩
  origin := by decide
  named := by decide
  requester := ⟨samplePeer, by decide, by decide⟩
  active := by decide
  standing := by decide
  taskType := by decide
  bytes := by decide
  inward := by decide

theorem qualifies_sweptStore :
    Qualifies respondWire.taskEnv .sample "task-1" "nonce" 1800000000 sweptStore := by
  obtain ⟨json, s', _, _, _, _, _, hrun, -⟩ := approveAndIssue_issues approvable_sweptStore
    issuable_sweptStore (fun _ hrow => absurd hrow not_mem_nil)
  refine ⟨1800000000, sweptStore, s', rfl, ?_⟩
  rw [autoApproveIfAllowed, exec_ask_bind_of_ok (a := some ())
    (q := fun s => .ok (standingApproval respondWire.taskEnv "task-1" s))
    (by rw [covered_sweptStore.standingApproval])]
  exact exec_bind_of_ok (exec_attempt hrun)

theorem auto_approval_covered_step : ∃ e l e',
    TaskStep respondWire.taskEnv .sample e l e' ∧ l.autoApproves "task-1" = true ∧
    (∃ root c policy, Covered respondWire.taskEnv e.store "task-1" root c policy) ∧
    IssuesOnly WorkOrder.Inward e.store e'.store ∧
    [l].countP (TaskEvent.autoApproves "task-1") ≤ 1 := by
  obtain ⟨now, s, s', -, hrun⟩ := qualifies_sweptStore
  have hstep : TaskStep respondWire.taskEnv .sample ⟨s, .deciding now (some now) ["task-1"] []⟩
      (.auto (autoApproval "task-1" "nonce" now) true) ⟨s', .deciding now (some now) [] ["task-1"]⟩ :=
    .auto hrun
  obtain ⟨hcovered, hruns⟩ := auto_approval_covered respondWire.taskEnv .sample "task-1"
  obtain ⟨hpolicy, hinward⟩ := hcovered _ _ _ hstep (by simp [TaskEvent.autoApproves, autoApproval])
  exact ⟨_, _, _, hstep, by simp [TaskEvent.autoApproves, autoApproval], hpolicy, hinward,
    (hruns _ _ _ (.cons hstep (.nil _))).2⟩

/-- A task that its peer's policy covers is passed over by a sweep with an uncertain clock, marked,
and not listed again once the clock is certain. -/
theorem uncertain_sweep_loses_task : ∃ pending s',
    standingStore.trustedNow 1799999000 = .error .timeUncertain ∧
    standingStore.tasksAwaitingReaction.map TaskHead.taskId = ["task-1"] ∧
    exec (reactOnce respondWire.taskEnv .sample (fun _ => "nonce") 1799999000) standingStore =
      (.ok [("task-1", false)], sweptStore) ∧
    Qualifies respondWire.taskEnv .sample "task-1" "nonce" 1800000000 sweptStore ∧
    exec (reactOnce respondWire.taskEnv .sample (fun _ => "nonce") 1800000000) sweptStore =
      (.ok pending, s') ∧ pending = [] :=
  ⟨[], sweptStore, rfl, rfl, sweep_standingStore, qualifies_sweptStore, rfl, rfl⟩

theorem uncertain_sweep_eligible_iff_standing :
    ¬ ∀ head ∈ standingStore.tasksAwaitingReaction,
      Qualifies respondWire.taskEnv .sample head.taskId "nonce" 1800000000 sweptStore →
        ∃ pending' s', exec (reactOnce respondWire.taskEnv .sample (fun _ => "nonce") 1800000000)
          sweptStore = (.ok pending', s') ∧ (head.taskId, true) ∈ pending' := by
  have hiff := (uncertain_sweep_eligible_iff respondWire.taskEnv .sample (fun _ => "nonce")
    (fun _ => "nonce") 1799999000 1800000000 standingStore sweptStore sweptStore [("task-1", false)]
    [] rfl sweep_standingStore (.nil _)).2
  intro heligible
  exact hiff.1 heligible _ mem_cons_self qualifies_sweptStore

end Akson
