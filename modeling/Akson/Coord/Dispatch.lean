/-
# What a failed dispatch has done

One call of `dispatch` from end to end, with the commit in its middle.  Everything before the commit
refuses with the receipt unspent.
-/
import Akson.Coord.Surface

namespace Akson

open Operation Except Option List Table

/-! ## The call -/

/-- What a dispatch reads from outside. -/
structure DispatchWorld where
  /-- The wall clock before the spend. -/
  wall : Time
  random : Bytes
  runtimeBuilds : Bool
  /-- The network's answer to the message. -/
  answer : Except Problem (ℕ × Bytes)
  /-- The lock is not poisoned when it is taken again. -/
  relocks : Bool
  /-- The wall clock after the carriage. -/
  wallAfter : Time

def egressPendingDetail : String :=
  "the consent receipt is spent and the dispatch is committed, but this endpoint has no acknowledgement that the bytes left; retry under the same execution_key to resume carriage"

def egressJson (record : DispatchRecord) : Json :=
  .obj [("at", match record.egressAt with | some t => .num t | none => .null),
    ("detail", .str (if record.egressDetail = "" then egressPendingDetail else record.egressDetail)),
    ("retryable", .bool record.egressMayBeAttempted), ("state", .str record.egressState.asStr)]

def dispatchedJson (staged : StagedContract) (record : DispatchRecord) (replayed : Bool) : Json :=
  .obj [("byte_length", .num staged.byteLength), ("consent_receipt", .str record.receiptId),
    ("consent_spent", .bool true), ("dispatch_receipt", .str record.dispatchReceipt),
    ("dispatched_at", .num record.dispatchedAt), ("egress", egressJson record),
    ("execution_key", .str record.executionKey), ("payload_sha256", .str staged.payloadSha256),
    ("performer", .str staged.performer), ("replayed", .bool replayed),
    ("stage_ref", .str record.stageRef), ("staged_digest", .str record.stagedDigest),
    ("status", .str CoordStatus.dispatched.asStr), ("task_type", .str staged.taskType)]

def carryAndRecord (env : Env) (world : DispatchWorld) (prep : Prepared) (record : DispatchRecord) :
    Operation Store Problem DispatchRecord := do
  let _ ← demand (messageBody env prep.envelope prep.payload record.dispatchReceipt record.stageRef)
  demand (ensure world.runtimeBuilds internal)
  demand (ensure world.relocks internal)
  recordCarriage prep.route record (carry env prep.route prep.staged.stagedDigest world.answer)
    world.wallAfter

def finishDispatch (env : Env) (world : DispatchWorld) (prep : Prepared) :
    Next → Operation Store Problem Json
  | .carry record replayed => do
    let record ← carryAndRecord env world prep record
    pure (dispatchedJson prep.staged record replayed)
  | .answer record => pure (dispatchedJson prep.staged record true)

def dispatch (env : Env) (localRoot stageRef consentReceipt executionKey : String)
    (world : DispatchWorld) : Operation Store Problem Json := do
  let spent ← dispatchSpend env localRoot stageRef consentReceipt executionKey world.wall
    world.random
  let next ← demand spent.2.next
  finishDispatch env world spent.1 next

/-! ## The clock -/

def ClockOk (floor : Option Time) (wall : Time) : Prop :=
  ∀ t, floor = some t → t - clockToleranceSecs ≤ wall

variable {wall : Time} {burn : ConsentBurn} {record : DispatchRecord} {p : Problem}

theorem trustedNow_of_clockOk {s : Store} (h : ClockOk s.trustedTime wall) :
    ∃ now, s.trustedNow wall = .ok (now, s.atFloor (s.trustedTime.map (max wall))) := by
  unfold Store.trustedNow
  cases hfloor : s.trustedTime with
  | none =>
    refine ⟨wall, ?_⟩
    have htol : ¬ wall < wall - clockToleranceSecs := not_lt.2 (Int.sub_le_self wall (by decide))
    simp only [getD_none, htol, if_false, max_self, lt_irrefl, map_none]
    rw [← hfloor]
    rfl
  | some t =>
    have htol : ¬ wall < t - clockToleranceSecs := not_lt.2 (h t hfloor)
    refine ⟨max wall t, ?_⟩
    simp only [getD_some, htol, if_false, map_some]
    split
    case isTrue hlt => rw [max_eq_left hlt.le]; rfl
    case isFalse hge =>
      rw [max_eq_right (not_lt.1 hge), ← hfloor]
      rfl

theorem trustedNow_of_not_clockOk {s : Store} (h : ¬ ClockOk s.trustedTime wall) :
    s.trustedNow wall = .error .timeUncertain := by
  simp only [ClockOk, not_forall, not_le] at h
  obtain ⟨t, ht, hlt⟩ := h
  simp only [Store.trustedNow, ht, getD_some, hlt, if_true]

theorem exec_trustedNow_of_clockOk {s : Store} (h : ClockOk s.trustedTime wall) :
    ∃ now, exec (trustedNow wall) s = (.ok now, s.atFloor (s.trustedTime.map (max wall))) := by
  obtain ⟨now, hnow⟩ := trustedNow_of_clockOk h
  exact ⟨now, exec_commit_of_ok hnow⟩

theorem exec_trustedNow_of_not_clockOk {s : Store} (h : ¬ ClockOk s.trustedTime wall) :
    exec (trustedNow wall) s = (.error timeUncertain, s) :=
  exec_commit_of_error (trustedNow_of_not_clockOk h)

/-! ## When a call spends -/

/-- The call reaches its commit with a live receipt: all its checks pass, the clock is trusted,
the execution key is new, the receipt is there for the reference and unspent, and the store
takes the row. -/
structure Spends (env : Env) (localRoot stageRef consentReceipt executionKey : String)
    (world : DispatchWorld) (s : Store) (prep : Prepared) : Prop where
  prepared : prep.From env localRoot stageRef consentReceipt executionKey s
  clock : ClockOk s.trustedTime world.wall
  newRow : ∀ d ∈ s.coordDispatches, d.executionKey ≠ executionKey ∧ d.receiptId ≠ consentReceipt ∧
    d.dispatchReceipt ≠ "dispatch-" ++ hex world.random
  live : ∃ c ∈ s.coordConsents, spendable stageRef consentReceipt c = true

/-- What the carriage of a committed dispatch needs in order to be answered: the message can be
built, the runtime starts, the lock can be taken again, and the clock is trusted. -/
structure CarriageOk (env : Env) (world : DispatchWorld) (prep : Prepared)
    (dispatchReceipt stageRef : String) (floor : Option Time) : Prop where
  body : (env.requestJson (coordMessage prep.envelope prep.payload dispatchReceipt
    stageRef)).isSome = true
  runtime : world.runtimeBuilds = true
  relock : world.relocks = true
  clock : ClockOk floor world.wallAfter

variable {env : Env} {localRoot stageRef consentReceipt executionKey : String}
  {world : DispatchWorld} {s s' : Store} {prep : Prepared}

theorem exec_dispatchSpend_of_spends
    (h : Spends env localRoot stageRef consentReceipt executionKey world s prep) :
    ∃ burn dispatches event,
      exec (dispatchSpend env localRoot stageRef consentReceipt executionKey world.wall
        world.random) s = (.ok (prep, .dispatched burn),
          afterSpend burn dispatches event (s.atFloor (s.trustedTime.map (max world.wall)))) ∧
      s.coordDispatches.insert burn.intoRecord = some dispatches ∧
      burn.receiptId = consentReceipt ∧ burn.stageRef = stageRef ∧
      burn.executionKey = executionKey ∧ burn.dispatchReceipt = "dispatch-" ++ hex world.random := by
  obtain ⟨now, hnow⟩ := exec_trustedNow_of_clockOk h.clock
  obtain ⟨c, hc, hcs⟩ := h.live
  obtain ⟨burn, hburn⟩ : ∃ burn : ConsentBurn, burn = ⟨consentReceipt, stageRef, c.stagedDigest,
    executionKey, "dispatch-" ++ hex world.random, now⟩ := ⟨_, rfl⟩
  have hkey : s.dispatchRowBy DispatchRecord.executionKey executionKey = none :=
    find_eq_none_iff.2 (fun d hd => decide_eq_false (h.newRow d hd).1)
  -- the new row clashes with none
  obtain ⟨dispatches, hins⟩ : ∃ t, s.coordDispatches.insert burn.intoRecord = some t := by
    refine isSome_iff_exists.1 (isSome_iff_ne_none.2 fun hnone => ?_)
    obtain ⟨d, hd, hclash⟩ := insert_eq_none_iff.1 hnone
    obtain ⟨hkey', hreceipt, hid⟩ := h.newRow d hd
    subst hburn
    rcases hclash with heq | heq | heq
    · exact hkey' heq
    · exact hreceipt heq
    · exact hid heq
  refine ⟨burn, dispatches, dispatchEvent prep consentReceipt executionKey
    ("dispatch-" ++ hex world.random), ?_, hins, ?_⟩
  · have hprep := prepare_eq_ok_iff.2 h.prepared
    have hspend : dispatchStaged stageRef consentReceipt executionKey
        ("dispatch-" ++ hex world.random) (dispatchEvent prep consentReceipt executionKey
          ("dispatch-" ++ hex world.random)) now
        (s.atFloor (s.trustedTime.map (max world.wall))) = .ok (.dispatched burn, _) :=
      dispatchStaged_of_spendable hkey hc hcs hburn hins
    refine (exec_ask_bind_of_ok hprep).trans ((exec_bind_of_ok hnow).trans ?_)
    exact exec_bind_of_ok (exec_commit_of_ok hspend)
  · subst hburn
    exact ⟨rfl, rfl, rfl, rfl⟩

theorem spends_of_dispatched
    (h : exec (dispatchSpend env localRoot stageRef consentReceipt executionKey world.wall
      world.random) s = (.ok (prep, .dispatched burn), s')) :
    Spends env localRoot stageRef consentReceipt executionKey world s prep := by
  have hclock : ClockOk s.trustedTime world.wall := by
    by_contra hno
    obtain ⟨_, _, hr, _⟩ | ⟨prep', _, h⟩ := exec_ask_cases h
    · cases hr
    · rw [exec_bind_of_error (exec_trustedNow_of_not_clockOk hno)] at h
      cases h
  obtain ⟨floor, ⟨_, p, hr⟩ | ⟨prep', out, event, now, hprep, hspend, hr⟩⟩ := exec_dispatchSpend h
  · cases hr
  simp only [ok.injEq, Prod.mk.injEq] at hr
  obtain ⟨rfl, rfl⟩ := hr
  obtain ⟨_, _, _, hout⟩ | ⟨_, _, _, hout | hout⟩ |
    ⟨hkey, c, hc, hcs, burn', dispatches, rfl, hins, _, _⟩ := dispatchStaged_cases hspend
  · split at hout <;> cases hout
  · cases hout
  · cases hout
  · refine ⟨prepare_eq_ok_iff.1 hprep, hclock, fun d hd => ?_, c, hc, hcs⟩
    have hno := (insert_eq_some_iff.1 hins).1 d hd
    exact ⟨fun heq => hno (.inl heq), fun heq => hno (.inr (.inl heq)),
      fun heq => hno (.inr (.inr heq))⟩

theorem consents_ne_afterSpend {c : ConsentRow} (hc : c ∈ s.coordConsents)
    (hcs : spendable burn.stageRef burn.receiptId c = true) (dispatches : Table DispatchRecord)
    (event : Json) : (afterSpend burn dispatches event s).coordConsents ≠ s.coordConsents := by
  intro heq
  have hmem : c.spend ∈ (afterSpend burn dispatches event s).coordConsents :=
    (mem_updateWhere (f := ConsentRow.spend)).2 ⟨c, hc, if_pos hcs⟩
  rw [heq] at hmem
  have hsame : c.spend = c := s.coordConsents.eq_of_clash hmem hc rfl
  have huses : c.uses + 1 = c.uses := congrArg (fun r => r.uses) hsame
  omega

/-! ## After the commit -/

theorem egressState_of_carriage (carriage : Carriage) :
    ∃ egress, EgressState.ofStr carriage.state = some egress := by
  cases carriage with
  | acknowledged detail => exact ⟨.sent, rfl⟩
  | failed detail => exact ⟨.failed, rfl⟩

theorem exec_recordCarriage_of_clockOk {route : CoordRoute} {carriage : Carriage}
    (hkey : s.KeyCommitted record.executionKey burn) (hclock : ClockOk s.trustedTime wall) :
    ∃ row s', exec (recordCarriage route record carriage wall) s = (.ok row, s') := by
  obtain ⟨now, hnow⟩ := exec_trustedNow_of_clockOk hclock
  obtain ⟨egress, hegress⟩ := egressState_of_carriage carriage
  obtain ⟨out, s₁, hrec⟩ := recordEgress_eq_ok hegress record.executionKey carriage.detail
    (egressEvent route record carriage) now (s.atFloor (s.trustedTime.map (max wall)))
  -- the row is still there
  obtain ⟨_, _, hout, _⟩ := recordEgress_cases hrec
  have hfloor : (s.atFloor (s.trustedTime.map (max wall))).KeyCommitted record.executionKey burn :=
    hkey
  obtain ⟨row, hrow, -⟩ := hfloor.committed (.egress hrec)
  rw [hrow] at hout
  subst hout
  refine ⟨row, s₁, (exec_bind_of_ok hnow).trans ?_⟩
  exact exec_bind_of_ok (exec_commit_of_ok hrec)

theorem exec_carryAndRecord_of_ok (hkey : s.KeyCommitted record.executionKey burn)
    (h : CarriageOk env world prep record.dispatchReceipt record.stageRef s.trustedTime) :
    ∃ row s', exec (carryAndRecord env world prep record) s = (.ok row, s') := by
  obtain ⟨request, hrequest⟩ := isSome_iff_exists.1 h.body
  have hbody : messageBody env prep.envelope prep.payload record.dispatchReceipt record.stageRef =
      .ok (Json.canonicalBytes env.fmtNum request) := by
    simp only [messageBody, hrequest]
  obtain ⟨row, s', hrow⟩ := exec_recordCarriage_of_clockOk hkey h.clock
  refine ⟨row, s', (exec_demand_bind_of_ok hbody).trans ?_⟩
  refine (exec_demand_bind_of_ok (ensure_of h.runtime _)).trans ?_
  refine (exec_demand_bind_of_ok (ensure_of h.relock _)).trans ?_
  exact hrow

theorem exec_carryAndRecord_of_not_ok (record : DispatchRecord)
    (h : ¬ CarriageOk env world prep record.dispatchReceipt record.stageRef s.trustedTime) :
    ∃ p, exec (carryAndRecord env world prep record) s = (.error p, s) := by
  cases hrequest : env.requestJson (coordMessage prep.envelope prep.payload record.dispatchReceipt
    record.stageRef) with
  | none =>
    refine ⟨internal, exec_demand_bind_of_error ?_⟩
    simp only [messageBody, hrequest]
  | some request =>
    have hbody : messageBody env prep.envelope prep.payload record.dispatchReceipt
        record.stageRef = .ok (Json.canonicalBytes env.fmtNum request) := by
      simp only [messageBody, hrequest]
    by_cases hruntime : world.runtimeBuilds = true
    · by_cases hrelock : world.relocks = true
      · have hclock : ¬ ClockOk s.trustedTime world.wallAfter := fun hclock =>
          h ⟨by rw [hrequest]; rfl, hruntime, hrelock, hclock⟩
        refine ⟨timeUncertain, (exec_demand_bind_of_ok hbody).trans ?_⟩
        refine (exec_demand_bind_of_ok (ensure_of hruntime _)).trans ?_
        refine (exec_demand_bind_of_ok (ensure_of hrelock _)).trans ?_
        exact exec_bind_of_error (exec_trustedNow_of_not_clockOk hclock)
      · refine ⟨internal, (exec_demand_bind_of_ok hbody).trans ?_⟩
        refine (exec_demand_bind_of_ok (ensure_of hruntime _)).trans ?_
        exact exec_demand_bind_of_error (if_neg hrelock)
    · refine ⟨internal, (exec_demand_bind_of_ok hbody).trans ?_⟩
      exact exec_demand_bind_of_error (if_neg hruntime)

/-! ## The call as a whole -/

theorem exec_dispatch_of_next {out : DispatchOutcome} {next : Next}
    (h : exec (dispatchSpend env localRoot stageRef consentReceipt executionKey world.wall
      world.random) s = (.ok (prep, out), s')) (hnext : out.next = .ok next) :
    exec (dispatch env localRoot stageRef consentReceipt executionKey world) s =
      exec (finishDispatch env world prep next) s' :=
  (exec_bind_of_ok h).trans (exec_demand_bind_of_ok hnext)

theorem sameCoord_of_not_dispatched {r : Except Problem (Prepared × DispatchOutcome)}
    (h : exec (dispatchSpend env localRoot stageRef consentReceipt executionKey world.wall
      world.random) s = (r, s')) (hno : ∀ prep burn, r ≠ .ok (prep, .dispatched burn)) :
    SameCoord s s' := by
  obtain ⟨floor, ⟨rfl, _⟩ | ⟨prep, out, event, now, _, hspend, rfl⟩⟩ := exec_dispatchSpend h
  · exact sameCoord_atFloor s floor
  · obtain ⟨_, _, rfl, _⟩ | ⟨_, _, rfl, _⟩ | ⟨_, _, _, _, burn, _, _, _, rfl, _⟩ :=
      dispatchStaged_cases hspend
    · exact sameCoord_atFloor s floor
    · exact sameCoord_atFloor s floor
    · exact absurd rfl (hno prep burn)

theorem exec_finishDispatch_error {replayed : Bool} (hkey : s.KeyCommitted record.executionKey burn)
    (h : exec (finishDispatch env world prep (.carry record replayed)) s = (.error p, s')) :
    ¬ CarriageOk env world prep record.dispatchReceipt record.stageRef s.trustedTime ∧ s' = s := by
  by_cases hok : CarriageOk env world prep record.dispatchReceipt record.stageRef s.trustedTime
  · obtain ⟨row, s₁, hrun⟩ := exec_carryAndRecord_of_ok hkey hok
    have hfin : exec (finishDispatch env world prep (.carry record replayed)) s = _ :=
      exec_bind_of_ok hrun
    rw [hfin] at h
    cases h
  · obtain ⟨q, hrun⟩ := exec_carryAndRecord_of_not_ok record hok
    have hfin : exec (finishDispatch env world prep (.carry record replayed)) s = _ :=
      exec_bind_of_error hrun
    rw [hfin, Prod.mk.injEq] at h
    exact ⟨hok, h.2.symm⟩

/-- **When an error means that nothing was spent.**  A failed call of `dispatch` leaves the
receipts and the dispatches as they were exactly if a call that reaches its commit with a live
receipt meets no failure after it. -/
theorem dispatch_error_spends_nothing_iff (env : Env)
    (localRoot stageRef consentReceipt executionKey : String) (world : DispatchWorld) (s : Store) :
    (∀ p s', exec (dispatch env localRoot stageRef consentReceipt executionKey world) s =
        (.error p, s') →
      s'.coordConsents = s.coordConsents ∧ s'.coordDispatches = s.coordDispatches) ↔
    ∀ prep, Spends env localRoot stageRef consentReceipt executionKey world s prep →
      CarriageOk env world prep ("dispatch-" ++ hex world.random) stageRef
        (s.trustedTime.map (max world.wall)) := by
  constructor
  · intro hprop prep hspends
    by_contra hno
    obtain ⟨burn, dispatches, event, hrun, _, hid, href, _, hreceipt⟩ :=
      exec_dispatchSpend_of_spends hspends
    rw [← hreceipt, ← href] at hno
    obtain ⟨p, hcarry⟩ := exec_carryAndRecord_of_not_ok burn.intoRecord
      (s := afterSpend burn dispatches event (s.atFloor (s.trustedTime.map (max world.wall)))) hno
    have hfail : exec (dispatch env localRoot stageRef consentReceipt executionKey world) s = _ :=
      (exec_dispatch_of_next hrun rfl).trans (exec_bind_of_error hcarry)
    obtain ⟨c, hc, hcs⟩ := hspends.live
    rw [← hid, ← href] at hcs
    exact consents_ne_afterSpend (s := s.atFloor (s.trustedTime.map (max world.wall))) hc hcs
      dispatches event (hprop p _ hfail).1
  · intro hcond p s' hrun
    rcases hfirst : exec (dispatchSpend env localRoot stageRef consentReceipt executionKey world.wall
      world.random) s with ⟨r, s₁⟩
    have hunspent : (∀ prep burn, r ≠ .ok (prep, .dispatched burn)) → s' = s₁ →
        s'.coordConsents = s.coordConsents ∧ s'.coordDispatches = s.coordDispatches := by
      rintro hno rfl
      have hsame := sameCoord_of_not_dispatched hfirst hno
      exact ⟨hsame.consents, hsame.dispatches⟩
    cases r with
    | error q =>
      obtain ⟨-, hs'⟩ := Prod.mk.inj (hrun.symm.trans (exec_bind_of_error hfirst))
      exact hunspent (by rintro _ _ ⟨⟩) hs'
    | ok answer =>
      obtain ⟨prep, out⟩ := answer
      cases hnext : out.next with
      | error q =>
        -- refused on the outcome: no burn
        have hrefused : exec (dispatch env localRoot stageRef consentReceipt executionKey world) s
            = (.error q, s₁) := (exec_bind_of_ok hfirst).trans (exec_demand_bind_of_error hnext)
        rw [hrefused, Prod.mk.injEq] at hrun
        refine hunspent ?_ hrun.2.symm
        rintro _ burn ⟨⟩
        cases hnext
      | ok next =>
        rw [exec_dispatch_of_next hfirst hnext] at hrun
        cases next with
        | answer record => cases hrun
        | carry record replayed =>
          obtain ⟨floor, ⟨_, _, hr⟩ | ⟨prep', out', event, now, _, hspend, hr⟩⟩ :=
            exec_dispatchSpend hfirst
          · cases hr
          simp only [ok.injEq, Prod.mk.injEq] at hr
          obtain ⟨rfl, rfl⟩ := hr
          obtain ⟨hkey, href, hid, hrow⟩ := carry_of_dispatchStaged hspend hnext
          obtain ⟨hbad, rfl⟩ := exec_finishDispatch_error (hkey ▸ hrow) hrun
          refine hunspent ?_ rfl
          rintro _ burn ⟨⟩
          -- a burn means that the call spends, and then nothing may fail after the commit
          have hspends := spends_of_dispatched hfirst
          obtain ⟨burn', dispatches, event', hrun', _, _, href', _, hreceipt⟩ :=
            exec_dispatchSpend_of_spends hspends
          rw [hfirst, Prod.mk.injEq, ok.injEq, Prod.mk.injEq,
            DispatchOutcome.dispatched.injEq] at hrun'
          obtain ⟨⟨-, rfl⟩, rfl⟩ := hrun'
          obtain ⟨rfl, -⟩ : burn.intoRecord = record ∧ false = replayed := by
            simpa [DispatchOutcome.next] using hnext
          have hgood := hcond prep hspends
          rw [← hreceipt, ← href'] at hgood
          exact hbad hgood

/-! ## A clock that steps back during the carriage -/

def pinnedPeer (root : String) : StoredPeer :=
  .sample none "agent" "https://127.0.0.1:18444/a2a" "fp-recipient" root

def sampleRandom : Bytes := List.replicate 16 171

def sampleConsent (uses : ℕ) : Table ConsentRow :=
  ⟨[⟨⟨"consent-abc", sampleStaged.stageRef, sampleStaged.stagedDigest, 1, uses, 1800000001⟩, []⟩],
    pairwise_singleton _ _⟩

def consentedStore : Store where
  coordStaged := ⟨[⟨sampleStaged, samplePayload⟩], pairwise_singleton _ _⟩
  coordConsents := sampleConsent 0
  peers := ⟨[⟨"root-recipient-fixture", "agent", pinnedPeer "root-recipient-fixture", .active⟩],
    pairwise_singleton _ _⟩
  peerImports := ⟨[⟨"root-recipient-fixture", some "partner", "", 1, 1799999999, none⟩],
    pairwise_singleton _ _⟩
  trustedTime := some 1800000002

def clockBack : DispatchWorld where
  wall := 1800000010
  random := sampleRandom
  runtimeBuilds := true
  answer := .error (Problem.new 504 "timeout" "the peer did not answer within the bound")
  relocks := true
  wallAfter := 1799913610

/-- The call fails with `time-uncertain`, and the receipt is spent on a committed dispatch. -/
theorem clockBack_error_after_spend :
    (exec (dispatch sampleEnv "root-sender-fixture" sampleStaged.stageRef "consent-abc" "exec-1"
        clockBack) consentedStore).1 = .error timeUncertain ∧
      consentedStore.coordConsents.rows.map (fun c => c.uses) = [0] ∧
      (exec (dispatch sampleEnv "root-sender-fixture" sampleStaged.stageRef "consent-abc" "exec-1"
        clockBack) consentedStore).2.coordConsents.rows.map (fun c => c.uses) = [1] ∧
      consentedStore.coordDispatches.rows = [] ∧
      (exec (dispatch sampleEnv "root-sender-fixture" sampleStaged.stageRef "consent-abc" "exec-1"
        clockBack) consentedStore).2.coordDispatches.rows.map (fun d => d.executionKey) =
          ["exec-1"] := by
  decide

/-! ## A retry of what was sent -/

def dispatchCarriage (env : Env) (localRoot stageRef consentReceipt executionKey : String)
    (world : DispatchWorld) (s : Store) : Option Bytes :=
  match (exec (dispatchSpend env localRoot stageRef consentReceipt executionKey world.wall
      world.random) s).1 with
  | .error _ => none
  | .ok (prep, outcome) =>
    match outcome.next with
    | .ok (.carry record _) =>
      if world.runtimeBuilds then
        (messageBody env prep.envelope prep.payload record.dispatchReceipt record.stageRef).toOption
      else none
    | _ => none

/-- A later dispatch answers with the row, and carries nothing. -/
structure Replays (env : Env) (localRoot : String) (row : DispatchRecord) (world : DispatchWorld)
    (s : Store) : Prop where
  answered : ∃ json s', exec (dispatch env localRoot row.stageRef row.receiptId row.executionKey world)
    s = (.ok json, s') ∧ json.getStr? "dispatch_receipt" = some row.dispatchReceipt ∧
      json.get? "replayed" = some (.bool true)
  silent : dispatchCarriage env localRoot row.stageRef row.receiptId row.executionKey world s = none

section Retry

variable {env : Env} {localRoot : String} {row : DispatchRecord} {s : Store} {prep : Prepared}

theorem exec_dispatchSpend_of_row (world : DispatchWorld) (hrow : row ∈ s.coordDispatches)
    (hprep : prep.From env localRoot row.stageRef row.receiptId row.executionKey s)
    (hclock : ClockOk s.trustedTime world.wall) :
    exec (dispatchSpend env localRoot row.stageRef row.receiptId row.executionKey world.wall
      world.random) s =
        (.ok (prep, .alreadyDispatched row), s.atFloor (s.trustedTime.map (max world.wall))) := by
  obtain ⟨now, hnow⟩ := exec_trustedNow_of_clockOk hclock
  have hfind : (s.atFloor (s.trustedTime.map (max world.wall))).dispatchRowBy
      DispatchRecord.executionKey row.executionKey = some row := by
    refine (find_eq_some_iff (fun a b ha hb => ?_)).2 ⟨hrow, by simp⟩
    exact .inl ((of_decide_eq_true ha).trans (of_decide_eq_true hb).symm)
  refine (exec_ask_bind_of_ok (prepare_eq_ok_iff.2 hprep)).trans ((exec_bind_of_ok hnow).trans ?_)
  refine exec_bind_of_ok (exec_commit_of_ok ?_)
  rw [dispatchStaged, hfind]
  simp only [and_self, if_true]
  rfl

/-- **When a dispatch that was sent replays.**  For every store that holds a row whose bytes are known
to have left: a call with the row's reference, receipt and key is answered with the row's dispatch
receipt and carries nothing, exactly if the call would still be routed, the recipient's peer
included, and the clock is trusted. -/
theorem sent_dispatch_replays_iff (env : Env) (localRoot : String) (row : DispatchRecord)
    (world : DispatchWorld) (s : Store) (hrow : row ∈ s.coordDispatches)
    (hsent : row.egressState = .sent) :
    Replays env localRoot row world s ↔
      (∃ prep : Prepared, prep.From env localRoot row.stageRef row.receiptId row.executionKey s) ∧
        ClockOk s.trustedTime world.wall := by
  constructor
  · rintro ⟨⟨json, s', hrun, -⟩, -⟩
    obtain ⟨_, -, herror⟩ | ⟨⟨prep, out⟩, s₁, hspend, -⟩ := exec_bind_cases hrun
    · cases herror
    obtain ⟨_, _, herror, -⟩ | ⟨prep', hprep, hspend⟩ := exec_ask_cases hspend
    · cases herror
    refine ⟨⟨prep', prepare_eq_ok_iff.1 hprep⟩, ?_⟩
    by_contra hclock
    rw [exec_bind_of_error (exec_trustedNow_of_not_clockOk hclock)] at hspend
    cases hspend
  · rintro ⟨⟨prep, hprep⟩, hclock⟩
    have hspend := exec_dispatchSpend_of_row world hrow hprep hclock
    have hnext : (DispatchOutcome.alreadyDispatched row).next = .ok (.answer row) := by
      simp [DispatchOutcome.next, DispatchRecord.egressMayBeAttempted, hsent]
    constructor
    · refine ⟨_, _, exec_dispatch_of_next hspend hnext, ?_, ?_⟩
      · rfl
      · rfl
    · simp only [dispatchCarriage, hspend, hnext]

end Retry

/-! The sample again, dispatched and acknowledged. -/

def sentRow : DispatchRecord where
  executionKey := "exec-1"
  stageRef := sampleStaged.stageRef
  stagedDigest := sampleStaged.stagedDigest
  receiptId := "consent-abc"
  dispatchReceipt := "dispatch-" ++ hex sampleRandom
  dispatchedAt := 1800000010
  egressState := .sent
  egressDetail := "acknowledged by root-recipient-fixture"
  egressAt := some 1800000011

def sentStore : Store :=
  { consentedStore with
    coordConsents := sampleConsent 1
    coordDispatches := ⟨[sentRow], pairwise_singleton _ _⟩ }

/-- While the recipient is an active peer, the retry replays. -/
theorem sent_dispatch_replays_active :
    Replays sampleEnv "root-sender-fixture" sentRow clockBack sentStore := by
  have hprep : (prepare sampleEnv "root-sender-fixture" sentRow.stageRef sentRow.receiptId
      sentRow.executionKey sentStore).toOption.isSome = true := by
    decide
  refine (sent_dispatch_replays_iff _ _ _ _ _ (mem_singleton_self _) rfl).2 ⟨?_, ?_⟩
  · cases h : prepare sampleEnv "root-sender-fixture" sentRow.stageRef sentRow.receiptId
        sentRow.executionKey sentStore with
    | error p =>
      rw [h] at hprep
      cases hprep
    | ok prep => exact ⟨prep, prepare_eq_ok_iff.1 h⟩
  · intro t ht
    cases ht
    decide

/-- Once the relationship is removed, the retry is refused as unroutable. -/
theorem removed_peer_refuses_retry : ∃ s,
    removeRelationship "root-recipient-fixture" 1800000012 sentStore = (true, s) ∧
    (exec (dispatch sampleEnv "root-sender-fixture" sentRow.stageRef sentRow.receiptId
      sentRow.executionKey clockBack) s).1 =
        .error (unroutable "that recipient label no longer names an imported peer") :=
  ⟨_, rfl, by decide⟩

end Akson
