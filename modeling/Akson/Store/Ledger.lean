/-
# The consent ledger

What holds of the coordination tables over every run of the four store operations, with crashes and
reopens between transactions.
-/
import Akson.Store.Coord
import Akson.Lib.OneShot

namespace Akson

open Option List Table

variable {s s' : Store} {event : Json} {now : Time} {burn : ConsentBurn}
  {reply : Except StoreError CoordReply} {executionKey stageRef receiptId dispatchReceipt : String}
  {call : CoordCall} {ls : List CoordLabel}

/-! ## Runs of the store -/

/-- The operations of the ledger. -/
inductive CoordCall where
  | stage (new : NewStagedContract) (now : Time)
  | mint (stageRef receiptId : String) (body : Bytes) (event : Json) (now : Time)
  | dispatch (stageRef receiptId executionKey dispatchReceipt : String) (event : Json) (now : Time)
  | egress (executionKey state detail : String) (event : Json) (now : Time)

/-- Their answers. -/
inductive CoordReply where
  | stage (out : StageOutcome)
  | mint (out : Option ConsentReceipt)
  | dispatch (out : DispatchOutcome)
  | egress (out : Option DispatchRecord)

def CoordCall.exec (call : CoordCall) (s : Store) : Except StoreError (CoordReply × Store) :=
  match call with
  | .stage new now => (stageContract new now s).map (Prod.map .stage id)
  | .mint stageRef receiptId body event now =>
    (mintConsentReceipt stageRef receiptId body event now s).map (Prod.map .mint id)
  | .dispatch stageRef receiptId executionKey dispatchReceipt event now =>
    (dispatchStaged stageRef receiptId executionKey dispatchReceipt event now s).map
      (Prod.map .dispatch id)
  | .egress executionKey state detail event now =>
    (recordEgress executionKey state detail event now s).map (Prod.map .egress id)

/-- What is seen of one step of the store.  A process may die after a commit and before the
answer (`unanswered`), or before the commit (`reopened`, which also covers a plain restart). -/
inductive CoordLabel where
  | answered (call : CoordCall) (reply : Except StoreError CoordReply)
  | unanswered (call : CoordCall) (reply : Except StoreError CoordReply)
  | reopened

def CoordStep (s : Store) (l : CoordLabel) (s' : Store) : Prop :=
  match l with
  | .answered call reply | .unanswered call reply => transact call.exec s = (reply, s')
  | .reopened => s' = s

theorem transact_map_eq {α β : Type} {f : α → β} {op : Store → Except StoreError (α × Store)}
    {r : Except StoreError β}
    (h : transact (fun s => (op s).map (Prod.map f id)) s = (r, s')) :
    (∃ e, r = .error e ∧ s' = s) ∨ ∃ a, op s = .ok (a, s') ∧ r = .ok (f a) := by
  unfold transact at h
  cases hop : op s with
  | error e =>
    simp only [hop, Except.map, Prod.mk.injEq] at h
    exact .inl ⟨e, h.1.symm, h.2.symm⟩
  | ok p =>
    simp only [hop, Except.map, Prod.map, id, Prod.mk.injEq] at h
    exact .inr ⟨p.1, by rw [← h.2], h.1.symm⟩

/-- What a call that returns has done. -/
inductive Committed (s : Store) : CoordCall → Except StoreError CoordReply → Store → Prop
  | failed (call : CoordCall) (e : StoreError) : Committed s call (.error e) s
  | stage {new : NewStagedContract} {now : Time} {out : StageOutcome} {s' : Store}
      (h : stageContract new now s = .ok (out, s')) :
      Committed s (.stage new now) (.ok (.stage out)) s'
  | mint {stageRef receiptId : String} {body : Bytes} {event : Json} {now : Time}
      {out : Option ConsentReceipt} {s' : Store}
      (h : mintConsentReceipt stageRef receiptId body event now s = .ok (out, s')) :
      Committed s (.mint stageRef receiptId body event now) (.ok (.mint out)) s'
  | dispatch {stageRef receiptId executionKey dispatchReceipt : String} {event : Json}
      {now : Time} {out : DispatchOutcome} {s' : Store}
      (h : dispatchStaged stageRef receiptId executionKey dispatchReceipt event now s
        = .ok (out, s')) :
      Committed s (.dispatch stageRef receiptId executionKey dispatchReceipt event now)
        (.ok (.dispatch out)) s'
  | egress {executionKey state detail : String} {event : Json} {now : Time}
      {out : Option DispatchRecord} {s' : Store}
      (h : recordEgress executionKey state detail event now s = .ok (out, s')) :
      Committed s (.egress executionKey state detail event now) (.ok (.egress out)) s'

theorem committed_of_transact (h : transact call.exec s = (reply, s')) :
    Committed s call reply s' := by
  cases call with
  | stage new now =>
    obtain ⟨e, rfl, rfl⟩ | ⟨out, hop, rfl⟩ := transact_map_eq h
    · exact .failed _ e
    · exact .stage hop
  | mint stageRef receiptId body event now =>
    obtain ⟨e, rfl, rfl⟩ | ⟨out, hop, rfl⟩ := transact_map_eq h
    · exact .failed _ e
    · exact .mint hop
  | dispatch stageRef receiptId executionKey dispatchReceipt event now =>
    obtain ⟨e, rfl, rfl⟩ | ⟨out, hop, rfl⟩ := transact_map_eq h
    · exact .failed _ e
    · exact .dispatch hop
  | egress executionKey state detail event now =>
    obtain ⟨e, rfl, rfl⟩ | ⟨out, hop, rfl⟩ := transact_map_eq h
    · exact .failed _ e
    · exact .egress hop

theorem coordStep_keeps {P : Store → Prop}
    (hP : ∀ {s s' call reply}, P s → Committed s call reply s' → P s')
    {l : CoordLabel} (hs : P s) (h : CoordStep s l s') : P s' := by
  cases l with
  | answered call reply => exact hP hs (committed_of_transact h)
  | unanswered call reply => exact hP hs (committed_of_transact h)
  | reopened => exact (show s' = s from h) ▸ hs

/-! ## The invariant -/

def Store.Staged (s : Store) (ref digest : String) : Prop :=
  ∃ r ∈ s.coordStaged, r.stageRef = ref ∧ r.stagedDigest = digest

def Store.dispatchesNaming (s : Store) (receiptId : String) : ℕ :=
  s.coordDispatches.count (fun d => d.receiptId = receiptId)

/-- The invariant of consents and dispatches. -/
structure Ledger (s : Store) : Prop where
  maxUses_eq : ∀ c ∈ s.coordConsents, c.maxUses = 1
  uses_eq : ∀ c ∈ s.coordConsents, c.uses = s.dispatchesNaming c.receiptId
  consent_of_dispatch : ∀ d ∈ s.coordDispatches, ∃ c ∈ s.coordConsents,
    c.receiptId = d.receiptId ∧ c.stageRef = d.stageRef ∧ c.stagedDigest = d.stagedDigest
  staged_of_consent : ∀ c ∈ s.coordConsents, s.Staged c.stageRef c.stagedDigest

theorem dispatchesNaming_le_one (s : Store) (receiptId : String) :
    s.dispatchesNaming receiptId ≤ 1 :=
  s.coordDispatches.count_le_one (onKey DispatchRecord.receiptId receiptId fun _ _ h => .inr (.inl h))

variable {ref key : String} {body : Bytes} {dispatches : Table DispatchRecord} {c : ConsentRow}

theorem Store.Staged.setStatus {digest : String} (h : s.Staged ref digest) (stageRef : String)
    (status : CoordStatus) : (s.setStatus stageRef status).Staged ref digest := by
  obtain ⟨r, hr, href, hdig⟩ := h
  refine ⟨_, (mem_updateWhere (f := withStatus status)).2 ⟨r, hr, rfl⟩, ?_⟩
  split
  · exact ⟨href, hdig⟩
  · exact ⟨href, hdig⟩

theorem staged_of_stagedContract {c : StagedContract} (h : s.stagedContract ref = some c) :
    s.Staged ref c.stagedDigest := by
  obtain ⟨r, hr, rfl⟩ := map_eq_some_iff.1 h
  exact ⟨r, mem_of_find hr, by simpa using pred_of_find hr, rfl⟩

theorem Ledger.stage {new : NewStagedContract} {out : StageOutcome}
    (hs : Ledger s) (h : stageContract new now s = .ok (out, s')) : Ledger s' := by
  obtain ⟨_, _, _, rfl⟩ | ⟨_, staged, contract, hins, _, _, _, _, _, _, _, rfl⟩ :=
    stageContract_cases h
  · exact hs
  · refine ⟨hs.maxUses_eq, hs.uses_eq, hs.consent_of_dispatch, fun c hc => ?_⟩
    obtain ⟨r, hr, hrd⟩ := hs.staged_of_consent c hc
    exact ⟨r, (mem_insert hins).2 (.inl hr), hrd⟩

theorem Ledger.mint {out : Option ConsentReceipt} (hs : Ledger s)
    (h : mintConsentReceipt stageRef receiptId body event now s = .ok (out, s')) : Ledger s' := by
  obtain ⟨staged, hstaged, ⟨_, _, rfl⟩ | ⟨_, receipt, consents, hrec, hins, _, rfl⟩⟩ :=
    mintConsentReceipt_cases h
  · exact hs
  subst hrec
  -- no dispatch row names a receipt that is not there yet
  have hfresh : s.dispatchesNaming receiptId = 0 := by
    refine countP_eq_zero.2 (fun d hd => ?_)
    obtain ⟨c, hc, hcd, -⟩ := hs.consent_of_dispatch d hd
    have hno := (insert_eq_some_iff.1 hins).1 c hc
    simp only [decide_eq_true_eq]
    rintro rfl
    exact hno hcd
  refine ⟨fun c hc => ?_, fun c hc => ?_, fun d hd => ?_, fun c hc => ?_⟩
  · obtain hc | rfl := (mem_insert hins).1 hc
    · exact hs.maxUses_eq c hc
    · rfl
  · obtain hc | rfl := (mem_insert hins).1 hc
    · exact hs.uses_eq c hc
    · exact hfresh.symm
  · obtain ⟨c, hc, hcd⟩ := hs.consent_of_dispatch d hd
    exact ⟨c, (mem_insert hins).2 (.inl hc), hcd⟩
  · obtain hc | rfl := (mem_insert hins).1 hc
    · exact (hs.staged_of_consent c hc).setStatus stageRef .consented
    · exact (staged_of_stagedContract hstaged).setStatus stageRef .consented

theorem Ledger.spend (hs : Ledger s) (hc : c ∈ s.coordConsents)
    (hcs : spendable burn.stageRef burn.receiptId c = true)
    (hdig : burn.stagedDigest = c.stagedDigest)
    (hins : s.coordDispatches.insert burn.intoRecord = some dispatches) :
    Ledger (afterSpend burn dispatches event s) := by
  have hcs' := spendable_iff.1 hcs
  have hmem : ∀ {a}, a ∈ (afterSpend burn dispatches event s).coordConsents ↔
      ∃ r ∈ s.coordConsents, (if spendable burn.stageRef burn.receiptId r then r.spend else r) = a :=
    mem_updateWhere (f := ConsentRow.spend)
  have hcount : ∀ receiptId, (afterSpend burn dispatches event s).dispatchesNaming receiptId =
      s.dispatchesNaming receiptId + if burn.receiptId = receiptId then 1 else 0 := by
    intro receiptId
    have h := count_insert hins (fun d => decide (d.receiptId = receiptId))
    simp only [decide_eq_true_eq] at h
    exact h
  refine ⟨fun a ha => ?_, fun a ha => ?_, fun d hd => ?_, fun a ha => ?_⟩
  · obtain ⟨r, hr, rfl⟩ := hmem.1 ha
    split
    · exact hs.maxUses_eq r hr
    · exact hs.maxUses_eq r hr
  · obtain ⟨r, hr, rfl⟩ := hmem.1 ha
    split
    case isTrue hsp =>
      have hrid : burn.receiptId = r.receiptId := (spendable_iff.1 hsp).1.symm
      rw [show r.spend.receiptId = r.receiptId from rfl, hcount, if_pos hrid,
        ← hs.uses_eq r hr]
      rfl
    case isFalse hsp =>
      have hrid : burn.receiptId ≠ r.receiptId := by
        intro heq
        rw [s.coordConsents.eq_of_clash hr hc (heq.symm.trans hcs'.1.symm)] at hsp
        exact hsp hcs
      rw [hcount, if_neg hrid, ← hs.uses_eq r hr]
      rfl
  · obtain hd | rfl := (mem_insert hins).1 hd
    · obtain ⟨r, hr, hrd⟩ := hs.consent_of_dispatch d hd
      refine ⟨_, hmem.2 ⟨r, hr, rfl⟩, ?_⟩
      split
      · exact hrd
      · exact hrd
    · refine ⟨c.spend, hmem.2 ⟨c, hc, if_pos hcs⟩, hcs'.1, hcs'.2.1, hdig.symm⟩
  · obtain ⟨r, hr, rfl⟩ := hmem.1 ha
    have hst := (hs.staged_of_consent r hr).setStatus burn.stageRef .dispatched
    split
    · exact hst
    · exact hst

theorem Ledger.dispatch {out : DispatchOutcome} (hs : Ledger s)
    (h : dispatchStaged stageRef receiptId executionKey dispatchReceipt event now s
      = .ok (out, s')) : Ledger s' := by
  obtain ⟨_, _, rfl, _⟩ | ⟨_, _, rfl, _⟩ |
    ⟨_, c, hc, hcs, burn, dispatches, hburn, hins, _, rfl⟩ := dispatchStaged_cases h
  · exact hs
  · exact hs
  · subst hburn
    exact hs.spend hc hcs rfl hins

theorem Ledger.egress {state detail : String} {out : Option DispatchRecord} (hs : Ledger s)
    (h : recordEgress executionKey state detail event now s = .ok (out, s')) : Ledger s' := by
  obtain ⟨egress, _, _, events, audit, rfl⟩ := recordEgress_cases h
  refine ⟨hs.maxUses_eq, fun c hc => ?_, fun d hd => ?_, hs.staged_of_consent⟩
  · rw [hs.uses_eq c hc]
    exact (count_updateWhere (f := DispatchRecord.withEgress egress detail now)
      (fun _ => rfl) s.coordDispatches).symm
  · obtain ⟨r, hr, rfl⟩ :=
      (mem_updateWhere (f := DispatchRecord.withEgress egress detail now)).1 hd
    obtain ⟨c, hc, hcr⟩ := hs.consent_of_dispatch r hr
    refine ⟨c, hc, ?_⟩
    split
    · exact hcr
    · exact hcr

theorem Ledger.committed (hs : Ledger s) (h : Committed s call reply s') : Ledger s' := by
  cases h with
  | failed => exact hs
  | stage h => exact hs.stage h
  | mint h => exact hs.mint h
  | dispatch h => exact hs.dispatch h
  | egress h => exact hs.egress h

theorem Ledger.run (hs : Ledger s) (h : Trace CoordStep s ls s') : Ledger s' :=
  h.invariant (fun _ _ _ hs hstep => coordStep_keeps Ledger.committed hs hstep) hs

/-! ## The tables as one-shot grants -/

def grantsOf (s : Store) : OneShot String String where
  granted := {r | ∃ c ∈ s.coordConsents, c.receiptId = r}
  spentBy r := (s.coordDispatches.find (fun d => d.receiptId = r)).map DispatchRecord.executionKey

def CoordReply.move : CoordReply → Option (OneShot.Move String String)
  | .mint (some receipt) => some (.grant receipt.receiptId)
  | .dispatch (.dispatched burn) => some (.spend burn.receiptId burn.executionKey)
  | _ => none

def CoordLabel.move : CoordLabel → Option (OneShot.Move String String)
  | .answered _ (.ok reply) | .unanswered _ (.ok reply) => reply.move
  | _ => none

theorem grantsOf_mint {receipt : ConsentReceipt} {consents : Table ConsentRow}
    (hins : s.coordConsents.insert { receipt with receipt := body } = some consents) :
    OneShot.Step (grantsOf s) (.grant receipt.receiptId)
      (grantsOf { s with coordConsents := consents }) := by
  have hfresh : receipt.receiptId ∉ (grantsOf s).granted := by
    rintro ⟨c, hc, hid⟩
    exact (insert_eq_some_iff.1 hins).1 c hc hid
  have hgranted : (grantsOf { s with coordConsents := consents }).granted =
      Set.insert receipt.receiptId (grantsOf s).granted := by
    ext r
    constructor
    · rintro ⟨c, hc, rfl⟩
      obtain hc | rfl := (mem_insert hins).1 hc
      · exact .inr ⟨c, hc, rfl⟩
      · exact .inl rfl
    · rintro (rfl | ⟨c, hc, hid⟩)
      · exact ⟨_, (mem_insert hins).2 (.inr rfl), rfl⟩
      · exact ⟨c, (mem_insert hins).2 (.inl hc), hid⟩
  have hstep := OneShot.Step.grant hfresh
  rw [← hgranted] at hstep
  exact hstep

theorem granted_afterSpend (burn : ConsentBurn) (dispatches : Table DispatchRecord) (event : Json)
    (s : Store) : (grantsOf (afterSpend burn dispatches event s)).granted = (grantsOf s).granted := by
  ext r
  constructor
  · rintro ⟨c, hc, rfl⟩
    obtain ⟨a, ha, rfl⟩ := (mem_updateWhere (f := ConsentRow.spend)).1 hc
    refine ⟨a, ha, ?_⟩
    split <;> rfl
  · rintro ⟨a, ha, rfl⟩
    refine ⟨_, (mem_updateWhere (f := ConsentRow.spend)).2 ⟨a, ha, rfl⟩, ?_⟩
    split <;> rfl

theorem grantsOf_spend (hc : c ∈ s.coordConsents) (hid : c.receiptId = burn.receiptId)
    (hins : s.coordDispatches.insert burn.intoRecord = some dispatches) :
    OneShot.Step (grantsOf s) (.spend burn.receiptId burn.executionKey)
      (grantsOf (afterSpend burn dispatches event s)) := by
  have hno := (insert_eq_some_iff.1 hins).1
  have hunspent : s.coordDispatches.find (fun d => decide (d.receiptId = burn.receiptId)) = none :=
    find_eq_none_iff.2 (fun d hd => decide_eq_false (fun h => hno d hd (.inr (.inl h))))
  have hunused : ∀ r, (grantsOf s).spentBy r ≠ some burn.executionKey := by
    intro r hr
    obtain ⟨d, hd, hkey⟩ := map_eq_some_iff.1 hr
    exact hno d (mem_of_find hd) (.inl hkey)
  have hspent : (grantsOf (afterSpend burn dispatches event s)).spentBy =
      Function.update (grantsOf s).spentBy burn.receiptId (some burn.executionKey) := by
    funext r
    show (dispatches.find _).map _ = _
    by_cases hr : r = burn.receiptId
    · subst hr
      have hfound : dispatches.find (fun d => decide (d.receiptId = burn.receiptId)) =
          some burn.intoRecord :=
        (find_eq_some_iff (onKey DispatchRecord.receiptId _ fun _ _ h => .inr (.inl h))).2
          ⟨(mem_insert hins).2 (.inr rfl), by simp [ConsentBurn.intoRecord]⟩
      rw [Function.update_self, hfound]
      rfl
    · rw [Function.update_of_ne hr, find_insert_of_not hins]
      · rfl
      · exact decide_eq_false (fun h => hr h.symm)
  have hstep := OneShot.Step.spend (g := grantsOf s) ⟨c, hc, hid⟩
    (show (grantsOf s).spentBy burn.receiptId = none by simp [grantsOf, hunspent]) hunused
  rw [← hspent, ← granted_afterSpend burn dispatches event s] at hstep
  exact hstep

theorem grantsOf_egress (s : Store) (executionKey detail : String) (egress : EgressState)
    (now : Time) (events : List CoordEvent) (audit : List AuditEntry) :
    grantsOf { s with
      coordDispatches := s.coordDispatches.updateWhere (movable executionKey)
        (DispatchRecord.withEgress egress detail now)
      coordEvents := events
      audit := audit } = grantsOf s := by
  have hspent : ∀ r, ((s.coordDispatches.updateWhere (movable executionKey)
      (DispatchRecord.withEgress egress detail now)).find
        (fun d => decide (d.receiptId = r))).map DispatchRecord.executionKey =
      (s.coordDispatches.find (fun d => decide (d.receiptId = r))).map
        DispatchRecord.executionKey := by
    intro r
    rw [Table.find_updateWhere (f := DispatchRecord.withEgress egress detail now)
      (fun _ => rfl), Option.map_map]
    congr 1
    funext d
    simp only [Function.comp]
    split <;> rfl
  ext r : 2
  · rfl
  · exact hspent r

theorem Committed.refines (h : Committed s call reply s') :
    (∀ r m, reply = .ok r → r.move = some m → OneShot.Step (grantsOf s) m (grantsOf s')) ∧
    ((∀ r, reply = .ok r → r.move = none) → grantsOf s' = grantsOf s) := by
  cases h with
  | failed => exact ⟨by rintro r m ⟨⟩, fun _ => rfl⟩
  | stage h =>
    refine ⟨?_, fun _ => ?_⟩
    · rintro r m ⟨⟩ ⟨⟩
    · obtain ⟨_, _, _, rfl⟩ | ⟨_, _, _, _, _, _, _, _, _, _, _, rfl⟩ := stageContract_cases h
      · rfl
      · rfl
  | mint h =>
    obtain ⟨_, _, ⟨_, rfl, rfl⟩ | ⟨_, receipt, consents, _, hins, rfl, rfl⟩⟩ :=
      mintConsentReceipt_cases h
    · refine ⟨?_, fun _ => rfl⟩
      rintro r m ⟨⟩ ⟨⟩
    · refine ⟨?_, fun hno => absurd (hno _ rfl) (by simp [CoordReply.move])⟩
      rintro r m ⟨⟩ ⟨⟩
      exact grantsOf_mint hins
  | dispatch h =>
    obtain ⟨existing, _, rfl, rfl⟩ | ⟨_, _, rfl, hout⟩ |
      ⟨_, c, hc, hcs, burn, dispatches, hburn, hins, rfl, rfl⟩ := dispatchStaged_cases h
    · refine ⟨?_, fun _ => rfl⟩
      rintro r m ⟨⟩ hm
      split at hm <;> cases hm
    · refine ⟨?_, fun _ => rfl⟩
      rintro r m ⟨⟩ hm
      obtain rfl | rfl := hout <;> cases hm
    · refine ⟨?_, fun hno => absurd (hno _ rfl) (by simp [CoordReply.move])⟩
      rintro r m ⟨⟩ ⟨⟩
      exact grantsOf_spend hc (by rw [hburn]; exact (spendable_iff.1 hcs).1) hins
  | egress h =>
    refine ⟨?_, fun _ => ?_⟩
    · rintro r m ⟨⟩ ⟨⟩
    · obtain ⟨egress, _, _, events, audit, rfl⟩ := recordEgress_cases h
      exact grantsOf_egress s _ _ egress _ events audit

theorem coordRun_refines (h : Trace CoordStep s ls s') :
    Trace OneShot.Step (grantsOf s) (ls.filterMap CoordLabel.move) (grantsOf s') := by
  refine h.refines (I := fun _ => True) grantsOf CoordLabel.move (fun _ _ _ _ _ => trivial)
    ?_ ?_ trivial
  · rintro s l s' m - hstep hm
    cases l with
    | reopened => cases hm
    | answered call reply | unanswered call reply =>
      cases reply with
      | error e => cases hm
      | ok r => exact (committed_of_transact hstep).refines.1 r m rfl hm
  · rintro s l s' - hstep hm
    cases l with
    | reopened => rw [show s' = s from hstep]
    | answered call reply | unanswered call reply =>
      refine (committed_of_transact hstep).refines.2 ?_
      rintro r rfl
      exact hm

/-! ## What callers see -/

def CoordLabel.returnsBurn (receiptId : String) : CoordLabel → Bool
  | .answered _ (.ok (.dispatch (.dispatched burn))) => burn.receiptId = receiptId
  | _ => false

theorem returnsBurn_le_one (h : Trace CoordStep s ls s')
    (receiptId : String) : ls.countP (CoordLabel.returnsBurn receiptId) ≤ 1 := by
  have honce := OneShot.spend_grant_once (coordRun_refines h) receiptId
  rw [countP_filterMap] at honce
  refine le_trans (countP_mono_left (fun l _ hl => ?_)) honce
  unfold CoordLabel.returnsBurn at hl
  split at hl
  · simpa [CoordLabel.move, CoordReply.move, OneShot.Move.spends] using hl
  · cases hl

def DispatchRecord.committed (d : DispatchRecord) : ConsentBurn :=
  ⟨d.receiptId, d.stageRef, d.stagedDigest, d.executionKey, d.dispatchReceipt, d.dispatchedAt⟩

def Store.KeyCommitted (s : Store) (key : String) (burn : ConsentBurn) : Prop :=
  ∃ d, s.dispatchRowBy DispatchRecord.executionKey key = some d ∧ d.committed = burn

theorem Store.KeyCommitted.committed (hs : s.KeyCommitted key burn)
    (h : Committed s call reply s') : s'.KeyCommitted key burn := by
  obtain ⟨d, hd, hburn⟩ := hs
  cases h with
  | failed => exact ⟨d, hd, hburn⟩
  | stage h =>
    obtain ⟨_, _, _, rfl⟩ | ⟨_, _, _, _, _, _, _, _, _, _, _, rfl⟩ := stageContract_cases h
    · exact ⟨d, hd, hburn⟩
    · exact ⟨d, hd, hburn⟩
  | mint h =>
    obtain ⟨_, _, ⟨_, rfl, rfl⟩ | ⟨_, _, _, _, _, _, rfl⟩⟩ := mintConsentReceipt_cases h
    · exact ⟨d, hd, hburn⟩
    · exact ⟨d, hd, hburn⟩
  | dispatch h =>
    obtain ⟨_, _, rfl, _⟩ | ⟨_, _, rfl, _⟩ | ⟨_, _, _, _, _, _, _, hins, _, rfl⟩ :=
      dispatchStaged_cases h
    · exact ⟨d, hd, hburn⟩
    · exact ⟨d, hd, hburn⟩
    · exact ⟨d, find_insert_of_some hins hd, hburn⟩
  | @egress key' _ detail _ now _ _ h =>
    obtain ⟨egress, _, _, _, _, rfl⟩ := recordEgress_cases h
    refine ⟨if movable key' d then d.withEgress egress detail now else d, ?_, ?_⟩
    · refine (Table.find_updateWhere (f := DispatchRecord.withEgress egress detail now)
        (fun _ => rfl) _).trans ?_
      exact congrArg _ hd
    · split
      · exact hburn
      · exact hburn

theorem keyCommitted_of_dispatched
    (h : dispatchStaged stageRef receiptId executionKey dispatchReceipt event now s
      = .ok (.dispatched burn, s')) :
    burn.stageRef = stageRef ∧ burn.receiptId = receiptId ∧ s'.KeyCommitted executionKey burn := by
  obtain ⟨_, _, _, hout⟩ | ⟨_, _, _, hout | hout⟩ |
    ⟨_, c, hc, hcs, burn', dispatches, hburn, hins, hout, rfl⟩ := dispatchStaged_cases h
  · split at hout <;> cases hout
  · cases hout
  · cases hout
  · cases hout
    subst hburn
    have hrow := (find_eq_some_iff (onKey DispatchRecord.executionKey executionKey fun _ _ => .inl)).2
      ⟨(mem_insert hins).2 (.inr rfl), decide_eq_true rfl⟩
    exact ⟨rfl, rfl, _, hrow, rfl⟩

theorem dispatch_of_keyCommitted (hs : s.KeyCommitted executionKey burn)
    (h : transact (CoordCall.dispatch burn.stageRef burn.receiptId executionKey dispatchReceipt
      event now).exec s = (reply, s')) :
    ∃ existing, reply = .ok (.dispatch (.alreadyDispatched existing)) ∧
      existing.committed = burn := by
  obtain ⟨d, hd, rfl⟩ := hs
  refine ⟨d, ?_, rfl⟩
  simp only [transact, CoordCall.exec, dispatchStaged, hd, DispatchRecord.committed, and_self,
    if_true, Except.map, Prod.map, Prod.mk.injEq] at h
  exact h.1.symm

theorem retry_answers_committed {before after : List CoordLabel} (h : Trace CoordStep s (before ++
      .answered (.dispatch stageRef receiptId executionKey dispatchReceipt event now)
        (.ok (.dispatch (.dispatched burn))) :: after) s')
    (dispatchReceipt' : String) (event' : Json) (now' : Time) (reply : Except StoreError CoordReply)
    (hmem : .answered (.dispatch stageRef receiptId executionKey dispatchReceipt' event' now')
      reply ∈ after) :
    ∃ existing, reply = .ok (.dispatch (.alreadyDispatched existing)) ∧
      existing.committed = burn := by
  obtain ⟨s₁, _, h₁⟩ := Trace.append_iff.1 h
  obtain ⟨s₂, hstep, hafter⟩ := Trace.cons_iff.1 h₁
  have hcom := committed_of_transact hstep
  cases hcom with
  | dispatch hop =>
    obtain ⟨rfl, rfl, hkey⟩ := keyCommitted_of_dispatched hop
    have hlater := hafter.forall_mem_of_stable (I := fun _ => True)
      (P := fun s => s.KeyCommitted executionKey burn)
      (Q := fun l => ∀ r, l = .answered (.dispatch burn.stageRef burn.receiptId executionKey
        dispatchReceipt' event' now') r →
        ∃ existing, r = .ok (.dispatch (.alreadyDispatched existing)) ∧
          existing.committed = burn)
      (fun _ _ _ _ _ => trivial) (fun _ _ _ _ hs hstep =>
        coordStep_keeps (P := fun s => s.KeyCommitted _ _) Store.KeyCommitted.committed hs hstep)
      (by
        rintro s l s' - hs hl r rfl
        exact dispatch_of_keyCommitted hs hl) trivial hkey
    exact hlater _ hmem reply rfl

/-! ## The ledger from a new database -/

structure Store.CoordEmpty (s : Store) : Prop where
  staged : s.coordStaged = ∅
  consents : s.coordConsents = ∅
  dispatches : s.coordDispatches = ∅

theorem Store.CoordEmpty.ledger (h : s.CoordEmpty) : Ledger s := by
  refine ⟨?_, ?_, ?_, ?_⟩
  · simp [h.consents]
  · simp [h.consents]
  · simp [h.dispatches]
  · simp [h.consents]

/-- **A consent receipt is spent at most once.**  Over every run of the four operations from a
store nothing has been staged in, with crashes and reopens between transactions: a receipt is
in at most one dispatch row, its `uses` counts those rows and is at most one, its burn is
returned at most once, later retries get the committed identifiers, and the digest of a
dispatch row is the receipt's and the staged row's. -/
theorem consent_spent_at_most_once {s₀ s : Store} {ls : List CoordLabel} (h₀ : s₀.CoordEmpty)
    (h : Trace CoordStep s₀ ls s) :
    (∀ receiptId, s.dispatchesNaming receiptId ≤ 1) ∧
    (∀ c ∈ s.coordConsents, c.uses = s.dispatchesNaming c.receiptId ∧ c.uses ≤ 1) ∧
    (∀ receiptId, ls.countP (CoordLabel.returnsBurn receiptId) ≤ 1) ∧
    (∀ before after stageRef receiptId executionKey dispatchReceipt event now burn,
      ls = before ++ .answered (.dispatch stageRef receiptId executionKey dispatchReceipt event now)
        (.ok (.dispatch (.dispatched burn))) :: after →
      ∀ dispatchReceipt' event' now' reply,
        .answered (.dispatch stageRef receiptId executionKey dispatchReceipt' event' now')
          reply ∈ after →
        ∃ existing, reply = .ok (.dispatch (.alreadyDispatched existing)) ∧
          existing.committed = burn) ∧
    (∀ d ∈ s.coordDispatches,
      (∃ c ∈ s.coordConsents, c.receiptId = d.receiptId ∧ c.stagedDigest = d.stagedDigest) ∧
      (∃ r ∈ s.coordStaged, r.stageRef = d.stageRef ∧ r.stagedDigest = d.stagedDigest)) := by
  have hledger : Ledger s := h₀.ledger.run h
  refine ⟨dispatchesNaming_le_one s, fun c hc => ?_, returnsBurn_le_one h, ?_, fun d hd => ?_⟩
  · have huses := hledger.uses_eq c hc
    exact ⟨huses, huses ▸ dispatchesNaming_le_one s c.receiptId⟩
  · rintro before after stageRef receiptId executionKey dispatchReceipt event now burn rfl
    exact retry_answers_committed h
  · obtain ⟨c, hc, hid, href, hdig⟩ := hledger.consent_of_dispatch d hd
    refine ⟨⟨c, hc, hid, hdig⟩, ?_⟩
    rw [← href, ← hdig]
    exact hledger.staged_of_consent c hc

def coordRun (s : Store) : List CoordCall → List CoordLabel × Store
  | [] => ([], s)
  | call :: calls =>
    let answer := transact call.exec s
    let rest := coordRun answer.2 calls
    (.answered call answer.1 :: rest.1, rest.2)

theorem coordRun_trace (s : Store) (calls : List CoordCall) :
    Trace CoordStep s (coordRun s calls).1 (coordRun s calls).2 := by
  induction calls generalizing s with
  | nil => exact Trace.nil s
  | cons call calls ih => exact Trace.cons rfl (ih _)

def onceAndReplayed : List CoordCall :=
  [.stage ⟨"stage-1", "d1", "review", "ada", "p1", [1, 2], .null⟩ 10,
   .mint "stage-1" "consent-1" [] .null 20,
   .dispatch "stage-1" "consent-1" "exec-1" "dispatch-1" .null 30,
   .dispatch "stage-1" "consent-1" "exec-1" "dispatch-2" .null 40,
   .dispatch "stage-1" "consent-1" "exec-2" "dispatch-3" .null 50]

theorem consent_spent_at_most_once_onceAndReplayed :
    (coordRun {} onceAndReplayed).1.countP (CoordLabel.returnsBurn "consent-1") = 1 ∧
    (coordRun {} onceAndReplayed).1.countP (CoordLabel.returnsBurn "consent-1") ≤ 1 :=
  ⟨by decide,
    (consent_spent_at_most_once ⟨rfl, rfl, rfl⟩ (coordRun_trace {} onceAndReplayed)).2.2.1
      "consent-1"⟩

end Akson
