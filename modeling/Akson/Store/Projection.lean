/-
# The status of a staged reference

`coord_staged.status` is a projection of the ledger: what it says can be read off the receipts.  No
operation reads the receipts to write it; each writes the one value it knows.
-/
import Akson.Store.Ledger

namespace Akson

open Option Table

def Store.Receipted (s : Store) (ref : String) : Prop :=
  ∃ c ∈ s.coordConsents, c.stageRef = ref

def Store.HasUnconsumed (s : Store) (ref : String) : Prop :=
  ∃ c ∈ s.coordConsents, c.stageRef = ref ∧ c.uses < c.maxUses

def StatusOf (s : Store) (ref : String) : CoordStatus → Prop
  | .staged => ¬ s.Receipted ref
  | .consented => s.HasUnconsumed ref
  | .dispatched => s.Receipted ref ∧ ¬ s.HasUnconsumed ref

variable {s s' : Store} {ref receiptId stageRef executionKey : String} {now : Time} {event : Json}

theorem Store.HasUnconsumed.receipted (h : s.HasUnconsumed ref) : s.Receipted ref := by
  obtain ⟨c, hc, href, -⟩ := h
  exact ⟨c, hc, href⟩

theorem statusOf_unique {a b : CoordStatus} (ha : StatusOf s ref a) (hb : StatusOf s ref b) :
    a = b := by
  have hreceipt := @Store.HasUnconsumed.receipted s ref
  cases a <;> cases b <;> simp only [StatusOf] at ha hb <;> first | rfl | tauto

/-- The status of staged content is what the ledger says. -/
structure Projected (s : Store) : Prop where
  status : ∀ r ∈ s.coordStaged, StatusOf s r.stageRef r.status
  single : ∀ c ∈ s.coordConsents, ∀ c' ∈ s.coordConsents, c.stageRef = c'.stageRef →
    c.uses < c.maxUses → c'.uses < c'.maxUses → c = c'

theorem statusOf_congr
    (h : ∀ c : ConsentRow, c.stageRef = ref → (c ∈ s'.coordConsents ↔ c ∈ s.coordConsents))
    (status : CoordStatus) : StatusOf s' ref status ↔ StatusOf s ref status := by
  have hreceipt : s'.Receipted ref ↔ s.Receipted ref := by
    constructor
    · rintro ⟨c, hc, href⟩
      exact ⟨c, (h c href).1 hc, href⟩
    · rintro ⟨c, hc, href⟩
      exact ⟨c, (h c href).2 hc, href⟩
  have hunconsumed : s'.HasUnconsumed ref ↔ s.HasUnconsumed ref := by
    constructor
    · rintro ⟨c, hc, href, huses⟩
      exact ⟨c, (h c href).1 hc, href, huses⟩
    · rintro ⟨c, hc, href, huses⟩
      exact ⟨c, (h c href).2 hc, href, huses⟩
  cases status
  · exact not_congr hreceipt
  · exact hunconsumed
  · exact and_congr hreceipt (not_congr hunconsumed)

theorem mem_setStatus {status : CoordStatus} {r : StagedRow}
    (h : r ∈ (s.setStatus ref status).coordStaged) :
    (r.stageRef = ref ∧ r.status = status) ∨ (r.stageRef ≠ ref ∧ r ∈ s.coordStaged) := by
  obtain ⟨old, hold, rfl⟩ := (mem_updateWhere (f := Store.withStatus status)).1 h
  by_cases href : old.stageRef = ref
  · rw [if_pos (decide_eq_true href)]
    exact .inl ⟨href, rfl⟩
  · rw [if_neg (by simpa using href)]
    exact .inr ⟨href, hold⟩

theorem unconsumedConsent_eq_none (h : s.unconsumedConsent ref = none) : ¬ s.HasUnconsumed ref := by
  rintro ⟨c, hc, href, huses⟩
  have hnil := firstBy_eq_none (map_eq_none_iff.1 h)
  have hmem : c ∈ s.coordConsents.select (fun r => r.stageRef = ref ∧ r.uses < r.maxUses) :=
    List.mem_filter.2 ⟨hc, by simp [href, huses]⟩
  rw [hnil] at hmem
  cases hmem

/-! ## One operation -/

theorem Projected.stage {new : NewStagedContract} {out : StageOutcome} (hledger : Ledger s)
    (hs : Projected s) (h : stageContract new now s = .ok (out, s')) : Projected s' := by
  obtain ⟨_, -, -, rfl⟩ | ⟨hnew, staged, contract, hins, href, -, -, -, -, hstatus, -, rfl⟩ :=
    stageContract_cases h
  · exact hs
  refine ⟨fun r hr => ?_, hs.single⟩
  rcases (mem_insert hins).1 hr with hold | rfl
  · exact hs.status r hold
  · -- a receipt of the new reference would have a staged row behind it
    change StatusOf s contract.stageRef contract.status
    rw [hstatus]
    rintro ⟨c, hc, hcref⟩
    obtain ⟨row, hrow, hrowref, -⟩ := hledger.staged_of_consent c hc
    have hfind := map_eq_none_iff.1 hnew
    have hnone := find_eq_none_iff.1 hfind row hrow
    rw [decide_eq_false_iff_not] at hnone
    exact hnone (by rw [hrowref, hcref, href])

theorem Projected.mint {body : Bytes} {out : Option ConsentReceipt} (hs : Projected s)
    (h : mintConsentReceipt stageRef receiptId body event now s = .ok (out, s')) :
    Projected s' := by
  obtain ⟨staged, -, ⟨-, -, rfl⟩ | ⟨hlive, receipt, consents, rfl, hins, -, rfl⟩⟩ :=
    mintConsentReceipt_cases h
  · exact hs
  have hnone := unconsumedConsent_eq_none hlive
  constructor
  · intro r hr
    rcases mem_setStatus hr with ⟨href, hstatus⟩ | ⟨href, hold⟩
    · rw [href, hstatus]
      exact ⟨_, (mem_insert hins).2 (.inr rfl), rfl, Nat.zero_lt_one⟩
    · refine (statusOf_congr (fun c hcref => ?_) _).2 (hs.status r hold)
      refine (mem_insert hins).trans (or_iff_left ?_)
      rintro rfl
      exact href hcref.symm
  · intro c hc c' hc' href huses huses'
    rcases (mem_insert hins).1 hc with hc | rfl
    · rcases (mem_insert hins).1 hc' with hc' | rfl
      · exact hs.single c hc c' hc' href huses huses'
      · exact absurd ⟨c, hc, href, huses⟩ hnone
    · rcases (mem_insert hins).1 hc' with hc' | rfl
      · exact absurd ⟨c', hc', href.symm, huses'⟩ hnone
      · rfl

theorem Projected.dispatch {dispatchReceipt : String} {out : DispatchOutcome} (hledger : Ledger s)
    (hs : Projected s)
    (h : dispatchStaged stageRef receiptId executionKey dispatchReceipt event now s
      = .ok (out, s')) : Projected s' := by
  obtain ⟨_, -, rfl, -⟩ | ⟨-, -, rfl, -⟩ | ⟨-, c, hc, hcs, burn, dispatches, rfl, -, -, rfl⟩ :=
    dispatchStaged_cases h
  · exact hs
  · exact hs
  obtain ⟨hid, href, huses⟩ := spendable_iff.1 hcs
  have hmax := hledger.maxUses_eq c hc
  -- the receipts after the update: the spent one, and those that cannot be spent
  have hmem : ∀ {a : ConsentRow}, a ∈ s.coordConsents.updateWhere (spendable stageRef receiptId)
      ConsentRow.spend →
        a = c.spend ∨ (a ∈ s.coordConsents ∧ spendable stageRef receiptId a = false) := by
    intro a ha
    obtain ⟨old, hold, rfl⟩ := (mem_updateWhere (f := ConsentRow.spend)).1 ha
    by_cases hsp : spendable stageRef receiptId old = true
    · rw [if_pos hsp]
      have hsame : old.receiptId = c.receiptId := (spendable_iff.1 hsp).1.trans hid.symm
      rw [s.coordConsents.eq_of_clash hold hc hsame]
      exact .inl rfl
    · rw [if_neg hsp]
      exact .inr ⟨hold, by simpa using hsp⟩
  have hspent : ¬ c.spend.uses < c.spend.maxUses := by
    change ¬ c.uses + 1 < c.maxUses
    omega
  constructor
  · intro r hr
    rcases mem_setStatus hr with ⟨hrref, hstatus⟩ | ⟨hrref, hold⟩
    · rw [hrref, hstatus]
      refine ⟨⟨c.spend, (mem_updateWhere (f := ConsentRow.spend)).2
        ⟨c, hc, if_pos hcs⟩, href⟩, ?_⟩
      rintro ⟨a, ha, haref, hauses⟩
      rcases hmem ha with rfl | ⟨ha, hno⟩
      · exact hspent hauses
      · have hsame := hs.single a ha c hc (haref.trans href.symm) hauses huses
        rw [hsame, hcs] at hno
        cases hno
    · refine (statusOf_congr (fun a haref => ?_) _).2 (hs.status r hold)
      have hno : spendable stageRef receiptId a = false := by
        rw [← Bool.not_eq_true, spendable_iff]
        rintro ⟨-, ha, -⟩
        exact hrref (haref.symm.trans ha)
      constructor
      · intro ha
        rcases hmem ha with rfl | ⟨ha, -⟩
        · exact absurd (haref.symm.trans href) hrref
        · exact ha
      · intro ha
        exact (mem_updateWhere (f := ConsentRow.spend)).2 ⟨a, ha, by rw [hno]; rfl⟩
  · intro a ha b hb hab hause hbuse
    rcases hmem ha with rfl | ⟨ha, -⟩
    · exact absurd hause hspent
    · rcases hmem hb with rfl | ⟨hb, -⟩
      · exact absurd hbuse hspent
      · exact hs.single a ha b hb hab hause hbuse

theorem Projected.egress {state detail : String} {out : Option DispatchRecord} (hs : Projected s)
    (h : recordEgress executionKey state detail event now s = .ok (out, s')) : Projected s' := by
  obtain ⟨egress, -, -, events, audit, rfl⟩ := recordEgress_cases h
  exact ⟨hs.status, hs.single⟩

/-! ## Every run -/

theorem Projected.committed {call : CoordCall} {reply : Except StoreError CoordReply}
    (hs : Ledger s ∧ Projected s) (h : Committed s call reply s') : Ledger s' ∧ Projected s' := by
  refine ⟨hs.1.committed h, ?_⟩
  cases h with
  | failed => exact hs.2
  | stage h => exact hs.2.stage hs.1 h
  | mint h => exact hs.2.mint h
  | dispatch h => exact hs.2.dispatch hs.1 h
  | egress h => exact hs.2.egress h

theorem Projected.run {ls : List CoordLabel} (hs : Ledger s ∧ Projected s)
    (h : Trace CoordStep s ls s') : Projected s' :=
  (h.invariant (I := fun s => Ledger s ∧ Projected s)
    (fun _ _ _ hs hstep => coordStep_keeps Projected.committed hs hstep) hs).2

theorem Store.CoordEmpty.projected (h : s.CoordEmpty) : Projected s := by
  constructor
  · intro r hr
    rw [h.staged] at hr
    cases hr
  · intro c hc
    rw [h.consents] at hc
    cases hc

/-- **The status is the projection of the ledger.**  In every store that the operations reach from
one in which nothing was staged, whatever their order and their arguments: a reference is `staged`
exactly if it has no receipt, `consented` exactly if it has one that is not used up, `dispatched`
exactly if it has receipts and all are used up; and it never has two that are not used up. -/
theorem status_projects_ledger {s₀ s : Store} {ls : List CoordLabel} (h₀ : s₀.CoordEmpty)
    (h : Trace CoordStep s₀ ls s) :
    (∀ r ∈ s.coordStaged,
      (r.status = .staged ↔ ∀ c ∈ s.coordConsents, c.stageRef ≠ r.stageRef) ∧
      (r.status = .consented ↔ ∃ c ∈ s.coordConsents, c.stageRef = r.stageRef ∧ c.uses < c.maxUses) ∧
      (r.status = .dispatched ↔ (∃ c ∈ s.coordConsents, c.stageRef = r.stageRef) ∧
        ∀ c ∈ s.coordConsents, c.stageRef = r.stageRef → ¬ c.uses < c.maxUses)) ∧
    ∀ ref, s.coordConsents.count (fun c => c.stageRef = ref ∧ c.uses < c.maxUses) ≤ 1 := by
  have hs : Projected s := Projected.run ⟨h₀.ledger, h₀.projected⟩ h
  constructor
  · intro r hr
    have hstatus := hs.status r hr
    have hiff : ∀ status, r.status = status ↔ StatusOf s r.stageRef status := by
      intro status
      constructor
      · rintro rfl
        exact hstatus
      · intro hother
        exact statusOf_unique hstatus hother
    refine ⟨(hiff .staged).trans ?_, hiff .consented, (hiff .dispatched).trans ?_⟩
    · simp [StatusOf, Store.Receipted]
    · simp [StatusOf, Store.Receipted, Store.HasUnconsumed]
  · intro ref
    refine count_le_one_of_clash (fun a ha b hb hpa hpb => ?_)
    rw [decide_eq_true_eq] at hpa hpb
    rw [hs.single a ha b hb (hpa.1.trans hpb.1.symm) hpa.2 hpb.2]
    rfl

/-- Staged, consented, dispatched, and consented a second time. -/
theorem status_projects_ledger_again :
    ((coordRun {} [.stage ⟨"stage-1", "d1", "review", "ada", "p1", [1, 2], .null⟩ 10,
        .mint "stage-1" "consent-1" [] .null 20,
        .dispatch "stage-1" "consent-1" "exec-1" "dispatch-1" .null 30,
        .mint "stage-1" "consent-2" [] .null 40]).2.stagedContract "stage-1").map
      StagedContract.status = some .consented ∧
    ∀ ref, (coordRun {} [.stage ⟨"stage-1", "d1", "review", "ada", "p1", [1, 2], .null⟩ 10,
        .mint "stage-1" "consent-1" [] .null 20,
        .dispatch "stage-1" "consent-1" "exec-1" "dispatch-1" .null 30,
        .mint "stage-1" "consent-2" [] .null 40]).2.coordConsents.count
      (fun c => c.stageRef = ref ∧ c.uses < c.maxUses) ≤ 1 :=
  ⟨by decide, (status_projects_ledger ⟨rfl, rfl, rfl⟩ (coordRun_trace {} _)).2⟩

end Akson
