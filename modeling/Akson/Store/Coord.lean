/-
# The coordination tables

The store's side of an outward disclosure: bytes are staged (`stageContract`), the operator's
one-shot receipt for exactly those bytes is minted (`mintConsentReceipt`), the receipt is spent
together with the record of what spent it (`dispatchStaged`), and the record is annotated with where
the bytes got to (`recordEgress`).
-/
import Akson.Store.Schema

namespace Akson

open Except Option Table

variable {s s' : Store} {now : Time} {stageRef receiptId executionKey : String} {event : Json}
  {c : ConsentRow}

/-! ## Writing events -/

namespace Store

@[simps]
def appendEventIn (s : Store) (kind : CoordEventKind) (stageRef : Option String) (detail : Json)
    (now : Time) : Store :=
  { s with
    coordEvents := s.coordEvents ++ [⟨s.coordEvents.length + 1, kind, stageRef, detail, now⟩] }

/-! ## Lookups -/

def stagedContract (s : Store) (stageRef : String) : Option StagedContract :=
  (s.coordStaged.find (fun r => r.stageRef = stageRef)).map StagedRow.toStagedContract

def stagedPayload (s : Store) (stageRef : String) : Option Bytes :=
  (s.coordStaged.find (fun r => r.stageRef = stageRef)).map StagedRow.payload

def unconsumedConsent (s : Store) (stageRef : String) : Option ConsentReceipt :=
  (Table.firstBy (fun r => r.mintedAt)
    (s.coordConsents.select (fun r => r.stageRef = stageRef ∧ r.uses < r.maxUses))).map
    ConsentRow.toConsentReceipt

def dispatchRowBy (s : Store) (column : DispatchRecord → String) (value : String) :
    Option DispatchRecord :=
  s.coordDispatches.find (fun r => column r = value)

def coordDispatch (s : Store) (taskId : String) : Option DispatchRecord :=
  match s.dispatchRowBy DispatchRecord.dispatchReceipt taskId with
  | some row => some row
  | none => s.dispatchRowBy DispatchRecord.stageRef taskId

def withStatus (status : CoordStatus) (r : StagedRow) : StagedRow :=
  { r with status := status }

@[simps]
def setStatus (s : Store) (stageRef : String) (status : CoordStatus) : Store :=
  { s with
    coordStaged := s.coordStaged.updateWhere (fun r => r.stageRef = stageRef)
      (withStatus status) }

end Store

/-! ## Staging -/

/-- Content to be staged. -/
structure NewStagedContract where
  stageRef : String
  stagedDigest : String
  taskType : String
  performer : String
  payloadSha256 : String
  payload : Bytes
  event : Json

inductive StageOutcome where
  | staged (contract : StagedContract)
  | alreadyStaged (existing : StagedContract)
deriving DecidableEq

def stageContract (new : NewStagedContract) (now : Time) (s : Store) :
    Except StoreError (StageOutcome × Store) :=
  match s.stagedContract new.stageRef with
  | some existing => .ok (.alreadyStaged existing, s)
  | none => do
    let contract : StagedContract :=
      { stageRef := new.stageRef, stagedDigest := new.stagedDigest, taskType := new.taskType,
        performer := new.performer, payloadSha256 := new.payloadSha256,
        byteLength := new.payload.length, status := .staged, stagedAt := now }
    let staged ← insertRow s.coordStaged { contract with payload := new.payload }
    let s := { s with coordStaged := staged }
    let s := s.appendEventIn .staged (some new.stageRef) new.event now
    .ok (.staged contract, s.auditAppend now "coord.staged" new.stageRef)

theorem stageContract_cases {new : NewStagedContract}
    {out : StageOutcome} (h : stageContract new now s = .ok (out, s')) :
    (∃ existing, s.stagedContract new.stageRef = some existing ∧
      out = .alreadyStaged existing ∧ s' = s) ∨
    (s.stagedContract new.stageRef = none ∧ ∃ staged contract,
      s.coordStaged.insert { contract with payload := new.payload } = some staged ∧
      contract.stageRef = new.stageRef ∧ contract.stagedDigest = new.stagedDigest ∧
      contract.taskType = new.taskType ∧ contract.performer = new.performer ∧
      contract.payloadSha256 = new.payloadSha256 ∧ contract.status = .staged ∧
      out = .staged contract ∧
      s' = (({ s with coordStaged := staged } : Store).appendEventIn .staged
        (some new.stageRef) new.event now).auditAppend now "coord.staged" new.stageRef) := by
  unfold stageContract at h
  split at h
  case h_1 existing hfind =>
    obtain ⟨rfl, rfl⟩ : StageOutcome.alreadyStaged existing = out ∧ s = s' := by simpa using h
    exact .inl ⟨existing, hfind, rfl, rfl⟩
  case h_2 hfind =>
    obtain ⟨staged, hins, hout⟩ := bind_eq_ok.1 h
    rw [insertRow_eq_ok] at hins
    simp only [ok.injEq, Prod.mk.injEq] at hout
    exact .inr ⟨hfind, staged, _, hins, rfl, rfl, rfl, rfl, rfl, rfl, hout.1.symm, hout.2.symm⟩

/-! ## Consent -/

def mintConsentReceipt (stageRef receiptId : String) (receiptBody : Bytes) (event : Json)
    (now : Time) (s : Store) : Except StoreError (Option ConsentReceipt × Store) :=
  match s.stagedContract stageRef with
  | none => .error (.corrupt ("consent for an unstaged reference " ++ stageRef))
  | some staged =>
    if (s.unconsumedConsent stageRef).isSome then .ok (none, s)
    else do
      let receipt : ConsentReceipt :=
        { receiptId := receiptId, stageRef := stageRef, stagedDigest := staged.stagedDigest,
          maxUses := 1, uses := 0, mintedAt := now }
      let consents ← insertRow s.coordConsents { receipt with receipt := receiptBody }
      let s := { s with coordConsents := consents }
      let s := s.setStatus stageRef .consented
      let s := s.appendEventIn .consentRecorded (some stageRef) event now
      .ok (some receipt, s.auditAppend now "coord.consent_minted" stageRef)

theorem mintConsentReceipt_cases {body : Bytes} {out : Option ConsentReceipt}
    (h : mintConsentReceipt stageRef receiptId body event now s = .ok (out, s')) :
    ∃ staged, s.stagedContract stageRef = some staged ∧
      (((s.unconsumedConsent stageRef).isSome ∧ out = none ∧ s' = s) ∨
      (s.unconsumedConsent stageRef = none ∧ ∃ receipt consents,
        receipt = ⟨receiptId, stageRef, staged.stagedDigest, 1, 0, now⟩ ∧
        s.coordConsents.insert { receipt with receipt := body } = some consents ∧
        out = some receipt ∧
        s' = ((({ s with coordConsents := consents } : Store).setStatus stageRef
          .consented).appendEventIn .consentRecorded (some stageRef) event now).auditAppend now
          "coord.consent_minted" stageRef)) := by
  unfold mintConsentReceipt at h
  split at h
  case h_1 => cases h
  case h_2 staged hstaged =>
    refine ⟨staged, hstaged, ?_⟩
    split at h
    case isTrue hlive =>
      obtain ⟨rfl, rfl⟩ : none = out ∧ s = s' := by simpa using h
      exact .inl ⟨hlive, rfl, rfl⟩
    case isFalse hlive =>
      obtain ⟨consents, hins, hout⟩ := bind_eq_ok.1 h
      rw [insertRow_eq_ok] at hins
      simp only [ok.injEq, Prod.mk.injEq] at hout
      exact .inr ⟨by simpa using hlive, _, consents, rfl, hins, hout.1.symm, hout.2.symm⟩

/-! ## Dispatch -/

/-- A consent that was spent, and on what. -/
structure ConsentBurn where
  receiptId : String
  stageRef : String
  stagedDigest : String
  executionKey : String
  dispatchReceipt : String
  dispatchedAt : Time

def ConsentBurn.intoRecord (burn : ConsentBurn) : DispatchRecord where
  executionKey := burn.executionKey
  stageRef := burn.stageRef
  stagedDigest := burn.stagedDigest
  receiptId := burn.receiptId
  dispatchReceipt := burn.dispatchReceipt
  dispatchedAt := burn.dispatchedAt
  egressState := .pending
  egressDetail := ""
  egressAt := none

inductive DispatchOutcome where
  | dispatched (burn : ConsentBurn)
  | alreadyDispatched (existing : DispatchRecord)
  | consentSpent
  | consentUnknown
  | executionKeyConflict (existing : DispatchRecord)

def spendable (stageRef receiptId : String) (c : ConsentRow) : Bool :=
  c.receiptId = receiptId ∧ c.stageRef = stageRef ∧ c.uses < c.maxUses

def ConsentRow.spend (c : ConsentRow) : ConsentRow :=
  { c with uses := c.uses + 1 }

def dispatchStaged (stageRef receiptId executionKey dispatchReceipt : String) (event : Json)
    (now : Time) (s : Store) : Except StoreError (DispatchOutcome × Store) :=
  match s.dispatchRowBy DispatchRecord.executionKey executionKey with
  | some existing =>
    .ok (if existing.stageRef = stageRef ∧ existing.receiptId = receiptId then
      .alreadyDispatched existing else .executionKeyConflict existing, s)
  | none =>
    let spent := s.coordConsents.count (spendable stageRef receiptId)
    let s := { s with
      coordConsents := s.coordConsents.updateWhere (spendable stageRef receiptId)
        ConsentRow.spend }
    if spent ≠ 1 then
      .ok (if (s.coordConsents.find
          (fun c => c.receiptId = receiptId ∧ c.stageRef = stageRef)).isSome then
        .consentSpent else .consentUnknown, s)
    else
      match s.coordConsents.find (fun c => c.receiptId = receiptId) with
      | none => .error .db
      | some c => do
        let burn : ConsentBurn :=
          { receiptId := receiptId, stageRef := stageRef, stagedDigest := c.stagedDigest,
            executionKey := executionKey, dispatchReceipt := dispatchReceipt,
            dispatchedAt := now }
        let dispatches ← insertRow s.coordDispatches burn.intoRecord
        let s := { s with coordDispatches := dispatches }
        let s := s.setStatus stageRef .dispatched
        let s := s.appendEventIn .dispatched (some stageRef) event now
        .ok (.dispatched burn, s.auditAppend now "coord.dispatched" stageRef)

theorem spendable_iff :
    spendable stageRef receiptId c = true ↔
      c.receiptId = receiptId ∧ c.stageRef = stageRef ∧ c.uses < c.maxUses := by
  simp [spendable]

theorem spendable_onKey (stageRef receiptId : String) :
    Table.OnKey (spendable stageRef receiptId) := fun a b ha hb => by
  rw [spendable_iff] at ha hb
  exact ha.1.trans hb.1.symm

theorem find_of_spendable
    (hc : c ∈ s.coordConsents) (hcs : spendable stageRef receiptId c = true) :
    s.coordConsents.find (fun r => decide (r.receiptId = receiptId)) = some c :=
  (find_eq_some_iff (onKey (·.receiptId) receiptId)).2
    ⟨hc, by simpa using (spendable_iff.1 hcs).1⟩

def afterSpend (burn : ConsentBurn) (dispatches : Table DispatchRecord) (event : Json)
    (s : Store) : Store :=
  ((({ s with
    coordConsents := s.coordConsents.updateWhere (spendable burn.stageRef burn.receiptId)
      ConsentRow.spend
    coordDispatches := dispatches } : Store).setStatus burn.stageRef .dispatched).appendEventIn
    .dispatched (some burn.stageRef) event burn.dispatchedAt).auditAppend burn.dispatchedAt
    "coord.dispatched" burn.stageRef

theorem dispatchStaged_cases {dispatchReceipt : String} {out : DispatchOutcome}
    (h : dispatchStaged stageRef receiptId executionKey dispatchReceipt event now s
      = .ok (out, s')) :
    (∃ existing, s.dispatchRowBy DispatchRecord.executionKey executionKey = some existing ∧
      s' = s ∧ out = if existing.stageRef = stageRef ∧ existing.receiptId = receiptId then
        .alreadyDispatched existing else .executionKeyConflict existing) ∨
    (s.dispatchRowBy DispatchRecord.executionKey executionKey = none ∧
      (∀ c ∈ s.coordConsents, spendable stageRef receiptId c = false) ∧
      s' = s ∧ (out = .consentSpent ∨ out = .consentUnknown)) ∨
    (s.dispatchRowBy DispatchRecord.executionKey executionKey = none ∧
      ∃ c ∈ s.coordConsents, spendable stageRef receiptId c = true ∧ ∃ burn dispatches,
        burn = ⟨receiptId, stageRef, c.stagedDigest, executionKey, dispatchReceipt, now⟩ ∧
        s.coordDispatches.insert burn.intoRecord = some dispatches ∧
        out = .dispatched burn ∧ s' = afterSpend burn dispatches event s) := by
  unfold dispatchStaged at h
  split at h
  case h_1 existing hfind =>
    simp only [ok.injEq, Prod.mk.injEq] at h
    exact .inl ⟨existing, hfind, h.2.symm, h.1.symm⟩
  case h_2 hfind =>
    right
    simp only [ne_eq, ite_not] at h
    split at h
    case isTrue hone =>
      obtain ⟨c, hc, hcs⟩ := exists_of_count_eq_one hone
      rw [find_updateWhere (f := ConsentRow.spend) (fun _ => rfl), find_of_spendable hc hcs,
        map_some, if_pos hcs] at h
      obtain ⟨dispatches, hins, hout⟩ := bind_eq_ok.1 h
      rw [insertRow_eq_ok] at hins
      simp only [ok.injEq, Prod.mk.injEq] at hout
      exact .inr ⟨hfind, c, hc, hcs, _, dispatches, rfl, hins, hout.1.symm, hout.2.symm⟩
    case isFalse hone =>
      have hnone := forall_not_of_count_ne_one (spendable_onKey stageRef receiptId) hone
      rw [updateWhere_of_forall_not hnone] at h
      simp only [ok.injEq, Prod.mk.injEq] at h
      refine .inl ⟨hfind, hnone, h.2.symm, ?_⟩
      rw [← h.1]
      split
      · exact .inl rfl
      · exact .inr rfl

theorem dispatchStaged_of_spendable {dispatchReceipt : String} {burn : ConsentBurn}
    {dispatches : Table DispatchRecord}
    (hkey : s.dispatchRowBy DispatchRecord.executionKey executionKey = none)
    (hc : c ∈ s.coordConsents) (hcs : spendable stageRef receiptId c = true)
    (hburn : burn = ⟨receiptId, stageRef, c.stagedDigest, executionKey, dispatchReceipt, now⟩)
    (hins : s.coordDispatches.insert burn.intoRecord = some dispatches) :
    dispatchStaged stageRef receiptId executionKey dispatchReceipt event now s =
      .ok (.dispatched burn, afterSpend burn dispatches event s) := by
  subst hburn
  have hone : s.coordConsents.count (spendable stageRef receiptId) = 1 := by
    have hle := s.coordConsents.count_le_one (spendable_onKey stageRef receiptId)
    have hpos : 0 < s.coordConsents.count (spendable stageRef receiptId) :=
      List.countP_pos_iff.2 ⟨c, hc, hcs⟩
    omega
  simp only [dispatchStaged, hkey, hone, ne_eq, not_true_eq_false, if_false]
  rw [find_updateWhere (f := ConsentRow.spend) (fun _ => rfl), find_of_spendable hc hcs,
    map_some, if_pos hcs]
  refine bind_eq_ok.2 ⟨dispatches, ?_, rfl⟩
  rw [insertRow_eq_ok]
  exact hins

/-! ## Egress -/

def movable (executionKey : String) (r : DispatchRecord) : Bool :=
  r.executionKey = executionKey ∧ r.egressState ≠ .sent

def DispatchRecord.withEgress (egress : EgressState) (detail : String) (now : Time)
    (r : DispatchRecord) : DispatchRecord :=
  { r with egressState := egress, egressDetail := detail, egressAt := some now }

def recordEgress (executionKey state detail : String) (event : Json) (now : Time) (s : Store) :
    Except StoreError (Option DispatchRecord × Store) :=
  match EgressState.ofStr state with
  | none => .error (.corrupt ("unknown egress state " ++ state))
  | some egress =>
    let changed := s.coordDispatches.count (movable executionKey)
    let s := { s with
      coordDispatches := s.coordDispatches.updateWhere (movable executionKey)
        (DispatchRecord.withEgress egress detail now) }
    let s := if changed = 1 then
      (s.appendEventIn .egressRecorded none event now).auditAppend now "coord.egress"
        (executionKey ++ ":" ++ state) else s
    .ok (s.dispatchRowBy DispatchRecord.executionKey executionKey, s)

theorem recordEgress_cases {state detail : String} {out : Option DispatchRecord}
    (h : recordEgress executionKey state detail event now s = .ok (out, s')) :
    ∃ egress, EgressState.ofStr state = some egress ∧
      out = s'.dispatchRowBy DispatchRecord.executionKey executionKey ∧
      ∃ events audit, s' = { s with
        coordDispatches := s.coordDispatches.updateWhere (movable executionKey)
          (DispatchRecord.withEgress egress detail now)
        coordEvents := events
        audit := audit } := by
  unfold recordEgress at h
  split at h
  case h_1 => cases h
  case h_2 egress hegress =>
    simp only [ok.injEq, Prod.mk.injEq] at h
    obtain ⟨rfl, rfl⟩ := h
    refine ⟨egress, hegress, rfl, ?_⟩
    split
    · exact ⟨_, _, rfl⟩
    · exact ⟨_, _, rfl⟩

theorem recordEgress_eq_ok {state : String} {egress : EgressState}
    (h : EgressState.ofStr state = some egress) (executionKey detail : String) (event : Json)
    (now : Time) (s : Store) :
    ∃ out s', recordEgress executionKey state detail event now s = .ok (out, s') := by
  simp only [recordEgress, h]
  exact ⟨_, _, rfl⟩

end Akson
