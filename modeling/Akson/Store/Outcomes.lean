/-
# Sent requests, outputs and outcomes

What a requester keeps: the tasks it has sent, and for each at most one outcome, written in one
transaction with the bytes of the outputs it accepts.
-/
import Akson.Store.Schema

namespace Akson

open Except List Table

inductive OutcomeWrite where
  | recorded
  /-- An outcome was there; the digest is the stored one. -/
  | alreadyRecorded (outcomeDigest : String)

/-- Remember a task that was sent. -/
def putSentRequest (req : SentRequest) (now : Time) (s : Store) : Store :=
  let row : SentRow := { req with requestedAt := now }
  match s.sentRequests.insert row with
  | some sent => ({ s with sentRequests := sent } : Store).auditAppend now "request.sent" req.contractDigest
  | none => s

theorem putSentRequest_cases (req : SentRequest) (now : Time) (s : Store) :
    putSentRequest req now s = s ∨ ∃ sent audit,
      s.sentRequests.insert ⟨req, now⟩ = some sent ∧
      putSentRequest req now s = { s with sentRequests := sent, audit := audit } := by
  cases hins : s.sentRequests.insert ⟨req, now⟩ with
  | none =>
    refine .inl ?_
    simp only [putSentRequest, hins]
  | some sent =>
    refine .inr ⟨sent, (s.auditAppend now "request.sent" req.contractDigest).audit, rfl, ?_⟩
    simp only [putSentRequest, hins]
    rfl

def Store.getSentRequest (s : Store) (contractDigest : String) : Option SentRequest :=
  (s.sentRequests.find (fun r => r.contractDigest = contractDigest)).map SentRow.toSentRequest

variable {s : Store}

theorem Store.mem_of_getSentRequest {contractDigest : String} {q : SentRequest}
    (h : s.getSentRequest contractDigest = some q) :
    ∃ row ∈ s.sentRequests, row.toSentRequest = q ∧ row.contractDigest = contractDigest := by
  obtain ⟨row, hrow, hq⟩ := Option.map_eq_some_iff.1 h
  exact ⟨row, mem_of_find hrow, hq, by simpa using pred_of_find hrow⟩

def putTaskOutput (row : TaskOutputRow) (now : Time) (s : Store) : Store :=
  ({ s with taskOutputs := s.taskOutputs.insertIgnore row } : Store).auditAppend now
    "task.output_stored" row.taskId

def Store.listTaskOutputs (s : Store) (taskId : String) : List TaskOutputRow :=
  (s.taskOutputs.select (fun r => r.taskId = taskId)).insertionSort
    (fun a b => a.ordinal ≤ b.ordinal)

variable {s' : Store} {taskId : String}

theorem Store.listTaskOutputs_of_append {rows : List TaskOutputRow}
    (hrows : s'.taskOutputs.rows = s.taskOutputs.rows ++ rows)
    (hother : ∀ r ∈ rows, r.taskId ≠ taskId) :
    s'.listTaskOutputs taskId = s.listTaskOutputs taskId := by
  have hnone : rows.filter (fun r => r.taskId = taskId) = [] :=
    filter_eq_nil_iff.2 (fun r hr => by simp [hother r hr])
  rw [listTaskOutputs, Table.select, hrows, filter_append, hnone, append_nil,
    listTaskOutputs, Table.select]

theorem Store.listTaskOutputs_of_fresh {rows : List TaskOutputRow}
    (hrows : s'.taskOutputs.rows = s.taskOutputs.rows ++ rows)
    (hsame : ∀ r ∈ rows, r.taskId = taskId) (hfresh : ∀ r ∈ s.taskOutputs, r.taskId ≠ taskId) :
    s'.listTaskOutputs taskId = rows.insertionSort (fun a b => a.ordinal ≤ b.ordinal) := by
  have hnone : s.taskOutputs.rows.filter (fun r => r.taskId = taskId) = [] :=
    filter_eq_nil_iff.2 (fun r hr => by simp [hfresh r hr])
  have hall : rows.filter (fun r => r.taskId = taskId) = rows :=
    filter_eq_self.2 (fun r hr => decide_eq_true (hsame r hr))
  rw [listTaskOutputs, Table.select, hrows, filter_append, hnone, hall, nil_append]

def insertRows {ρ : Type} [Row ρ] (t : Table ρ) : List ρ → Except StoreError (Table ρ)
  | [] => .ok t
  | r :: rs => do
    let t ← insertRow t r
    insertRows t rs

theorem rows_of_insertRows {ρ : Type} [Row ρ] {t u : Table ρ} {rows : List ρ}
    (h : insertRows t rows = .ok u) : u.rows = t.rows ++ rows := by
  induction rows generalizing t with
  | nil =>
    cases h
    rw [append_nil]
  | cons row rows ih =>
    obtain ⟨t₁, hinsert, h⟩ := bind_eq_ok.1 h
    rw [ih h, (insert_eq_some_iff.1 (insertRow_eq_ok.1 hinsert)).2, append_assoc,
      singleton_append]

theorem insertRows_of_free {ρ : Type} [Row ρ] {t : Table ρ} {rows : List ρ}
    (hfree : ∀ r ∈ rows, ∀ a ∈ t, ¬ Row.clash a r)
    (hdistinct : rows.Pairwise (fun a b => ¬ Row.clash a b)) : ∃ u, insertRows t rows = .ok u := by
  induction rows generalizing t with
  | nil => exact ⟨t, rfl⟩
  | cons row rows ih =>
    rw [forall_mem_cons] at hfree
    rw [pairwise_cons] at hdistinct
    cases hins : t.insert row with
    | none =>
      obtain ⟨a, ha, hclash⟩ := insert_eq_none_iff.1 hins
      exact absurd hclash (hfree.1 a ha)
    | some t₁ =>
      obtain ⟨u, hu⟩ : ∃ u, insertRows t₁ rows = .ok u := by
        refine ih (fun r hr a ha => ?_) hdistinct.2
        rcases (mem_insert hins).1 ha with ha | rfl
        · exact hfree.2 r hr a ha
        · exact hdistinct.1 r hr
      exact ⟨u, bind_eq_ok.2 ⟨t₁, insertRow_eq_ok.2 hins, hu⟩⟩

/-- Record an outcome and its outputs, once per contract. -/
def recordOutcomeWithOutputs (row : OutcomeRow) (outputs : List TaskOutputRow) (now : Time)
    (s : Store) : Except StoreError (OutcomeWrite × Store) :=
  match s.outcomes.find (fun r => r.contractDigest = row.contractDigest) with
  | some existing => .ok (.alreadyRecorded existing.outcomeDigest, s)
  | none => do
    let taskOutputs ← insertRows s.taskOutputs outputs
    let outcomes ← insertRow s.outcomes row
    let s := { s with taskOutputs := taskOutputs, outcomes := outcomes }
    let s := if outputs = [] then s else s.auditAppend now "task.output_stored" row.taskId
    .ok (.recorded, s.auditAppend now "outcome.signed" row.outcomeDigest)

variable {outputs : List TaskOutputRow} {write : OutcomeWrite} {now : Time}

theorem recordOutcomeWithOutputs_cases {row : OutcomeRow}
    (h : recordOutcomeWithOutputs row outputs now s = .ok (write, s')) :
    (∃ existing, s.outcomes.find (fun r => r.contractDigest = row.contractDigest) = some existing ∧
        write = .alreadyRecorded existing.outcomeDigest ∧ s' = s) ∨
      (s.outcomes.find (fun r => r.contractDigest = row.contractDigest) = none ∧ write = .recorded ∧
        ∃ taskOutputs outcomes audit, insertRows s.taskOutputs outputs = .ok taskOutputs ∧
          s.outcomes.insert row = some outcomes ∧
          s' = { s with taskOutputs := taskOutputs, outcomes := outcomes, audit := audit }) := by
  unfold recordOutcomeWithOutputs at h
  split at h
  case h_1 existing hfind =>
    cases h
    exact .inl ⟨existing, hfind, rfl, rfl⟩
  case h_2 hfind =>
    simp only [bind_eq_ok, insertRow_eq_ok] at h
    obtain ⟨taskOutputs, houtputs, outcomes, hinsert, hout⟩ := h
    cases hout
    refine .inr ⟨hfind, rfl, taskOutputs, outcomes, ?_⟩
    split
    case isTrue => exact ⟨_, houtputs, hinsert, rfl⟩
    case isFalse => exact ⟨_, houtputs, hinsert, rfl⟩

theorem recordOutcomeWithOutputs_eq {row : OutcomeRow}
    (h : recordOutcomeWithOutputs row outputs now s = .ok (write, s')) :
    ∃ taskOutputs outcomes audit,
      s' = { s with taskOutputs := taskOutputs, outcomes := outcomes, audit := audit } ∧
      ∀ o ∈ outcomes, o ∈ s.outcomes ∨ o = row := by
  obtain ⟨-, -, -, rfl⟩ | ⟨-, -, taskOutputs, outcomes, audit, -, hinsert, rfl⟩ :=
    recordOutcomeWithOutputs_cases h
  · exact ⟨s'.taskOutputs, s'.outcomes, s'.audit, rfl, fun o ho => .inl ho⟩
  · exact ⟨taskOutputs, outcomes, audit, rfl, fun o => (mem_insert hinsert).1⟩

theorem recordOutcomeWithOutputs_of_new (row : OutcomeRow) (now : Time)
    {taskOutputs : Table TaskOutputRow}
    (hnew : s.outcomes.find (fun r => r.contractDigest = row.contractDigest) = none)
    (houtputs : insertRows s.taskOutputs outputs = .ok taskOutputs) :
    ∃ outcomes audit, s.outcomes.insert row = some outcomes ∧
      recordOutcomeWithOutputs row outputs now s = .ok (.recorded,
        { s with taskOutputs := taskOutputs, outcomes := outcomes, audit := audit }) := by
  obtain ⟨outcomes, hinsert⟩ := insert_of_find_eq_none (fun _ => decide_eq_true) hnew
  obtain ⟨write, s', hrecord⟩ : ∃ write s', recordOutcomeWithOutputs row outputs now s =
      .ok (write, s') := by
    rw [recordOutcomeWithOutputs, hnew]
    exact ⟨_, _, bind_eq_ok.2 ⟨taskOutputs, houtputs, bind_eq_ok.2
      ⟨outcomes, insertRow_eq_ok.2 hinsert, rfl⟩⟩⟩
  obtain ⟨existing, hfind, -⟩ | ⟨-, rfl, taskOutputs', outcomes', audit, houtputs', hinsert', rfl⟩ :=
    recordOutcomeWithOutputs_cases hrecord
  · exact absurd (hnew.symm.trans hfind) (by simp)
  · obtain rfl := ok.inj (houtputs'.symm.trans houtputs)
    exact ⟨outcomes', audit, hinsert', hrecord⟩

end Akson
