/-
# Tasks at rest

What the store keeps of a task beside its head: the bytes of the inputs the worker may see, the
marks of the tasks the reactor has handled, and the standing approvals it decides by.
-/
import Akson.Store.Heads

namespace Akson

open Except List Table

/-! ## Inputs -/

def putTaskInput (row : TaskInputRow) (now : Time) (s : Store) : Store :=
  ({ s with taskInputs := s.taskInputs.insertIgnore row } : Store).auditAppend now
    "task.input_stored" row.taskId

def Store.listTaskInputs (s : Store) (taskId : String) : List TaskInputRow :=
  (s.taskInputs.select (fun r => r.taskId = taskId)).insertionSort (fun a b => a.ordinal ≤ b.ordinal)

theorem Store.mem_listTaskInputs {s : Store} {taskId : String} {row : TaskInputRow} :
    row ∈ s.listTaskInputs taskId ↔ row ∈ s.taskInputs ∧ row.taskId = taskId := by
  rw [Store.listTaskInputs, mem_insertionSort, Table.select, mem_filter, mem_def,
    decide_eq_true_iff]

theorem Store.listTaskInputs_nodup (s : Store) (taskId : String) :
    ((s.listTaskInputs taskId).map TaskInputRow.inputId).Nodup := by
  have hperm := ((s.taskInputs.select (fun r => r.taskId = taskId)).perm_insertionSort
    (fun a b => a.ordinal ≤ b.ordinal)).map TaskInputRow.inputId
  refine hperm.nodup_iff.2 ?_
  rw [nodup_iff_pairwise_ne, pairwise_map]
  refine (s.taskInputs.distinct.filter _).imp_of_mem (fun {a b} ha hb hab hid => hab ⟨?_, hid⟩)
  exact (of_decide_eq_true (mem_filter.1 ha).2).trans
    (of_decide_eq_true (mem_filter.1 hb).2).symm

/-! ## Reactions -/

structure TaskHead where
  taskId : String
  contractId : String
  revision : ℕ
  contractDigest : String

def HeadRow.taskHead (r : HeadRow) : TaskHead := ⟨r.taskId, r.contractId, r.revision, r.digest⟩

def Store.reacted (s : Store) (taskId : String) : Bool :=
  (s.taskReactions.find (fun r => r.taskId = taskId)).isSome

def Store.tasksAwaitingReaction (s : Store) : List TaskHead :=
  ((s.contractHeads.select (fun r => r.status = .opened ∧ s.reacted r.taskId = false)).insertionSort
    (fun a b => a.taskId ≤ b.taskId)).map HeadRow.taskHead

def markTaskReacted (taskId : String) (now : Time) (s : Store) : Store :=
  { s with taskReactions := s.taskReactions.insertIgnore ⟨taskId, now⟩ }

theorem Store.mem_tasksAwaitingReaction {s : Store} {head : TaskHead} :
    head ∈ s.tasksAwaitingReaction ↔
      ∃ row, s.headRow head.taskId = some row ∧ row.taskHead = head ∧ row.status = .opened ∧
        s.reacted head.taskId = false := by
  simp only [Store.tasksAwaitingReaction, mem_map, mem_insertionSort, Table.select,
    mem_filter, decide_eq_true_eq, Store.headRow_eq_some_iff, mem_def]
  constructor
  · rintro ⟨row, ⟨hrow, hopen, hreacted⟩, rfl⟩
    exact ⟨row, ⟨hrow, rfl⟩, rfl, hopen, hreacted⟩
  · rintro ⟨row, ⟨hrow, htask⟩, hhead, hopen, hreacted⟩
    exact ⟨row, ⟨hrow, hopen, htask ▸ hreacted⟩, hhead⟩

theorem Store.reacted_markTaskReacted (s : Store) (taskId : String) (now : Time) (u : String) :
    (markTaskReacted taskId now s).reacted u = (s.reacted u || u = taskId) := by
  rw [Bool.eq_iff_iff]
  simp only [Store.reacted, markTaskReacted, Option.isSome_iff_ne_none, ne_eq,
    find_eq_none_iff, decide_eq_false_iff_not, not_forall, not_not, Bool.or_eq_true,
    decide_eq_true_eq, mem_insertIgnore]
  constructor
  · rintro ⟨row, hrow | ⟨rfl, -⟩, hid⟩
    · exact .inl ⟨row, hrow, hid⟩
    · exact .inr hid.symm
  · rintro (⟨row, hrow, hid⟩ | rfl)
    · exact ⟨row, .inl hrow, hid⟩
    · by_cases hfresh : ∀ b ∈ s.taskReactions, ¬ Row.clash b (⟨u, now⟩ : ReactionRow)
      · exact ⟨⟨u, now⟩, .inr ⟨rfl, hfresh⟩, rfl⟩
      · push Not at hfresh
        obtain ⟨b, hb, hclash⟩ := hfresh
        exact ⟨b, .inl hb, hclash⟩

/-! ## Standing approvals -/

/-- The task types and the size that are approved unasked. -/
structure AutoApprovePolicy where
  taskTypes : List String
  maxResponseBytes : ℕ
deriving DecidableEq

def AutoApproveRow.withPolicy (new r : AutoApproveRow) : AutoApproveRow :=
  { r with agentId := new.agentId, taskTypes := new.taskTypes,
           maxResponseBytes := new.maxResponseBytes, updatedAt := new.updatedAt }

def maxSigned64 : ℕ := 9223372036854775807

def toSigned64 (n : ℕ) : ℤ := if n ≤ maxSigned64 then n else (n : ℤ) - 18446744073709551616

def AutoApprovePolicy.row (policy : AutoApprovePolicy) (agentId root : String) (now : Time) :
    AutoApproveRow :=
  ⟨root, agentId, "\n".intercalate policy.taskTypes, toSigned64 policy.maxResponseBytes, now⟩

def AutoApproveRow.policy (r : AutoApproveRow) : AutoApprovePolicy :=
  ⟨(Text.lines r.taskTypes).filter (fun s => s ≠ ""), r.maxResponseBytes.toNat⟩

def putAutoApprove (agentId root : String) (policy : AutoApprovePolicy) (now : Time) (s : Store) :
    Except StoreError (Unit × Store) :=
  let row := policy.row agentId root now
  match s.autoApprove.upsert (fun r => r.rootThumbprint = root) (AutoApproveRow.withPolicy row) row with
  | none => .error .db
  | some rows => .ok ((), { s with autoApprove := rows })

theorem putAutoApprove_eq {agentId root : String} {policy : AutoApprovePolicy} {now : Time}
    {s s' : Store} {u : Unit} (h : putAutoApprove agentId root policy now s = .ok (u, s')) :
    ∃ rows, s' = { s with autoApprove := rows } := by
  unfold putAutoApprove at h
  dsimp only at h
  split at h
  case h_1 => cases h
  case h_2 rows _ => exact ⟨rows, (snd_eq_of_ok h).symm⟩

def Store.autoApproveForRoot (s : Store) (root : String) : Option AutoApprovePolicy :=
  (s.autoApprove.find (fun r => r.rootThumbprint = root)).map AutoApproveRow.policy

theorem autoApproveForRoot_putAutoApprove {agentId root : String} {policy : AutoApprovePolicy}
    {now : Time} {s s' : Store} {u : Unit}
    (h : putAutoApprove agentId root policy now s = .ok (u, s')) :
    s'.autoApproveForRoot root = some (policy.row agentId root now).policy := by
  unfold putAutoApprove at h
  dsimp only at h
  split at h
  case h_1 => cases h
  case h_2 rows hrows =>
    rw [← snd_eq_of_ok h, Store.autoApproveForRoot,
      find_upsert_self hrows (fun _ => rfl) (decide_eq_true rfl)]
    cases s.autoApprove.find (fun r => r.rootThumbprint = root) <;> rfl

def deleteAutoApprove (root : String) (s : Store) : Store :=
  { s with autoApprove := s.autoApprove.deleteWhere (fun r => r.rootThumbprint = root) }

end Akson
