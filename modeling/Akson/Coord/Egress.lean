/-
# Where the bytes of a dispatch got to

Carriages run outside the store lock, so their reports arrive in any order and more than once.
-/
import Mathlib.Data.Prod.Lex
import Mathlib.Data.String.Basic
import Akson.Coord.System

namespace Akson

open List Table

/-! ## The work list -/

def DispatchRecord.age (r : DispatchRecord) : Time ×ₗ String := toLex (r.dispatchedAt, r.executionKey)

def sqlLimit {α : Type} (limit : ℕ) (rows : List α) : List α :=
  if limit < 9223372036854775808 then rows.take limit else rows

/-- Dispatches not known to be sent, the oldest first. -/
def Store.unsentDispatches (s : Store) (limit : ℕ) : List DispatchRecord :=
  sqlLimit limit ((s.coordDispatches.select (fun r => r.egressState ≠ .sent)).insertionSort
    (fun a b => a.age ≤ b.age))

theorem sqlLimit_of_length_le {α : Type} {limit : ℕ} {rows : List α} (h : rows.length ≤ limit) :
    sqlLimit limit rows = rows := by
  unfold sqlLimit
  split
  · exact take_of_length_le h
  · rfl

theorem unsentDispatches_eq {s : Store} {limit : ℕ} (h : s.coordDispatches.rows.length ≤ limit) :
    (∀ r, r ∈ s.unsentDispatches limit ↔ r ∈ s.coordDispatches ∧ r.egressState ≠ .sent) ∧
    (s.unsentDispatches limit).Nodup ∧
    (s.unsentDispatches limit).Pairwise (fun a b => a.age ≤ b.age) := by
  have hlength : ((s.coordDispatches.select (fun r => r.egressState ≠ .sent)).insertionSort
      (fun a b => a.age ≤ b.age)).length ≤ limit := by
    rw [length_insertionSort]
    exact le_trans (length_filter_le _ _) h
  rw [Store.unsentDispatches, sqlLimit_of_length_le hlength]
  refine ⟨?_, ?_, ?_⟩
  · intro r
    rw [mem_insertionSort, Table.select, mem_filter, decide_eq_true_eq, mem_def]
  · have hrows : s.coordDispatches.rows.Nodup := by
      refine s.coordDispatches.distinct.imp ?_
      rintro a b hab rfl
      exact hab (.inl rfl)
    exact (perm_insertionSort _ _).nodup_iff.2 (hrows.filter _)
  · exact pairwise_insertionSort _ _

/-! ## One report -/

theorem recordEgress_moves {executionKey state detail : String} {event : Json} {now : Time}
    {s s' : Store} {out : Option DispatchRecord}
    (h : recordEgress executionKey state detail event now s = .ok (out, s')) :
    (∃ egress, EgressState.ofStr state = some egress ∧
      ∃ r ∈ s.coordDispatches, r.executionKey = executionKey ∧ r.egressState ≠ .sent ∧
        (∀ a, a ∈ s'.coordDispatches ↔ a = r.withEgress egress detail now ∨
          (a ∈ s.coordDispatches ∧ a.executionKey ≠ executionKey)) ∧
        s'.coordEvents = s.coordEvents ++
          [⟨s.coordEvents.length + 1, .egressRecorded, none, event, now⟩]) ∨
    ((∀ r ∈ s.coordDispatches, r.executionKey = executionKey → r.egressState = .sent) ∧ s' = s) := by
  have hkey : Table.OnKey (movable executionKey) := by
    intro a b ha hb
    exact .inl ((of_decide_eq_true ha).1.trans (of_decide_eq_true hb).1.symm)
  unfold recordEgress at h
  split at h
  case h_1 => cases h
  case h_2 egress hegress =>
    cases h
    by_cases hone : s.coordDispatches.count (movable executionKey) = 1
    · rw [if_pos hone]
      obtain ⟨r, hr, hmovable⟩ := exists_of_count_eq_one hone
      have hboth := of_decide_eq_true hmovable
      refine .inl ⟨egress, hegress, r, hr, hboth.1, hboth.2, ?_, rfl⟩
      intro a
      refine (mem_updateWhere (f := DispatchRecord.withEgress egress detail now)).trans ?_
      constructor
      · rintro ⟨b, hb, rfl⟩
        by_cases hbkey : b.executionKey = executionKey
        · obtain rfl := s.coordDispatches.eq_of_clash hb hr (.inl (hbkey.trans hboth.1.symm))
          exact .inl (if_pos hmovable)
        · rw [if_neg (by simp [movable, hbkey])]
          exact .inr ⟨hb, hbkey⟩
      · rintro (rfl | ⟨ha, hakey⟩)
        · exact ⟨r, hr, if_pos hmovable⟩
        · exact ⟨a, ha, if_neg (by simp [movable, hakey])⟩
    · rw [if_neg hone]
      have hnone := forall_not_of_count_ne_one hkey hone
      right
      constructor
      · intro r hr hrkey
        have hno := hnone r hr
        simpa [movable, hrkey] using hno
      · rw [updateWhere_of_forall_not hnone]

/-! ## Every run -/

/-- A row that was sent. -/
def Store.SentRow (s : Store) (r : DispatchRecord) : Prop :=
  r ∈ s.coordDispatches ∧ r.egressState = .sent

theorem sentRow_stable (r : DispatchRecord) : CoordStable (fun s => s.SentRow r) where
  same := by
    rintro s s' ⟨hr, hsent⟩ h
    exact ⟨h.dispatches ▸ hr, hsent⟩
  committed := by
    rintro s s' call reply ⟨hr, hsent⟩ h
    refine ⟨?_, hsent⟩
    cases h with
    | failed => exact hr
    | stage h =>
      obtain ⟨_, _, _, rfl⟩ | ⟨_, _, _, _, _, _, _, _, _, _, _, rfl⟩ := stageContract_cases h
      · exact hr
      · exact hr
    | mint h =>
      obtain ⟨_, _, ⟨_, _, rfl⟩ | ⟨_, _, _, _, _, _, rfl⟩⟩ := mintConsentReceipt_cases h
      · exact hr
      · exact hr
    | dispatch h =>
      obtain ⟨_, _, rfl, _⟩ | ⟨_, _, rfl, _⟩ | ⟨_, _, _, _, _, _, _, hins, _, rfl⟩ :=
        dispatchStaged_cases h
      · exact hr
      · exact hr
      · exact (mem_insert hins).2 (.inl hr)
    | egress h =>
      rcases recordEgress_moves h with ⟨_, -, old, hold, hkey, hnot, hmem, -⟩ | ⟨-, rfl⟩
      · refine (hmem r).2 (.inr ⟨hr, fun hrkey => ?_⟩)
        -- the row that moved is another one: this one is sent
        obtain rfl := s.coordDispatches.eq_of_clash hr hold (.inl (hrkey.trans hkey.symm))
        exact hnot hsent
      · exact hr

/-- **`sent` is terminal, and the feed and the work list keep up with the column.**

* Through every run of the daemon, with its carriages, retries and crashes in any order, a row that
  is `sent` stays, as it is.
* A report that writes a row writes the one of its key, which was not `sent`, and appends exactly
  one event in the same transaction; a report that writes none, or fails, changes nothing.
* The work list with a limit of at least the number of rows has exactly the rows that are not
  `sent`, each once, ordered by the time of dispatch. -/
theorem sent_is_terminal (env : Env) (localRoot : String) :
    (∀ d es d', Trace (DaemonStep env localRoot) d es d' → ∀ r ∈ d.store.coordDispatches,
      r.egressState = .sent → r ∈ d'.store.coordDispatches) ∧
    (∀ executionKey state detail event now s reply s',
      transact (recordEgress executionKey state detail event now) s = (reply, s') →
        (∃ egress, EgressState.ofStr state = some egress ∧
          ∃ r ∈ s.coordDispatches, r.executionKey = executionKey ∧ r.egressState ≠ .sent ∧
            (∀ a, a ∈ s'.coordDispatches ↔ a = r.withEgress egress detail now ∨
              (a ∈ s.coordDispatches ∧ a.executionKey ≠ executionKey)) ∧
            s'.coordEvents = s.coordEvents ++
              [⟨s.coordEvents.length + 1, .egressRecorded, none, event, now⟩]) ∨
        s' = s) ∧
    ∀ (s : Store) (limit : ℕ), s.coordDispatches.rows.length ≤ limit →
      (∀ r, r ∈ s.unsentDispatches limit ↔ r ∈ s.coordDispatches ∧ r.egressState ≠ .sent) ∧
      (s.unsentDispatches limit).Nodup ∧
      (s.unsentDispatches limit).Pairwise (fun a b => a.dispatchedAt ≤ b.dispatchedAt) := by
  refine ⟨?_, ?_, ?_⟩
  · intro d es d' hrun r hr hsent
    have hkept := hrun.invariant (I := fun d => d.store.SentRow r)
      (fun _ _ _ hs hstep => (sentRow_stable r).step hs (daemonStep_cases hstep)) ⟨hr, hsent⟩
    exact hkept.1
  · intro executionKey state detail event now s reply s' h
    unfold transact at h
    split at h
    case h_1 out s₁ hrecord =>
      cases h
      rcases recordEgress_moves hrecord with hmoved | ⟨-, hsame⟩
      · exact .inl hmoved
      · exact .inr hsame
    case h_2 => exact .inr (Prod.mk.inj h).2.symm
  · intro s limit hlimit
    obtain ⟨hmem, hnodup, hsorted⟩ := unsentDispatches_eq hlimit
    refine ⟨hmem, hnodup, hsorted.imp ?_⟩
    intro a b hab
    rcases Prod.Lex.toLex_le_toLex.1 hab with hlt | ⟨heq, -⟩
    · exact le_of_lt hlt
    · exact le_of_eq heq

end Akson
