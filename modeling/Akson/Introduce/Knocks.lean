/-
# The log of refused introductions

Every refused introduction knocks, under the root it claims, its source and the class of the
refusal.
-/
import Akson.Introduce.Handshake

namespace Akson

open List

/-- A refused introduction. -/
structure Knock where
  claimedRoot : String
  source : String
  refusalClass : String
  now : Time

def Knock.kind (k : Knock) : String × String × String :=
  ((saneClaim k.claimedRoot).1, k.source, k.refusalClass)

def KnockRow.kind (r : KnockRow) : String × String × String :=
  (r.claimedRoot, r.source, r.refusalClass)

def IntroStore.knock (s : IntroStore) (k : Knock) : IntroStore :=
  s.recordKnock (saneClaim k.claimedRoot).1 k.source k.refusalClass k.now

def knockLog (store : Store) (ks : List Knock) : Table KnockRow :=
  (ks.foldl IntroStore.knock ⟨store, ∅⟩).knocks

section

variable {s : IntroStore} {k : Knock} {store : Store} {ks : List Knock} {r : KnockRow}

theorem knock_cases (s : IntroStore) (k : Knock) :
    ((s.knock k).knocks.rows =
        s.knocks.rows.map (fun r => if r.kind = k.kind then r.again k.now else r)) ∨
    (∀ r ∈ s.knocks, r.kind ≠ k.kind) ∧
      ((s.knock k).knocks = s.knocks ∨ s.knocks.rows.length < knockLogCap ∧ ∃ r : KnockRow,
        (s.knock k).knocks.rows = s.knocks.rows ++ [r] ∧ r.kind = k.kind ∧ r.count = 1) := by
  have hkind : ∀ r : KnockRow, (r.claimedRoot = (saneClaim k.claimedRoot).1 ∧ r.source = k.source ∧
      r.refusalClass = k.refusalClass) ↔ r.kind = k.kind := by
    intro r
    simp [KnockRow.kind, Knock.kind]
  unfold IntroStore.knock IntroStore.recordKnock
  simp only [hkind]
  have hkey : Table.OnKey (fun r : KnockRow => decide (r.kind = k.kind)) := by
    intro a b ha hb
    have hab := (of_decide_eq_true ha).trans (of_decide_eq_true hb).symm
    simpa [KnockRow.kind, Row.clash] using hab
  split
  case isTrue hone =>
    refine .inl ?_
    simp [Table.updateWhere]
  case isFalse hone =>
    have hnone := Table.forall_not_of_count_ne_one hkey hone
    refine .inr ⟨fun r hr => of_decide_eq_false (hnone r hr), ?_⟩
    split
    case isTrue hfull => exact .inl rfl
    case isFalse hroom =>
      obtain ⟨log, hinsert⟩ : ∃ log, s.knocks.insert (⟨(saneClaim k.claimedRoot).1, k.source,
          k.refusalClass, k.now, k.now, 1⟩ : KnockRow) = some log := by
        rw [← Option.isSome_iff_exists, Option.isSome_iff_ne_none, Ne, Table.insert_eq_none_iff]
        rintro ⟨a, ha, hclash⟩
        exact of_decide_eq_false (hnone a ha) ((hkind a).1 hclash)
      rw [hinsert]
      exact .inr ⟨Nat.lt_of_not_le hroom, _, (Table.insert_eq_some_iff.1 hinsert).2, rfl, rfl⟩

theorem knockLog_concat :
    knockLog store (ks ++ [k]) = ((ks.foldl IntroStore.knock ⟨store, ∅⟩).knock k).knocks := by
  rw [knockLog, foldl_append, foldl_cons, foldl_nil]

theorem length_knockLog_le (store : Store) (ks : List Knock) :
    (knockLog store ks).rows.length ≤ knockLogCap := by
  induction ks using reverseRecOn with
  | nil => exact Nat.zero_le _
  | append_singleton ks k ih =>
    rw [knockLog_concat]
    obtain hagain | ⟨-, hsame | ⟨hroom, r, hrows, -⟩⟩ :=
      knock_cases (ks.foldl IntroStore.knock ⟨store, ∅⟩) k
    · rwa [hagain, length_map]
    · rwa [hsame]
    · rw [hrows, length_append]
      exact hroom

def CountedSince (store : Store) (ks : List Knock) (r : KnockRow) : Prop :=
  ∃ before k after, ks = before ++ k :: after ∧ k.kind = r.kind ∧
    (∀ r' ∈ knockLog store before, r'.kind ≠ r.kind) ∧
    (∃ r' ∈ knockLog store (before ++ [k]), r'.kind = r.kind) ∧
    r.count = (k :: after).countP (fun k' => k'.kind = r.kind)

theorem CountedSince.concat {r' : KnockRow} (h : CountedSince store ks r) (hkind : r'.kind = r.kind)
    (hcount : r'.count = r.count + if k.kind = r.kind then 1 else 0) :
    CountedSince store (ks ++ [k]) r' := by
  obtain ⟨before, k₀, after, rfl, hk₀, hbefore, hmade, hsince⟩ := h
  refine ⟨before, k₀, after ++ [k], by simp, ?_⟩
  rw [hkind, hcount, hsince, ← cons_append, countP_append, countP_singleton]
  simp only [decide_eq_true_eq]
  exact ⟨hk₀, hbefore, hmade, trivial⟩

theorem countedSince_of_mem (hr : r ∈ knockLog store ks) : CountedSince store ks r := by
  induction ks using reverseRecOn generalizing r with
  | nil => cases hr
  | append_singleton ks k ih =>
    have hmem := hr
    rw [knockLog_concat] at hr
    obtain hagain | ⟨hnone, hsame | ⟨-, new, hrows, hkind, hcount⟩⟩ :=
      knock_cases (ks.foldl IntroStore.knock ⟨store, ∅⟩) k
    · -- the kind is logged, and the knock is counted
      rw [Table.mem_def, hagain] at hr
      obtain ⟨old, hold, rfl⟩ := mem_map.1 hr
      split
      case isTrue heq => exact (ih hold).concat rfl (by rw [if_pos heq.symm]; rfl)
      case isFalse hne => exact (ih hold).concat rfl (by rw [if_neg (Ne.symm hne)]; rfl)
    · rw [hsame] at hr
      exact (ih hr).concat rfl (by rw [if_neg (Ne.symm (hnone r hr))]; rfl)
    · rw [Table.mem_def, hrows, mem_append, mem_singleton] at hr
      obtain hold | rfl := hr
      · exact (ih hold).concat rfl (by rw [if_neg (Ne.symm (hnone r hold))]; rfl)
      · refine ⟨ks, k, [], rfl, hkind.symm, fun r' hr' => hkind ▸ hnone r' hr', ⟨r, hmem, rfl⟩, ?_⟩
        simp [hcount, hkind]

end

/-- **The log of refused introductions.**  However often, from wherever and under whatever claims
introductions are refused: the log stays within its cap, its kinds are distinct, and each row counts
every knock of its kind since the one that made the row. -/
theorem knock_log_counts (store : Store) (ks : List Knock) :
    (knockLog store ks).rows.length ≤ knockLogCap ∧
    (knockLog store ks).rows.Pairwise (fun a b => a.kind ≠ b.kind) ∧
    ∀ r ∈ knockLog store ks, CountedSince store ks r := by
  refine ⟨length_knockLog_le store ks, ?_, fun r hr => countedSince_of_mem hr⟩
  refine (knockLog store ks).distinct.imp fun hclash hkind => hclash ?_
  simpa [KnockRow.kind, Row.clash] using hkind

end Akson
