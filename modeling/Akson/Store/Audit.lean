/-
# The audit log

An append-only, hash-linked log.  Each record carries the hash of its predecessor, and its own hash
covers that one, its number, its time and its texts; the log starts from 32 zero bytes.
-/
import Akson.Store.Schema

namespace Akson

open Option List

/-- The integers of an SQL column. -/
@[ext]
structure I64 where
  val : ℤ
  lower : -9223372036854775808 ≤ val
  upper : val < 9223372036854775808

def I64.toBeBytes (x : I64) : Bytes := beBytes 8 (x.val % 18446744073709551616).toNat

theorem I64.toBeBytes_inj {x y : I64} (h : x.toBeBytes = y.toBeBytes) : x = y := by
  have hx := x.lower
  have hx' := x.upper
  have hy := y.lower
  have hy' := y.upper
  have hnat := beBytes_inj (by omega) (by omega) h
  exact I64.ext (by omega)

/-- Texts whose length fits its prefix. -/
@[ext]
structure Text where
  text : String
  fits : (utf8 text).length < 18446744073709551616

def Text.bytes (t : Text) : Bytes := utf8 t.text

theorem Text.bytes_inj {t u : Text} (h : t.bytes = u.bytes) : t = u :=
  Text.ext (String.toList_injective (Json.utf8_inj h))

/-! ## Records -/

def recordInput (prev : Bytes) (seq ts : I64) (event detail : Text) : Bytes :=
  prev ++ (seq.toBeBytes ++ (ts.toBeBytes ++ (beBytes 8 event.bytes.length ++ (event.bytes ++
    (beBytes 8 detail.bytes.length ++ detail.bytes)))))

theorem recordInput_inj {prev prev' : Bytes} {seq seq' ts ts' : I64} {event event' detail detail' : Text}
    (hlen : prev.length = prev'.length)
    (h : recordInput prev seq ts event detail = recordInput prev' seq' ts' event' detail') :
    prev = prev' ∧ seq = seq' ∧ ts = ts' ∧ event = event' ∧ detail = detail' := by
  obtain ⟨hprev, h⟩ := append_inj h hlen
  obtain ⟨hseq, h⟩ := append_inj h (by simp [I64.toBeBytes])
  obtain ⟨hts, h⟩ := append_inj h (by simp [I64.toBeBytes])
  obtain ⟨hcount, h⟩ := append_inj h (by simp)
  -- the length in front says where the event ends
  have hevents : event.bytes.length = event'.bytes.length := beBytes_inj event.fits event'.fits hcount
  obtain ⟨hevent, h⟩ := append_inj h hevents
  obtain ⟨-, hdetail⟩ := append_inj h (by simp)
  exact ⟨hprev, I64.toBeBytes_inj hseq, I64.toBeBytes_inj hts, Text.bytes_inj hevent,
    Text.bytes_inj hdetail⟩

variable (env : Env)

def recordHash (prev : Bytes) (seq ts : I64) (event detail : Text) : Bytes :=
  env.sha256 (recordInput prev seq ts event detail)

def genesis : Bytes := List.replicate 32 0

/-- A record of the log. -/
@[ext]
structure AuditRow where
  seq : I64
  ts : I64
  event : Text
  detail : Text
  prevHash : Bytes
  hash : Bytes

def AuditRow.input (r : AuditRow) : Bytes := recordInput r.prevHash r.seq r.ts r.event r.detail

/-- A log in ascending order. -/
structure AuditLog where
  rows : List AuditRow
  ascending : rows.Pairwise (fun a b => a.seq.val < b.seq.val)

namespace AuditLog

def empty : AuditLog := ⟨[], List.Pairwise.nil⟩

def head (log : AuditLog) : Bytes :=
  match log.rows.getLast? with
  | some row => if row.hash.length = 32 then row.hash else genesis
  | none => genesis

def nextSeq (log : AuditLog) : ℤ :=
  (log.rows.getLast?.map (fun row => row.seq.val)).getD 0 + 1

def nextRow (log : AuditLog) (seq ts : I64) (event detail : Text) : AuditRow :=
  ⟨seq, ts, event, detail, log.head, recordHash env log.head seq ts event detail⟩

theorem seq_lt_nextSeq {log : AuditLog} {row : AuditRow} (h : row ∈ log.rows) :
    row.seq.val < log.nextSeq := by
  have hascending := log.ascending
  rcases eq_nil_or_concat' log.rows with hnil | ⟨l, last, hrows⟩
  · rw [hnil] at h
    cases h
  · rw [hrows] at h hascending
    have hnext : log.nextSeq = last.seq.val + 1 := by simp [nextSeq, hrows]
    rw [hnext]
    rcases mem_append.1 h with hl | hlast
    · have := (pairwise_append.1 hascending).2.2 row hl last (mem_singleton_self _)
      omega
    · rw [mem_singleton.1 hlast]
      omega

theorem nextSeq_lower (log : AuditLog) : -9223372036854775808 ≤ log.nextSeq := by
  rw [nextSeq]
  cases log.rows.getLast? with
  | none => decide
  | some row =>
    have := row.seq.lower
    rw [map_some, getD_some]
    omega

def append (ts : I64) (event detail : Text) (log : AuditLog) : Option AuditLog :=
  if h : log.nextSeq < 9223372036854775808 then
    let seq : I64 := ⟨log.nextSeq, log.nextSeq_lower, h⟩
    some ⟨log.rows ++ [nextRow env log seq ts event detail], by
      rw [pairwise_append]
      refine ⟨log.ascending, pairwise_singleton _ _, fun a ha b hb => ?_⟩
      rw [mem_singleton.1 hb]
      exact seq_lt_nextSeq ha⟩
  else none

end AuditLog

inductive AuditError where
  | broken (seq : I64)

def verifyFrom (env : Env) : Bytes → ℕ → List AuditRow → Except AuditError ℕ
  | _, count, [] => .ok count
  | prev, count, row :: rows =>
    let expected := recordHash env prev row.seq row.ts row.event row.detail
    if row.prevHash ≠ prev ∨ row.hash ≠ expected then .error (.broken row.seq)
    else verifyFrom env expected (count + 1) rows

def AuditLog.verifyChain (log : AuditLog) : Except AuditError ℕ :=
  verifyFrom env genesis 0 log.rows

/-! ## What the walk accepts -/

section Walk

variable {env : Env} {log log' : AuditLog}

/-- What the walk over the log checks. -/
structure ChainVerified (env : Env) (prev : Bytes) (rows : List AuditRow) : Prop where
  linked : HashChain.Linked AuditRow.prevHash AuditRow.hash prev rows
  hashed : ∀ r ∈ rows, r.hash = env.sha256 r.input

theorem verifyFrom_eq_ok_iff {prev : Bytes} {count n : ℕ} {rows : List AuditRow} :
    verifyFrom env prev count rows = .ok n ↔ ChainVerified env prev rows ∧ n = count + rows.length := by
  induction rows generalizing prev count with
  | nil =>
    rw [verifyFrom, Except.ok.injEq, length_nil, Nat.add_zero, eq_comm]
    exact (and_iff_right ⟨trivial, fun r hr => absurd hr not_mem_nil⟩).symm
  | cons row rows ih =>
    rw [verifyFrom]
    by_cases hrow : row.prevHash = prev ∧
        row.hash = recordHash env prev row.seq row.ts row.event row.detail
    · obtain ⟨hprev, hhash⟩ := hrow
      rw [if_neg (by simp [hprev, hhash]), ih, ← hhash, length_cons]
      have hinput : row.hash = env.sha256 row.input := by
        rw [hhash, AuditRow.input, hprev, recordHash]
      constructor
      · rintro ⟨⟨hlinked, hhashed⟩, hn⟩
        exact ⟨⟨⟨hprev, hlinked⟩, forall_mem_cons.2 ⟨hinput, hhashed⟩⟩, by omega⟩
      · rintro ⟨⟨⟨-, hlinked⟩, hhashed⟩, hn⟩
        exact ⟨⟨hlinked, fun r hr => hhashed r (mem_cons_of_mem _ hr)⟩, by omega⟩
    · rw [if_pos (by rwa [← not_and_or])]
      refine iff_of_false (by simp) (fun ⟨⟨⟨hprev, _⟩, hhashed⟩, _⟩ => hrow ⟨hprev, ?_⟩)
      rw [hhashed row mem_cons_self, AuditRow.input, hprev, recordHash]

theorem verifyChain_eq_ok_iff {n : ℕ} :
    log.verifyChain env = .ok n ↔ ChainVerified env genesis log.rows ∧ n = log.rows.length := by
  rw [AuditLog.verifyChain, verifyFrom_eq_ok_iff, Nat.zero_add]

theorem head_of_verified (hlen : ∀ b, (env.sha256 b).length = 32) (h : ChainVerified env genesis log.rows) :
    log.head = HashChain.lastHash AuditRow.hash genesis log.rows := by
  rw [AuditLog.head]
  rcases eq_nil_or_concat' log.rows with hnil | ⟨l, last, hrows⟩
  · rw [hnil]
    rfl
  · have hlast : last.hash.length = 32 := by
      rw [h.hashed last (by simp [hrows])]
      exact hlen _
    rw [hrows, HashChain.lastHash_concat, getLast?_concat]
    simp only [hlast, if_true]

theorem verified_append (hlen : ∀ b, (env.sha256 b).length = 32) {ts : I64} {event detail : Text}
    (h : ChainVerified env genesis log.rows) (happend : log.append env ts event detail = some log') :
    ChainVerified env genesis log'.rows := by
  rw [AuditLog.append, dite_none_right_eq_some] at happend
  obtain ⟨hfits, hlog⟩ := happend
  cases hlog
  refine ⟨HashChain.linked_concat.2 ⟨h.linked, head_of_verified hlen h⟩, fun r hr => ?_⟩
  rcases mem_append.1 hr with hold | hnew
  · exact h.hashed r hold
  · rw [mem_singleton.1 hnew]
    rfl

/-- The logs that appends build. -/
inductive Built (env : Env) : AuditLog → Prop
  | empty : Built env .empty
  | append {log log' ts event detail} :
      Built env log → AuditLog.append env ts event detail log = some log' → Built env log'

theorem Built.concat {row : AuditRow} (h : Built env log) (hrows : log'.rows = log.rows ++ [row])
    (hseq : row.seq.val = log.nextSeq) (hprev : row.prevHash = log.head)
    (hhash : row.hash = env.sha256 row.input) : Built env log' := by
  have hfits : log.nextSeq < 9223372036854775808 := hseq ▸ row.seq.upper
  have hrow : log.nextRow env ⟨log.nextSeq, log.nextSeq_lower, hfits⟩ row.ts row.event row.detail =
      row := by
    have hinput : recordHash env log.head ⟨log.nextSeq, log.nextSeq_lower, hfits⟩ row.ts row.event
        row.detail = env.sha256 row.input := by
      have hnumber : row.seq = ⟨log.nextSeq, log.nextSeq_lower, hfits⟩ := I64.ext hseq
      rw [AuditRow.input, hprev, hnumber, recordHash]
    exact AuditRow.ext (I64.ext hseq.symm) rfl rfl rfl hprev.symm (hinput.trans hhash.symm)
  obtain ⟨rows, hascending⟩ := log'
  obtain rfl : rows = log.rows ++ [row] := hrows
  refine @Built.append env log _ row.ts row.event row.detail h ?_
  rw [AuditLog.append, dif_pos hfits, some.injEq, AuditLog.mk.injEq, hrow]

theorem Built.verified (hlen : ∀ b, (env.sha256 b).length = 32) (h : Built env log) :
    ChainVerified env genesis log.rows := by
  induction h with
  | empty => exact ⟨trivial, fun r hr => absurd hr not_mem_nil⟩
  | append _ happend ih => exact verified_append hlen ih happend

theorem length_prevHash (hlen : ∀ b, (env.sha256 b).length = 32) {prev : Bytes} {rows : List AuditRow}
    (hprev : prev.length = 32) (h : ChainVerified env prev rows) : ∀ r ∈ rows, r.prevHash.length = 32 := by
  induction rows generalizing prev with
  | nil => exact fun r hr => absurd hr not_mem_nil
  | cons row rows ih =>
    obtain ⟨⟨hfirst, hlinked⟩, hhashed⟩ := h
    rw [forall_mem_cons] at hhashed ⊢
    refine ⟨by rw [hfirst, hprev], ih ?_ ⟨hlinked, hhashed.2⟩⟩
    rw [hhashed.1]
    exact hlen _

def AuditLog.inputs (log : AuditLog) : Set Bytes := { b | ∃ r ∈ log.rows, r.input = b }

/-- **The last hash stands for the whole log.**  A log that was built by appending is accepted, with
its length; and two logs that are accepted and end in the same hash are equal, where SHA-256 tells
their records apart and gives none of them the hash of the genesis. -/
theorem audit_log_is_committed (env : Env) (hlen : ∀ b, (env.sha256 b).length = 32) :
    (∀ log, Built env log → log.verifyChain env = .ok log.rows.length) ∧
    (∀ (log log' : AuditLog) (n n' : ℕ) (last last' : AuditRow),
      log.verifyChain env = .ok n → log'.verifyChain env = .ok n' →
      Set.InjOn env.sha256 (log.inputs ∪ log'.inputs) →
      (∀ b ∈ log.inputs ∪ log'.inputs, env.sha256 b ≠ genesis) →
      log.rows.getLast? = some last → log'.rows.getLast? = some last' → last.hash = last'.hash →
      log.rows = log'.rows) := by
  constructor
  · intro log hbuilt
    exact verifyChain_eq_ok_iff.2 ⟨hbuilt.verified hlen, rfl⟩
  · intro log log' n n' last last' hlog hlog' hinj hgenesis hlast hlast' heq
    obtain ⟨hverified, -⟩ := verifyChain_eq_ok_iff.1 hlog
    obtain ⟨hverified', -⟩ := verifyChain_eq_ok_iff.1 hlog'
    have hmem : ∀ r ∈ log.rows, r.input ∈ log.inputs ∪ log'.inputs := fun r hr => .inl ⟨r, hr, rfl⟩
    have hmem' : ∀ r ∈ log'.rows, r.input ∈ log.inputs ∪ log'.inputs := fun r hr => .inr ⟨r, hr, rfl⟩
    refine HashChain.eq_of_lastHash_eq hverified.linked hverified'.linked (fun a ha b hb hab => ?_)
      (fun a ha => ?_) (fun b hb => ?_) ?_
    · -- equal hashes mean equal inputs, and an input determines the rest of the record
      have hhash := hab
      rw [hverified.hashed a ha, hverified'.hashed b hb] at hab
      have hinput := hinj (hmem a ha) (hmem' b hb) hab
      have hlens : a.prevHash.length = b.prevHash.length := by
        rw [length_prevHash hlen rfl hverified a ha, length_prevHash hlen rfl hverified' b hb]
      obtain ⟨hprev, hseq, hts, hevent, hdetail⟩ := recordInput_inj hlens hinput
      cases a
      cases b
      simp_all
    · rw [hverified.hashed a ha]
      exact hgenesis _ (hmem a ha)
    · rw [hverified'.hashed b hb]
      exact hgenesis _ (hmem' b hb)
    · obtain ⟨l, hl⟩ := getLast?_eq_some_iff.1 hlast
      obtain ⟨l', hl'⟩ := getLast?_eq_some_iff.1 hlast'
      rw [hl, hl', HashChain.lastHash_concat, HashChain.lastHash_concat, heq]

end Walk

/-! A log of two records. -/

def firstHash : Bytes :=
  beBytes 32 0xc31bcf6a645e7965e114ba504707e1d88e59485405a35000878b1534eb719d77

def secondHash : Bytes :=
  beBytes 32 0x7bc8fe6b6a03d438e525e42caa3a23fff84d5d1b28fc09690af0b651b607d5cc

def firstRow : AuditRow :=
  ⟨⟨1, by decide, by decide⟩, ⟨100, by decide, by decide⟩, ⟨"a", by decide⟩, ⟨"x", by decide⟩,
    genesis, firstHash⟩

def secondRow : AuditRow :=
  ⟨⟨2, by decide, by decide⟩, ⟨101, by decide, by decide⟩, ⟨"b", by decide⟩, ⟨"y", by decide⟩,
    firstHash, secondHash⟩

def auditEnv : Env :=
  { Env.inert with sha256 := fun b => if b = firstRow.input then firstHash else secondHash }

def oneRecord : AuditLog where
  rows := [firstRow]
  ascending := by decide

def twoRecords : AuditLog where
  rows := [firstRow, secondRow]
  ascending := by decide

theorem length_sha256_auditEnv (b : Bytes) : (auditEnv.sha256 b).length = 32 := by
  simp only [auditEnv]
  split_ifs <;> rfl

theorem built_oneRecord : Built auditEnv oneRecord :=
  Built.empty.concat rfl rfl rfl (by simp only [auditEnv, if_true]; rfl)

theorem built_twoRecords : Built auditEnv twoRecords := by
  have hne : ¬ secondRow.input = firstRow.input := by decide
  exact built_oneRecord.concat rfl rfl rfl (by simp only [auditEnv, if_neg hne]; rfl)

/-- The two records are accepted; and of the logs that SHA-256 tells apart from it, no other one ends
in the hash of the second record. -/
theorem audit_log_is_committed_two :
    twoRecords.verifyChain auditEnv = .ok 2 ∧
    ∀ (log : AuditLog) (n : ℕ) (last : AuditRow), log.verifyChain auditEnv = .ok n →
      Set.InjOn auditEnv.sha256 (log.inputs ∪ twoRecords.inputs) →
      log.rows.getLast? = some last → last.hash = secondHash → log.rows = [firstRow, secondRow] := by
  obtain ⟨hbuilt, hsame⟩ := audit_log_is_committed auditEnv length_sha256_auditEnv
  refine ⟨hbuilt twoRecords built_twoRecords, fun log n last hlog hinj hlast hhash => ?_⟩
  refine hsame log twoRecords n 2 last secondRow hlog (hbuilt twoRecords built_twoRecords) hinj
    (fun b _ => ?_) hlast rfl hhash
  simp only [auditEnv]
  split_ifs <;> decide

/-! ## A log that was cut -/

/-- **A log without its tail is accepted**: the walk ends where the records do, and nothing that it
compares says where they were to end. -/
theorem truncated_log_is_accepted (env : Env) (hlen : ∀ b, (env.sha256 b).length = 32)
    {log cut : AuditLog} {tail : List AuditRow} (hbuilt : Built env log)
    (hcut : log.rows = cut.rows ++ tail) (htail : tail ≠ []) :
    cut.verifyChain env = .ok cut.rows.length ∧ cut.rows.length < log.rows.length := by
  have hverified := hbuilt.verified hlen
  rw [hcut] at hverified ⊢
  refine ⟨verifyChain_eq_ok_iff.2 ⟨⟨hverified.linked.of_append, fun r hr => ?_⟩, rfl⟩, ?_⟩
  · exact hverified.hashed r (mem_append_left _ hr)
  · have hpos := length_pos_of_ne_nil htail
    rw [List.length_append]
    omega

theorem truncated_log_is_accepted_one :
    oneRecord.verifyChain auditEnv = .ok 1 ∧ oneRecord.rows.length < twoRecords.rows.length :=
  @truncated_log_is_accepted auditEnv length_sha256_auditEnv twoRecords oneRecord [secondRow]
    built_twoRecords rfl (cons_ne_nil _ _)

/-- The second record was deleted, and the walk does not notice. -/
theorem deleted_record_goes_unnoticed : Built auditEnv twoRecords ∧
    twoRecords.rows = oneRecord.rows ++ [secondRow] ∧ oneRecord.verifyChain auditEnv = .ok 1 := by
  have hone := built_oneRecord.verified length_sha256_auditEnv
  exact ⟨built_twoRecords, rfl, verifyChain_eq_ok_iff.2 ⟨hone, rfl⟩⟩

end Akson
