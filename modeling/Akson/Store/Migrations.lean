/-
# Migrations

The numbered steps that bring a database to the present schema, each one a transaction.
-/
import Akson.Lib.Operation
import Akson.Lib.Sql
import Mathlib.Data.List.Range
import Mathlib.Tactic.IntervalCases

namespace Akson

open Operation Sql Except Option List

def create (name : String) (columns : List String) (keys : List (List String)) : Stmt :=
  .createTable ⟨name, columns, keys⟩

def V1 : List Stmt :=
  [create "meta" ["key", "value"] [["key"]],
    create "audit" ["seq", "ts", "event", "detail", "prev_hash", "hash"] [["seq"]],
    create "peers" ["agent_id", "issuer", "endpoint_id", "agent_card_thumbprint", "record",
      "created_generation"] [["agent_id"]]]

def V2 : List Stmt :=
  [create "inbox_objects" ["peer", "message_id", "commitment", "body_digest", "task_id",
      "response_class", "body", "response", "received_at"] [["peer", "message_id"]],
    create "replay_tombstones" ["peer", "message_id", "commitment", "task_id", "response_class",
      "response", "expires_at"] [["peer", "message_id"]]]

def V3 : List Stmt :=
  [create "invitations" ["verifier", "pending", "not_after"] [["verifier"]],
    create "pending_pairs" ["verifier", "transcript_digest", "response", "expires_at"]
      [["verifier"]]]

def V4 : List Stmt := [.addColumn "peers" "status" (.text "active")]

def V5 : List Stmt :=
  [create "contract_heads" ["task_id", "contract_id", "revision", "digest", "status"] [["task_id"]],
    create "contracts" ["digest", "task_id", "contract_id", "revision", "payload", "expires_at"]
      [["digest"]]]

def V6 : List Stmt :=
  [create "attempts" ["work_order_id", "nonce", "task_id", "work_order_digest", "state",
    "max_cost_microusd", "max_bytes", "max_operations", "claimed_at", "deadline"]
    [["work_order_id"], ["nonce"]]]

def V7 : List Stmt :=
  [create "processors" ["processor_id", "provider", "location", "config", "added_at"]
      [["processor_id"]],
    create "processor_calls" ["idempotency_key", "work_order_id", "task_id", "processor_id",
      "provider", "config_digest", "request_digest", "origin", "state", "max_cost_microusd",
      "max_response_bytes", "deadline", "prepared_at"] [["idempotency_key"]]]

def V8 : List Stmt :=
  [create "peer_keys" ["tls_fingerprint", "purpose", "agent_id", "issuer", "public_key",
    "updated_at"] [["tls_fingerprint", "purpose"]]]

def V9 : List Stmt := [.addColumn "contract_heads" "context_id" (.text "")]

def V10 : List Stmt :=
  [create "work_orders" ["work_order_id", "task_id", "digest", "order_json", "issued_at"]
    [["work_order_id"]]]

def V11 : List Stmt :=
  [create "results" ["work_order_id", "task_id", "bundle_digest", "manifest", "completed_at"]
    [["work_order_id"]]]

def V12 : List Stmt :=
  [create "sent_requests" ["contract_digest", "task_id", "context_id", "contract_id",
      "performer_agent", "performer_issuer", "message_id", "requested_at"] [["contract_digest"]],
    create "outcomes" ["contract_digest", "task_id", "bundle_digest", "outcome_digest", "state",
      "outcome", "signed_at", "recorded_at"] [["contract_digest"]]]

def V13 : List Stmt :=
  [create "processor_credentials" ["processor_id", "credential", "updated_at"] [["processor_id"]]]

def V14 : List Stmt :=
  [create "task_inputs" ["task_id", "input_id", "ordinal", "media_type", "byte_length", "sha256",
    "payload"] [["task_id", "input_id"]]]

def V15 : List Stmt :=
  [create "task_outputs" ["task_id", "artifact_id", "ordinal", "role", "media_type", "byte_length",
    "sha256", "payload"] [["task_id", "artifact_id"]]]

def V16 : List Stmt :=
  [create "auto_approve" ["agent_id", "task_types", "max_response_bytes", "updated_at"]
      [["agent_id"]],
    create "task_reactions" ["task_id", "reacted_at"] [["task_id"]]]

def V17 : List Stmt :=
  [create "peer_imports" ["root_thumbprint", "label", "endpoint_hint", "epoch", "added_at",
      "tombstoned_at"] [["root_thumbprint"], ["label"]],
    create "knock_log" ["claimed_root", "source", "refusal_class", "first_at", "last_at", "count"]
      [["claimed_root", "source", "refusal_class"]],
    .addColumn "peers" "root_thumbprint" (.text ""),
    .addColumn "peer_keys" "root_thumbprint" (.text ""),
    .addColumn "auto_approve" "root_thumbprint" (.text "")]

def V18 : List Stmt :=
  [.delete "peer_keys" (.isEmpty "root_thumbprint"), .delete "peers" (.isEmpty "root_thumbprint"),
    .delete "auto_approve" (.isEmpty "root_thumbprint"), .delete "invitations" .all,
    .delete "pending_pairs" .all]

def peersColumns : List String :=
  ["root_thumbprint", "agent_id", "issuer", "endpoint_id", "agent_card_thumbprint", "record",
    "created_generation", "status"]

def autoApproveColumns : List String :=
  ["root_thumbprint", "agent_id", "task_types", "max_response_bytes", "updated_at"]

def V19 : List Stmt :=
  [create "peers_v19" peersColumns [["root_thumbprint"]],
    .insertSelect "peers_v19" "peers" peersColumns (.nonEmpty "root_thumbprint"),
    .dropTable "peers", .renameTable "peers_v19" "peers", .createIndex "peers_by_agent" "peers",
    create "auto_approve_v19" autoApproveColumns [["root_thumbprint"]],
    .insertSelect "auto_approve_v19" "auto_approve" autoApproveColumns
      (.nonEmpty "root_thumbprint"),
    .dropTable "auto_approve", .renameTable "auto_approve_v19" "auto_approve"]

def orphaned : Cond := .notIn "root_thumbprint" "peer_imports" "tombstoned_at"

def V20 : List Stmt :=
  [.delete "peer_keys" (.isEmpty "root_thumbprint"), .delete "peers" orphaned,
    .delete "auto_approve" orphaned, .addColumn "sent_requests" "performer_root" (.text ""),
    .addColumn "contract_heads" "origin_root" (.text "")]

def V21 : List Stmt :=
  [create "coord_staged" ["stage_ref", "staged_digest", "task_type", "performer", "payload_sha256",
      "byte_length", "payload", "status", "staged_at"] [["stage_ref"], ["staged_digest"]],
    create "coord_consents" ["receipt_id", "stage_ref", "staged_digest", "receipt", "max_uses",
      "uses", "minted_at"] [["receipt_id"]],
    .createIndex "coord_consents_by_stage" "coord_consents",
    create "coord_events" ["seq", "kind", "stage_ref", "detail", "at"] [["seq"]]]

def V22 : List Stmt :=
  [create "coord_dispatches" ["execution_key", "stage_ref", "staged_digest", "receipt_id",
      "dispatch_receipt", "dispatched_at"] [["execution_key"], ["receipt_id"], ["dispatch_receipt"]],
    .createIndex "coord_dispatches_by_stage" "coord_dispatches"]

def V23 : List Stmt :=
  [.addColumn "coord_dispatches" "egress_state" (.text "pending"),
    .addColumn "coord_dispatches" "egress_detail" (.text ""),
    .addColumn "coord_dispatches" "egress_at" .null,
    .createIndex "coord_dispatches_by_egress" "coord_dispatches"]

def migrations : List (ℕ × List Stmt) :=
  [(1, V1), (2, V2), (3, V3), (4, V4), (5, V5), (6, V6), (7, V7), (8, V8), (9, V9), (10, V10),
    (11, V11), (12, V12), (13, V13), (14, V14), (15, V15), (16, V16), (17, V17), (18, V18),
    (19, V19), (20, V20), (21, V21), (22, V22), (23, V23)]

def migrate (step : ℕ × List Stmt) (d : Sql.Database) : Except Sql.Error Sql.Database :=
  (runAll step.2 d).map (fun d => { d with version := step.1 })

/-- Run the migrations, each in a transaction. -/
def migrateAll : List (ℕ × List Stmt) → Operation Sql.Database Sql.Error Unit
  | [] => pure ()
  | step :: steps => do
    commit (fun d => (migrate step d).map (fun d => ((), d))) id
    migrateAll steps

def openAndMigrate : Operation Sql.Database Sql.Error Unit := do
  let version ← ask (fun d => .ok d.version)
  migrateAll (migrations.filter (fun step => version < step.1))

/-! ## Steps -/

theorem filter_migrations (v : ℕ) :
    migrations.filter (fun step => decide (v < step.1)) = migrations.drop v := by
  by_cases hv : v < 23
  · interval_cases v <;> rfl
  · rw [drop_of_length_le (by simpa [migrations] using hv), filter_eq_nil_iff]
    intro step hstep
    have hle : ∀ step ∈ migrations, step.1 ≤ 23 := by simp [migrations]
    simpa using (hle step hstep).trans (not_lt.1 hv)

theorem targets_migrations : migrations.map Prod.fst = List.range' 1 23 := rfl

def runSteps (steps : List (ℕ × List Stmt)) (d : Sql.Database) : Except Sql.Error Sql.Database :=
  steps.foldlM (fun d step => migrate step d) d

variable {steps : List (ℕ × List Stmt)} {step : ℕ × List Stmt} {d d' : Sql.Database}

theorem migrate_eq_ok_iff : migrate step d = .ok d' ↔
    shapes d.shape step.2 = some d'.shape ∧ FitsAll d.shape d.rows step.2 ∧
      d'.rows = movesAll d.rows step.2 ∧ d'.version = step.1 := by
  obtain ⟨version', shape', rows'⟩ := d'
  constructor
  · intro h
    unfold migrate at h
    cases hrun : runAll step.2 d with
    | error e =>
      rw [hrun] at h
      cases h
    | ok d₁ =>
      rw [hrun] at h
      cases h
      obtain ⟨hshape, hfits, hrows, -⟩ := runAll_eq_ok_iff.1 hrun
      exact ⟨hshape, hfits, hrows, rfl⟩
  · rintro ⟨hshape, hfits, hrows, rfl⟩
    have hrun : runAll step.2 d = .ok ⟨d.version, shape', rows'⟩ :=
      runAll_eq_ok_iff.2 ⟨hshape, hfits, hrows, rfl⟩
    rw [migrate, hrun]
    rfl

theorem runSteps_eq_ok_iff : runSteps steps d = .ok d' ↔
    shapes d.shape (steps.flatMap Prod.snd) = some d'.shape ∧
      FitsAll d.shape d.rows (steps.flatMap Prod.snd) ∧
      d'.rows = movesAll d.rows (steps.flatMap Prod.snd) ∧
      d'.version = (steps.map Prod.fst).getLastD d.version := by
  induction steps generalizing d with
  | nil =>
    obtain ⟨version, shape, rows⟩ := d
    obtain ⟨version', shape', rows'⟩ := d'
    constructor
    · rintro ⟨⟩
      exact ⟨rfl, trivial, rfl, rfl⟩
    · rintro ⟨⟨⟩, -, rfl, rfl⟩
      rfl
  | cons step steps ih =>
    have hcons : runSteps (step :: steps) d = migrate step d >>= runSteps steps := rfl
    rw [hcons, bind_eq_ok, flatMap_cons, shapes_append, bind_eq_some_iff,
      fitsAll_append_iff, movesAll_append, map_cons, getLastD_cons]
    simp only [migrate_eq_ok_iff, ih]
    constructor
    · rintro ⟨⟨version, s, rows⟩, ⟨hs, hfits, rfl, rfl⟩, hrest, hfitsAll, hrows, hversion⟩
      refine ⟨⟨s, hs, hrest⟩, ⟨hfits, fun s' hs' => ?_⟩, hrows, hversion⟩
      rwa [← some.inj (hs.symm.trans hs')]
    · rintro ⟨⟨s, hs, hrest⟩, ⟨hfits, hfitsAll⟩, hrows, hversion⟩
      exact ⟨⟨_, s, _⟩, ⟨hs, hfits, rfl, rfl⟩, hrest, hfitsAll s hs, hrows, hversion⟩

theorem runSteps_append (a b : List (ℕ × List Stmt)) (d : Sql.Database) :
    runSteps (a ++ b) d = runSteps a d >>= runSteps b :=
  foldlM_append

theorem map_migrate_eq_ok {u : Unit} :
    (migrate step d).map (fun d => ((), d)) = .ok (u, d') ↔ migrate step d = .ok d' := by
  cases migrate step d with
  | error e => simp [Except.map]
  | ok d₁ => simp [Except.map]

theorem exec_migrateAll_iff :
    exec (migrateAll steps) d = (.ok (), d') ↔ runSteps steps d = .ok d' := by
  induction steps generalizing d with
  | nil =>
    constructor
    · rintro ⟨⟩
      rfl
    · rintro ⟨⟩
      rfl
  | cons step steps ih =>
    have hcons : runSteps (step :: steps) d = migrate step d >>= runSteps steps := rfl
    rw [hcons, bind_eq_ok, migrateAll]
    constructor
    · intro h
      obtain ⟨e, -, he⟩ | ⟨u, d₁, hstep, hrest⟩ := exec_bind_cases h
      · cases he
      · exact ⟨d₁, map_migrate_eq_ok.1 (exec_commit_eq_ok.1 hstep), ih.1 hrest⟩
    · rintro ⟨d₁, hstep, hrest⟩
      rw [exec_bind_of_ok (exec_commit_eq_ok.2 ((@map_migrate_eq_ok step d d₁ ()).2 hstep))]
      exact ih.2 hrest

theorem mem_commits_migrateAll (h : d' ∈ commits (migrateAll steps) d) :
    ∃ n < steps.length, runSteps (steps.take (n + 1)) d = .ok d' := by
  induction steps generalizing d with
  | nil => cases h
  | cons step steps ih =>
    have hcons : ∀ l, runSteps (step :: l) d = migrate step d >>= runSteps l := fun _ => rfl
    obtain h | ⟨u, d₁, hstep, h⟩ := mem_commits_bind h
    · obtain ⟨u, hcommit⟩ := exists_of_mem_commits_commit h
      refine ⟨0, Nat.succ_pos _, ?_⟩
      rw [take_succ_cons, hcons]
      exact bind_eq_ok.2 ⟨d', map_migrate_eq_ok.1 hcommit, rfl⟩
    · obtain ⟨n, hn, hrun⟩ := ih h
      refine ⟨n + 1, Nat.succ_lt_succ hn, ?_⟩
      rw [take_succ_cons, hcons]
      exact bind_eq_ok.2 ⟨d₁, map_migrate_eq_ok.1 (exec_commit_eq_ok.1 hstep), hrun⟩

theorem exec_openAndMigrate_iff :
    exec openAndMigrate d = (.ok (), d') ↔ runSteps (migrations.drop d.version) d = .ok d' := by
  rw [openAndMigrate, exec_read_bind, filter_migrations]
  exact exec_migrateAll_iff

variable {v : ℕ} {columns : List String} {rows : Rows} {s : Shape} {t : String} {r : Record}

theorem movesAll_drop {w : ℕ} (h : v ≤ w) (rows : Rows) :
    ∃ rows₁, movesAll rows ((migrations.drop v).flatMap Prod.snd) =
      movesAll rows₁ ((migrations.drop w).flatMap Prod.snd) := by
  refine ⟨movesAll rows (((migrations.drop v).take (w - v)).flatMap Prod.snd), ?_⟩
  have hdrop : migrations.drop w = (migrations.drop v).drop (w - v) := by
    rw [drop_drop, Nat.add_sub_cancel' h]
  rw [← movesAll_append, ← flatMap_append, hdrop, take_append_drop]

/-! ## Orphaned authority -/

def LiveRoot (rows : Rows) (r : Record) : Prop :=
  ∃ i ∈ rows "peer_imports", i "tombstoned_at" = .null ∧ i "root_thumbprint" = r "root_thumbprint"

theorem orphaned_holds (rows : Rows) (r : Record) :
    orphaned.holds rows r = false ↔ LiveRoot rows r := by
  simp [orphaned, Cond.holds, LiveRoot]

theorem mem_movesAll_twenty (rows : Rows) (r : Record) :
    let rows' := movesAll rows ((migrations.drop 19).flatMap Prod.snd)
    (r ∈ rows' "peers" ↔ r ∈ rows "peers" ∧ LiveRoot rows' r) ∧
      (r ∈ rows' "auto_approve" ↔ r ∈ rows "auto_approve" ∧ LiveRoot rows' r) ∧
      (r ∈ rows' "peer_keys" ↔ r ∈ rows "peer_keys" ∧ r "root_thumbprint" ≠ .text "") := by
  intro rows'
  have himports : rows' "peer_imports" = rows "peer_imports" := rfl
  have hlive : LiveRoot rows' r ↔ LiveRoot rows r := by rw [LiveRoot, himports, LiveRoot]
  have hpeers : rows' "peers" = (rows "peers").filter (fun r => !orphaned.holds rows r) := rfl
  have happrove : rows' "auto_approve" =
    (rows "auto_approve").filter (fun r => !orphaned.holds rows r) := rfl
  have hkeys : rows' "peer_keys" =
    (rows "peer_keys").filter (fun r => !(Cond.isEmpty "root_thumbprint").holds rows r) := rfl
  have hempty : (Cond.isEmpty "root_thumbprint").holds rows r = false ↔
    r "root_thumbprint" ≠ .text "" := decide_eq_false_iff_not
  rw [hpeers, happrove, hkeys, hlive]
  simp only [mem_filter, Bool.not_eq_true', orphaned_holds, hempty, and_self]

theorem movesAll_sixteen_peer_keys (rows : Rows) :
    movesAll rows ((migrations.drop 16).flatMap Prod.snd) "peer_keys" = [] := by
  obtain ⟨rows₁, hrows₁⟩ : ∃ rows₁, rows₁ = movesAll rows (V17 ++ V18 ++ V19) := ⟨_, rfl⟩
  have hkeys : rows₁ "peer_keys" = [] := by
    rw [hrows₁]
    change ((rows "peer_keys").map (fun r => Function.update r "root_thumbprint" (.text ""))).filter
      (fun r => !decide (r "root_thumbprint" = .text "")) = []
    simp
  have hsplit : movesAll rows ((migrations.drop 16).flatMap Prod.snd) =
      movesAll rows₁ ((migrations.drop 19).flatMap Prod.snd) := by
    rw [hrows₁, ← movesAll_append]
    rfl
  rw [hsplit, eq_nil_iff_forall_not_mem]
  intro r hr
  have hmem := ((mem_movesAll_twenty rows₁ r).2.2.1 hr).1
  rw [hkeys] at hmem
  cases hmem

theorem movesAll_keys (h17 : 17 ≤ v) (h20 : v < 20) (rows : Rows) :
    let rows' := movesAll rows ((migrations.drop v).flatMap Prod.snd)
    rows' "peer_imports" = rows "peer_imports" ∧
      ∀ r, r ∈ rows' "peer_keys" ↔ r ∈ rows "peer_keys" ∧ r "root_thumbprint" ≠ .text "" := by
  obtain rfl | rfl | rfl : v = 17 ∨ v = 18 ∨ v = 19 := by omega
  · refine ⟨rfl, fun r => ?_⟩
    have hmem := (mem_movesAll_twenty (movesAll rows (V18 ++ V19)) r).2.2
    have hkeys : movesAll rows (V18 ++ V19) "peer_keys" =
      (rows "peer_keys").filter (fun r => !decide (r "root_thumbprint" = .text "")) := rfl
    rw [hkeys, mem_filter, ← movesAll_append] at hmem
    refine hmem.trans ?_
    simp
  · exact ⟨rfl, fun r => (mem_movesAll_twenty (movesAll rows V19) r).2.2⟩
  · exact ⟨rfl, fun r => (mem_movesAll_twenty rows r).2.2⟩

/-- What is left of a root without a live import after a migration: exactly the keys that a
database of version 17 to 19 held for it. -/
theorem orphans_dropped_iff (d d' : Sql.Database) (hv : d.version < 20)
    (h : exec openAndMigrate d = (.ok (), d')) :
    (∀ t ∈ ["peers", "peer_keys", "auto_approve"], ∀ r ∈ d'.rows t, LiveRoot d'.rows r) ↔
      d.version < 17 ∨
        ∀ r ∈ d.rows "peer_keys", r "root_thumbprint" ≠ .text "" → LiveRoot d.rows r := by
  obtain ⟨-, -, hrows, -⟩ := runSteps_eq_ok_iff.1 (exec_openAndMigrate_iff.1 h)
  obtain ⟨rows₁, hrows₁⟩ := movesAll_drop (Nat.lt_succ_iff.1 hv) d.rows
  have hmem := mem_movesAll_twenty rows₁
  rw [← hrows₁, ← hrows] at hmem
  have honly : (∀ t ∈ ["peers", "peer_keys", "auto_approve"], ∀ r ∈ d'.rows t,
      LiveRoot d'.rows r) ↔ ∀ r ∈ d'.rows "peer_keys", LiveRoot d'.rows r := by
    rw [forall_mem_cons, forall_mem_cons, forall_mem_singleton]
    exact ⟨fun h => h.2.1, fun h => ⟨fun r hr => ((hmem r).1.1 hr).2, h,
      fun r hr => ((hmem r).2.1.1 hr).2⟩⟩
  rw [honly]
  by_cases h17 : d.version < 17
  · obtain ⟨rows₂, hrows₂⟩ := movesAll_drop (Nat.lt_succ_iff.1 h17) d.rows
    rw [hrows, hrows₂, movesAll_sixteen_peer_keys]
    exact iff_of_true (fun r hr => nomatch hr) (.inl h17)
  · obtain ⟨himports, hkeys⟩ := movesAll_keys (not_lt.1 h17) hv d.rows
    rw [← hrows] at himports hkeys
    have hlive (r : Record) : LiveRoot d'.rows r ↔ LiveRoot d.rows r := by
      rw [LiveRoot, himports, LiveRoot]
    simp only [h17, false_or, hkeys, hlive, and_imp]

def keptKey : Sql.Database where
  version := 19
  shape := (shapes {} ((migrations.take 19).flatMap Prod.snd)).getD {}
  rows
    | "peer_imports" => [fun
        | "root_thumbprint" => .text "r"
        | "tombstoned_at" => .int 5
        | _ => .text ""]
    | "peer_keys" => [fun
        | "root_thumbprint" => .text "r"
        | _ => .text ""]
    | _ => []

theorem exec_keptKey : ∃ d', exec openAndMigrate keptKey = (.ok (), d') ∧
    d'.rows = movesAll keptKey.rows ((migrations.drop 19).flatMap Prod.snd) := by
  refine ⟨⟨23, (shapes {} (migrations.flatMap Prod.snd)).getD {}, _⟩, ?_, rfl⟩
  refine exec_openAndMigrate_iff.2 (runSteps_eq_ok_iff.2 ⟨rfl, fitsAll_of_forall ?_, rfl, rfl⟩)
  simp [keptKey, migrations, V20, V21, V22, V23, create, Stmt.fits]

theorem key_of_removed_root_survives : ∃ d d' : Sql.Database, d.version < 20 ∧
    exec openAndMigrate d = (.ok (), d') ∧
    ∃ r ∈ d'.rows "peer_keys", ¬ LiveRoot d'.rows r := by
  obtain ⟨d', hexec, hrows⟩ := exec_keptKey
  obtain ⟨himports, hkeys⟩ := movesAll_keys (show 17 ≤ 19 by decide) (by decide) keptKey.rows
  rw [← hrows] at himports hkeys
  refine ⟨keptKey, d', by decide, hexec, _, (hkeys _).2 ⟨mem_singleton_self _, nofun⟩, ?_⟩
  rw [LiveRoot, himports]
  rintro ⟨i, hi, hlive, -⟩
  rw [mem_singleton.1 hi] at hlive
  cases hlive

theorem orphans_dropped_iff_keptKey : ∃ d',
    exec openAndMigrate keptKey = (.ok (), d') ∧
    ((∀ t ∈ ["peers", "peer_keys", "auto_approve"], ∀ r ∈ d'.rows t, LiveRoot d'.rows r) ↔
      keptKey.version < 17 ∨ ∀ r ∈ keptKey.rows "peer_keys",
        r "root_thumbprint" ≠ .text "" → LiveRoot keptKey.rows r) := by
  obtain ⟨d', hexec, -⟩ := exec_keptKey
  exact ⟨d', hexec, orphans_dropped_iff keptKey d' (by decide) hexec⟩

/-! ## Openings that crash -/

/-- A database has the shape of its version. -/
structure AtVersion (d : Sql.Database) : Prop where
  version_le : d.version ≤ 23
  shape : shapes {} ((migrations.take d.version).flatMap Prod.snd) = some d.shape

def DistinctRoots (rows : Rows) : Prop :=
  ∀ t ∈ ["peers", "auto_approve"],
    ((rows t).filter (fun r => r "root_thumbprint" ≠ .text "")).Pairwise
      (fun a b => a "root_thumbprint" ≠ b "root_thumbprint")

def Reopened : Sql.Database → Sql.Database → Prop :=
  Relation.ReflTransGen (fun d d' => d' ∈ commits openAndMigrate d)

theorem version_runSteps {n : ℕ} (hn : d.version + n ≤ 23)
    (h : runSteps ((migrations.drop d.version).take n) d = .ok d') : d'.version = d.version + n := by
  obtain ⟨-, -, -, hversion⟩ := runSteps_eq_ok_iff.1 h
  rw [hversion, map_take, map_drop, targets_migrations, drop_range',
    getLastD_eq_getLast?, getLast?_take]
  cases n with
  | zero => rfl
  | succ n =>
    rw [if_neg n.succ_ne_zero, Nat.add_sub_cancel, getElem?_range' (by omega)]
    simp only [some_or, getD_some]
    omega

theorem runSteps_of_reopened (hv : d.version ≤ 23) (h : Reopened d d') :
    ∃ n, d.version + n ≤ 23 ∧ runSteps ((migrations.drop d.version).take n) d = .ok d' := by
  induction h with
  | refl => exact ⟨0, hv, rfl⟩
  | @tail d₁ d₂ _ hcrash ih =>
    obtain ⟨n, hn, hrun⟩ := ih
    obtain ⟨version, hversion, hcrash⟩ := mem_commits_ask_bind hcrash
    cases hversion
    rw [filter_migrations, version_runSteps hn hrun, ← drop_drop] at hcrash
    obtain ⟨k, hk, hrest⟩ := mem_commits_migrateAll hcrash
    refine ⟨n + (k + 1), ?_, ?_⟩
    · simp [migrations] at hk
      omega
    · rw [take_add, runSteps_append]
      exact bind_eq_ok.2 ⟨d₁, hrun, hrest⟩

theorem fits_copy {target source : String}
    (hkeys : ((s.table target).map TableDef.keys).getD [] = [["root_thumbprint"]])
    (hempty : rows target = []) (hcolumn : "root_thumbprint" ∈ columns)
    (hroots : ((rows source).filter (fun r => r "root_thumbprint" ≠ .text "")).Pairwise
      (fun a b => a "root_thumbprint" ≠ b "root_thumbprint")) :
    (Stmt.insertSelect target source columns (.nonEmpty "root_thumbprint")).fits s rows = true := by
  apply decide_eq_true
  rw [hkeys, Stmt.moves, Function.update_self, hempty, nil_append, pairwise_map]
  refine hroots.imp fun {a b} hne => ?_
  rintro ⟨key, hkey, hclash⟩
  rw [mem_singleton.1 hkey] at hclash
  have heq := (hclash "root_thumbprint" (mem_singleton_self _)).1
  simp only [project, if_pos hcolumn] at heq
  exact hne heq

theorem fitsAll_V19 (hs : shapes {} ((migrations.take 18).flatMap Prod.snd) = some s)
    (h : DistinctRoots rows) : FitsAll s rows V19 := by
  cases hs
  refine ⟨rfl, ?_⟩
  rintro s ⟨⟩
  refine ⟨fits_copy rfl rfl (by decide) (h "peers" (by decide)), ?_⟩
  rintro s ⟨⟩
  refine ⟨rfl, ?_⟩
  rintro s ⟨⟩
  refine ⟨rfl, ?_⟩
  rintro s ⟨⟩
  refine ⟨rfl, ?_⟩
  rintro s ⟨⟩
  refine ⟨rfl, ?_⟩
  rintro s ⟨⟩
  refine ⟨fits_copy rfl rfl (by decide) (h "auto_approve" (by decide)), ?_⟩
  exact fun s hs => fitsAll_of_forall (by simp [Stmt.fits])

theorem distinctRoots_V17 (rows : Rows) : DistinctRoots (movesAll rows V17) := by
  intro t ht
  have hrows : ∃ l : List Record, movesAll rows V17 t =
      l.map (fun r => Function.update r "root_thumbprint" (.text "")) := by
    obtain rfl | rfl : t = "peers" ∨ t = "auto_approve" := by simpa using ht
    · exact ⟨_, rfl⟩
    · exact ⟨_, rfl⟩
  obtain ⟨l, hl⟩ := hrows
  have hnone : (movesAll rows V17 t).filter (fun r => r "root_thumbprint" ≠ .text "") = [] := by
    simp [hl]
  rw [hnone]
  exact .nil

theorem movesAll_V18 (ht : t ∈ ["peers", "auto_approve"]) (rows : Rows) :
    movesAll rows V18 t = (rows t).filter (fun r => !decide (r "root_thumbprint" = .text "")) := by
  obtain rfl | rfl : t = "peers" ∨ t = "auto_approve" := by simpa using ht
  · rfl
  · rfl

theorem distinctRoots_before_V19 (hv : v ≤ 18) (h : 17 ≤ v → DistinctRoots rows) :
    DistinctRoots (movesAll rows (((migrations.take 18).drop v).flatMap Prod.snd)) := by
  have hV18 {rows : Rows} (h : DistinctRoots rows) : DistinctRoots (movesAll rows V18) := by
    intro t ht
    rw [movesAll_V18 ht]
    exact (h t ht).sublist (filter_sublist.filter _)
  obtain hlt | rfl | rfl : v < 17 ∨ v = 17 ∨ v = 18 := by omega
  · have hsplit : (migrations.take 18).drop v =
        (migrations.take 16).drop v ++ [(17, V17), (18, V18)] := by
      have htake : migrations.take 18 = migrations.take 16 ++ [(17, V17), (18, V18)] := rfl
      rw [htake, drop_append_of_le_length (by simp [migrations]; omega)]
    rw [hsplit, flatMap_append, movesAll_append]
    exact hV18 (distinctRoots_V17 _)
  · exact hV18 (h le_rfl)
  · exact h (by decide)

theorem fitsAll_drop (hd : AtVersion d) (hroots : 17 ≤ d.version → DistinctRoots d.rows) :
    FitsAll d.shape d.rows ((migrations.drop d.version).flatMap Prod.snd) := by
  have hafter : ∀ stmt ∈ (migrations.drop 19).flatMap Prod.snd, ∀ s rows,
      stmt.fits s rows = true := by
    simp [migrations, V20, V21, V22, V23, create, Stmt.fits]
  obtain hv | hv := le_or_gt d.version 18
  · have hbefore : ∀ stmt ∈ (migrations.take 18).flatMap Prod.snd, ∀ s rows,
        stmt.fits s rows = true := by
      simp [migrations, V1, V2, V3, V4, V5, V6, V7, V8, V9, V10, V11, V12, V13, V14, V15, V16,
        V17, V18, create, Stmt.fits]
    have hsplit : migrations.drop d.version =
        (migrations.take 18).drop d.version ++ ((19, V19) :: migrations.drop 19) := by
      have htake : migrations = migrations.take 18 ++ ((19, V19) :: migrations.drop 19) := rfl
      conv_lhs => rw [htake]
      exact drop_append_of_le_length hv
    rw [hsplit, flatMap_append, fitsAll_append_iff, flatMap_cons]
    constructor
    · refine fitsAll_of_forall fun stmt hstmt => hbefore stmt ?_
      obtain ⟨step, hstep, hmem⟩ := mem_flatMap.1 hstmt
      exact mem_flatMap.2 ⟨step, mem_of_mem_drop hstep, hmem⟩
    · intro s hs
      have hs18 : shapes {} ((migrations.take 18).flatMap Prod.snd) = some s := by
        rw [← take_append_drop d.version (migrations.take 18), flatMap_append,
          take_take, Nat.min_eq_left hv, shapes_append, hd.shape]
        exact hs
      refine fitsAll_append_iff.2 ⟨fitsAll_V19 hs18 (distinctRoots_before_V19 hv hroots), ?_⟩
      exact fun s' _ => fitsAll_of_forall hafter
  · refine fitsAll_of_forall fun stmt hstmt => hafter stmt ?_
    obtain ⟨step, hstep, hmem⟩ := mem_flatMap.1 hstmt
    refine mem_flatMap.2 ⟨step, ?_, hmem⟩
    exact (drop_subset_drop_left _ hv) hstep

def rekeyed : List (String × List String) :=
  [("peers", peersColumns), ("auto_approve", autoApproveColumns)]

theorem rekeyed_cases (h : (t, columns) ∈ rekeyed) : (t = "peers" ∧ columns = peersColumns) ∨
      (t = "auto_approve" ∧ columns = autoApproveColumns) := by
  simpa [rekeyed] using h

theorem mem_movesAll_V19 (ht : (t, columns) ∈ rekeyed) (hr : r ∈ rows t)
    (hroot : r "root_thumbprint" ≠ .text "") : project columns r ∈ movesAll rows V19 t := by
  have hrows : movesAll rows V19 t =
      ((rows t).filter (fun r => r "root_thumbprint" ≠ .text "")).map (project columns) := by
    obtain ⟨rfl, rfl⟩ | ⟨rfl, rfl⟩ := rekeyed_cases ht
    · rfl
    · rfl
  rw [hrows]
  exact mem_map_of_mem (mem_filter.2 ⟨hr, decide_eq_true hroot⟩)

theorem mem_movesAll_of_live (h19 : 19 ≤ v) (hv : v ≤ 23) (ht : t ∈ ["peers", "auto_approve"])
    (hr : r ∈ rows t) (hlive : LiveRoot rows r) :
    r ∈ movesAll rows ((migrations.drop v).flatMap Prod.snd) t := by
  obtain rfl | hlt := h19.eq_or_lt
  · have hmem := mem_movesAll_twenty rows r
    obtain rfl | rfl : t = "peers" ∨ t = "auto_approve" := by simpa using ht
    · exact hmem.1.2 ⟨hr, hlive⟩
    · exact hmem.2.1.2 ⟨hr, hlive⟩
  · have hrows : movesAll rows ((migrations.drop v).flatMap Prod.snd) t = rows t := by
      obtain rfl | rfl : t = "peers" ∨ t = "auto_approve" := by simpa using ht
      · interval_cases v <;> rfl
      · interval_cases v <;> rfl
    rwa [hrows]

theorem columns_of_rekeyed (ht : (t, columns) ∈ rekeyed) (hd : AtVersion d) (h17 : 17 ≤ d.version)
    (h19 : d.version < 19) {table : TableDef} (htable : d.shape.table t = some table) :
    ∀ c ∈ table.columns, c ∈ columns := by
  obtain ⟨version, shape, rows⟩ := d
  obtain ⟨-, hshape⟩ := hd
  simp only at h17 h19 hshape
  interval_cases version
  · cases hshape
    obtain ⟨rfl, rfl⟩ | ⟨rfl, rfl⟩ := rekeyed_cases ht
    · cases htable
      decide
    · cases htable
      decide
  · cases hshape
    obtain ⟨rfl, rfl⟩ | ⟨rfl, rfl⟩ := rekeyed_cases ht
    · cases htable
      decide
    · cases htable
      decide

theorem row_kept (hd : AtVersion d) (h17 : 17 ≤ d.version) (ht : (t, columns) ∈ rekeyed)
    (hr : r ∈ d.rows t) (hroot : r "root_thumbprint" ≠ .text "") (hlive : LiveRoot d.rows r) :
    ∃ r' ∈ movesAll d.rows ((migrations.drop d.version).flatMap Prod.snd) t,
      ∀ table, d.shape.table t = some table → ∀ c ∈ table.columns, r' c = r c := by
  have htable : t ∈ ["peers", "auto_approve"] := mem_map_of_mem (f := Prod.fst) ht
  obtain h19 | h19 := le_or_gt 19 d.version
  · exact ⟨r, mem_movesAll_of_live h19 hd.version_le htable hr hlive, fun _ _ _ _ => rfl⟩
  · refine ⟨project columns r, ?_, fun table htable c hc =>
      if_pos (columns_of_rekeyed ht hd h17 h19 htable c hc)⟩
    have hlive' {rows : Rows} (himports : rows "peer_imports" = d.rows "peer_imports") :
        LiveRoot rows (project columns r) := by
      have hcolumn : "root_thumbprint" ∈ columns := by
        obtain ⟨-, rfl⟩ | ⟨-, rfl⟩ := rekeyed_cases ht <;> decide
      rwa [LiveRoot, himports, project, if_pos hcolumn]
    obtain h17 | h18 : d.version = 17 ∨ d.version = 18 := by omega
    · have hr18 : r ∈ movesAll d.rows V18 t := by
        rw [movesAll_V18 htable]
        exact mem_filter.2 ⟨hr, by simpa using hroot⟩
      have hsplit : movesAll d.rows ((migrations.drop 17).flatMap Prod.snd) =
          movesAll (movesAll (movesAll d.rows V18) V19)
            ((migrations.drop 19).flatMap Prod.snd) := by
        rw [← movesAll_append, ← movesAll_append]
        rfl
      rw [h17, hsplit]
      exact mem_movesAll_of_live le_rfl (by decide) htable (mem_movesAll_V19 ht hr18 hroot)
        (hlive' rfl)
    · have hsplit : movesAll d.rows ((migrations.drop 18).flatMap Prod.snd) =
          movesAll (movesAll d.rows V19) ((migrations.drop 19).flatMap Prod.snd) := by
        rw [← movesAll_append]
        rfl
      rw [h18, hsplit]
      exact mem_movesAll_of_live le_rfl (by decide) htable (mem_movesAll_V19 ht hr hroot)
        (hlive' rfl)

/-- However often opening is cut short, the next opening ends in the one database that the steps
above the first version lead to, each made once and in order; and no row with a live root loses
a value. -/
theorem migration_converges (d : Sql.Database) (hd : AtVersion d)
    (hroots : 17 ≤ d.version → DistinctRoots d.rows) :
    ∃ final, runSteps (migrations.drop d.version) d = .ok final ∧ AtVersion final ∧
      final.version = 23 ∧
      (∀ d', Reopened d d' →
        (∃ n, runSteps ((migrations.drop d.version).take n) d = .ok d' ∧
          d'.version = d.version + n) ∧
        exec openAndMigrate d' = (.ok (), final)) ∧
      (17 ≤ d.version → ∀ t ∈ ["peers", "auto_approve"], ∀ r ∈ d.rows t,
        r "root_thumbprint" ≠ .text "" → LiveRoot d.rows r →
        ∃ r' ∈ final.rows t, ∀ table, d.shape.table t = some table →
          ∀ c ∈ table.columns, r' c = r c) := by
  have hall : shapes {} (migrations.flatMap Prod.snd) =
      shapes d.shape ((migrations.drop d.version).flatMap Prod.snd) := by
    conv_lhs => rw [← take_append_drop d.version migrations, flatMap_append,
      shapes_append, hd.shape]
    rfl
  obtain ⟨s, hs⟩ : ∃ s, shapes {} (migrations.flatMap Prod.snd) = some s :=
    isSome_iff_exists.1 rfl
  obtain ⟨final, hfinal⟩ : ∃ final, runSteps (migrations.drop d.version) d = .ok final :=
    ⟨⟨_, s, _⟩, runSteps_eq_ok_iff.2 ⟨hall.symm.trans hs, fitsAll_drop hd hroots, rfl, rfl⟩⟩
  have hversion : final.version = 23 := by
    have hsum : d.version + (23 - d.version) = 23 := Nat.add_sub_cancel' hd.version_le
    have htake : (migrations.drop d.version).take (23 - d.version) = migrations.drop d.version :=
      take_of_length_le (by simp [migrations])
    rw [← htake] at hfinal
    exact (version_runSteps hsum.le hfinal).trans hsum
  obtain ⟨hshape, -, hrows, -⟩ := runSteps_eq_ok_iff.1 hfinal
  refine ⟨final, hfinal, ⟨hversion.le, ?_⟩, hversion, ?_, ?_⟩
  · rw [hversion]
    exact hall.trans hshape
  · intro d' hd'
    obtain ⟨n, hn, hrun⟩ := runSteps_of_reopened hd.version_le hd'
    have hv := version_runSteps hn hrun
    refine ⟨⟨n, hrun, hv⟩, exec_openAndMigrate_iff.2 ?_⟩
    rw [← take_append_drop n (migrations.drop d.version), runSteps_append, hrun,
      drop_drop, ← hv] at hfinal
    exact hfinal
  · intro h17 t ht r hr hroot hlive
    rw [hrows]
    obtain ⟨⟨_, columns⟩, hmem, rfl⟩ := mem_map.1 (show t ∈ rekeyed.map Prod.fst from ht)
    exact row_kept hd h17 hmem hr hroot hlive

def importedPeer : Sql.Database where
  version := 17
  shape := (shapes {} ((migrations.take 17).flatMap Prod.snd)).getD {}
  rows
    | "peer_imports" => [fun
        | "root_thumbprint" => .text "r"
        | _ => .null]
    | "peers" => [fun
        | "root_thumbprint" => .text "r"
        | "agent_id" => .text "agent"
        | _ => .text ""]
    | _ => []

theorem migration_converges_importedPeer : ∃ final,
    (∀ d', Reopened importedPeer d' → exec openAndMigrate d' = (.ok (), final)) ∧
      final.version = 23 ∧ ∃ r ∈ final.rows "peers", r "agent_id" = .text "agent" := by
  have hroots : DistinctRoots importedPeer.rows := by
    intro t ht
    obtain rfl | rfl : t = "peers" ∨ t = "auto_approve" := by simpa using ht
    · exact pairwise_singleton _ _
    · exact .nil
  obtain ⟨final, -, -, hversion, hreopened, hkept⟩ :=
    migration_converges importedPeer ⟨by decide, rfl⟩ (fun _ => hroots)
  obtain ⟨r, hr, hcolumns⟩ := hkept (by decide) "peers" (by decide) _
    (mem_singleton_self _) nofun ⟨_, mem_singleton_self _, rfl, rfl⟩
  exact ⟨final, fun d' hd' => (hreopened d' hd').2, hversion, r, hr,
    hcolumns _ rfl "agent_id" (by decide)⟩

end Akson
