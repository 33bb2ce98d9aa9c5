/-
# Setting a standing policy

The operator sets the standing policy of a peer by its label: a list of task types and a ceiling on
the response.  The store keeps the types as one text, a line each, and the ceiling in a signed
column.
-/
import Akson.Store.Introduction
import Akson.Store.Tasks
import Akson.Lib.Operation

namespace Akson

open Operation Except Option List

/-! ## The operation -/

def unknownLabel (env : Env) (label : String) : Problem :=
  Problem.new 404 "unknown-peer" ("no imported peer is labeled " ++ env.debugStr label)

def notIntroduced : Problem :=
  Problem.new 409 "not-introduced"
    "no introduced peer behind this label yet — `peer ping` it first"

def introducedPeer (env : Env) (label : String) (s : Store) : Except Problem (String × String) := do
  let imported ← okOr (s.peerImportByLabel label) (unknownLabel env label)
  let (agentId, _) ← okOr (s.peerByRoot imported.rootThumbprint) notIntroduced
  pure (imported.rootThumbprint, agentId)

def peerAutoApprove (env : Env) (label : String) (policy : AutoApprovePolicy) (now : Time) :
    Operation Store Problem Json := do
  let (root, agentId) ← ask (introducedPeer env label)
  if policy.taskTypes = [] then
    let cleared ← ask (fun s => .ok (s.autoApproveForRoot root).isSome)
    commit (fun s => .ok ((), deleteAutoApprove root s)) (fun (_ : StoreError) => internal)
    pure (.obj [("auto_approve", .str "off"), ("cleared", .bool cleared), ("label", .str label)])
  else
    commit (putAutoApprove agentId root policy now) (fun _ => internal)
    pure (.obj [("auto_approve", .str "on"), ("label", .str label),
      ("max_response_bytes", .num policy.maxResponseBytes), ("root_thumbprint", .str root),
      ("task_types", .arr (policy.taskTypes.map .str))])

variable {label t : String} {s : Store} {env : Env} {policy : AutoApprovePolicy} {n : ℕ}

theorem rootOf_of_introducedPeer {root agentId : String}
    (h : introducedPeer env label s = .ok (root, agentId)) : s.rootOf label = some root := by
  obtain ⟨imported, himported, h⟩ := bind_eq_ok.1 h
  obtain ⟨⟨agent, status⟩, -, h⟩ := bind_eq_ok.1 h
  rw [Store.rootOf, okOr_eq_ok.1 himported, map_some]
  exact congrArg some (Prod.mk.inj (ok.inj h)).1

theorem peerAutoApprove_eq_ok {now : Time} {s' : Store} {json : Json}
    (h : exec (peerAutoApprove env label policy now) s = (.ok json, s')) :
    ∃ root agentId, s.rootOf label = some root ∧
      s'.autoApproveForRoot root =
        if policy.taskTypes = [] then none else some (policy.row agentId root now).policy := by
  obtain ⟨e, -, ⟨⟩, -⟩ | ⟨⟨root, agentId⟩, hpeer, h⟩ := exec_ask_cases h
  refine ⟨root, agentId, rootOf_of_introducedPeer hpeer, ?_⟩
  dsimp only at h
  split at h
  case isTrue hempty =>
    rw [if_pos hempty]
    obtain ⟨e, ⟨⟩, -⟩ | ⟨cleared, -, h⟩ := exec_ask_cases h
    obtain ⟨e, ⟨⟩, -⟩ | ⟨u, s₁, hdelete, h⟩ := exec_commit_cases h
    have hs : deleteAutoApprove root s = s' := (snd_eq_of_ok hdelete).trans (Prod.mk.inj h).2
    rw [← hs, Store.autoApproveForRoot, deleteAutoApprove, Table.find_deleteWhere_self, map_none]
  case isFalse htypes =>
    rw [if_neg htypes]
    obtain ⟨e, -, ⟨⟩, -⟩ | ⟨u, s₁, hput, h⟩ := exec_commit_cases h
    obtain rfl : s₁ = s' := (Prod.mk.inj h).2
    exact autoApproveForRoot_putAutoApprove hput

/-! ## What a policy covers -/

def AutoApprovePolicy.Authorizes (policy : AutoApprovePolicy) (taskType : String) (bytes : ℕ) :
    Prop :=
  taskType ∈ policy.taskTypes ∧ bytes ≤ policy.maxResponseBytes

instance (policy : AutoApprovePolicy) (taskType : String) (bytes : ℕ) :
    Decidable (policy.Authorizes taskType bytes) :=
  inferInstanceAs (Decidable (_ ∧ _))

/-- A policy that its row keeps as it was set: the ceiling fits the column, every type is a line of
its own, and the carriage returns at the ends of lines do no harm.  A type before the last loses
one, so what is left must be another type or nothing, and the type itself must come back from the
last line or from one with a return more. -/
structure AutoApprovePolicy.Lossless (policy : AutoApprovePolicy) : Prop where
  ceiling : policy.maxResponseBytes ≤ maxSigned64
  oneLine : ∀ t ∈ policy.taskTypes, t ≠ "" ∧ '\n' ∉ t.toList
  chomped : ∀ u : String, u.push '\r' ∈ policy.taskTypes.dropLast → u = "" ∨ u ∈ policy.taskTypes
  returned : ∀ u : String, u.push '\r' ∈ policy.taskTypes →
    policy.taskTypes.getLast? = some (u.push '\r') ∨
      (u.push '\r').push '\r' ∈ policy.taskTypes.dropLast

section Lines

variable {init : List String} {last : String}

theorem mem_readBack_iff (h : ∀ t ∈ init ++ [last], t ≠ "" ∧ '\n' ∉ t.toList) :
    t ∈ (Text.lines ("\n".intercalate (init ++ [last]))).filter (fun s => s ≠ "") ↔
      t ≠ "" ∧ (t = last ∨ ∃ u ∈ init, Text.chomp u = t) := by
  have hlast : last ≠ "" := (h last (by simp)).1
  rw [Text.lines_intercalate init last (fun t ht => (h t ht).2) hlast, List.mem_filter,
    List.mem_append, List.mem_map, List.mem_singleton, decide_eq_true_iff, and_comm, or_comm]

theorem readBack_same_iff (h : ∀ t ∈ init ++ [last], t ≠ "") :
    (∀ t, (t ≠ "" ∧ (t = last ∨ ∃ u ∈ init, Text.chomp u = t)) ↔ t ∈ init ++ [last]) ↔
      (∀ u : String, u.push '\r' ∈ init → u = "" ∨ u ∈ init ++ [last]) ∧
        ∀ u : String, u.push '\r' ∈ init ++ [last] →
          last = u.push '\r' ∨ (u.push '\r').push '\r' ∈ init := by
  constructor
  · intro hsame
    refine ⟨fun u hu => ?_, fun u hu => ?_⟩
    · by_cases hempty : u = ""
      · exact .inl hempty
      · exact .inr ((hsame u).1 ⟨hempty, .inr ⟨_, hu, Text.chomp_push u⟩⟩)
    · obtain ⟨-, hlast | ⟨v, hv, hchomp⟩⟩ := (hsame _).2 hu
      · exact .inl hlast.symm
      · rcases Text.chomp_cases v with ⟨hv', hnot⟩ | hv'
        · exact absurd (hv'.symm.trans hchomp) (hnot u)
        · rw [hchomp] at hv'
          exact .inr (hv' ▸ hv)
  · rintro ⟨hchomped, hreturned⟩ t
    constructor
    · rintro ⟨hne, rfl | ⟨u, hu, rfl⟩⟩
      · exact mem_append_right _ mem_cons_self
      · rcases Text.chomp_cases u with ⟨hsame, -⟩ | hpush
        · rw [hsame]
          exact mem_append_left _ hu
        · exact (hchomped _ (hpush ▸ hu)).resolve_left hne
    · intro ht
      refine ⟨h t ht, ?_⟩
      rcases Text.chomp_cases t with ⟨hsame, -⟩ | hpush
      · rcases List.mem_append.1 ht with hinit | hlast
        · exact .inr ⟨t, hinit, hsame⟩
        · exact .inl (List.mem_singleton.1 hlast)
      · rcases hreturned _ (hpush ▸ ht) with hlast | hmore
        · exact .inl (hpush.trans hlast.symm)
        · rw [← hpush] at hmore
          exact .inr ⟨_, hmore, Text.chomp_push t⟩

end Lines

theorem toNat_toSigned64_of_le (h : n ≤ maxSigned64) : (toSigned64 n).toNat = n := by
  rw [toSigned64, if_pos h, Int.toNat_natCast]

theorem toNat_toSigned64_lt (h : ¬ n ≤ maxSigned64) : (toSigned64 n).toNat < n := by
  rw [toSigned64, if_neg h]
  unfold maxSigned64 at h
  omega

theorem authorizes_row_iff (hne : policy.taskTypes ≠ []) (agentId root : String) (now : Time) :
    (∀ t n, (policy.row agentId root now).policy.Authorizes t n ↔ policy.Authorizes t n) ↔
      policy.Lossless := by
  obtain ⟨init, last, htypes⟩ : ∃ init last, policy.taskTypes = init ++ [last] :=
    ⟨_, _, (dropLast_append_getLast hne).symm⟩
  have hread : (policy.row agentId root now).policy.taskTypes =
      (Text.lines ("\n".intercalate (init ++ [last]))).filter (fun s => s ≠ "") := by
    rw [← htypes]
    rfl
  have hmem : last ∈ policy.taskTypes := by
    rw [htypes]
    exact mem_append_right _ mem_cons_self
  constructor
  · intro hsame
    have htype : ∀ t, t ∈ (policy.row agentId root now).policy.taskTypes ↔ t ∈ policy.taskTypes := by
      intro t
      have := hsame t 0
      unfold AutoApprovePolicy.Authorizes at this
      simpa using this
    -- a line of the text is neither empty nor has it a line feed
    have honeLine : ∀ t ∈ init ++ [last], t ≠ "" ∧ '\n' ∉ t.toList := by
      intro t ht
      rw [← htypes, ← htype t, hread, List.mem_filter] at ht
      exact ⟨of_decide_eq_true ht.2, Text.newline_notMem_of_mem_lines ht.1⟩
    have hsame' := (readBack_same_iff (fun t ht => (honeLine t ht).1)).1 (fun t => by
      rw [← mem_readBack_iff honeLine, ← hread, htype, htypes])
    refine ⟨?_, htypes ▸ honeLine, ?_, ?_⟩
    · by_contra hceiling
      have hlast : (policy.row agentId root now).policy.Authorizes last policy.maxResponseBytes :=
        (hsame _ _).2 ⟨hmem, le_rfl⟩
      have hlower : (policy.row agentId root now).policy.maxResponseBytes < policy.maxResponseBytes :=
        toNat_toSigned64_lt hceiling
      exact absurd hlast.2 (not_le.2 hlower)
    · rw [htypes, dropLast_concat]
      exact hsame'.1
    · rw [htypes, dropLast_concat, getLast?_concat]
      exact fun u hu => (hsame'.2 u hu).imp_left (congrArg some)
  · rintro ⟨hceiling, honeLine, hchomped, hreturned⟩ t n
    rw [htypes] at honeLine
    rw [htypes, dropLast_concat] at hchomped hreturned
    rw [getLast?_concat] at hreturned
    have htype := (readBack_same_iff (fun t ht => (honeLine t ht).1)).2
      ⟨hchomped, fun u hu => (hreturned u hu).imp_left some.inj⟩ t
    have hbytes : (policy.row agentId root now).policy.maxResponseBytes = policy.maxResponseBytes :=
      toNat_toSigned64_of_le hceiling
    unfold AutoApprovePolicy.Authorizes
    rw [hread, mem_readBack_iff honeLine, htype, hbytes, htypes]

/-- The policy that is read back covers the pairs the operator meant exactly if none was meant or
the row keeps the policy as it was set. -/
theorem peerAutoApprove_round_trip_iff (env : Env) (label : String) (policy : AutoApprovePolicy)
    (now : Time) {s s' : Store} {json : Json}
    (h : exec (peerAutoApprove env label policy now) s = (.ok json, s')) :
    ∃ root, s.rootOf label = some root ∧
      ((∀ t n, (∃ stored, s'.autoApproveForRoot root = some stored ∧ stored.Authorizes t n) ↔
          policy.Authorizes t n) ↔
        policy.taskTypes = [] ∨ policy.Lossless) := by
  obtain ⟨root, agentId, hroot, hread⟩ := peerAutoApprove_eq_ok h
  refine ⟨root, hroot, ?_⟩
  by_cases hempty : policy.taskTypes = []
  · rw [if_pos hempty] at hread
    simp [hread, hempty, AutoApprovePolicy.Authorizes]
  · rw [if_neg hempty] at hread
    simp only [hread, some.injEq, exists_eq_left', hempty, false_or]
    exact authorizes_row_iff hempty agentId root now

def policyStore : Store where
  peerImports := .single ⟨"root-b", some "b", "", 1, 1700000000, none⟩
  peers := .single ⟨"root-b", "agent", ⟨rootIdentity "root-b" "tls-b", ""⟩, .active⟩

theorem lossless_of_plain {policy : AutoApprovePolicy} (hn : policy.maxResponseBytes ≤ maxSigned64)
    (h : ∀ t ∈ policy.taskTypes, t ≠ "" ∧ '\n' ∉ t.toList ∧ '\r' ∉ t.toList) : policy.Lossless where
  ceiling := hn
  oneLine t ht := ⟨(h t ht).1, (h t ht).2.1⟩
  chomped u hu := absurd (h _ ((List.dropLast_sublist _).subset hu)).2.2 (by simp)
  returned u hu := absurd (h _ hu).2.2 (by simp)

def twoTypes : AutoApprovePolicy := ⟨["https://akson.invalid/t", "https://akson.invalid/u"], 4096⟩

/-- A policy for two task types comes back as it was set. -/
theorem peerAutoApprove_round_trip_iff_two : ∃ json s',
    exec (peerAutoApprove Env.inert "b" twoTypes 1700000001) policyStore = (.ok json, s') ∧
    ∃ root, policyStore.rootOf "b" = some root ∧
      ∀ t n, (∃ stored, s'.autoApproveForRoot root = some stored ∧ stored.Authorizes t n) ↔
        twoTypes.Authorizes t n := by
  refine ⟨_, _, rfl, ?_⟩
  obtain ⟨root, hroot, hiff⟩ := peerAutoApprove_round_trip_iff Env.inert "b" twoTypes 1700000001
    (s := policyStore) rfl
  exact ⟨root, hroot, hiff.2 (.inr (lossless_of_plain (by decide) (by decide)))⟩

/-- A line feed inside a task type: the operator names one type, and two others are approved. -/
theorem peerAutoApprove_authorizes_more : ∃ json s' stored,
    exec (peerAutoApprove Env.inert "b" ⟨["review\nwrite"], 4096⟩ 1700000001) policyStore =
      (.ok json, s') ∧
    s'.autoApproveForRoot "root-b" = some stored ∧ stored.Authorizes "write" 4096 ∧
      ¬ AutoApprovePolicy.Authorizes ⟨["review\nwrite"], 4096⟩ "write" 4096 :=
  ⟨_, _, ⟨["review", "write"], 4096⟩, rfl, rfl, by decide, by decide⟩

end Akson
