/-
# Configured processors

The processors the operator has configured, and their credentials.  A second configuration under an
id replaces the first, and so does a second credential: a lookup answers what is there now.
-/
import Akson.Store.Schema

namespace Akson

def ProcessorConfig.row (config : ProcessorConfig) (now : Time) : ProcessorRow :=
  ⟨config.processorId, config.provider, if config.isLocal then "local" else "remote", config, now⟩

def ProcessorRow.reconfigured (new r : ProcessorRow) : ProcessorRow :=
  { r with provider := new.provider, location := new.location, config := new.config }

/-- Configure a processor, or replace its configuration. -/
def putProcessor (config : ProcessorConfig) (now : Time) (s : Store) :
    Except StoreError (Unit × Store) :=
  match s.processors.upsert (fun r => r.processorId = config.processorId)
    (ProcessorRow.reconfigured (config.row now)) (config.row now) with
  | none => .error .db
  | some rows => .ok ((), ({ s with processors := rows } : Store).auditAppend now
      "processor.configured" config.processorId)

def Store.getProcessor (s : Store) (processorId : String) : Option ProcessorConfig :=
  (s.processors.find (fun r => r.processorId = processorId)).map ProcessorRow.config

variable {config : ProcessorConfig} {now : Time} {s s' : Store}

theorem putProcessor_eq (h : putProcessor config now s = .ok ((), s')) :
    ∃ rows, s.processors.upsert (fun r => r.processorId = config.processorId)
        (ProcessorRow.reconfigured (config.row now)) (config.row now) = some rows ∧
      s' = ({ s with processors := rows } : Store).auditAppend now "processor.configured"
        config.processorId := by
  unfold putProcessor at h
  split at h
  case h_1 => cases h
  case h_2 rows hrows =>
    cases h
    exact ⟨rows, hrows, rfl⟩

theorem putProcessor_total (config : ProcessorConfig) (now : Time) (s : Store) :
    ∃ s', putProcessor config now s = .ok ((), s') := by
  unfold putProcessor
  split
  case h_1 hnone =>
    obtain ⟨a, hclash, hother⟩ := Table.clash_of_upsert_eq_none hnone
    exact absurd hclash (of_decide_eq_false hother)
  case h_2 => exact ⟨_, rfl⟩

theorem getProcessor_upsert {rows : Table ProcessorRow}
    (h : s.processors.upsert (fun r => r.processorId = config.processorId)
      (ProcessorRow.reconfigured (config.row now)) (config.row now) = some rows)
    (id : String) : ({ s with processors := rows } : Store).getProcessor id =
      if id = config.processorId then some config else s.getProcessor id := by
  by_cases hid : id = config.processorId
  · subst hid
    rw [if_pos rfl, Store.getProcessor, Table.find_upsert_self h (fun _ => rfl) (decide_eq_true rfl)]
    cases s.processors.find (fun r => r.processorId = config.processorId) <;> rfl
  · rw [if_neg hid, Store.getProcessor, Store.getProcessor,
      Table.find_upsert_of_not h (fun _ => rfl) (decide_eq_true rfl)]
    intro r hr
    exact decide_eq_false (fun hr' => hid (hr'.symm.trans (of_decide_eq_true hr)))

/-! ## Credentials -/

def Store.getCredential (s : Store) (processorId : String) : Option Bytes :=
  (s.processorCredentials.find (fun r => r.processorId = processorId)).map CredentialRow.credential

def CredentialRow.renewed (new r : CredentialRow) : CredentialRow :=
  { r with credential := new.credential, updatedAt := new.updatedAt }

def putCredential (processorId : String) (credential : Bytes) (now : Time) (s : Store) :
    Except StoreError (Unit × Store) :=
  let row : CredentialRow := ⟨processorId, credential, now⟩
  match s.processorCredentials.upsert (fun r => r.processorId = processorId)
    (CredentialRow.renewed row) row with
  | none => .error .db
  | some rows => .ok ((), ({ s with processorCredentials := rows } : Store).auditAppend now
      "processor.credential_set" processorId)

theorem getCredential_putCredential {processorId : String} {credential : Bytes}
    (h : putCredential processorId credential now s = .ok ((), s')) :
    s'.getCredential processorId = some credential ∧ s'.processors = s.processors ∧
      s'.processorCalls = s.processorCalls := by
  unfold putCredential at h
  dsimp only at h
  split at h
  case h_1 => cases h
  case h_2 rows hrows =>
    cases h
    refine ⟨?_, rfl, rfl⟩
    change (rows.find _).map CredentialRow.credential = _
    rw [Table.find_upsert_self hrows (fun _ => rfl) (decide_eq_true rfl)]
    cases s.processorCredentials.find (fun r => r.processorId = processorId) <;> rfl

theorem putCredential_total (processorId : String) (credential : Bytes) (now : Time) (s : Store) :
    ∃ s', putCredential processorId credential now s = .ok ((), s') := by
  unfold putCredential
  dsimp only
  split
  case h_1 hnone =>
    obtain ⟨a, hclash, hother⟩ := Table.clash_of_upsert_eq_none hnone
    exact absurd hclash (of_decide_eq_false hother)
  case h_2 => exact ⟨_, rfl⟩

end Akson
