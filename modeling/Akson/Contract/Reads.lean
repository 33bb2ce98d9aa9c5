/-
# Every payload that conforms is read

The schema is the authority on the shape of a contract: what conforms to it has every field that the
typed contract is read from.
-/
import Akson.Contract.Contract

namespace Akson

open Json Option

theorem exists_bind {α β : Type} {x : Option α} {g : α → Option β} (hx : ∃ a, x = some a)
    (hg : ∀ a, ∃ b, g a = some b) : ∃ b, (x >>= g) = some b := by
  obtain ⟨a, rfl⟩ := hx
  exact hg a

@[simp]
theorem reads_identity : Reads validIdentity Identity.ofJson := by
  intro v h
  simp only [Identity.ofJson, getStr?_eq]
  iterate 3 refine exists_bind (exists_read h (by simp) rfl) fun _ => ?_
  exact ⟨_, rfl⟩

@[simp]
theorem reads_kind : Reads (oneOf ["text", "data"]) (fun w => w.str?.bind PartKind.ofStr) :=
  reads_oneOf (by decide)

@[simp]
theorem reads_rule : Reads (oneOf ["utf8-exact", "jcs"]) (fun w => w.str?.bind CanonicalRule.ofStr) :=
  reads_oneOf (by decide)

@[simp]
theorem reads_inputEntry : Reads validInputEntry InputEntry.ofJson := by
  intro v h
  rw [validInputEntry, Bool.and_eq_true] at h
  simp only [InputEntry.ofJson, getStr?_eq, bind_assoc, getBool?_eq]
  iterate 5 refine exists_bind (exists_read h.1 (by simp) rfl) fun _ => ?_
  refine exists_bind (exists_getOptional? h.1 (by simp [oneOf])) fun _ => ?_
  iterate 5 refine exists_bind (exists_read h.1 (by simp) rfl) fun _ => ?_
  exact ⟨_, rfl⟩

@[simp]
theorem reads_deliverable : Reads validDeliverable Deliverable.ofJson := by
  intro v h
  simp only [Deliverable.ofJson, getStr?_eq]
  iterate 2 refine exists_bind (exists_read h (by simp) rfl) fun _ => ?_
  exact ⟨_, rfl⟩

@[simp]
theorem reads_trustClass : Reads (oneOf ["self-attested", "independently-verified",
    "hardware-attested"]) (fun w => w.str?.bind TrustClass.ofStr) :=
  reads_oneOf (by decide)

@[simp]
theorem reads_evidenceSlot : Reads validEvidenceSlot EvidenceSlot.ofJson := by
  intro v h
  obtain ⟨classes, hclasses⟩ := exists_read h (k := "trust_classes")
    (f := arrOf? (fun w => w.str?.bind TrustClass.ofStr)) (by simp) rfl
  rw [← getArr?_mapM] at hclasses
  obtain ⟨xs, hxs, hclasses⟩ := bind_eq_some_iff.1 hclasses
  simp only [EvidenceSlot.ofJson, getStr?_eq, hxs]
  iterate 2 refine exists_bind (exists_read h (by simp) rfl) fun _ => ?_
  exact exists_bind (x := xs.mapM _) ⟨classes, hclasses⟩ fun _ => ⟨_, rfl⟩

@[simp]
theorem reads_limits : Reads validLimits Limits.ofJson := by
  intro v h
  simp only [Limits.ofJson, getStr?_eq]
  iterate 2 refine exists_bind (exists_read h (by simp) rfl) fun _ => ?_
  exact exists_bind (exists_getOptional? h (by simp)) fun _ => ⟨_, rfl⟩

@[simp]
theorem reads_capability : Reads (oneOf ["respond", "read_supplied_inputs", "processor_use",
    "artifact_export"]) (fun w => w.str?.bind Capability.ofStr) :=
  reads_oneOf (by decide)

@[simp]
theorem reads_disclosure : Reads (oneOf ["none", "local-only", "named-remote"])
    (fun w => w.str?.bind Disclosure.ofStr) :=
  reads_oneOf (by decide)

@[simp]
theorem reads_constraints : Reads
    (record [("disclosure", oneOf ["none", "local-only", "named-remote"])] [])
    (fun w => (w.get? "disclosure").bind fun d => d.str?.bind Disclosure.ofStr) :=
  fun _ h => exists_read h (by simp) rfl

@[simp]
theorem reads_retention : Reads (record [("days", intIn 0 3650)] [])
    (fun w => (w.getNat? "days").map RetentionRequest.mk) := by
  intro v h
  obtain ⟨days, hdays⟩ := exists_read h (k := "days") (f := nat?) (by simp) rfl
  exact ⟨⟨days⟩, congrArg (Option.map RetentionRequest.mk) hdays⟩

@[simp]
theorem reads_recipient : Reads (fun w => w = .str "request-origin")
    (fun w => w.str?.bind ResultRecipient.ofStr) := by
  intro w h
  rw [of_decide_eq_true h]
  exact ⟨.requestOrigin, rfl⟩

@[simp]
theorem reads_version : Reads (fun w => w = .num 1) nat? := by
  intro w h
  rw [of_decide_eq_true h]
  exact ⟨1, rfl⟩

theorem reads_contract : Reads validateContract Contract.ofJson := by
  intro v h
  rw [validateContract, Bool.and_eq_true] at h
  simp only [Contract.ofJson, getStr?_eq, bind_assoc, getArr?_mapM]
  iterate 3 refine exists_bind (exists_read h.1 (by simp) rfl) fun _ => ?_
  refine exists_bind (exists_getOptional? h.1 (by simp)) fun _ => ?_
  iterate 2 refine exists_bind (exists_read h.1 (by simp) rfl) fun _ => ?_
  iterate 2 refine exists_bind (exists_getOptional? h.1 (by simp)) fun _ => ?_
  iterate 10 refine exists_bind (exists_read h.1 (by simp) rfl) fun _ => ?_
  refine exists_bind (exists_getOptional? h.1 (by simp)) fun _ => ?_
  iterate 2 refine exists_bind (exists_read h.1 (by simp) rfl) fun _ => ?_
  exact ⟨_, rfl⟩

theorem exists_parsePayload_iff {env : Env} {payload : Bytes} :
    (∃ parsed, parsePayload env payload = .ok parsed) ↔
      ∃ value, Json.parse env.fmtFloat env.readJson payload = .ok value ∧
        Json.canonicalBytes env.fmtNum value = payload ∧ validateContract value = true := by
  simp only [parsePayload, Except.bind_eq_ok, Except.mapError_eq_ok, Except.ensure_eq_ok,
    Except.okOr_eq_ok, exists_const]
  constructor
  · rintro ⟨_, value, hvalue, hcanonical, hschema, -⟩
    exact ⟨value, hvalue, hcanonical, hschema⟩
  · rintro ⟨value, hvalue, hcanonical, hschema⟩
    obtain ⟨contract, hcontract⟩ := reads_contract value hschema
    exact ⟨_, value, hvalue, hcanonical, hschema, contract, hcontract, rfl⟩

/-- **The payloads of contracts.**  A payload is accepted exactly if the strict reader reads it within
its limits, it is the canonical text of what is read, and that conforms to the schema; and two
payloads that are accepted with one digest, unless they collide, are read as one contract. -/
theorem payload_accepted_iff (env : Env) :
    (∀ payload, (∃ parsed, parsePayload env payload = .ok parsed) ↔
      ∃ value, Json.parse env.fmtFloat env.readJson payload = .ok value ∧
        Json.canonicalBytes env.fmtNum value = payload ∧ validateContract value = true) ∧
    (∀ payload payload' parsed parsed',
      (env.sha256 payload = env.sha256 payload' → payload = payload') →
      parsePayload env payload = .ok parsed → parsePayload env payload' = .ok parsed' →
      parsed.digest = parsed'.digest → parsed.contract = parsed'.contract) := by
  refine ⟨fun _ => exists_parsePayload_iff, fun _ _ _ _ hsha h h' hdigest => ?_⟩
  rw [(parsePayload_digest h).1, (parsePayload_digest h').1] at hdigest
  rw [hsha (hex_inj hdigest), h'] at h
  cases h
  rfl

end Akson
