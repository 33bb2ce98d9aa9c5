/-
# A signed manifest is read back

What a performer signs is what a requester verifies.
-/
import Akson.Lib.JsonOrder
import Akson.Evidence.ResultManifest

namespace Akson

open Except Option List ResultManifest

/-! ## Reading -/

theorem OutputEntry.ofJson_sortKeys (o : OutputEntry) :
    OutputEntry.ofJson (Json.sortKeys o.json) = some o := by
  have hindex : o.json.getNat? "part_index" = some o.partIndex := Json.nat?_natCast _
  have hlength : o.json.getNat? "byte_length" = some o.byteLength := Json.nat?_natCast _
  simp only [OutputEntry.ofJson, Json.getStr?_sortKeys, Json.getNat?_sortKeys, hindex, hlength]
  rfl

theorem EvidenceEntry.ofJson_sortKeys (e : EvidenceEntry) :
    EvidenceEntry.ofJson (Json.sortKeys e.json) = some e := by
  have hlength : e.json.getNat? "byte_length" = some e.byteLength := Json.nat?_natCast _
  simp only [EvidenceEntry.ofJson, Json.getStr?_sortKeys, Json.getNat?_sortKeys, hlength]
  rfl

theorem SlotRecord.ofJson_sortKeys (slot : SlotRecord) :
    SlotRecord.ofJson (Json.sortKeys slot.json) = some slot := by
  obtain ⟨slotId, evidenceRole, result, disclosure⟩ := slot
  simp only [SlotRecord.ofJson, Json.getStr?_sortKeys, Json.getOptional?_str_sortKeys]
  cases evidenceRole <;> cases result <;> cases disclosure <;> rfl

theorem Omission.ofJson_sortKeys (o : Omission) :
    Omission.ofJson (Json.sortKeys o.json) = some o := by
  simp only [Omission.ofJson, Json.getStr?_sortKeys]
  rfl

theorem ManifestHeader.ofJson_sortKeys (m : ResultManifest) :
    ManifestHeader.ofJson (Json.sortKeys m.json) = some m.header := by
  have hrevision : m.json.getNat? "contract_revision" = some m.header.contractRevision :=
    Json.nat?_natCast _
  simp only [ManifestHeader.ofJson, Json.getStr?_sortKeys, Json.getNat?_sortKeys, hrevision]
  rfl

theorem ResultManifest.ofJson_sortKeys (m : ResultManifest) :
    ofJson (Json.sortKeys m.json) = some m := by
  have hversion : m.json.getNat? "schema_version" = some m.schemaVersion := Json.nat?_natCast _
  have houtputs : m.json.getArr? "outputs" = some (m.outputs.map OutputEntry.json) := rfl
  have hevidence : m.json.getArr? "evidence" = some (m.evidence.map EvidenceEntry.json) := rfl
  have hslots : m.json.getArr? "slots" = some (m.slots.map SlotRecord.json) := rfl
  have homissions : m.json.getArr? "omissions" = some (m.omissions.map Omission.json) := rfl
  simp only [ofJson, Json.getNat?_sortKeys, Json.getArr?_sortKeys, hversion,
    ManifestHeader.ofJson_sortKeys, houtputs, hevidence, hslots, homissions, map_some,
    bind_some, bind_eq_bind, Json.mapM_map_sortKeys OutputEntry.ofJson_sortKeys,
    Json.mapM_map_sortKeys EvidenceEntry.ofJson_sortKeys,
    Json.mapM_map_sortKeys SlotRecord.ofJson_sortKeys,
    Json.mapM_map_sortKeys Omission.ofJson_sortKeys]

/-! ## The schema -/

theorem orderFree_validOutputEntry : Json.OrderFree validOutputEntry :=
  Json.orderFree_record (by simp)

theorem orderFree_validEvidenceEntry : Json.OrderFree validEvidenceEntry :=
  Json.orderFree_record (by simp)

theorem orderFree_validSlotRecord : Json.OrderFree validSlotRecord := by
  intro v
  have hrecord : Json.OrderFree (Json.record
      [("slot_id", Json.strWith isSlug),
       ("result", Json.oneOf ["passed", "failed", "error", "not_run", "unavailable"]),
       ("disclosure", Json.oneOf ["full", "summary", "redacted"])]
      [("evidence_role", Json.strWith isSlug)]) := Json.orderFree_record (by simp)
  have hresult : ((v.get? "result").map Json.sortKeys).all (Json.oneOf ["passed", "failed", "error"]) =
      (v.get? "result").all (Json.oneOf ["passed", "failed", "error"]) := by
    cases v.get? "result" with
    | none => rfl
    | some w => exact Json.orderFree_oneOf _ w
  rw [validSlotRecord, hrecord v, Json.get?_sortKeys, hresult, Json.hasMember_sortKeys, validSlotRecord]

theorem orderFree_validOmission : Json.OrderFree validOmission :=
  Json.orderFree_record (by simp)

theorem orderFree_validateResultManifest : Json.OrderFree validateResultManifest := by
  have houtputs := fun lo hi => Json.orderFree_listOf lo hi orderFree_validOutputEntry
  have hevidence := fun lo hi => Json.orderFree_listOf lo hi orderFree_validEvidenceEntry
  have hslots := fun lo hi => Json.orderFree_listOf lo hi orderFree_validSlotRecord
  have homissions := fun lo hi => Json.orderFree_listOf lo hi orderFree_validOmission
  exact Json.orderFree_record (by simp [houtputs, hevidence, hslots, homissions])

/-! ## Verifying -/

/-- The manifest's signature verifies, and its bytes are read back. -/
structure Env.Attests (env : Env) (secret : Bytes) (m : ResultManifest) : Prop where
  signs : env.Signs secret (pae payloadType (Json.canonicalBytes env.fmtNum m.json))
  reads : env.parseJson (Json.canonicalBytes env.fmtNum m.json) = some (Json.sortKeys m.json)

theorem ResultManifest.verify_sign {env : Env} {m : ResultManifest} {key : PurposeKey}
    {envelope : Envelope} (hsigned : m.sign env key = .ok envelope) (h : env.Attests key.secret m) :
    verify env envelope (key.verifying env) =
      .ok (m, hex (env.sha256 (Json.canonicalBytes env.fmtNum m.json))) := by
  obtain ⟨hvalid, hpurpose, rfl⟩ := sign_eq_ok_iff.1 hsigned
  have hschema : validateResultManifest (Json.sortKeys m.json) = true := by
    rw [orderFree_validateResultManifest]
    exact (validate_eq_ok_iff.1 hvalid).1
  simp only [verify, bind_eq_ok, mapError_eq_ok, ensure_eq_ok,
    okOr_eq_ok, PurposeVerifyingKey.keyFor_eq_ok_iff, exists_const]
  exact ⟨rfl, _, ⟨hpurpose, rfl⟩, _, dsseVerify_dsseSign h.signs, _, h.reads, hschema,
    Json.canonicalBytes_sortKeys _ _, m, ofJson_sortKeys m, (), hvalid, rfl⟩

theorem ResultManifest.verify_eq_ok {env : Env} {envelope : Envelope} {key : PurposeVerifyingKey}
    {m : ResultManifest} {digest : String} (h : verify env envelope key = .ok (m, digest)) :
    ∃ payload, decodeB64 envelope.payload = some payload ∧
      (env.parseJson payload).bind ofJson = some m ∧ m.validate = .ok () ∧
      digest = hex (env.sha256 payload) := by
  simp only [verify, bind_eq_ok, mapError_eq_ok, ensure_eq_ok, okOr_eq_ok] at h
  obtain ⟨-, -, vk, -, payload, hpayload, value, hvalue, -, -, -, -, m', hm, u, hvalid, hout⟩ := h
  cases hout
  exact ⟨payload, (dsseVerify_eq_ok hpayload).1, by rw [hvalue, bind_some, hm], hvalid, rfl⟩

/-- **Manifests and their digests.**  A valid manifest that is signed verifies to itself and to its
bundle digest; and two envelopes that verify with one bundle digest, unless their payloads collide,
carry one manifest, which is in order and conforms to the schema. -/
theorem manifest_of_bundle_digest (env : Env) :
    (∀ m key, m.validate = .ok () → key.purpose = .taskResult → env.Attests key.secret m →
      ∃ envelope digest, m.sign env key = .ok envelope ∧ m.bundleDigest env = .ok digest ∧
        verify env envelope (key.verifying env) = .ok (m, digest)) ∧
    (∀ e e' key key' m m' digest, verify env e key = .ok (m, digest) →
      verify env e' key' = .ok (m', digest) →
      ((decodeB64 e.payload).map env.sha256 = (decodeB64 e'.payload).map env.sha256 →
        decodeB64 e.payload = decodeB64 e'.payload) →
        m = m' ∧ m.isCanonicallyOrdered = true ∧ validateResultManifest m.json = true) := by
  constructor
  · intro m key hvalid hpurpose hattests
    obtain ⟨envelope, hsigned⟩ : ∃ envelope, m.sign env key = .ok envelope :=
      ⟨_, sign_eq_ok_iff.2 ⟨hvalid, hpurpose, rfl⟩⟩
    exact ⟨envelope, _, hsigned, bundleDigest_eq_ok_iff.2 ⟨hvalid, rfl⟩,
      verify_sign hsigned hattests⟩
  · intro e e' key key' m m' digest h h' hsha
    obtain ⟨payload, hpayload, hread, hvalid, rfl⟩ := verify_eq_ok h
    obtain ⟨payload', hpayload', hread', -, hdigest⟩ := verify_eq_ok h'
    rw [hpayload, hpayload', map_some, map_some] at hsha
    -- one digest, so one text, which is read as one manifest
    rw [← some.inj (hsha (congrArg some (hex_inj hdigest))), hread] at hread'
    obtain ⟨hschema, hordered⟩ := validate_eq_ok_iff.1 hvalid
    exact ⟨some.inj hread', hordered, hschema⟩

end Akson
