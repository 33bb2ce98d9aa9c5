/-
# The evidence behind a slot

A submission names the role of the evidence behind each slot, and lists its evidence apart from the
slots.
-/
import Akson.Task.Completion

namespace Akson

open Operation Option List

/-- Each required slot names evidence that is there. -/
def SlotsBacked (required : List RequiredSlot) (slots : List SlotRecord)
    (evidence : List EvidenceEntry) : Prop :=
  ∀ req ∈ required, ∃ got role, slots.find? (fun s => s.slotId = req.slotId) = some got ∧
    got.evidenceRole = some role ∧ ∃ e ∈ evidence, e.role = role

theorem exists_role_of_satisfied {c : Contract} {slots : List SlotRecord}
    (h : checkSlots c.requiredSlots slots = .ok ()) {req : RequiredSlot}
    (hreq : req ∈ c.requiredSlots) :
    ∃ got role, slots.find? (fun s => s.slotId = req.slotId) = some got ∧
      got.evidenceRole = some role := by
  obtain ⟨hroles, hmet⟩ := checkSlots_eq_ok_iff.1 h
  obtain ⟨got, hgot, hresult, -⟩ := hmet req hreq
  obtain ⟨slot, -, rfl⟩ := mem_map.1 hreq
  have hconclusive : got.result.conclusive = true := by
    rw [hresult]
    rfl
  obtain ⟨role, hrole⟩ := ne_none_iff_exists'.1
    (hroles got (mem_of_find?_eq_some hgot) hconclusive)
  exact ⟨got, role, hgot, hrole⟩

/-- Every required slot of an accepted submission names a role.  The signed manifest holds evidence
of that role exactly if each role that the first record of a required slot names is among the
roles of the submitted evidence. -/
theorem required_slots_backed_iff (env : Env) (taskResultKey : PurposeKey) (sub : ResultSubmission)
    (now : Time) (s s' : Store) (json : Json)
    (h : exec (submitResult env taskResultKey sub now) s = (.ok json, s')) :
    ∃ task, Accepts env s sub.taskId task ∧
      (SlotsBacked task.contract.requiredSlots sub.slots (sub.manifest env task).evidence ↔
        ∀ req ∈ task.contract.requiredSlots, ∀ got role,
          sub.slots.find? (fun s => s.slotId = req.slotId) = some got →
          got.evidenceRole = some role → role ∈ sub.evidence.map EvidenceEntry.role) := by
  obtain ⟨task, haccepts, hattestable, -⟩ := exec_submitResult_eq_ok_iff.1 h
  refine ⟨task, haccepts, ?_⟩
  have hevidence : ∀ e, e ∈ (sub.manifest env task).evidence ↔ e ∈ sub.evidence :=
    fun e => mem_insertionSort _
  constructor
  · intro hbacked req hreq got role hgot hrole
    obtain ⟨got', role', hgot', hrole', e, he, rfl⟩ := hbacked req hreq
    obtain rfl := some.inj (hgot.symm.trans hgot')
    obtain rfl := some.inj (hrole.symm.trans hrole')
    exact mem_map_of_mem ((hevidence e).1 he)
  · intro hlisted req hreq
    obtain ⟨got, role, hgot, hrole⟩ := exists_role_of_satisfied hattestable.satisfied hreq
    obtain ⟨e, he, heq⟩ := mem_map.1 (hlisted req hreq got role hgot hrole)
    exact ⟨got, role, hgot, hrole, e, (hevidence e).2 he, heq⟩

/-! ## A slot without evidence -/

def slotWire : Wire where
  value := slottedValue "none" [.obj [("slot_id", .str "tests"), ("statement_type", .str "t"),
      ("trust_classes", .arr [.str "self-attested"])]] 0 []
    [.str "respond", .str "artifact_export"] [] []
  contract := { Contract.sample with
    requestedCapabilities := [.respond, .artifactExport]
    evidenceSlots := [⟨"tests", "t", [.selfAttested]⟩] }
  digest := beBytes 32 0xc13a4904df4fccc0b80a13de34f9e7f7138bc73ce25e80dd9b04f1f14fee2933
  signature := beBytes 32 0xe4444069559727a142ded11f7505db9bdd4227c371f8b9b58e0a096194e8ba08 ++
    beBytes 32 0x0f4e5f541565b11cc0c1dfeeb432935db2eb7fd2fbb546765f2f7eb67deeeb04
  texts := []

def slotGrants : CapabilityVector where
  grants := slotWire.contract.grants "task-1" (hex slotWire.digest) "2027-01-15T09:00:00Z"
    exportConfig
  nonempty := by decide
  distinct := by decide

def slotIssued : IssuedWorkOrder where
  order := slotWire.contract.workOrder "task-1" "context-1" ⟨0, hex slotWire.digest⟩
    "2027-01-15T09:00:00Z" slotGrants exportConfig
  digest := "938b385ad6234fc15c094a297c9bf9ec8066ffd6d3db5a1482df54007f83af5d"
  mac := "e5a4d36d3842c16e7b295eb07489933760df93e0fd46ff63381236b9a8d91f41"

def slotPayload : Bytes :=
  Json.canonicalBytes intText (ResultManifest.json ⟨1, { exportHeader with
      contractDigest := hex slotWire.digest, workOrderReceiptDigest := slotIssued.digest },
    [exportEntry "a" 0, exportEntry "b" 1], [], [⟨"tests", some "e", .passed, .full⟩], []⟩)

def slotSha256 (b : Bytes) : Bytes :=
  if b = utf8 "nonce" then nonceHash
  else if b = List.replicate 1024 0 then zeroHash
  else if b = slotPayload then
    beBytes 32 0x34e52e22c3394393fff61586a505444d856297a32b3c480f97681ff4e582f619
  else slotWire.sha256 b

def slotEnv : Env :=
  { slotWire.taskEnv with
    sha256 := slotSha256
    signEd25519 := fun _ _ =>
      beBytes 32 0xc841068e80a718a9add6492e7d0247c4f4c37730e7bf4e6645ede0e667b0279f ++
      beBytes 32 0x9b4392824ab1df26a60d328169449a1e81d2033b4b6984fff2e99a0ec4931407 }

def slotStore : Store :=
  { slotWire.stored .locked with
    attempts := Table.single { exportAttempt with
      workOrderId := slotIssued.order.workOrderId, workOrderDigest := slotIssued.digest }
    workOrders := Table.single ⟨slotIssued.order.workOrderId, "task-1", slotIssued.digest,
      some slotIssued, 1800000000⟩ }

def slotTask : AcceptedTask :=
  ⟨⟨0, hex slotWire.digest⟩, slotWire.contract, "context-1", slotIssued.order.workOrderId, slotIssued,
    false⟩

theorem length_sha256_slotEnv (b : Bytes) : (slotEnv.sha256 b).length = 32 := by
  change (slotSha256 b).length = 32
  unfold slotSha256 Wire.sha256
  split_ifs <;> rfl

theorem loadContract_slotEnv :
    (slotWire.stored .locked).loadContract slotEnv (hex slotWire.digest) = .ok slotWire.contract :=
  Store.loadContract_of_reads (slotWire.loadContract_stored .locked) rfl rfl rfl

theorem accepts_slotStore : Accepts slotEnv slotStore "task-1" slotTask where
  locked := slotWire.contractHead_stored .locked
  loaded := loadContract_slotEnv
  claimed := rfl
  ordered := Store.getWorkOrder_eq_some_iff.2 ⟨_, mem_singleton_self _, rfl, rfl⟩
  context := rfl
  completed := by decide

theorem draftedUnder_slotIssued :
    DraftedUnder slotEnv slotWire.contract "task-1" slotIssued.order := by
  refine ⟨exportConfig, 1800000000, slotWire.stored .locked, draftOrder_eq_ok_iff.2
    ⟨_, _, _, slotGrants, slotWire.contractHead_stored .locked, loadContract_slotEnv, ?_, ?_, rfl,
      rfl⟩, loadContract_slotEnv⟩
  · exact ⟨by decide, ⟨"2027-01-15T09:00:00Z", by decide +kernel⟩, nofun, fun _ => by decide⟩
  · decide

theorem completable_slotStore : Completable slotEnv exportKey slotStore "task-1" slotTask where
  header := by
    refine ⟨by decide, by decide, by decide, by decide, isSha256Hex_hex rfl,
      isSha256Hex_hex (length_sha256_slotEnv _), by decide⟩
  purpose := rfl
  runs := .inr ⟨⟨.claimed, rfl, .inl rfl⟩, rfl⟩

def unbacked : ResultSubmission := overfull slotWire.contract "task-1" .response

theorem exec_unbacked : ∃ json s',
    exec (submitResult slotEnv exportKey unbacked 1800000000) slotStore = (.ok json, s') := by
  have hconforms := Store.conforms_of_loadContract loadContract_slotEnv
  refine completable_slotStore.completes accepts_slotStore ?_ 1800000000
  exact ⟨gated_overfull hconforms draftedUnder_slotIssued (by decide) (.inl ⟨rfl, by decide⟩),
    satisfied_overfull _ _ _, distinct_overfull _ _ _,
    valid_overfull length_sha256_slotEnv hconforms completable_slotStore.header .response, rfl⟩

/-- A result completes the task though the evidence that its required slot names is nowhere. -/
theorem slot_passed_without_evidence : ∃ json s',
    exec (submitResult slotEnv exportKey unbacked 1800000000) slotStore = (.ok json, s') ∧
    Accepts slotEnv slotStore unbacked.taskId slotTask ∧
    ¬ SlotsBacked slotTask.contract.requiredSlots unbacked.slots
      (unbacked.manifest slotEnv slotTask).evidence := by
  obtain ⟨json, s', hrun⟩ := exec_unbacked
  refine ⟨json, s', hrun, accepts_slotStore, fun hbacked => ?_⟩
  obtain ⟨_, _, -, -, e, he, -⟩ := hbacked ⟨"tests", .passed, false⟩ (by decide)
  exact absurd ((mem_insertionSort _).1 he) not_mem_nil

theorem required_slots_backed_iff_unbacked : ∃ task,
    Accepts slotEnv slotStore unbacked.taskId task ∧
      (SlotsBacked task.contract.requiredSlots unbacked.slots
          (unbacked.manifest slotEnv task).evidence ↔
        ∀ req ∈ task.contract.requiredSlots, ∀ got role,
          unbacked.slots.find? (fun s => s.slotId = req.slotId) = some got →
          got.evidenceRole = some role → role ∈ unbacked.evidence.map EvidenceEntry.role) := by
  obtain ⟨json, s', hrun⟩ := exec_unbacked
  exact required_slots_backed_iff slotEnv exportKey unbacked 1800000000 slotStore s' json hrun

end Akson
