/-
# What a completed task stands for

Three facts about submissions: what the gate bounds, which digest is reported, and what a refused
submission leaves behind.
-/
import Akson.Task.Result

namespace Akson

open Operation Except Option List Table

/-! ## The bytes of a result -/

def OneOutput (c : Contract) (order : WorkOrder) : Prop :=
  order.capabilities.grant .artifactExport = none ∨
    (order.capabilities.grant .respond = none ∧ c.deliverables.length ≤ 1)

/-- The task can be completed, up to its outputs. -/
structure Completable (env : Env) (taskResultKey : PurposeKey) (s : Store) (taskId : String)
    (task : AcceptedTask) : Prop where
  header : (task.header env taskId).Conforms
  purpose : taskResultKey.purpose = .taskResult
  runs : task.completed = true ∨ (∃ state, s.attemptState task.workOrderId = some state ∧
    state.active) ∧ s.resultRow task.workOrderId = none

def Contract.scopeOn (c : Contract) : OutputChannel → OutputScope
  | .response => ⟨c.resultRecipient.asStr, none, c.limits.maxResponseBytes, 1⟩
  | .artifact => ⟨c.resultRecipient.asStr, some (c.deliverables.map Deliverable.mediaType),
      c.limits.maxResponseBytes, max c.deliverables.length 1⟩

theorem Contract.Conforms.maxCount_le {c : Contract} (h : c.Conforms) (channel : OutputChannel) :
    (c.scopeOn channel).maxCount ≤ 16 := by
  cases channel with
  | response => exact Nat.le_of_ble_eq_true rfl
  | artifact => exact max_le h.deliverables.2 (by decide)

def DraftedUnder (env : Env) (c : Contract) (taskId : String) (order : WorkOrder) : Prop :=
  ∃ config now s, draftOrder env taskId config now s = .ok order ∧
    s.loadContract env order.contractDigest = .ok c

variable {id : String}

section Limit

variable {env : Env} {taskResultKey : PurposeKey} {sub : ResultSubmission} {task : AcceptedTask}
  {taskId : String} {now : Time} {s s' : Store} {c : Contract} {order : WorkOrder}
  {channel : OutputChannel}

theorem outputScope_of_mem_grants {digest deadline : String} {config : IssueConfig} {g : Grant}
    (hg : g ∈ c.grants taskId digest deadline config) (hcomponent : g.component = channel.component) :
    g.outputScope = some (c.scopeOn channel) := by
  rcases Contract.mem_grants.1 hg with ⟨capability, -, hgrant⟩ | ⟨id, -, rfl⟩ | ⟨-, rfl⟩
  · cases capability with
    | respond =>
      cases hgrant
      cases channel with
      | response => rfl
      | artifact => cases hcomponent
    | readSuppliedInputs =>
      cases hgrant
      cases channel <;> cases hcomponent
    | processorUse => cases hgrant
    | artifactExport => cases hgrant
  · cases channel <;> cases hcomponent
  · cases channel with
    | response => cases hcomponent
    | artifact => rfl

theorem DraftedUnder.outputScope (h : DraftedUnder env c taskId order) :
    order.capabilities.outputScope channel =
      (order.capabilities.grant channel.component).map (fun _ => c.scopeOn channel) := by
  obtain ⟨config, now, s, hdraft, hload⟩ := h
  obtain ⟨head, c', deadline, v, -, hload', -, -, hv, rfl⟩ := draftOrder_eq_ok_iff.1 hdraft
  obtain rfl := ok.inj (hload.symm.trans hload')
  rw [CapabilityVector.outputScope]
  change (v.grant channel.component).bind Grant.outputScope = (v.grant channel.component).map _
  cases hgrant : v.grant channel.component with
  | none => rfl
  | some g =>
    obtain ⟨hmem, hcomponent⟩ := CapabilityVector.grant_eq_some_iff.1 hgrant
    rw [hv] at hmem
    exact outputScope_of_mem_grants hmem hcomponent

variable {outs : List ProposedOutput} {kind : OutputKind}

theorem onChannel_eq_zero {v : CapabilityVector} (hgated : gateOutputs v outs = .ok ())
    (hgrant : v.grant channel.component = none) : onChannel channel outs = 0 := by
  rw [onChannel, countP_eq_zero]
  intro out hout hchannel
  rw [decide_eq_true_eq] at hchannel
  obtain ⟨scope, hscope, -⟩ := (gateOutputs_eq_ok_iff.1 hgated).1 out hout
  rw [hchannel, CapabilityVector.outputScope, hgrant] at hscope
  cases hscope

theorem DraftedUnder.onChannel_le (h : DraftedUnder env c taskId order)
    (hgated : gateOutputs order.capabilities outs = .ok ()) :
    onChannel channel outs ≤ (c.scopeOn channel).maxCount := by
  cases hgrant : order.capabilities.grant channel.component with
  | none =>
    rw [onChannel_eq_zero hgated hgrant]
    exact Nat.zero_le _
  | some g =>
    refine (gateOutputs_eq_ok_iff.1 hgated).2 channel _ ?_
    rw [h.outputScope, hgrant]
    rfl

theorem OneOutput.length_le (hone : OneOutput c order) (h : DraftedUnder env c taskId order)
    (hgated : gateOutputs order.capabilities outs = .ok ()) : outs.length ≤ 1 := by
  rw [length_eq_onChannel]
  have hresponses : onChannel .response outs ≤ 1 := h.onChannel_le hgated
  have hartifacts : onChannel .artifact outs ≤ max c.deliverables.length 1 := h.onChannel_le hgated
  rcases hone with hexport | ⟨hrespond, hsingle⟩
  · have hnone : onChannel .artifact outs = 0 := onChannel_eq_zero hgated hexport
    omega
  · have hnone : onChannel .response outs = 0 := onChannel_eq_zero hgated hrespond
    omega

def fullOutput (c : Contract) (id : String) (kind : OutputKind) : ResultOutput where
  role := id
  artifactId := id
  kind := kind
  recipient := c.resultRecipient.asStr
  mediaType := (c.deliverables.map Deliverable.mediaType).headD ""
  content := List.replicate c.limits.maxResponseBytes 0

def EvidenceSlot.passed (slot : EvidenceSlot) : SlotRecord := ⟨slot.slotId, some "e", .passed, .full⟩

def overfull (c : Contract) (taskId : String) (kind : OutputKind) : ResultSubmission where
  taskId := taskId
  outputs := [fullOutput c "a" kind, fullOutput c "b" .artifact]
  evidence := []
  slots := c.evidenceSlots.map EvidenceSlot.passed

theorem byteLength_fullOutput (c : Contract) (id : String) (kind : OutputKind) :
    (fullOutput c id kind).byteLength = c.limits.maxResponseBytes :=
  length_replicate

theorem distinct_overfull (c : Contract) (taskId : String) (kind : OutputKind) :
    ((overfull c taskId kind).outputs.map ResultOutput.artifactId).Nodup := by
  change ["a", "b"].Nodup
  decide

theorem Contract.Conforms.first_mem (h : c.Conforms) (id : String) (kind : OutputKind) :
    ∃ d ∈ c.deliverables, (fullOutput c id kind).mediaType = d.mediaType := by
  have hsome := h.deliverables.1
  cases hlist : c.deliverables with
  | nil =>
    rw [hlist] at hsome
    cases hsome
  | cons d ds =>
    refine ⟨d, mem_cons_self, ?_⟩
    rw [fullOutput, hlist]
    rfl

theorem covers_fullOutput (hconforms : c.Conforms) (h : DraftedUnder env c taskId order) (id : String)
    (hgrant : order.capabilities.grant kind.channel.component ≠ none) :
    order.capabilities.Covers (fullOutput c id kind).proposed := by
  obtain ⟨g, hg⟩ := ne_none_iff_exists'.1 hgrant
  refine ⟨c.scopeOn kind.channel, ?_, ?_⟩
  · change order.capabilities.outputScope kind.channel = _
    rw [h.outputScope, hg]
    rfl
  · obtain ⟨d, hd, hmedia⟩ := hconforms.first_mem id kind
    have hbytes : (fullOutput c id kind).byteLength ≤ c.limits.maxResponseBytes :=
      (byteLength_fullOutput c id kind).le
    cases kind with
    | response => exact ⟨rfl, nofun, hbytes⟩
    | artifact =>
      refine ⟨rfl, fun types htypes => ?_, hbytes⟩
      cases htypes
      exact List.mem_map.2 ⟨d, hd, hmedia.symm⟩

theorem gated_overfull (hconforms : c.Conforms) (h : DraftedUnder env c taskId order)
    (hexport : order.capabilities.grant .artifactExport ≠ none)
    (hroom : (kind = .response ∧ order.capabilities.grant .respond ≠ none) ∨
      (kind = .artifact ∧ 2 ≤ c.deliverables.length)) :
    gateOutputs order.capabilities ((overfull c taskId kind).outputs.map ResultOutput.proposed) =
      .ok () := by
  have hgrant : order.capabilities.grant kind.channel.component ≠ none := by
    rcases hroom with ⟨rfl, hrespond⟩ | ⟨rfl, -⟩
    · exact hrespond
    · exact hexport
  refine gateOutputs_eq_ok_iff.2 ⟨?_, fun channel scope hscope => ?_⟩
  · intro out hout
    rw [overfull, map_cons, map_cons, map_nil, mem_cons, mem_singleton] at hout
    rcases hout with rfl | rfl
    · exact covers_fullOutput hconforms h "a" hgrant
    · exact covers_fullOutput hconforms h "b" hexport
  · rw [h.outputScope, map_eq_some_iff] at hscope
    obtain ⟨-, -, rfl⟩ := hscope
    rcases hroom with ⟨rfl, -⟩ | ⟨rfl, htwo⟩
    · cases channel with
      | response => exact le_rfl
      | artifact => exact le_max_right _ _
    · cases channel with
      | response => exact Nat.zero_le _
      | artifact => exact htwo.trans (le_max_left _ _)

theorem satisfied_overfull (c : Contract) (taskId : String) (kind : OutputKind) :
    checkSlots c.requiredSlots (overfull c taskId kind).slots = .ok () := by
  refine checkSlots_eq_ok_iff.2 ⟨fun slot hslot _ => ?_, fun req hreq => ?_⟩
  · obtain ⟨_, -, rfl⟩ := List.mem_map.1 hslot
    exact some_ne_none _
  · obtain ⟨required, hrequired, rfl⟩ := List.mem_map.1 hreq
    have hfound : ((overfull c taskId kind).slots.find?
        (fun slot => slot.slotId = required.slotId)).isSome := by
      rw [find?_isSome]
      exact ⟨required.passed, mem_map_of_mem hrequired, decide_eq_true rfl⟩
    obtain ⟨got, hgot⟩ := isSome_iff_exists.1 hfound
    obtain ⟨_, -, rfl⟩ := List.mem_map.1 (mem_of_find?_eq_some hgot)
    exact ⟨_, hgot, rfl, nofun⟩

theorem EvidenceSlot.valid_passed {slot : EvidenceSlot} (h : isSlug slot.slotId = true) :
    validSlotRecord slot.passed.json = true := by
  have hrole : isSlug "e" = true := by decide
  simp [validSlotRecord, SlotRecord.json, EvidenceSlot.passed, Json.record, Json.strWith, Json.oneOf,
    Json.hasMember, Json.get?, SlotResult.asStr, Evidence.Disclosure.asStr, h, hrole]

theorem conforms_fullOutput (hsha : ∀ b, (env.sha256 b).length = 32) (hconforms : c.Conforms)
    (hslug : isSlug id = true) (hid : isA2aId id = true) (kind : OutputKind) {i : ℕ}
    (hi : i ≤ 255) : ((fullOutput c id kind).entry env i).Conforms where
  role := hslug
  artifactId := hid
  partIndex := hi
  mediaType := by
    obtain ⟨d, hd, hmedia⟩ := hconforms.first_mem id kind
    change isMediaType (fullOutput c id kind).mediaType = true
    rw [hmedia]
    exact hconforms.mediaTypes d hd
  byteLength := (byteLength_fullOutput c id kind).le.trans hconforms.limit.2
  sha256 := isSha256Hex_hex (hsha _)

theorem valid_overfull (hsha : ∀ b, (env.sha256 b).length = 32) (hconforms : task.contract.Conforms)
    (hheader : (task.header env taskId).Conforms) (kind : OutputKind) :
    ((overfull task.contract taskId kind).manifest env task).validate = .ok () := by
  refine ResultManifest.validate_eq_ok_iff.2 ⟨validateResultManifest_iff.2 ⟨rfl, hheader, ?_, ?_, ?_, ?_⟩,
    ResultManifest.isCanonicallyOrdered_assemble _ _ _ _ _⟩
  · have hperm := manifest_outputs_perm env (overfull task.contract taskId kind) task
    have hlength : ((overfull task.contract taskId kind).manifest env task).outputs.length = 2 :=
      hperm.length_eq
    refine ⟨by omega, by omega, fun o ho => ?_⟩
    · have hmem := hperm.mem_iff.1 ho
      simp only [overfull, mapIdx_cons, mapIdx_nil, mem_cons, not_mem_nil,
        or_false] at hmem
      rcases hmem with rfl | rfl
      · exact conforms_fullOutput hsha hconforms (by decide) (by decide) kind (by omega)
      · exact conforms_fullOutput hsha hconforms (by decide) (by decide) .artifact (by omega)
  · exact ⟨Nat.zero_le _, nofun⟩
  · constructor
    · simp only [ResultSubmission.manifest, ResultManifest.assemble, overfull,
        length_insertionSort, length_map]
      exact hconforms.slots.trans (by omega)
    · intro slot hslot
      obtain ⟨required, hrequired, rfl⟩ := List.mem_map.1 ((mem_insertionSort _).1 hslot)
      exact EvidenceSlot.valid_passed (hconforms.slotIds required hrequired)
  · exact ⟨Nat.zero_le _, nofun⟩

theorem Completable.completes (h : Completable env taskResultKey s sub.taskId task)
    (haccepts : Accepts env s sub.taskId task) (hattestable : Attestable env taskResultKey sub task)
    (now : Time) : ∃ json s', exec (submitResult env taskResultKey sub now) s = (.ok json, s') := by
  by_cases hcompleted : task.completed = true
  · exact ⟨_, s, exec_submitResult_eq_ok_iff.2 ⟨task, haccepts, hattestable, rfl,
      .inl ⟨hcompleted, rfl⟩⟩⟩
  · rcases h.runs with hruns | ⟨⟨state, hstate, hactive⟩, hfree⟩
    · exact absurd hruns hcompleted
    · have hfree' : (s.withOutputs (sub.rows env) now).resultRow task.workOrderId = none := by
        obtain ⟨audit, heq⟩ := withOutputs_eq (sub.rows env) now s
        rw [heq]
        exact hfree
      obtain ⟨s', hstage⟩ := stageResult_total ((withOutputs_attemptState _ _).trans hstate) hfree'
        sub.taskId (sub.signed env taskResultKey task).1 (sub.signed env taskResultKey task).2 now
      exact ⟨_, s', exec_submitResult_eq_ok_iff.2 ⟨task, haccepts, hattestable, rfl,
        .inr ⟨Bool.eq_false_iff.2 hcompleted, state, hstate, hactive, hstage⟩⟩⟩

end Limit

/-! ## A task to complete -/

def nonceHash : Bytes :=
  beBytes 32 0x78377b525757b494427f89014f97d79928f3938d14eb51e20fb5dec9834eb304

def zeroHash : Bytes :=
  beBytes 32 0x5f70bf18a086007016e948b04aed3b82103a36bea41755b6cddfaf10ace3c6ef

def exportConfig : IssueConfig := { IssueConfig.sample with grantArtifacts := true }

def exportGrants : CapabilityVector where
  grants := exportWire.contract.grants "task-1" (hex exportWire.digest) "2027-01-15T09:00:00Z"
    exportConfig
  nonempty := by decide
  distinct := by decide

def exportOrder : WorkOrder :=
  exportWire.contract.workOrder "task-1" "context-1" ⟨0, hex exportWire.digest⟩ "2027-01-15T09:00:00Z"
    exportGrants exportConfig

def exportIssued : IssuedWorkOrder where
  order := exportOrder
  digest := "3ff3c0ea04c65731cebc03230cfb9ac71604e65a4adc92e91d2da18c50b896b3"
  mac := "dc4cf694833d34f855bdf0ba825b771658c6db299963d6fd057cdf77b497c18a"

def exportHeader : ManifestHeader where
  taskId := "task-1"
  contextId := "context-1"
  contractId := "00000000-0000-4000-8000-000000000000"
  contractRevision := 0
  contractDigest := hex exportWire.digest
  attemptDigest := hex nonceHash
  workOrderReceiptDigest := exportIssued.digest

def exportEntry (id : String) (partIndex : ℕ) : OutputEntry :=
  ⟨id, id, partIndex, "text/plain", 1024, hex zeroHash⟩

def exportManifest (outputs : List OutputEntry) : ResultManifest :=
  ⟨1, exportHeader, outputs, [], [], []⟩

def onePayload : Bytes := Json.canonicalBytes intText (exportManifest [exportEntry "a" 0]).json

def twoPayload : Bytes :=
  Json.canonicalBytes intText (exportManifest [exportEntry "a" 0, exportEntry "b" 1]).json

def oneDigest : Bytes :=
  beBytes 32 0x332f94ea6274412863307956f3292cb6fd9204ba22ec5f11cac8fb91bac59599

def twoDigest : Bytes :=
  beBytes 32 0x0dd87d5015b23edb13fea9cea475c57e8ed7f5ecf38478a42217c303ace4f275

def oneSignature : Bytes :=
  beBytes 32 0x133284ceaa0b0e89a678da04c018ee0946d04189718e42311d486fc735aea42a ++
  beBytes 32 0x7a01595566cf98fbd8c98c0451da5a5ab7570b2e2b9dba729cd558d722d72c0b

def twoSignature : Bytes :=
  beBytes 32 0x8b27ec056231e926430cc2125d8d667af746e65b88295584519689d2bfc2e087 ++
  beBytes 32 0x2de9c5ca50fac6af5ec400f70a53d72c3856d9b004847e3a1a014054eda63704

def exportSha256 (b : Bytes) : Bytes :=
  if b = utf8 "nonce" then nonceHash
  else if b = List.replicate 1024 0 then zeroHash
  else if b = onePayload then oneDigest
  else if b = twoPayload then twoDigest
  else exportWire.sha256 b

def exportEnv : Env :=
  { exportWire.taskEnv with
    sha256 := exportSha256
    signEd25519 := fun _ message =>
      if message = pae ResultManifest.payloadType onePayload then oneSignature else twoSignature }

def exportKey : PurposeKey := ⟨.taskResult, wireSecret⟩

def exportAttempt : AttemptRow where
  workOrderId := exportOrder.workOrderId
  nonce := "nonce"
  taskId := "task-1"
  workOrderDigest := exportIssued.digest
  state := .claimed
  maxCostMicrousd := 0
  maxBytes := 1024
  maxOperations := 64
  claimedAt := 1800000000
  deadline := exportOrder.deadline

def exportStore : Store :=
  { exportWire.stored .locked with
    attempts := ⟨[exportAttempt], pairwise_singleton _ _⟩
    workOrders := ⟨[⟨exportOrder.workOrderId, "task-1", exportIssued.digest, some exportIssued,
      1800000000⟩], pairwise_singleton _ _⟩ }

def exportTask : AcceptedTask :=
  ⟨⟨0, hex exportWire.digest⟩, exportWire.contract, "context-1", exportOrder.workOrderId, exportIssued,
    false⟩

theorem length_sha256_exportEnv (b : Bytes) : (exportEnv.sha256 b).length = 32 := by
  change (exportSha256 b).length = 32
  unfold exportSha256 Wire.sha256
  split_ifs <;> rfl

theorem loadContract_exportEnv :
    (exportWire.stored .locked).loadContract exportEnv (hex exportWire.digest) =
      .ok exportWire.contract :=
  Store.loadContract_of_reads (exportWire.loadContract_stored .locked) rfl rfl rfl

theorem accepts_exportStore : Accepts exportEnv exportStore "task-1" exportTask where
  locked := exportWire.contractHead_stored .locked
  loaded := loadContract_exportEnv
  claimed := rfl
  ordered := Store.getWorkOrder_eq_some_iff.2 ⟨_, mem_singleton_self _, rfl, rfl⟩
  context := rfl
  completed := by decide

theorem draftedUnder_exportOrder :
    DraftedUnder exportEnv exportWire.contract "task-1" exportOrder := by
  refine ⟨exportConfig, 1800000000, exportWire.stored .locked, draftOrder_eq_ok_iff.2
    ⟨_, _, _, exportGrants, exportWire.contractHead_stored .locked, loadContract_exportEnv, ?_, ?_, rfl,
      rfl⟩, loadContract_exportEnv⟩
  · exact ⟨by decide, ⟨"2027-01-15T09:00:00Z", by decide +kernel⟩, nofun, fun _ => by decide⟩
  · decide

theorem completable_exportStore :
    Completable exportEnv exportKey exportStore "task-1" exportTask where
  header := by
    refine ⟨by decide, by decide, by decide, by decide, isSha256Hex_hex rfl,
      isSha256Hex_hex (length_sha256_exportEnv _), by decide⟩
  purpose := rfl
  runs := .inr ⟨⟨.claimed, rfl, .inl rfl⟩, rfl⟩

/-! ## The limit of a result -/

theorem attestable_two :
    Attestable exportEnv exportKey (overfull exportWire.contract "task-1" .response) exportTask where
  gated := gated_overfull (Store.conforms_of_loadContract loadContract_exportEnv)
    draftedUnder_exportOrder (by decide) (.inl ⟨rfl, by decide⟩)
  satisfied := satisfied_overfull _ _ _
  distinct := distinct_overfull _ _ _
  valid := valid_overfull length_sha256_exportEnv
    (Store.conforms_of_loadContract loadContract_exportEnv) completable_exportStore.header .response
  purpose := rfl

def Store.KeepsResult (env : Env) (s : Store) (workOrderId : String) (m : ResultManifest) : Prop :=
  m.validate = .ok () ∧ ∃ secret, s.resultManifest workOrderId =
    some (hex (env.sha256 (Json.canonicalBytes env.fmtNum m.json)),
      env.jsonText (dsseSign env ResultManifest.payloadType
        (Json.canonicalBytes env.fmtNum m.json) secret).json)

def ReportsStored (env : Env) (taskResultKey : PurposeKey) (sub : ResultSubmission) (now : Time)
    (s : Store) : Prop :=
  ∀ json s', exec (submitResult env taskResultKey sub now) s = (.ok json, s') →
    ∃ w d m, s.attemptForTask sub.taskId = some w ∧ json.getStr? "bundle_digest" = some d ∧
      s'.KeepsResult env w m ∧ m.bundleDigest env = .ok d

def SameResult (env : Env) (taskResultKey : PurposeKey) (sub : ResultSubmission) (s : Store) : Prop :=
  ∀ task, Accepts env s sub.taskId task → Attestable env taskResultKey sub task →
    s.attemptState task.workOrderId = some .succeeded →
    ∃ m, s.KeepsResult env task.workOrderId m ∧
      Json.canonicalBytes env.fmtNum m.json = sub.payload env task

section Reports

variable {env : Env} {taskResultKey : PurposeKey} {sub : ResultSubmission} {task : AcceptedTask}
  {now : Time} {s s' : Store}

theorem getStr?_report (workOrderId digest : String) :
    (sub.report workOrderId digest).getStr? "bundle_digest" = some digest := rfl

theorem Completes.keepsResult (h : Completes env taskResultKey sub task now s s')
    (hattestable : Attestable env taskResultKey sub task) :
    s'.KeepsResult env task.workOrderId (sub.manifest env task) := by
  obtain ⟨state, -, -, hstage⟩ := h
  obtain ⟨-, row, attempts, results, audit, -, hinsert, rfl, -⟩ := stageResult_cases hstage
  refine ⟨hattestable.valid, taskResultKey.secret, ?_⟩
  have hrow : ({ s.withOutputs (sub.rows env) now with
      attempts := attempts, results := results, audit := audit } : Store).resultRow
        task.workOrderId = some ⟨task.workOrderId, sub.taskId, (sub.signed env taskResultKey task).1,
          (sub.signed env taskResultKey task).2, now⟩ :=
    Store.resultRow_eq_some_iff.2 ⟨(mem_insert hinsert).2 (.inr rfl), rfl⟩
  rw [Store.resultManifest, hrow]
  rfl

variable {m : ResultManifest} {w : String}

theorem Store.KeepsResult.bundleDigest (h : s.KeepsResult env w m) :
    m.bundleDigest env = .ok (hex (env.sha256 (Json.canonicalBytes env.fmtNum m.json))) :=
  ResultManifest.bundleDigest_eq_ok_iff.2 ⟨h.1, rfl⟩

theorem Store.KeepsResult.digest_eq {m' : ResultManifest} (h : s.KeepsResult env w m)
    (h' : s.KeepsResult env w m') : hex (env.sha256 (Json.canonicalBytes env.fmtNum m'.json)) =
      hex (env.sha256 (Json.canonicalBytes env.fmtNum m.json)) := by
  obtain ⟨-, secret, hrow⟩ := h
  obtain ⟨-, secret', hrow'⟩ := h'
  exact (Prod.mk.inj (some.inj (hrow'.symm.trans hrow))).1

/-- **The digest that is reported is the stored one**, for every store and submission, if the attempt
has not succeeded before or the submission describes the manifest that is stored; and, where SHA-256
tells the two manifests apart, only then. -/
theorem reports_stored_iff_same_result (env : Env) (taskResultKey : PurposeKey)
    (sub : ResultSubmission) (now : Time) (s : Store) :
    (SameResult env taskResultKey sub s → ReportsStored env taskResultKey sub now s) ∧
      ((∀ task m, Accepts env s sub.taskId task → s.KeepsResult env task.workOrderId m →
          env.sha256 (Json.canonicalBytes env.fmtNum m.json) = env.sha256 (sub.payload env task) →
          Json.canonicalBytes env.fmtNum m.json = sub.payload env task) →
        ReportsStored env taskResultKey sub now s → SameResult env taskResultKey sub s) := by
  constructor
  · intro hsame json s' hrun
    obtain ⟨task, haccepts, hattestable, rfl, hwrites⟩ := exec_submitResult_eq_ok_iff.1 hrun
    rcases hwrites with ⟨hcompleted, rfl⟩ | ⟨-, hcompletes⟩
    · obtain ⟨m, hkeeps, hpayload⟩ :=
        hsame task haccepts hattestable (haccepts.completed.1 hcompleted)
      refine ⟨task.workOrderId, _, m, haccepts.claimed, getStr?_report _ _, hkeeps, ?_⟩
      rw [hkeeps.bundleDigest, hpayload]
      rfl
    · have hkeeps := hcompletes.keepsResult hattestable
      exact ⟨task.workOrderId, _, _, haccepts.claimed, getStr?_report _ _, hkeeps,
        hkeeps.bundleDigest⟩
  · intro hcollision hreports task haccepts hattestable hsucceeded
    -- the submission is answered from the store as it is
    have hrun : exec (submitResult env taskResultKey sub now) s =
        (.ok (sub.report task.workOrderId (sub.signed env taskResultKey task).1), s) :=
      exec_submitResult_eq_ok_iff.2 ⟨task, haccepts, hattestable, rfl,
        .inl ⟨haccepts.completed.2 hsucceeded, rfl⟩⟩
    obtain ⟨w, d, m, hw, hd, hkeeps, hdigest⟩ := hreports _ _ hrun
    obtain rfl := some.inj (haccepts.claimed.symm.trans hw)
    rw [getStr?_report, some.injEq] at hd
    rw [hkeeps.bundleDigest, ok.injEq, ← hd] at hdigest
    exact ⟨m, hkeeps, hcollision task m haccepts hkeeps (hex_inj hdigest)⟩

end Reports

/-! The first output alone completes the sample's task; then both are submitted. -/

def oneOutput : ResultSubmission :=
  ⟨"task-1", [fullOutput exportWire.contract "a" .response], [], []⟩

structure HashesExport (env : Env) : Prop where
  nonce : env.sha256 (utf8 "nonce") = nonceHash
  zeros : env.sha256 (List.replicate 1024 0) = zeroHash

namespace HashesExport

variable {env : Env}

theorem header (h : HashesExport env) : exportTask.header env "task-1" = exportHeader := by
  rw [AcceptedTask.header]
  change ManifestHeader.mk _ _ _ _ _ (hex (env.sha256 (utf8 "nonce"))) _ = _
  rw [h.nonce]
  rfl

theorem entry (h : HashesExport env) (id : String) (kind : OutputKind) (partIndex : ℕ) :
    (fullOutput exportWire.contract id kind).entry env partIndex = exportEntry id partIndex := by
  rw [ResultOutput.entry, byteLength_fullOutput]
  change OutputEntry.mk _ _ _ _ _ (hex (env.sha256 (List.replicate 1024 0))) = _
  rw [h.zeros]
  rfl

theorem manifest_oneOutput (h : HashesExport env) :
    oneOutput.manifest env exportTask = exportManifest [exportEntry "a" 0] := by
  change ResultManifest.assemble (exportTask.header env "task-1")
    [(fullOutput exportWire.contract "a" .response).entry env 0] [] [] [] = _
  rw [h.header, h.entry]
  rfl

theorem manifest_two (h : HashesExport env) :
    (overfull exportWire.contract "task-1" .response).manifest env exportTask =
      exportManifest [exportEntry "a" 0, exportEntry "b" 1] := by
  change ResultManifest.assemble (exportTask.header env "task-1")
    [(fullOutput exportWire.contract "a" .response).entry env 0,
      (fullOutput exportWire.contract "b" .artifact).entry env 1] [] [] [] = _
  rw [h.header, h.entry, h.entry]
  rfl

end HashesExport

theorem sha256_exportEnv : exportEnv.sha256 = exportSha256 := rfl

theorem hashesExport : HashesExport exportEnv where
  nonce := by rw [sha256_exportEnv, exportSha256, if_pos rfl]
  zeros := by
    have hnonce : List.replicate 1024 0 ≠ utf8 "nonce" := fun h =>
      absurd (congrArg List.head? h) (by decide)
    rw [sha256_exportEnv, exportSha256, if_neg hnonce, if_pos rfl]

theorem exportEntry_conforms {partIndex : ℕ} (hslug : isSlug id = true) (hid : isA2aId id = true)
    (hindex : partIndex ≤ 255) : (exportEntry id partIndex).Conforms :=
  ⟨hslug, hid, hindex, by change isMediaType "text/plain" = true; decide,
    by change 1024 ≤ 8388608; decide, isSha256Hex_hex rfl⟩

theorem attestable_oneOutput : Attestable exportEnv exportKey oneOutput exportTask where
  gated := by decide +kernel
  satisfied := rfl
  distinct := nodup_singleton _
  valid := by
    rw [hashesExport.manifest_oneOutput]
    refine ResultManifest.validate_eq_ok_iff.2 ⟨validateResultManifest_iff.2
      ⟨rfl, ?_, ⟨by decide, by decide, fun o ho => ?_⟩, ⟨by decide, nofun⟩, ⟨by decide, nofun⟩,
        by decide, nofun⟩, rfl⟩
    · rw [exportManifest, ← hashesExport.header]
      exact completable_exportStore.header
    · rw [mem_singleton.1 ho]
      exact exportEntry_conforms (by decide) (by decide) (by decide)
  purpose := rfl

theorem numText_intText : Json.NumText intText (fun q => q = 0 ∨ q = 1 ∨ q = 1024) where
  ne_nil := by rintro q (rfl | rfl | rfl) <;> exact cons_ne_nil _ _
  chars := by rintro q (rfl | rfl | rfl) <;> exact all_eq_true.1 (by decide)
  inj := by
    rintro q r (rfl | rfl | rfl) (rfl | rfl | rfl) h
    all_goals first
      | rfl
      | exact absurd h (by decide)

theorem twoPayload_ne : twoPayload ≠ onePayload := by
  intro h
  have hsort := Json.canonicalBytes_inj numText_intText
    (by simp [exportManifest, exportHeader, exportEntry, ResultManifest.json, OutputEntry.json,
      Json.NumsIn, Json.NumsInMembers, Json.NumsInElems])
    (by simp [exportManifest, exportHeader, exportEntry, ResultManifest.json, OutputEntry.json,
      Json.NumsIn, Json.NumsInMembers, Json.NumsInElems]) h
  exact absurd hsort (by decide)

theorem sha256_of_head {b : Bytes} (h : b.head? = some 123) :
    exportEnv.sha256 b =
      if b = onePayload then oneDigest else if b = twoPayload then twoDigest
      else exportWire.sha256 b := by
  have hnonce : b ≠ utf8 "nonce" := by
    rintro rfl
    exact absurd h (by decide)
  have hzero : b ≠ List.replicate 1024 0 := by
    rintro rfl
    exact absurd h (by decide)
  change exportSha256 b = _
  rw [exportSha256, if_neg hnonce, if_neg hzero]

theorem signed_oneOutput :
    (oneOutput.signed exportEnv exportKey exportTask).1 = hex oneDigest := by
  have hpayload : oneOutput.payload exportEnv exportTask = onePayload := by
    rw [ResultSubmission.payload, hashesExport.manifest_oneOutput]
    rfl
  rw [ResultSubmission.signed, hpayload, sha256_of_head rfl, if_pos rfl]

theorem signed_two :
    ((overfull exportWire.contract "task-1" .response).signed exportEnv exportKey exportTask).1 =
      hex twoDigest := by
  have hpayload : (overfull exportWire.contract "task-1" .response).payload exportEnv exportTask =
      twoPayload := by
    rw [ResultSubmission.payload, hashesExport.manifest_two]
    rfl
  rw [ResultSubmission.signed, hpayload, sha256_of_head rfl, if_neg twoPayload_ne, if_pos rfl]

/-- The second submission is told that its own manifest was committed, and another is stored. -/
theorem second_submission_reports_other_digest : ∃ json₁ s₁ json₂ s₂ d,
    exec (submitResult exportEnv exportKey oneOutput 1800000000) exportStore = (.ok json₁, s₁) ∧
    exec (submitResult exportEnv exportKey (overfull exportWire.contract "task-1" .response)
      1800000001) s₁ = (.ok json₂, s₂) ∧
    json₂.getStr? "bundle_digest" = some d ∧ (∃ m, s₂.KeepsResult exportEnv exportOrder.workOrderId m) ∧
    ∀ m, s₂.KeepsResult exportEnv exportOrder.workOrderId m → m.bundleDigest exportEnv ≠ .ok d := by
  obtain ⟨json₁, s₁, hfirst⟩ : ∃ json s', exec (submitResult exportEnv exportKey oneOutput 1800000000)
      exportStore = (.ok json, s') :=
    completable_exportStore.completes accepts_exportStore attestable_oneOutput 1800000000
  obtain ⟨task, haccepts, -, -, hwrites⟩ := exec_submitResult_eq_ok_iff.1 hfirst
  obtain rfl : task = exportTask := ok.inj
    ((acceptedTask_eq_ok_iff.2 haccepts).symm.trans (acceptedTask_eq_ok_iff.2 accepts_exportStore))
  obtain ⟨hcompleted, -⟩ | ⟨-, hcompletes⟩ := hwrites
  · cases hcompleted
  have hkeeps := hcompletes.keepsResult attestable_oneOutput
  refine ⟨json₁, s₁, _, s₁, hex twoDigest, hfirst,
    exec_submitResult_eq_ok_iff.2 ⟨_, hcompletes.accepts accepts_exportStore,
      { attestable_two with }, rfl, .inl ⟨rfl, rfl⟩⟩, ?_, ⟨_, hkeeps⟩, ?_⟩
  · rw [getStr?_report]
    exact congrArg some signed_two
  · intro m hm hdigest
    rw [hm.bundleDigest, ← hm.digest_eq hkeeps] at hdigest
    have hdigests := (ok.inj hdigest).symm.trans signed_oneOutput
    exact absurd (hex_inj hdigests) (by decide)

/-! ## The outputs of a submission that is refused -/

def Store.CanComplete (s : Store) (workOrderId : String) : Prop :=
  s.attemptState workOrderId = some .succeeded ∨
    (∃ state, s.attemptState workOrderId = some state ∧ state.active) ∧ s.resultRow workOrderId = none

def ResultSubmission.AtRest (sub : ResultSubmission) (s : Store) : Prop :=
  ∀ o ∈ sub.outputs, ∃ row ∈ s.taskOutputs, row.taskId = sub.taskId ∧ row.artifactId = o.artifactId

section Refused

variable {env : Env} {taskResultKey : PurposeKey} {sub : ResultSubmission} {task : AcceptedTask}
  {now : Time} {s : Store}

theorem withOutputs_taskOutputs_iff :
    (s.withOutputs (sub.rows env) now).taskOutputs = s.taskOutputs ↔ sub.AtRest s := by
  obtain ⟨audit, hstaged⟩ := withOutputs_eq (sub.rows env) now s
  have hids : ∀ id, (∃ r ∈ sub.rows env, r.artifactId = id) ↔ ∃ o ∈ sub.outputs, o.artifactId = id := by
    intro id
    rw [← List.mem_map, map_artifactId_rows, List.mem_map]
  rw [hstaged]
  change (sub.rows env).foldl Table.insertIgnore s.taskOutputs = s.taskOutputs ↔ _
  constructor
  · intro hsame o ho
    obtain ⟨r, hr, hid⟩ := (hids _).2 ⟨o, ho, rfl⟩
    have htask := taskId_of_mem_rows hr
    obtain ⟨row, hrow, hclash⟩ := exists_clash_foldl_insertIgnore (t := s.taskOutputs) hr
    rw [hsame] at hrow
    obtain rfl | ⟨htask', hid'⟩ := hclash
    · exact ⟨row, hrow, htask, hid⟩
    · exact ⟨row, hrow, htask'.trans htask, hid'.trans hid⟩
  · intro hrest
    refine foldl_insertIgnore_of_clash (fun r hr => ?_)
    obtain ⟨o, ho, hid⟩ := (hids _).1 ⟨r, hr, rfl⟩
    obtain ⟨row, hrow, htask, hid'⟩ := hrest o ho
    exact ⟨row, hrow, htask.trans (taskId_of_mem_rows hr).symm, hid'.trans hid⟩

theorem exec_submitResult_of_not_canComplete (haccepts : Accepts env s sub.taskId task)
    (hattestable : Attestable env taskResultKey sub task) (hcannot : ¬ s.CanComplete task.workOrderId) :
    ∃ e, exec (submitResult env taskResultKey sub now) s =
      (.error e, s.withOutputs (sub.rows env) now) := by
  obtain ⟨hcompleted, -⟩ | ⟨hpending, state, hstate, hactive, heq⟩ | ⟨hpending, state, hstate, hactive,
    heq⟩ := sub.complete_eq taskResultKey now haccepts
  · exact absurd (.inl (haccepts.completed.1 hcompleted)) hcannot
  · -- the attempt can run, so there is a result under its order that stands in the way
    have hstands : s.resultRow task.workOrderId ≠ none :=
      fun hfree => hcannot (.inr ⟨⟨state, hstate, hactive⟩, hfree⟩)
    cases hcomplete : sub.complete env taskResultKey task now
        (s.withOutputs (sub.staged env task) now) with
    | error d =>
      refine ⟨internal, ?_⟩
      have hstaged : sub.staged env task = sub.rows env := by
        rw [ResultSubmission.staged, hpending]
        rfl
      rw [submitResult, exec_ask_bind_of_ok (acceptedTask_eq_ok_iff.2 haccepts),
        exec_demand_bind_of_ok (attest_eq_ok_iff.2 ⟨hattestable, rfl⟩),
        exec_bind_of_ok (exec_stageTaskOutputs now _ s), ← hstaged]
      exact exec_bind_of_error (exec_commit_of_error hcomplete)
    | ok answer =>
      obtain ⟨-, -, -, results, -, -, hinsert, -⟩ := stageResult_cases (heq.symm.trans hcomplete)
      obtain ⟨audit, hs⟩ := withOutputs_eq (sub.rows env) now s
      rw [hs] at hinsert
      refine absurd (find_eq_none_iff.2 (fun r hr => decide_eq_false (fun hid => ?_))) hstands
      exact (insert_eq_some_iff.1 hinsert).1 r hr hid
  · exact ⟨_, exec_submitResult haccepts hattestable heq⟩

/-- A submission that is refused leaves the outputs as they were, unless it passed its checks and
its attempt cannot be completed: then the outputs it staged stay, and nothing else has changed in the
table. -/
theorem refused_submission_outputs (env : Env) (taskResultKey : PurposeKey) (sub : ResultSubmission)
    (now : Time) {s s' : Store} {e : Problem}
    (hrun : exec (submitResult env taskResultKey sub now) s = (.error e, s')) :
    s'.taskOutputs = s.taskOutputs ∨
      ∃ task, Accepts env s sub.taskId task ∧ Attestable env taskResultKey sub task ∧
        ¬ s.CanComplete task.workOrderId ∧
        s'.taskOutputs = (sub.rows env).foldl Table.insertIgnore s.taskOutputs ∧
        (s'.taskOutputs = s.taskOutputs ↔ sub.AtRest s) := by
  obtain rfl | ⟨task, hwrites, hcompletes | ⟨rfl, hended⟩⟩ := exec_submitResult_cases hrun
  · exact .inl rfl
  · have hok := exec_submitResult_eq_ok_iff.2 ⟨task, hwrites.accepts, hwrites.attestable, rfl,
      .inr ⟨hwrites.pending, hcompletes⟩⟩
    cases (Prod.mk.inj (hrun.symm.trans hok)).1
  · refine .inr ⟨task, hwrites.accepts, hwrites.attestable, ?_, ?_, withOutputs_taskOutputs_iff⟩
    · rintro (hsucceeded | ⟨⟨state, hstate, hactive⟩, hfree⟩)
      · have hcompleted := hwrites.accepts.completed.2 hsucceeded
        cases hwrites.pending.symm.trans hcompleted
      · obtain ⟨state', hstate', hidle⟩ | hstands := hended
        · exact absurd (some.inj (hstate.symm.trans hstate') ▸ hactive) hidle
        · exact absurd hfree hstands
    · obtain ⟨audit, hstaged⟩ := withOutputs_eq (sub.rows env) now s
      rw [hstaged]

end Refused

def failedStore : Store :=
  { exportStore with
    attempts := ⟨[exportAttempt.withState .failed], pairwise_singleton _ _⟩ }

theorem accepts_failedStore : Accepts exportEnv failedStore "task-1" exportTask where
  locked := accepts_exportStore.locked
  loaded := accepts_exportStore.loaded
  claimed := accepts_exportStore.claimed
  ordered := accepts_exportStore.ordered
  context := accepts_exportStore.context
  completed := by decide

theorem exec_failedStore : ∃ e, exec (submitResult exportEnv exportKey oneOutput 1800000000)
    failedStore = (.error e, failedStore.withOutputs (oneOutput.rows exportEnv) 1800000000) := by
  refine exec_submitResult_of_not_canComplete accepts_failedStore attestable_oneOutput ?_
  rintro (hsucceeded | ⟨⟨state, hstate, hactive⟩, -⟩)
  · exact absurd hsucceeded (by decide)
  · cases hstate
    exact absurd hactive (by decide)

/-- A result for an attempt that has failed: what it leaves are its own outputs. -/
theorem refused_submission_outputs_failed : ∃ e s' task,
    exec (submitResult exportEnv exportKey oneOutput 1800000000) failedStore = (.error e, s') ∧
    Accepts exportEnv failedStore "task-1" task ∧ (s'.taskOutputs = failedStore.taskOutputs ∨
      s'.taskOutputs = (oneOutput.rows exportEnv).foldl Table.insertIgnore failedStore.taskOutputs) := by
  obtain ⟨e, hrun⟩ := exec_failedStore
  refine ⟨e, _, exportTask, hrun, accepts_failedStore, ?_⟩
  obtain hsame | ⟨task, -, -, -, hstaged, -⟩ :=
    refused_submission_outputs exportEnv exportKey oneOutput 1800000000 hrun
  · exact .inl hsame
  · exact .inr hstaged

/-- A result for an attempt that has failed is refused, and its output stays. -/
theorem refused_submission_leaves_output : ∃ e s',
    exec (submitResult exportEnv exportKey oneOutput 1800000000) failedStore = (.error e, s') ∧
    s'.taskOutputs ≠ failedStore.taskOutputs := by
  obtain ⟨e, hrun⟩ := exec_failedStore
  refine ⟨e, _, hrun, fun hsame => ?_⟩
  obtain ⟨row, hrow, -⟩ := withOutputs_taskOutputs_iff.1 hsame _ mem_cons_self
  exact absurd hrow (not_mem_empty row)

end Akson
