/-
# The output gate

What a worker proposes to send has to fall inside the grant for its channel: a response inside the
`respond` grant, an artifact inside the `artifact_export` grant.
-/
import Akson.Authority.WorkOrder

namespace Akson

open Except Option

def CapabilityComponent.debug : CapabilityComponent → String
  | .respond => "Respond"
  | .readSuppliedInputs => "ReadSuppliedInputs"
  | .readSnapshot => "ReadSnapshot"
  | .processorUse => "ProcessorUse"
  | .stageWrite => "StageWrite"
  | .runProfile => "RunProfile"
  | .apply => "Apply"
  | .egress => "Egress"
  | .secretUse => "SecretUse"
  | .artifactExport => "ArtifactExport"
  | .delegate => "Delegate"
  | .remoteCancel => "RemoteCancel"

/-- How an output leaves. -/
inductive OutputChannel where
  | response
  | artifact
deriving DecidableEq

def OutputChannel.component : OutputChannel → CapabilityComponent
  | .response => .respond
  | .artifact => .artifactExport

/-- An output, as the gate sees it. -/
structure ProposedOutput where
  channel : OutputChannel
  recipient : String
  mediaType : String
  bytes : ℕ

/-- Why an output is refused. -/
inductive GateReject where
  | noGrant (component : CapabilityComponent)
  | recipient (allowed got : String)
  | mediaType (got : String)
  | size (max got : ℕ)
  | count (max : ℕ)
deriving DecidableEq

def GateReject.message (env : Env) : GateReject → String
  | .noGrant component => s!"no {component.debug} capability grants this channel"
  | .recipient allowed got =>
    s!"recipient {env.debugStr got} is not the granted recipient {env.debugStr allowed}"
  | .mediaType got => s!"media type {env.debugStr got} is not in the granted set"
  | .size max got => s!"output is {got} bytes, over the {max}-byte budget"
  | .count max => s!"output count exceeds the granted maximum {max}"

structure GateError where
  index : ℕ
  reason : GateReject
deriving DecidableEq

def GateError.message (env : Env) (e : GateError) : String :=
  s!"output {e.index}: {e.reason.message env}"

-- the counters are `u32`: no conforming contract grants more than 16 outputs of a channel
-- (`Contract.Conforms.maxCount_le`), so they do not come near the end
def gateOutput (v : CapabilityVector) (responses artifacts : ℕ) (out : ProposedOutput) :
    Except GateReject (ℕ × ℕ) := do
  let grant ← okOr (v.grant out.channel.component) (.noGrant out.channel.component)
  match out.channel, grant with
  | .response, .respond scope =>
    ensure (out.recipient = scope.recipient) (.recipient scope.recipient out.recipient)
    ensure (out.bytes ≤ scope.maxBytes) (.size scope.maxBytes out.bytes)
    ensure (responses + 1 ≤ scope.maxResponses) (.count scope.maxResponses)
    .ok (responses + 1, artifacts)
  | .artifact, .artifactExport scope =>
    ensure (out.recipient = scope.recipient) (.recipient scope.recipient out.recipient)
    ensure (out.mediaType ∈ scope.mediaTypes) (.mediaType out.mediaType)
    ensure (out.bytes ≤ scope.maxBytes) (.size scope.maxBytes out.bytes)
    ensure (artifacts + 1 ≤ scope.maxCount) (.count scope.maxCount)
    .ok (responses, artifacts + 1)
  -- the grant for a component is of that component, so this is not reached
  | _, _ => .error (.noGrant out.channel.component)

def gateFrom (v : CapabilityVector) (index responses artifacts : ℕ) :
    List ProposedOutput → Except GateError Unit
  | [] => .ok ()
  | out :: outs => do
    let (responses, artifacts) ← (gateOutput v responses artifacts out).mapError (⟨index, ·⟩)
    gateFrom v (index + 1) responses artifacts outs

def gateOutputs (v : CapabilityVector) (outs : List ProposedOutput) : Except GateError Unit :=
  gateFrom v 0 0 0 outs

/-! ## What the gate lets through -/

/-- What the grant of a channel allows. -/
structure OutputScope where
  recipient : String
  /-- The media types the scope is limited to, if it is. -/
  mediaTypes : Option (List String)
  maxBytes : ℕ
  maxCount : ℕ

def Grant.outputScope : Grant → Option OutputScope
  | .respond scope => some ⟨scope.recipient, none, scope.maxBytes, scope.maxResponses⟩
  | .artifactExport scope =>
    some ⟨scope.recipient, some scope.mediaTypes, scope.maxBytes, scope.maxCount⟩
  | .readSuppliedInputs _ | .processorUse _ => none

def CapabilityVector.outputScope (v : CapabilityVector) (channel : OutputChannel) :
    Option OutputScope :=
  (v.grant channel.component).bind Grant.outputScope

/-- The output is within the scope. -/
structure OutputScope.Fits (scope : OutputScope) (out : ProposedOutput) : Prop where
  recipient : out.recipient = scope.recipient
  mediaType : ∀ types, scope.mediaTypes = some types → out.mediaType ∈ types
  bytes : out.bytes ≤ scope.maxBytes

def onChannel (channel : OutputChannel) (outs : List ProposedOutput) : ℕ :=
  outs.countP (fun out => out.channel = channel)

section Gate

variable {v : CapabilityVector} {out : ProposedOutput} {outs : List ProposedOutput}
  {channel : OutputChannel}

theorem onChannel_cons_self (h : out.channel = channel) :
    onChannel channel (out :: outs) = onChannel channel outs + 1 := by
  simp [onChannel, h]

theorem onChannel_cons_of_ne (h : out.channel ≠ channel) :
    onChannel channel (out :: outs) = onChannel channel outs := by
  simp [onChannel, h]

theorem onChannel_concat : onChannel channel (outs ++ [out]) =
    onChannel channel outs + if out.channel = channel then 1 else 0 := by
  simp [onChannel, List.countP_append, List.countP_singleton]

theorem length_eq_onChannel (outs : List ProposedOutput) :
    outs.length = onChannel .response outs + onChannel .artifact outs := by
  induction outs with
  | nil => rfl
  | cons out outs ih =>
    rw [List.length_cons, ih]
    cases hchannel : out.channel with
    | response =>
      rw [onChannel_cons_self hchannel, onChannel_cons_of_ne (by simp [hchannel])]
      omega
    | artifact =>
      rw [onChannel_cons_self hchannel, onChannel_cons_of_ne (by simp [hchannel])]
      omega

def CapabilityVector.Covers (v : CapabilityVector) (out : ProposedOutput) : Prop :=
  ∃ scope, v.outputScope out.channel = some scope ∧ scope.Fits out

def CapabilityVector.Passes (v : CapabilityVector) (before : List ProposedOutput)
    (out : ProposedOutput) : Prop :=
  ∃ scope, v.outputScope out.channel = some scope ∧ scope.Fits out ∧
    onChannel out.channel before + 1 ≤ scope.maxCount

def CapabilityVector.PassesAt (v : CapabilityVector) (outs : List ProposedOutput) (i : ℕ) : Prop :=
  ∃ out, outs[i]? = some out ∧ v.Passes (outs.take i) out

theorem gateOutput_eq_ok_iff {counts : ℕ × ℕ} :
    gateOutput v (onChannel .response outs) (onChannel .artifact outs) out = .ok counts ↔
      v.Passes outs out ∧
        counts = (onChannel .response (outs ++ [out]), onChannel .artifact (outs ++ [out])) := by
  rw [gateOutput, CapabilityVector.Passes, CapabilityVector.outputScope, onChannel_concat,
    onChannel_concat]
  cases hgrant : v.grant out.channel.component with
  | none => simp [okOr, bind_eq_ok]
  | some g =>
    have hcomponent := (CapabilityVector.grant_eq_some_iff.1 hgrant).2
    cases hchannel : out.channel with
    | response =>
      rw [hchannel] at hcomponent
      cases g with
      | respond scope =>
        simp only [okOr, bind_eq_ok, ensure_eq_ok, ok.injEq, exists_eq_left', exists_const,
          bind_some, Grant.outputScope, some.injEq, reduceCtorEq, if_true, if_false]
        constructor
        · rintro ⟨hrecipient, hbytes, hcount, rfl⟩
          exact ⟨⟨⟨hrecipient, fun _ h => (by cases h), hbytes⟩, hcount⟩, rfl⟩
        · rintro ⟨⟨hfits, hcount⟩, rfl⟩
          exact ⟨hfits.recipient, hfits.bytes, hcount, rfl⟩
      | readSuppliedInputs scope => cases hcomponent
      | processorUse scope => cases hcomponent
      | artifactExport scope => cases hcomponent
    | artifact =>
      rw [hchannel] at hcomponent
      cases g with
      | artifactExport scope =>
        simp only [okOr, bind_eq_ok, ensure_eq_ok, ok.injEq, exists_eq_left', exists_const,
          bind_some, Grant.outputScope, some.injEq, reduceCtorEq, if_true, if_false]
        constructor
        · rintro ⟨hrecipient, hmedia, hbytes, hcount, rfl⟩
          exact ⟨⟨⟨hrecipient, fun types htypes => some.inj htypes ▸ hmedia, hbytes⟩, hcount⟩, rfl⟩
        · rintro ⟨⟨hfits, hcount⟩, rfl⟩
          exact ⟨hfits.recipient, hfits.mediaType _ rfl, hfits.bytes, hcount, rfl⟩
      | respond scope => cases hcomponent
      | readSuppliedInputs scope => cases hcomponent
      | processorUse scope => cases hcomponent

theorem passesAt_length {rest : List ProposedOutput} :
    v.PassesAt (outs ++ out :: rest) outs.length ↔ v.Passes outs out := by
  simp [CapabilityVector.PassesAt]

theorem gateFrom_run (before outs : List ProposedOutput) {r : Except GateError Unit}
    (h : gateFrom v before.length (onChannel .response before) (onChannel .artifact before) outs = r) :
    (r = .ok () → ∀ i, before.length ≤ i → i < (before ++ outs).length →
      v.PassesAt (before ++ outs) i) ∧
    ∀ e, r = .error e → (∀ i, before.length ≤ i → i < e.index → v.PassesAt (before ++ outs) i) ∧
      e.index < (before ++ outs).length ∧ ¬ v.PassesAt (before ++ outs) e.index := by
  induction outs generalizing before with
  | nil =>
    subst h
    refine ⟨fun _ i hle hlt => ?_, fun e he => by cases he⟩
    rw [List.append_nil] at hlt
    omega
  | cons out outs ih =>
    rw [gateFrom] at h
    cases hout : gateOutput v (onChannel .response before) (onChannel .artifact before) out with
    | error reason =>
      rw [hout] at h
      subst h
      refine ⟨fun hok => (by cases hok), fun e he => ?_⟩
      cases he
      refine ⟨fun i hle hlt => absurd hlt hle.not_gt, by simp, fun hpasses => ?_⟩
      rw [gateOutput_eq_ok_iff.2 ⟨passesAt_length.1 hpasses, rfl⟩] at hout
      cases hout
    | ok counts =>
      obtain ⟨hpasses, rfl⟩ := gateOutput_eq_ok_iff.1 hout
      rw [hout] at h
      -- the output passes, and the rest is gated behind it
      have hrest := ih (before ++ [out]) (by rw [List.length_append]; exact h)
      rw [List.append_assoc, List.singleton_append, List.length_append] at hrest
      have hstep : ∀ i, before.length ≤ i →
          (before.length + 1 ≤ i → v.PassesAt (before ++ out :: outs) i) →
          v.PassesAt (before ++ out :: outs) i := by
        intro i hle hlater
        obtain rfl | hlt := hle.eq_or_lt
        · exact passesAt_length.2 hpasses
        · exact hlater hlt
      refine ⟨fun hok i hle hlt => hstep i hle (fun hi => hrest.1 hok i hi hlt), fun e he => ?_⟩
      obtain ⟨hearlier, hoffends⟩ := hrest.2 e he
      exact ⟨fun i hle hlt => hstep i hle (fun hi => hearlier i hi hlt), hoffends⟩

theorem onChannel_le_iff {n : ℕ} : onChannel channel outs ≤ n ↔
    ∀ i out, outs[i]? = some out → out.channel = channel → onChannel channel (outs.take i) + 1 ≤ n := by
  constructor
  · intro h i out hget hchannel
    have htake : onChannel channel (outs.take (i + 1)) = onChannel channel (outs.take i) + 1 := by
      rw [List.take_add_one, hget, Option.toList_some, onChannel_concat, if_pos hchannel]
    rw [← htake]
    exact ((List.take_sublist _ _).countP_le).trans h
  · intro h
    induction outs using List.reverseRecOn with
    | nil => exact Nat.zero_le _
    | append_singleton outs out ih =>
      rw [onChannel_concat]
      split
      case isTrue hchannel =>
        have hlast := h outs.length out (by simp) hchannel
        rwa [List.take_left] at hlast
      case isFalse =>
        refine ih fun i out' hget hchannel => ?_
        have hlt := (List.getElem?_eq_some_iff.1 hget).1
        have hearlier := h i out' (by rw [List.getElem?_append_left hlt, hget]) hchannel
        rwa [List.take_append_of_le_length hlt.le] at hearlier

theorem passesAt_iff : (∀ i < outs.length, v.PassesAt outs i) ↔ (∀ out ∈ outs, v.Covers out) ∧
    ∀ channel scope, v.outputScope channel = some scope → onChannel channel outs ≤ scope.maxCount := by
  constructor
  · intro h
    have hpasses : ∀ i out, outs[i]? = some out → v.Passes (outs.take i) out := by
      intro i out hget
      obtain ⟨out', hget', hout⟩ := h i (List.getElem?_eq_some_iff.1 hget).1
      exact some.inj (hget'.symm.trans hget) ▸ hout
    refine ⟨fun out hout => ?_, fun channel scope hscope => onChannel_le_iff.2 ?_⟩
    · obtain ⟨i, hget⟩ := List.mem_iff_getElem?.1 hout
      obtain ⟨scope, hscope, hfits, -⟩ := hpasses i out hget
      exact ⟨scope, hscope, hfits⟩
    · rintro i out hget rfl
      obtain ⟨scope', hscope', -, hroom⟩ := hpasses i out hget
      exact some.inj (hscope'.symm.trans hscope) ▸ hroom
  · rintro ⟨hcovers, hcounts⟩ i hi
    have hget := List.getElem?_eq_getElem hi
    obtain ⟨scope, hscope, hfits⟩ := hcovers outs[i] (List.getElem_mem hi)
    exact ⟨_, hget, scope, hscope, hfits, onChannel_le_iff.1 (hcounts _ scope hscope) i _ hget rfl⟩

theorem gateOutputs_eq_ok_iff :
    gateOutputs v outs = .ok () ↔ (∀ out ∈ outs, v.Covers out) ∧
      ∀ channel scope, v.outputScope channel = some scope → onChannel channel outs ≤ scope.maxCount := by
  rw [← passesAt_iff]
  constructor
  · intro hok i hi
    exact (gateFrom_run [] outs hok).1 rfl i (Nat.zero_le _) hi
  · intro hall
    cases hrun : gateOutputs v outs with
    | ok u => rfl
    | error e =>
      obtain ⟨-, hlt, hoffends⟩ := (gateFrom_run [] outs hrun).2 e rfl
      exact absurd (hall e.index hlt) hoffends

end Gate

/-- **The gate and its first offender.**  The gate lets a batch through exactly if every output is
inside the scope of its channel and no channel carries more than its scope allows; an error names
the first output that does not pass after those before it. -/
theorem gate_names_first_offender (v : CapabilityVector) (outs : List ProposedOutput) :
    (gateOutputs v outs = .ok () ↔ (∀ out ∈ outs, v.Covers out) ∧
      ∀ channel scope, v.outputScope channel = some scope →
        onChannel channel outs ≤ scope.maxCount) ∧
    ∀ e, gateOutputs v outs = .error e → (∀ i < e.index, v.PassesAt outs i) ∧
      e.index < outs.length ∧ ¬ v.PassesAt outs e.index := by
  refine ⟨gateOutputs_eq_ok_iff, fun e he => ?_⟩
  obtain ⟨hearlier, hoffends⟩ := (gateFrom_run [] outs he).2 e rfl
  exact ⟨fun i hi => hearlier i (Nat.zero_le _) hi, hoffends⟩

end Akson
