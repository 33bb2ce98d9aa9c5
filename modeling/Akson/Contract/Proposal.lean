/-
# Receiving a proposal

What a message has to be for its contract to become a task: one contract-control part with an
envelope that verifies under the peer's proposal key, a requester that is the authenticated peer, a
performer that is this endpoint, inputs bound to their manifest, and a trusted time inside the
contract's window.
-/
import Akson.Contract.Manifest
import Akson.Ext.Dsse

namespace Akson

/-! ## The parts of the message -/

/-- The envelope and the inputs of a message. -/
structure Extracted where
  envelope : Envelope
  inputs : List InputPart

inductive ExtractError where
  | missingContractPart
  | multipleContractParts
  | contractPartNotData
  | malformedEnvelope
  | unsupportedPartKind (index : ℕ)
  | emptyPart (index : ℕ)

def ExtractError.message : ExtractError → String
  | .missingContractPart =>
    "no contract-control Part (no Part carries the DSSE-envelope media type)"
  | .multipleContractParts => "more than one contract-control Part"
  | .contractPartNotData => "the contract-control Part is not a data Part"
  | .malformedEnvelope => "the contract-control Part's data is not a DSSE envelope"
  | .unsupportedPartKind index => s!"Part {index} is a raw or URL Part, unsupported in v1"
  | .emptyPart index => s!"Part {index} has no content"

def extractParts (messageId : String) (index : ℕ) (envelope : Option Envelope) :
    List Part → Except ExtractError (Option Envelope × List InputPart)
  | [] => .ok (envelope, [])
  | part :: parts =>
    match part.content, decide (part.mediaType = dsseEnvelopeMediaType) with
    | some (.data value), true => do
      Except.ensure (envelope = none) .multipleContractParts
      let found ← Except.okOr (Envelope.ofJson value) .malformedEnvelope
      extractParts messageId (index + 1) (some found) parts
    | _, true => .error .contractPartNotData
    | some (.text s), false => do
      let (envelope, inputs) ← extractParts messageId (index + 1) envelope parts
      .ok (envelope, ⟨messageId, index, part.mediaType, .text s⟩ :: inputs)
    | some (.data value), false => do
      let (envelope, inputs) ← extractParts messageId (index + 1) envelope parts
      .ok (envelope, ⟨messageId, index, part.mediaType, .data value⟩ :: inputs)
    | some (.raw _), false => .error (.unsupportedPartKind index)
    | some (.url _), false => .error (.unsupportedPartKind index)
    | none, false => .error (.emptyPart index)

def extractProposal (messageId : String) (parts : List Part) : Except ExtractError Extracted := do
  let (envelope, inputs) ← extractParts messageId 0 none parts
  let envelope ← Except.okOr envelope .missingContractPart
  .ok ⟨envelope, inputs⟩

/-! ## The signature and the identities -/

inductive ProposalError where
  | purpose (error : KeyError)
  | dsse (error : DsseError)
  | contract (error : ContractError)
  | requesterMismatch
  | performerMismatch

variable (env : Env)

def ProposalError.message : ProposalError → String
  | .purpose error => "proposal key purpose: " ++ error.message
  | .dsse error => "dsse: " ++ error.message env
  | .contract error => "contract payload invalid: " ++ error.message env
  | .requesterMismatch => "requester identity does not match the authenticated origin"
  | .performerMismatch => "performer identity does not match the local endpoint"

def proposalPayloadType : String := payloadMediaType "contract"

def signProposal (payload : Bytes) (key : PurposeKey) :
    Except ProposalError Envelope := do
  let _ ← (parsePayload env payload).mapError .contract
  let secret ← (key.secretFor .contractProposal).mapError .purpose
  .ok (dsseSign env proposalPayloadType payload secret)

def verifyProposal (envelope : Envelope) (key : PurposeVerifyingKey) :
    Except ProposalError ParsedContract := do
  let vk ← (key.keyFor .contractProposal).mapError .purpose
  let payload ← (dsseVerify env envelope proposalPayloadType vk).mapError .dsse
  (parsePayload env payload).mapError .contract

def checkProposalIdentities (contract : Contract) (requesterOrigin localPerformer : Identity) :
    Except ProposalError Unit := do
  Except.ensure (contract.requester = requesterOrigin) .requesterMismatch
  Except.ensure (contract.performer = localPerformer) .performerMismatch

/-! ## The window -/

/-- Where a moment lies in a contract's window. -/
inductive Validity where
  | valid
  | notYetValid
  | expired
deriving DecidableEq

structure TimestampError where
  field : String
deriving DecidableEq

def TimestampError.message (e : TimestampError) : String :=
  s!"contract timestamp {e.field} is not a parseable RFC 3339 instant"

def notYetValidLeewaySecs : Time := 5

def parseTimestamp (s field : String) : Except TimestampError Time :=
  Except.okOr (env.parseRfc3339 s) ⟨field⟩

def validity (contract : Contract) (now : Time) : Except TimestampError Validity := do
  let created ← parseTimestamp env contract.createdAt "created_at"
  let expires ← parseTimestamp env contract.expiresAt "expires_at"
  .ok (if created ≥ expires then .expired
    else if now < created - notYetValidLeewaySecs then .notYetValid
    else if now ≥ expires then .expired
    else .valid)

def expiresAtUnix (contract : Contract) : Except TimestampError Time :=
  parseTimestamp env contract.expiresAt "expires_at"

def deadlineUnix (contract : Contract) : Except TimestampError Time :=
  parseTimestamp env contract.limits.deadline "deadline"

/-! ## The whole -/

/-- A proposal that passed every check. -/
structure ReceivedProposal where
  proposal : ParsedContract
  inputs : List InputPart

inductive ReceiveError where
  | extract (error : ExtractError)
  | proposal (error : ProposalError)
  | bind (error : BindError)
  | expired
  | notYetValid
  | timestamp (error : TimestampError)

def ReceiveError.message : ReceiveError → String
  | .extract error => "part extraction: " ++ error.message
  | .proposal error => "proposal verification: " ++ error.message env
  | .bind error => "input-manifest binding: " ++ error.message env
  | .expired => "contract has expired"
  | .notYetValid => "contract is not yet valid"
  | .timestamp error => "contract timestamp is invalid: " ++ error.message

def Validity.check : Validity → Except ReceiveError Unit
  | .valid => .ok ()
  | .expired => .error .expired
  | .notYetValid => .error .notYetValid

/-- Every check on a proposal. -/
def receiveProposal (messageId : String) (parts : List Part)
    (proposalKey : PurposeVerifyingKey) (requesterOrigin localPerformer : Identity)
    (trustedNow : Time) : Except ReceiveError ReceivedProposal := do
  let extracted ← (extractProposal messageId parts).mapError .extract
  let proposal ← (verifyProposal env extracted.envelope proposalKey).mapError .proposal
  (checkProposalIdentities proposal.contract requesterOrigin localPerformer).mapError .proposal
  (bindInputs env proposal.contract.inputs extracted.inputs).mapError .bind
  let window ← (validity env proposal.contract trustedNow).mapError .timestamp
  window.check
  .ok ⟨proposal, extracted.inputs⟩

/-! ## What is accepted -/

/-- What a received proposal has been checked for. -/
structure Admitted (env : Env) (proposalKey : PurposeVerifyingKey)
    (requesterOrigin localPerformer : Identity) (trustedNow : Time) (r : ReceivedProposal) :
    Prop where
  purpose : proposalKey.purpose = .contractProposal
  signed : ∃ signature, env.verifyStrict proposalKey.verifying
    (pae proposalPayloadType r.proposal.payload) signature = true
  parsed : parsePayload env r.proposal.payload = .ok r.proposal
  requester : r.proposal.contract.requester = requesterOrigin
  performer : r.proposal.contract.performer = localPerformer
  bound : Bound env r.proposal.contract.inputs r.inputs
  window : validity env r.proposal.contract trustedNow = .ok .valid

theorem Validity.check_eq_ok_iff {v : Validity} {u : Unit} : v.check = .ok u ↔ v = .valid := by
  cases v <;> simp [Validity.check]

variable {env : Env} {envelope : Envelope} {proposalKey : PurposeVerifyingKey}
  {requesterOrigin localPerformer : Identity} {r : ReceivedProposal} {messageId : String}
  {parts : List Part} {now expires later : Time} {contract : Contract}

theorem verifyProposal_eq_ok {key : PurposeVerifyingKey} {parsed : ParsedContract}
    (h : verifyProposal env envelope key = .ok parsed) :
    key.purpose = .contractProposal ∧ parsePayload env parsed.payload = .ok parsed ∧
      ∃ signature, env.verifyStrict key.verifying (pae proposalPayloadType parsed.payload)
        signature = true := by
  simp only [verifyProposal, Except.bind_eq_ok, Except.mapError_eq_ok,
    PurposeVerifyingKey.keyFor_eq_ok_iff] at h
  obtain ⟨vk, ⟨hpurpose, rfl⟩, payload, hdsse, hparse⟩ := h
  obtain ⟨-, hpayload⟩ := parsePayload_digest hparse
  subst hpayload
  exact ⟨hpurpose, hparse, (dsseVerify_eq_ok hdsse).2⟩

theorem verifyProposal_signProposal {payload : Bytes} {key : PurposeKey}
    (h : signProposal env payload key = .ok envelope)
    (hsigns : env.Signs key.secret (pae proposalPayloadType payload)) :
    ∃ parsed, parsePayload env payload = .ok parsed ∧
      verifyProposal env envelope (key.verifying env) = .ok parsed := by
  simp only [signProposal, Except.bind_eq_ok, Except.mapError_eq_ok] at h
  obtain ⟨parsed, hparsed, secret, hsecret, hout⟩ := h
  cases hout
  unfold PurposeKey.secretFor at hsecret
  split at hsecret
  case isTrue => cases hsecret
  case isFalse hpurpose =>
    cases hsecret
    refine ⟨parsed, hparsed, ?_⟩
    simp only [verifyProposal, Except.bind_eq_ok, Except.mapError_eq_ok,
      PurposeVerifyingKey.keyFor_eq_ok_iff]
    exact ⟨_, ⟨(not_not.1 hpurpose).symm, rfl⟩, payload, dsseVerify_dsseSign hsigns, hparsed⟩

theorem receiveProposal_eq_ok {trustedNow : Time}
    (h : receiveProposal env messageId parts proposalKey requesterOrigin localPerformer trustedNow =
      .ok r) : Admitted env proposalKey requesterOrigin localPerformer trustedNow r := by
  simp only [receiveProposal, checkProposalIdentities, Except.bind_eq_ok, Except.mapError_eq_ok,
    Except.ensure_eq_ok, bindInputs_eq_ok_iff, Validity.check_eq_ok_iff] at h
  obtain ⟨extracted, -, proposal, hverify, -, ⟨-, hrequester, hperformer⟩, -, hbound, window, hwindow,
    -, rfl, hout⟩ := h
  cases hout
  obtain ⟨hpurpose, hparsed, hsigned⟩ := verifyProposal_eq_ok hverify
  exact ⟨hpurpose, hsigned, hparsed, hrequester, hperformer, hbound, hwindow⟩

theorem validity_eq_valid_iff : validity env contract now = .ok .valid ↔ ∃ created expires,
      parseTimestamp env contract.createdAt "created_at" = .ok created ∧
      parseTimestamp env contract.expiresAt "expires_at" = .ok expires ∧
      created < expires ∧ created - notYetValidLeewaySecs ≤ now ∧ now < expires := by
  simp only [validity, Except.bind_eq_ok]
  constructor
  · rintro ⟨created, hcreated, expires, hexpires, hverdict⟩
    refine ⟨created, expires, hcreated, hexpires, ?_⟩
    by_cases hempty : created ≥ expires
    · rw [if_pos hempty] at hverdict
      cases hverdict
    by_cases hearly : now < created - notYetValidLeewaySecs
    · rw [if_neg hempty, if_pos hearly] at hverdict
      cases hverdict
    by_cases hlate : now ≥ expires
    · rw [if_neg hempty, if_neg hearly, if_pos hlate] at hverdict
      cases hverdict
    exact ⟨not_le.1 hempty, not_lt.1 hearly, not_le.1 hlate⟩
  · rintro ⟨created, expires, hcreated, hexpires, hwindow, hstart, hend⟩
    refine ⟨created, hcreated, expires, hexpires, ?_⟩
    rw [if_neg (not_le.2 hwindow), if_neg (not_lt.2 hstart), if_neg (not_le.2 hend)]

theorem validity_later (h : validity env contract now = .ok .valid) (hle : now ≤ later)
    (hexpires : expiresAtUnix env contract = .ok expires) (hlt : later < expires) :
    validity env contract later = .ok .valid := by
  obtain ⟨created, _, hcreated, huntil, hwindow, hstart, -⟩ := validity_eq_valid_iff.1 h
  obtain rfl := Except.ok.inj (hexpires.symm.trans huntil)
  exact validity_eq_valid_iff.2 ⟨created, expires, hcreated, huntil, hwindow, hstart.trans hle, hlt⟩

theorem receiveProposal_later
    (h : receiveProposal env messageId parts proposalKey requesterOrigin localPerformer now = .ok r)
    (hle : now ≤ later) (hexpires : expiresAtUnix env r.proposal.contract = .ok expires)
    (hlt : later < expires) :
    receiveProposal env messageId parts proposalKey requesterOrigin localPerformer later = .ok r := by
  have hwindow := (receiveProposal_eq_ok h).window
  simp only [receiveProposal, Except.bind_eq_ok, Except.mapError_eq_ok] at h ⊢
  obtain ⟨extracted, hextract, proposal, hverify, u, hidentities, v, hbind, _, _, w, _, hout⟩ := h
  cases hout
  exact ⟨extracted, hextract, proposal, hverify, u, hidentities, v, hbind, .valid,
    validity_later hwindow hle hexpires hlt, (), rfl, rfl⟩

end Akson
