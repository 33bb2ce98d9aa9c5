/-
# Both halves of an introduction

The responder serves two requests on one connection: the hello, and the complete that commits.
-/
import Akson.Pairing.Material
import Akson.Receive.Http
import Akson.Store.Introduction

namespace Akson

open Except Option

/-! ## The identity that is pinned -/

def securityProjection (cardValue keyBinding : Json) : Json :=
  let extensions := (((cardValue.get? "capabilities").bind (·.getArr? "extensions")).getD [])
  let required := extensions.filter (fun e => (e.getBool? "required").getD false)
  let uris := (required.filterMap (·.getStr? "uri")).insertionSort (· ≤ ·)
  let field := fun name => (cardValue.get? name).getD .null
  .obj [("supportedInterfaces", field "supportedInterfaces"),
    ("securityRequirements", field "securityRequirements"),
    ("securitySchemes", field "securitySchemes"),
    ("requiredExtensions", .arr (uris.map .str)),
    ("keyBinding", keyBinding)]

inductive PeerError where
  | serialize
  | unknownPurpose (purpose : String)

def jsonSha256 (env : Env) (v : Json) : Fingerprint :=
  ⟨.jsonSha256, hex (env.sha256 (Json.canonicalBytes env.fmtNum v))⟩

def keyBindingsFrom : List (String × KeyEntry) → Except PeerError (List KeyBinding)
  | [] => .ok []
  | (purpose, entry) :: keys => do
    let known ← okOr (KeyPurpose.ofName purpose) (.unknownPurpose purpose)
    let rest ← keyBindingsFrom keys
    .ok (⟨known, ⟨.jwk7638, entry.thumbprint⟩⟩ :: rest)

def peerIdentityFrom (env : PairingEnv) (bindings : KeyBindingSet) (card : AgentCard) :
    Except PeerError PeerIdentity := do
  let cardValue ← okOr (env.cardJson card) .serialize
  let keyBindings ← keyBindingsFrom bindings.keys
  .ok
    { issuer := some bindings.issuer
      agentId := bindings.agent
      workloadId := none
      endpointId :=
        (((cardValue.getArr? "supportedInterfaces").bind List.head?).bind (·.getStr? "url")).getD ""
      tlsCert := ⟨.certSha256, bindings.tlsCertificateSha256⟩
      agentCardKey := ⟨.jwk7638, ((lookupName bindings.keys "agent-card").map
        KeyEntry.thumbprint).getD ""⟩
      keyBindings := keyBindings
      securityProjectionDigest := jsonSha256 env.toEnv (securityProjection cardValue bindings.json)
      fullCardDigest := jsonSha256 env.toEnv (withoutMember "signatures" cardValue) }

variable {env : PairingEnv} {identity : PeerIdentity} {bindings : KeyBindingSet} {now : Int}
  {me : IntroIdentity}

theorem agentCardKey_peerIdentityFrom {card : AgentCard} {entry : KeyEntry}
    (h : peerIdentityFrom env bindings card = .ok identity)
    (hentry : lookupName bindings.keys "agent-card" = some entry) :
    identity.agentCardKey.value = entry.thumbprint := by
  simp only [peerIdentityFrom, bind_eq_ok] at h
  obtain ⟨_, -, _, -, hout⟩ := h
  rw [← ok.inj hout]
  simp [hentry]

def bindingKeys (env : Env) (bindings : KeyBindingSet) : List (String × Bytes) :=
  bindings.keys.filterMap (fun k =>
    match k.2.jwk.toKey env with
    | .ok key => some (k.1, key)
    | .error _ => none)

/-! ## This endpoint -/

/-- The secret keys of an endpoint. -/
structure IdentityKeys where
  secret : KeyPurpose → Bytes

def IdentityKeys.purposeKey (identity : IdentityKeys) (purpose : KeyPurpose) : PurposeKey :=
  ⟨purpose, identity.secret purpose⟩

/-- What an endpoint introduces itself with. -/
structure IntroIdentity where
  keys : List (KeyPurpose × PurposeKey)
  signedCard : AgentCard
  certSha256 : String
  ownRoot : String
  issuer : String
  agent : String
  requiredExtensions : List String

def statementKeys (identity : IdentityKeys) : List (KeyPurpose × PurposeKey) :=
  (KeyPurpose.paired.filter (· ≠ .tlsEndpoint)).map (fun p => (p, identity.purposeKey p))

def introNotBefore : String := "2020-01-01T00:00:00Z"

def introNotAfter : String := "2035-01-01T00:00:00Z"

def IntroIdentity.fromState (env : PairingEnv) (identity : IdentityKeys)
    (issuer agent interfaceUrl certSha256 : String) : Except Problem IntroIdentity := do
  let signedCard ← (signedEndpointCard env agent interfaceUrl
    (identity.purposeKey .agentCard)).mapError
      (fun _ => Problem.new 500 "card-sign" "the agent card could not be signed")
  .ok
    { keys := statementKeys identity
      signedCard := signedCard
      certSha256 := certSha256
      ownRoot := thumbprint env.toEnv (env.publicKey (identity.secret .agentCard))
      issuer := issuer
      agent := agent
      requiredExtensions := requiredExtensionUris }

def introTranscript (role : Role) (dialerRoot responderRoot dialerTls responderTls : String)
    (exporter : Bytes) (nonce : String) : IntroTranscript where
  protocolVersion := protocolVersion
  tokenVersion := tokenVersion
  role := role
  dialerRoot := dialerRoot
  responderRoot := responderRoot
  dialerTlsSha256 := dialerTls
  responderTlsSha256 := responderTls
  tlsExporter := base64Encode .urlSafeNoPad exporter
  nonce := nonce
  keyBindingSha256 := ""

def IntroIdentity.build (env : PairingEnv) (me : IntroIdentity) (t : IntroTranscript) :
    Except IntroError IntroMaterial :=
  buildIntroMaterial env.toEnv t me.issuer me.agent me.signedCard me.keys introNotBefore
    introNotAfter 0

/-! ## Messages -/

def version? (v : Json) (k : String) : Option ℕ := (v.getNat? k).filter (· < 4294967296)

def Hello.ofJson (v : Json) : Option Hello := do
  let protocolVersion ← version? v "protocol_version"
  let tokenVersion ← version? v "token_version"
  let targetRoot ← v.getStr? "target_root"
  let claimedRoot ← v.getStr? "claimed_root"
  let nonce ← v.getStr? "nonce"
  some ⟨protocolVersion, tokenVersion, targetRoot, claimedRoot, nonce⟩

def readProofs (v : Json) : Option (List (String × String)) :=
  match v.get? "proofs" with
  | none => some []
  | some (.obj fs) =>
    (fs.mapM (fun f : String × Json => f.2.str?.map (fun proof => (f.1, proof)))).map sortByName
  | some _ => none

def IntroMaterial.ofJson (env : PairingEnv) (v : Json) : Option IntroMaterial := do
  let keyBinding ← v.get? "key_binding"
  let extendedCard ← (v.get? "extended_card").bind env.parseCard
  let proofs ← readProofs v
  some ⟨keyBinding, extendedCard, proofs⟩

def IntroMaterial.json (env : PairingEnv) (m : IntroMaterial) : Option Json := do
  let card ← env.cardJson m.extendedCard
  some (.obj [("key_binding", m.keyBinding), ("extended_card", card),
    ("proofs", .obj (m.proofs.map (fun p => (p.1, .str p.2))))])

def ackJson (ok : Bool) : Json := .obj [("ok", .bool ok)]

/-! ## Knocks -/

/-- Refused introductions of one kind, counted. -/
structure KnockRow where
  claimedRoot : String
  source : String
  refusalClass : String
  firstAt : Time
  lastAt : Time
  count : ℕ

instance : Row KnockRow where
  clash a b := a.claimedRoot = b.claimedRoot ∧ a.source = b.source ∧ a.refusalClass = b.refusalClass
  clash_symm _ _ h := ⟨h.1.symm, h.2.1.symm, h.2.2.symm⟩
  clash_dec _ _ := inferInstanceAs (Decidable (_ ∧ _ ∧ _))

def KnockRow.again (now : Time) (r : KnockRow) : KnockRow :=
  { r with lastAt := now, count := r.count + 1 }

def knockLogCap : ℕ := 1024

/-- The store with the log of refusals. -/
structure IntroStore where
  store : Store
  knocks : Table KnockRow

def IntroStore.recordKnock (s : IntroStore) (claimedRoot source refusalClass : String) (now : Time) :
    IntroStore :=
  let same := fun r : KnockRow =>
    decide (r.claimedRoot = claimedRoot ∧ r.source = source ∧ r.refusalClass = refusalClass)
  if s.knocks.count same = 1 then
    { s with knocks := s.knocks.updateWhere same (KnockRow.again now) }
  else if knockLogCap ≤ s.knocks.rows.length then s
  else
    { s with knocks :=
        (s.knocks.insert ⟨claimedRoot, source, refusalClass, now, now, 1⟩).getD s.knocks }

/-! ## The responder -/

/-- How far an inbound introduction has come. -/
inductive IntroConnState where
  | fresh
  | pending (hello : Hello) (epoch : ℕ)
  | done

/-- A request of an unknown connection. -/
structure IntroRequest where
  path : String
  method : String
  contentType : String
  source : String
  dialerTls : Option String
  exporter : Option Bytes
  body : Bytes
  now : Time

/-- What the handler leaves behind. -/
structure IntroAnswer where
  response : HttpResponse
  close : Bool
  slot : IntroConnState
  state : IntroStore

def introRefused (env : Env) : HttpResponse :=
  problemResponse env 403 "introduction-refused" "the introduction was refused"

def introInternal (env : Env) : HttpResponse :=
  problemResponse env 500 "internal" "the request could not be processed"

def saneClaim (claimed : String) : String × Bool :=
  if isThumbprint claimed then (claimed, true) else ("", false)

def admitHello (me : IntroIdentity) (hello : Hello) (s : Store) : Except String ℕ :=
  if hello.protocolVersion ≠ protocolVersion ∨ hello.tokenVersion ≠ tokenVersion then
    .error "bad-version"
  else if hello.targetRoot ≠ me.ownRoot ∨ (saneClaim hello.claimedRoot).2 = false then
    .error (if (saneClaim hello.claimedRoot).2 then "wrong-target" else "malformed")
  else
    match s.peerImport hello.claimedRoot with
    | some live => .ok live.epoch
    | none => .error "not-imported"

def helloAnswer (env : PairingEnv) (me : IntroIdentity) (hello : Hello) (dialerTls : String)
    (exporter : Bytes) : Option Bytes :=
  match me.build env (introTranscript .responder hello.claimedRoot me.ownRoot dialerTls
    me.certSha256 exporter hello.nonce) with
  | .error _ => none
  | .ok material => (material.json env).map env.jsonText

def respondHello (env : PairingEnv) (me : IntroIdentity) (req : IntroRequest) (dialerTls : String)
    (exporter : Bytes) (slot : IntroConnState) (s : IntroStore) : IntroAnswer :=
  match slot with
  | .pending _ _ | .done => ⟨introRefused env.toEnv, true, .done, s⟩
  | .fresh =>
    match (env.parseJson req.body).bind Hello.ofJson with
    | none => ⟨introRefused env.toEnv, true, .fresh, s⟩
    | some hello =>
      match admitHello me hello s.store with
      | .error knock =>
        ⟨introRefused env.toEnv, true, .fresh,
          s.recordKnock (saneClaim hello.claimedRoot).1 req.source knock req.now⟩
      | .ok epoch =>
        match helloAnswer env me hello dialerTls exporter with
        | none => ⟨introInternal env.toEnv, true, .fresh, s⟩
        | some out => ⟨⟨200, introductionMediaType, out⟩, false, .pending hello epoch, s⟩

def nanosOf (now : Time) : Int :=
  if -377705116800 ≤ now ∧ now ≤ 253402300799 then now * 1000000000 else 0

def commitResponse (env : Env) : IntroCommitOutcome → HttpResponse
  | .committed | .alreadyActive => ⟨200, introductionMediaType, env.jsonText (ackJson true)⟩
  | .suspended _ =>
    problemResponse env 409 "peer-suspended"
      "pinned identity material changed; operator review required"
  | .epochChanged | .notImported => introRefused env

def dialerTranscript (me : IntroIdentity) (hello : Hello) (dialerTls : String)
    (exporter : Bytes) : IntroTranscript :=
  introTranscript .dialer hello.claimedRoot me.ownRoot dialerTls me.certSha256 exporter
    hello.nonce

def respondComplete (env : PairingEnv) (me : IntroIdentity) (req : IntroRequest) (dialerTls : String)
    (exporter : Bytes) (slot : IntroConnState) (s : IntroStore) : IntroAnswer :=
  match slot with
  | .fresh | .done => ⟨introRefused env.toEnv, true, .done, s⟩
  | .pending hello epoch =>
    match (env.parseJson req.body).bind (IntroMaterial.ofJson env) with
    | none => ⟨introRefused env.toEnv, true, .done, s⟩
    | some material =>
      match verifyIntroduction env hello.claimedRoot (dialerTranscript me hello dialerTls
        exporter) dialerTls material me.requiredExtensions (nanosOf req.now) with
      | .error _ =>
        ⟨introRefused env.toEnv, true, .done,
          s.recordKnock (saneClaim hello.claimedRoot).1 req.source "bad-proof" req.now⟩
      | .ok verified =>
        match peerIdentityFrom env verified.bindings material.extendedCard with
        | .error _ => ⟨introRefused env.toEnv, true, .done, s⟩
        | .ok identity =>
          -- against the epoch of the admission: a removal since then refuses
          match commitIntroducedPeer hello.claimedRoot epoch ⟨identity, ""⟩
            (bindingKeys env.toEnv verified.bindings) req.now s.store with
          | .error _ => ⟨introInternal env.toEnv, true, .done, s⟩
          | .ok (outcome, store) =>
            ⟨commitResponse env.toEnv outcome, true, .done, { s with store := store }⟩

/-- Answer one request of an introduction. -/
def respondIntroduction (env : PairingEnv) (me : IntroIdentity) (req : IntroRequest)
    (slot : IntroConnState) (s : IntroStore) : IntroAnswer :=
  if req.method ≠ "POST" ∨
      introductionMediaType.toList.isPrefixOf req.contentType.toList = false then
    ⟨introRefused env.toEnv, true, slot, s⟩
  else
    match req.dialerTls, req.exporter with
    | some dialerTls, some exporter =>
      if req.path = helloPath then respondHello env me req dialerTls exporter slot s
      else if req.path = completePath then respondComplete env me req dialerTls exporter slot s
      else ⟨introRefused env.toEnv, true, slot, s⟩
    | _, _ => ⟨introRefused env.toEnv, true, slot, s⟩

/-! ## The dialer -/

inductive IntroduceError where
  | noEndpoint
  | badEndpoint
  | tls
  | io
  | http (why : String)
  | refused
  | status (code : ℕ)
  | verify (why : Option IntroError)
  | store
  | notCommitted (outcome : IntroCommitOutcome)

def port? (s : String) : Option ℕ :=
  let digits := match s.toList with
    | '+' :: cs => cs
    | cs => cs
  if digits ≠ [] ∧ digits.all Char.isDigit then
    (some (digits.foldl (fun n c => 10 * n + (c.toNat - 48)) 0)).filter (· ≤ 65535)
  else none

def hostPort? (hint : String) : Option (String × ℕ) :=
  match hint.toList.reverse.span (· ≠ ':') with
  | (port, _ :: host) =>
    (port? (String.ofList port.reverse)).map (fun p => (String.ofList host.reverse, p))
  | (_, []) => none

/-- What a dialer meets. -/
structure DialWorld where
  session : Except IntroduceError (String × Bytes)
  nonce : String
  helloAnswer : Except IntroduceError Bytes
  completeAnswer : Except IntroduceError Bytes

def dialVerify (env : PairingEnv) (me : IntroIdentity) (imported : PeerImport) (world : DialWorld)
    (now : Int) : Except IntroduceError (PeerIdentity × List (String × Bytes)) := do
  ensure (imported.endpointHint ≠ "") .noEndpoint
  let _ ← okOr (hostPort? imported.endpointHint) .badEndpoint
  let (responderTls, exporter) ← world.session
  let helloBody ← world.helloAnswer
  let material ← okOr ((env.parseJson helloBody).bind (IntroMaterial.ofJson env)) (.verify none)
  let transcriptOf := fun role => introTranscript role me.ownRoot imported.rootThumbprint
    me.certSha256 responderTls exporter world.nonce
  let verified ← (verifyIntroduction env imported.rootThumbprint (transcriptOf .responder)
    responderTls material me.requiredExtensions now).mapError (fun e => .verify (some e))
  let _ ← (me.build env (transcriptOf .dialer)).mapError (fun _ => .http "building material")
  let ackBody ← world.completeAnswer
  let ack ← okOr ((env.parseJson ackBody).bind (·.getBool? "ok")) (.verify none)
  ensure (ack = true) (.verify none)
  let identity ← (peerIdentityFrom env verified.bindings material.extendedCard).mapError
    (fun _ => .verify none)
  .ok (identity, bindingKeys env.toEnv verified.bindings)

def dialCommit (imported : PeerImport) (identity : PeerIdentity) (keys : List (String × Bytes))
    (now : Time) (s : Store) : Except IntroduceError (PeerIdentity × IntroCommitOutcome) × Store :=
  match commitIntroducedPeer imported.rootThumbprint imported.epoch ⟨identity, ""⟩ keys now s with
  | .error _ => (.error .store, s)
  | .ok (.committed, s') => (.ok (identity, .committed), s')
  | .ok (.alreadyActive, s') => (.ok (identity, .alreadyActive), s')
  | .ok (outcome, s') => (.error (.notCommitted outcome), s')

/-! ## What a request can do -/

/-- Introduction material that was accepted, and what is pinned of it. -/
structure Accepted (env : PairingEnv) (root : String) (transcript : IntroTranscript)
    (subjectTls : String) (requiredExtensions : List String) (now : Int) (material : IntroMaterial)
    (bindings : KeyBindingSet) (identity : PeerIdentity) : Prop where
  introduces : Introduces env root transcript subjectTls material requiredExtensions now bindings
  identity : peerIdentityFrom env bindings material.extendedCard = .ok identity

theorem Accepted.root_eq {root subjectTls : String} {transcript : IntroTranscript}
    {requiredExtensions : List String} {material : IntroMaterial}
    (h : Accepted env root transcript subjectTls requiredExtensions now material bindings identity) :
    identity.agentCardKey.value = root := by
  obtain ⟨entry, _, hentry, hroot, -⟩ := h.introduces.card
  rw [agentCardKey_peerIdentityFrom h.identity hentry, hroot]

theorem IntroStore.store_recordKnock (s : IntroStore) (claimedRoot source refusalClass : String)
    (now : Time) : (s.recordKnock claimedRoot source refusalClass now).store = s.store := by
  unfold recordKnock
  dsimp only
  split
  · rfl
  · split
    · rfl
    · rfl

theorem admitHello_eq_ok {hello : Hello} {s : Store} {epoch : ℕ}
    (h : admitHello me hello s = .ok epoch) :
    ∃ live, s.peerImport hello.claimedRoot = some live ∧ live.epoch = epoch := by
  unfold admitHello at h
  split at h
  case isTrue => cases h
  case isFalse =>
    split at h
    case isTrue => cases h
    case isFalse =>
      split at h
      case h_1 live hlive => exact ⟨live, hlive, ok.inj h⟩
      case h_2 => cases h

theorem respondHello_cases (env : PairingEnv) (me : IntroIdentity) (req : IntroRequest)
    (dialerTls : String) (exporter : Bytes) (slot : IntroConnState) (s : IntroStore) :
    (respondHello env me req dialerTls exporter slot s).state.store = s.store ∧
      ((respondHello env me req dialerTls exporter slot s).slot = .done ∨
        slot = .fresh ∧ (respondHello env me req dialerTls exporter slot s).slot = .fresh ∨
        ∃ hello live, slot = .fresh ∧ s.store.peerImport hello.claimedRoot = some live ∧
          (respondHello env me req dialerTls exporter slot s).slot = .pending hello live.epoch) := by
  unfold respondHello
  split
  case h_1 => exact ⟨rfl, .inl rfl⟩
  case h_2 => exact ⟨rfl, .inl rfl⟩
  case h_3 =>
    split
    case h_1 => exact ⟨rfl, .inr (.inl ⟨rfl, rfl⟩)⟩
    case h_2 hello _ =>
      split
      case h_1 => exact ⟨s.store_recordKnock .., .inr (.inl ⟨rfl, rfl⟩)⟩
      case h_2 epoch hadmit =>
        obtain ⟨live, hlive, rfl⟩ := admitHello_eq_ok hadmit
        split
        case h_1 => exact ⟨rfl, .inr (.inl ⟨rfl, rfl⟩)⟩
        case h_2 => exact ⟨rfl, .inr (.inr ⟨hello, live, rfl, hlive, rfl⟩)⟩

/-- A commit of an introduction that is tried. -/
structure Attempt where
  root : String
  epoch : ℕ
  peer : StoredPeer
  keys : List (String × Bytes)
  now : Time

namespace Attempt

def result (a : Attempt) (s : Store) : Except StoreError (IntroCommitOutcome × Store) :=
  commitIntroducedPeer a.root a.epoch a.peer a.keys a.now s

def commit (a : Attempt) (s : Store) : Store :=
  match a.result s with
  | .ok (_, s') => s'
  | .error _ => s

end Attempt

def completeAttempt (env : PairingEnv) (me : IntroIdentity) (req : IntroRequest) (dialerTls : String)
    (exporter : Bytes) (slot : IntroConnState) : Option Attempt :=
  match slot with
  | .fresh | .done => none
  | .pending hello epoch => do
    let material ← (env.parseJson req.body).bind (IntroMaterial.ofJson env)
    let verified ← (verifyIntroduction env hello.claimedRoot (dialerTranscript me hello dialerTls
      exporter) dialerTls material me.requiredExtensions (nanosOf req.now)).toOption
    let identity ← (peerIdentityFrom env verified.bindings material.extendedCard).toOption
    some ⟨hello.claimedRoot, epoch, ⟨identity, ""⟩, bindingKeys env.toEnv verified.bindings, req.now⟩

theorem respondComplete_eq (env : PairingEnv) (me : IntroIdentity) (req : IntroRequest)
    (dialerTls : String) (exporter : Bytes) (slot : IntroConnState) (s : IntroStore) :
    (respondComplete env me req dialerTls exporter slot s).slot = .done ∧
      (respondComplete env me req dialerTls exporter slot s).state.store =
        ((completeAttempt env me req dialerTls exporter slot).map (·.commit s.store)).getD s.store := by
  unfold respondComplete completeAttempt
  cases slot with
  | fresh => exact ⟨rfl, rfl⟩
  | done => exact ⟨rfl, rfl⟩
  | pending hello epoch =>
    cases hmaterial : (env.parseJson req.body).bind (IntroMaterial.ofJson env) with
    | none => exact ⟨rfl, rfl⟩
    | some material =>
      simp only [bind_eq_bind, bind_some]
      cases hverified : verifyIntroduction env hello.claimedRoot (dialerTranscript me hello
          dialerTls exporter) dialerTls material me.requiredExtensions (nanosOf req.now) with
      | error e => exact ⟨rfl, s.store_recordKnock ..⟩
      | ok verified =>
        simp only [Except.toOption, bind_some]
        cases hidentity : peerIdentityFrom env verified.bindings material.extendedCard with
        | error e => exact ⟨rfl, rfl⟩
        | ok identity =>
          simp only [bind_some, map_some, getD_some, Attempt.commit,
            Attempt.result]
          cases commitIntroducedPeer hello.claimedRoot epoch ⟨identity, ""⟩
              (bindingKeys env.toEnv verified.bindings) req.now s.store with
          | error e => exact ⟨rfl, rfl⟩
          | ok r => exact ⟨rfl, rfl⟩

theorem completeAttempt_eq_some {req : IntroRequest} {dialerTls : String} {exporter : Bytes}
    {slot : IntroConnState} {a : Attempt}
    (h : completeAttempt env me req dialerTls exporter slot = some a) :
    ∃ hello epoch material bindings identity, slot = .pending hello epoch ∧
      Accepted env hello.claimedRoot (dialerTranscript me hello dialerTls exporter) dialerTls
        me.requiredExtensions (nanosOf req.now) material bindings identity ∧
      a = ⟨hello.claimedRoot, epoch, ⟨identity, ""⟩, bindingKeys env.toEnv bindings, req.now⟩ := by
  unfold completeAttempt at h
  cases slot with
  | fresh => cases h
  | done => cases h
  | pending hello epoch =>
    simp only [bind_eq_bind, bind_eq_some_iff] at h
    obtain ⟨material, -, verified, hverified, identity, hidentity, hout⟩ := h
    have hverified' := toOption_eq_some_iff.1 hverified
    obtain ⟨-, hintro⟩ := verifyIntroduction_eq_ok_iff.1 hverified'
    exact ⟨hello, epoch, material, _, identity, rfl, ⟨hintro, toOption_eq_some_iff.1 hidentity⟩,
      (some.inj hout).symm⟩

theorem respondIntroduction_cases (env : PairingEnv) (me : IntroIdentity) (req : IntroRequest)
    (slot : IntroConnState) (s : IntroStore) :
    (respondIntroduction env me req slot s = ⟨introRefused env.toEnv, true, slot, s⟩) ∨
    (∃ dialerTls exporter, req.path = helloPath ∧ req.dialerTls = some dialerTls ∧
      req.exporter = some exporter ∧
      respondIntroduction env me req slot s = respondHello env me req dialerTls exporter slot s) ∨
    (∃ dialerTls exporter, req.path = completePath ∧ req.dialerTls = some dialerTls ∧
      req.exporter = some exporter ∧
      respondIntroduction env me req slot s = respondComplete env me req dialerTls exporter slot s) := by
  unfold respondIntroduction
  split
  case isTrue => exact .inl rfl
  case isFalse =>
    split
    case h_1 dialerTls exporter htls hexporter =>
      split
      case isTrue hpath => exact .inr (.inl ⟨dialerTls, exporter, hpath, htls, hexporter, rfl⟩)
      case isFalse =>
        split
        case isTrue hpath => exact .inr (.inr ⟨dialerTls, exporter, hpath, htls, hexporter, rfl⟩)
        case isFalse => exact .inl rfl
    case h_2 => exact .inl rfl

/-- What a dialer has verified. -/
structure Dialed (env : PairingEnv) (me : IntroIdentity) (imported : PeerImport) (world : DialWorld)
    (now : Int) (responderTls : String) (exporter : Bytes) (material : IntroMaterial)
    (bindings : KeyBindingSet) (identity : PeerIdentity) : Prop where
  session : world.session = .ok (responderTls, exporter)
  accepted : Accepted env imported.rootThumbprint (introTranscript .responder me.ownRoot
    imported.rootThumbprint me.certSha256 responderTls exporter world.nonce) responderTls
    me.requiredExtensions now material bindings identity

theorem dialVerify_eq_ok {imported : PeerImport} {world : DialWorld} {keys : List (String × Bytes)}
    (h : dialVerify env me imported world now = .ok (identity, keys)) :
    ∃ responderTls exporter material bindings, Dialed env me imported world now responderTls exporter
      material bindings identity ∧ keys = bindingKeys env.toEnv bindings := by
  simp only [dialVerify, bind_eq_ok, ensure_eq_ok, okOr_eq_ok,
    mapError_eq_ok, exists_const] at h
  obtain ⟨-, _, -, ⟨responderTls, exporter⟩, hsession, _, -, material, -, verified, hverified, _, -,
    _, -, _, -, -, identity', hidentity, hout⟩ := h
  cases hout
  obtain ⟨-, hintro⟩ := verifyIntroduction_eq_ok_iff.1 hverified
  exact ⟨responderTls, exporter, material, _, ⟨hsession, hintro, hidentity⟩, rfl⟩

def dialAttempt (imported : PeerImport) (identity : PeerIdentity) (keys : List (String × Bytes))
    (now : Time) : Attempt :=
  ⟨imported.rootThumbprint, imported.epoch, ⟨identity, ""⟩, keys, now⟩

theorem dialCommit_snd (imported : PeerImport) (identity : PeerIdentity)
    (keys : List (String × Bytes)) (now : Time) (s : Store) :
    (dialCommit imported identity keys now s).2 =
      (dialAttempt imported identity keys now).commit s := by
  unfold dialCommit Attempt.commit Attempt.result dialAttempt
  dsimp only
  cases commitIntroducedPeer imported.rootThumbprint imported.epoch ⟨identity, ""⟩ keys now s with
  | error e => rfl
  | ok r =>
    obtain ⟨outcome, s'⟩ := r
    cases outcome <;> rfl

end Akson
