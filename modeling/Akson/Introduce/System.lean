/-
# Introductions in every interleaving

The operator's imports and removals run against any number of inbound connections and outbound
dials.  `introStep_view` says what a step is to the relationship with a root; everything about runs
follows from the moves listed there.
-/
import Akson.Introduce.Endpoint
import Akson.Introduce.Relationship

namespace Akson

open Option

/-! ## The system -/

/-- How far an outbound introduction has come. -/
inductive DialState where
  | idle
  | dialing (imported : PeerImport)
  | done

/-- The store and all handshakes. -/
structure IntroSystem where
  state : IntroStore
  conns : ℕ → IntroConnState
  dials : ℕ → DialState

/-- What a step shows. -/
inductive IntroLabel where
  | operator
  | removed (root : String)
  | request (conn : ℕ) (attempt : Option Attempt)
  | dial (dial : ℕ)
  | dialEnd (dial : ℕ)
  | dialCommit (dial : ℕ) (attempt : Attempt)

variable (env : PairingEnv)

def requestAttempt (me : IntroIdentity) (req : IntroRequest)
    (slot : IntroConnState) : Option Attempt :=
  if req.method ≠ "POST" ∨
      introductionMediaType.toList.isPrefixOf req.contentType.toList = false then none
  else
    match req.dialerTls, req.exporter with
    | some dialerTls, some exporter =>
      if req.path = completePath then completeAttempt env me req dialerTls exporter slot else none
    | _, _ => none

namespace IntroSystem

def withStore (s : IntroSystem) (store : Store) : IntroSystem :=
  { s with state := { s.state with store := store } }

def afterRequest (me : IntroIdentity) (s : IntroSystem) (conn : ℕ)
    (req : IntroRequest) : IntroSystem :=
  let answer := respondIntroduction env me req (s.conns conn) s.state
  { s with state := answer.state, conns := Function.update s.conns conn answer.slot }

end IntroSystem

/-- One step of the introductions. -/
inductive IntroStep (env : PairingEnv) (me : IntroIdentity) :
    IntroSystem → IntroLabel → IntroSystem → Prop
  | addImport {s : IntroSystem} {root label hint : String} {now : Time} {out : ImportOutcome}
      {store : Store} (h : addPeerImport root label hint now s.state.store = .ok (out, store)) :
      IntroStep env me s .operator (s.withStore store)
  | updateImport {s : IntroSystem} {root : String} {newLabel newEndpoint : Option String}
      {out : ImportOutcome} {store : Store}
      (h : updatePeerImport root newLabel newEndpoint s.state.store = .ok (out, store)) :
      IntroStep env me s .operator (s.withStore store)
  | remove {s : IntroSystem} {root : String} {now : Time} {store : Store}
      (h : removeRelationship root now s.state.store = (true, store)) :
      IntroStep env me s (.removed root) (s.withStore store)
  | removeNone {s : IntroSystem} {root : String} {now : Time} {store : Store}
      (h : removeRelationship root now s.state.store = (false, store)) :
      IntroStep env me s .operator (s.withStore store)
  | request (s : IntroSystem) (conn : ℕ) (req : IntroRequest) :
      IntroStep env me s (.request conn (requestAttempt env me req (s.conns conn)))
        (s.afterRequest env me conn req)
  | dial {s : IntroSystem} {d : ℕ} {root : String} {imported : PeerImport}
      (hidle : s.dials d = .idle) (h : s.state.store.peerImport root = some imported) :
      IntroStep env me s (.dial d)
        { s with dials := Function.update s.dials d (.dialing imported) }
  | dialEnd {s : IntroSystem} {d : ℕ} {imported : PeerImport}
      (hdialing : s.dials d = .dialing imported) :
      IntroStep env me s (.dialEnd d) { s with dials := Function.update s.dials d .done }
  | dialCommit {s : IntroSystem} {d : ℕ} {imported : PeerImport} {world : DialWorld}
      {started : Int} {identity : PeerIdentity} {keys : List (String × Bytes)} {now : Time}
      (hdialing : s.dials d = .dialing imported)
      (hverify : dialVerify env me imported world started = .ok (identity, keys)) :
      IntroStep env me s (.dialCommit d (dialAttempt imported identity keys now))
        { s.withStore (dialCommit imported identity keys now s.state.store).2 with
          dials := Function.update s.dials d .done }

structure IntroSystem.Initial (s : IntroSystem) : Prop where
  peers : s.state.store.peers = ∅
  conns : ∀ c, s.conns c = .fresh
  dials : ∀ d, s.dials d = .idle

/-- A handshake, inbound or outbound. -/
inductive Handshake where
  | inbound (conn : ℕ)
  | outbound (dial : ℕ)

/-- The handshake was admitted for this root and epoch. -/
inductive Open (s : IntroSystem) : Handshake → String → ℕ → Prop
  | inbound {conn : ℕ} {hello : Hello} {epoch : ℕ} (h : s.conns conn = .pending hello epoch) :
      Open s (.inbound conn) hello.claimedRoot epoch
  | outbound {d : ℕ} {imported : PeerImport} (h : s.dials d = .dialing imported) :
      Open s (.outbound d) imported.rootThumbprint imported.epoch

def IntroLabel.attempts : IntroLabel → Option (Handshake × Attempt)
  | .request conn (some a) => some (.inbound conn, a)
  | .dialCommit d a => some (.outbound d, a)
  | _ => none

/-! ## What a step is to a relationship -/

/-- The commit ends an open handshake. -/
structure Attempt.From (a : Attempt) (s : IntroSystem) (h : Handshake) : Prop where
  admitted : Open s h a.root a.epoch
  verified : a.peer.identity.agentCardKey.value = a.root

variable {a : Attempt} {h : Handshake} {q : StoredPeer} {reason : SuspendReason}
  {status : PeerStatus} {s₁ : IntroSystem}

theorem requestAttempt_eq_some {env : PairingEnv} {me : IntroIdentity} {req : IntroRequest}
    {slot : IntroConnState} (h : requestAttempt env me req slot = some a) :
    ∃ dialerTls exporter, req.dialerTls = some dialerTls ∧ req.exporter = some exporter ∧
      completeAttempt env me req dialerTls exporter slot = some a := by
  unfold requestAttempt at h
  split at h
  case isTrue => cases h
  case isFalse =>
    split at h
    case h_1 dialerTls exporter htls hexporter =>
      split at h
      case isTrue => exact ⟨dialerTls, exporter, htls, hexporter, h⟩
      case isFalse => cases h
    case h_2 => cases h

theorem store_respondIntroduction (me : IntroIdentity) (req : IntroRequest)
    (slot : IntroConnState) (s : IntroStore) :
    (respondIntroduction env me req slot s).state.store =
      ((requestAttempt env me req slot).map (·.commit s.store)).getD s.store := by
  unfold respondIntroduction requestAttempt
  by_cases hgate : req.method ≠ "POST" ∨
      introductionMediaType.toList.isPrefixOf req.contentType.toList = false
  · rw [if_pos hgate, if_pos hgate]
    rfl
  · rw [if_neg hgate, if_neg hgate]
    cases htls : req.dialerTls with
    | none => rfl
    | some dialerTls =>
      cases hexporter : req.exporter with
      | none => rfl
      | some exporter =>
        dsimp only
        by_cases hhello : req.path = helloPath
        · have hpath : ¬ req.path = completePath := by
            rw [hhello]
            decide
          rw [if_pos hhello, if_neg hpath]
          exact (respondHello_cases env me req dialerTls exporter slot s).1
        · rw [if_neg hhello]
          by_cases hcomplete : req.path = completePath
          · rw [if_pos hcomplete, if_pos hcomplete]
            exact (respondComplete_eq env me req dialerTls exporter slot s).2
          · rw [if_neg hcomplete, if_neg hcomplete]
            rfl

def RootEvent.OfAttempt (root : String) (ev : RootEvent) (a : Attempt) : Prop :=
  a.root = root ∧ (ev = .pinned a.epoch a.peer ∨ ∃ reason, ev = .suspended a.epoch a.peer reason)

theorem rootMove_attempt (s : Store) (root : String)
    (hverified : a.peer.identity.agentCardKey.value = a.root) :
    ∃ ev, RootMove root (s.viewRoot root) ev ((a.commit s).viewRoot root) ∧
      (ev = .stay ∨ ev.OfAttempt root a) := by
  unfold Attempt.commit Attempt.result
  split
  case h_2 => exact ⟨.stay, .stay _, .inl rfl⟩
  case h_1 out s' hcommit =>
    obtain ⟨hothers, hown⟩ := rootMove_commit hcommit hverified
    by_cases hroot : root = a.root
    · subst hroot
      rcases hown with ⟨rfl, -⟩ | ⟨reason, -, hmove⟩ | ⟨-, hmove⟩
      · exact ⟨.stay, .stay _, .inl rfl⟩
      · exact ⟨_, hmove, .inr ⟨rfl, .inr ⟨reason, rfl⟩⟩⟩
      · exact ⟨_, hmove, .inr ⟨rfl, .inl rfl⟩⟩
    · rw [hothers root hroot]
      exact ⟨.stay, .stay _, .inl rfl⟩

section Step

variable {env : PairingEnv} {me : IntroIdentity} {s s' : IntroSystem} {l : IntroLabel}

theorem introStep_attempts (hstep : IntroStep env me s l s') (ha : l.attempts = some (h, a)) :
    a.From s h ∧ s'.state.store = a.commit s.state.store := by
  cases hstep with
  | request conn req =>
    cases hattempt : requestAttempt env me req (s.conns conn) with
    | none =>
      rw [hattempt] at ha
      cases ha
    | some b =>
      rw [hattempt] at ha
      obtain ⟨rfl, rfl⟩ := Prod.mk.inj (some.inj ha)
      have hstore := store_respondIntroduction env me req (s.conns conn) s.state
      rw [hattempt] at hstore
      obtain ⟨dialerTls, exporter, -, -, hcomplete⟩ := requestAttempt_eq_some hattempt
      obtain ⟨hello, epoch, material, bindings, identity, hslot, haccepted, rfl⟩ :=
        completeAttempt_eq_some hcomplete
      exact ⟨⟨.inbound hslot, haccepted.root_eq⟩, hstore⟩
  | dialCommit hdialing hverify =>
    obtain ⟨rfl, rfl⟩ := Prod.mk.inj (some.inj ha)
    obtain ⟨_, _, _, _, hdialed, -⟩ := dialVerify_eq_ok hverify
    exact ⟨⟨.outbound hdialing, hdialed.accepted.root_eq⟩, dialCommit_snd ..⟩
  | addImport | updateImport | remove | removeNone | dial | dialEnd => cases ha

def ShowsAs (root : String) (l : IntroLabel) (v v' : RootView) : Prop :=
  ∃ ev, RootMove root v ev v' ∧ (ev = .removed ↔ l = .removed root) ∧
    (ev = .stay ∨ ev = .opened ∨ ev = .removed ∨
      ∃ h a, l.attempts = some (h, a) ∧ ev.OfAttempt root a)

theorem showsAs_stay {root : String} {v v' : RootView} (hview : v' = v) (hl : l ≠ .removed root) :
    ShowsAs root l v v' := by
  rw [hview]
  exact ⟨.stay, .stay _, iff_of_false nofun hl, .inl rfl⟩

theorem showsAs_attempt (root : String) (hstep : IntroStep env me s l s')
    (ha : l.attempts = some (h, a)) (hl : l ≠ .removed root) :
    ShowsAs root l (s.state.store.viewRoot root) (s'.state.store.viewRoot root) := by
  obtain ⟨hfrom, hstore⟩ := introStep_attempts hstep ha
  obtain ⟨ev, hmove, hev⟩ := rootMove_attempt s.state.store root hfrom.verified
  rw [hstore]
  refine ⟨ev, hmove, iff_of_false ?_ hl, ?_⟩
  · rintro rfl
    rcases hev with hev | ⟨-, hev | ⟨_, hev⟩⟩ <;> cases hev
  · rcases hev with rfl | hev
    · exact .inl rfl
    · exact .inr (.inr (.inr ⟨h, a, ha, hev⟩))

theorem introStep_view (hstep : IntroStep env me s l s') (root : String) :
    ShowsAs root l (s.state.store.viewRoot root) (s'.state.store.viewRoot root) := by
  have hattempt := fun {h a} => showsAs_attempt (h := h) (a := a) root hstep
  cases hstep with
  | addImport h =>
    rcases rootMove_addPeerImport h root with hview | hmove
    · exact showsAs_stay hview nofun
    · exact ⟨.opened, hmove, iff_of_false nofun nofun, .inr (.inl rfl)⟩
  | updateImport h => exact showsAs_stay (rootMove_updatePeerImport h root) nofun
  | @remove r now _ h =>
    obtain ⟨hself, hother⟩ := rootMove_removeRelationship h root
    by_cases hr : root = r
    · exact ⟨.removed, hself hr, iff_of_true rfl (by rw [hr]), .inr (.inr (.inl rfl))⟩
    · exact showsAs_stay (hother hr) (fun hl => hr (IntroLabel.removed.inj hl).symm)
  | removeNone h => exact showsAs_stay (by rw [viewRoot_removeRelationship_none h]; rfl) nofun
  | request conn req =>
    cases hreq : requestAttempt env me req (s.conns conn) with
    | none =>
      have hstore := store_respondIntroduction env me req (s.conns conn) s.state
      rw [hreq] at hstore
      exact showsAs_stay (congrArg (fun store => Store.viewRoot store root) hstore) nofun
    | some a =>
      rw [hreq] at hattempt
      exact hattempt rfl nofun
  | dial => exact showsAs_stay rfl nofun
  | dialEnd => exact showsAs_stay rfl nofun
  | dialCommit => exact hattempt rfl nofun

end Step

/-! ## What the moves keep -/

def Live (root : String) (v : RootView) : Prop :=
  v.peer ≠ none → root ≠ "" ∧ ∃ e, v.imported = some (e, true)

def Reached (epoch : ℕ) (v : RootView) : Prop :=
  ∃ e live, v.imported = some (e, live) ∧ epoch ≤ e

def ActiveAt (peer : StoredPeer) (epoch : ℕ) (v : RootView) : Prop :=
  v.peer = some (peer, .active) ∧ v.imported = some (epoch, true)

section Moves

variable {root : String} {v v' : RootView} {ev : RootEvent} {epoch : ℕ}

theorem RootMove.live (hmove : RootMove root v ev v') (hlive : Live root v) : Live root v' := by
  intro hpeer
  cases hmove with
  | stay => exact hlive hpeer
  | imported h =>
    obtain ⟨-, e, he⟩ := hlive hpeer
    rw [h] at he
    cases he
  | revived h =>
    obtain ⟨-, e, he⟩ := hlive hpeer
    rw [h] at he
    cases he
  | removed h =>
    by_cases hroot : root = ""
    · rw [if_pos hroot] at hpeer
      exact absurd hroot (hlive hpeer).1
    · rw [if_neg hroot] at hpeer
      exact absurd rfl hpeer
  | pinned h hroot => exact ⟨hroot, _, h⟩
  | suspended h hold =>
    have hroot := (hlive (by rw [hold]; exact nofun)).1
    exact ⟨hroot, _, h⟩

theorem RootMove.reached (hmove : RootMove root v ev v') (h : Reached epoch v) :
    Reached epoch v' ∧ (ev = .removed → Reached (epoch + 1) v') := by
  obtain ⟨e, live, himported, hle⟩ := h
  cases hmove with
  | stay => exact ⟨⟨e, live, himported, hle⟩, nofun⟩
  | imported h =>
    rw [h] at himported
    cases himported
  | revived h =>
    rw [h] at himported
    obtain ⟨rfl, -⟩ := Prod.mk.inj (some.inj himported)
    exact ⟨⟨_, true, rfl, hle⟩, nofun⟩
  | removed h =>
    rw [h] at himported
    obtain ⟨rfl, -⟩ := Prod.mk.inj (some.inj himported)
    exact ⟨⟨_, false, rfl, by omega⟩, fun _ => ⟨_, false, rfl, by omega⟩⟩
  | pinned => exact ⟨⟨e, live, himported, hle⟩, nofun⟩
  | suspended => exact ⟨⟨e, live, himported, hle⟩, nofun⟩

theorem RootMove.activeAt (hmove : RootMove root v ev v') (hlive : Live root v)
    (h : ActiveAt q epoch v') : ActiveAt q epoch v ∨ ev = .pinned epoch q := by
  obtain ⟨hpeer, himported⟩ := h
  cases hmove with
  | stay => exact .inl ⟨hpeer, himported⟩
  | imported h =>
    obtain ⟨-, e, he⟩ := hlive (by rw [show v.peer = _ from hpeer]; exact nofun)
    rw [h] at he
    cases he
  | revived h =>
    obtain ⟨-, e, he⟩ := hlive (by rw [show v.peer = _ from hpeer]; exact nofun)
    rw [h] at he
    cases he
  | removed => cases himported
  | @pinned e peer h =>
    rw [show v.imported = _ from himported] at h
    obtain ⟨rfl, -⟩ := Prod.mk.inj (some.inj h)
    obtain ⟨rfl, -⟩ := Prod.mk.inj (some.inj hpeer)
    exact .inr rfl
  | suspended => cases hpeer

theorem RootMove.suspended_stays (hmove : RootMove root v ev v') (hev : ev ≠ .removed)
    (h : v.peer = some (q, .suspended reason)) :
    ∃ reason', v'.peer = some (q, .suspended reason') := by
  cases hmove with
  | stay => exact ⟨reason, h⟩
  | imported => exact ⟨reason, h⟩
  | revived => exact ⟨reason, h⟩
  | removed => exact absurd rfl hev
  | pinned _ _ hpinned => exact absurd rfl ((hpinned _ _ h).2 reason)
  | suspended _ hpeer =>
    rw [h] at hpeer
    obtain ⟨rfl, -⟩ := Prod.mk.inj (some.inj hpeer)
    exact ⟨_, rfl⟩

theorem RootMove.record {q' : StoredPeer} {status' : PeerStatus} (hmove : RootMove root v ev v')
    (h : v.peer = some (q, status)) (h' : v'.peer = some (q', status')) :
    q' = q ∨ (reintroduction q.identity q'.identity = none ∧ ∃ e, ev = .pinned e q') := by
  have hsame : v.peer = some (q', status') → q' = q := by
    intro hpeer
    rw [h] at hpeer
    exact (Prod.mk.inj (some.inj hpeer)).1.symm
  cases hmove with
  | stay => exact .inl (hsame h')
  | imported => exact .inl (hsame h')
  | revived => exact .inl (hsame h')
  | removed =>
    split at h'
    · exact .inl (hsame h')
    · cases h'
  | @pinned e peer _ _ hpinned =>
    obtain ⟨rfl, -⟩ := Prod.mk.inj (some.inj h')
    exact .inr ⟨(hpinned q status h).1, e, rfl⟩
  | suspended _ hpeer =>
    obtain ⟨rfl, -⟩ := Prod.mk.inj (some.inj h')
    rw [h] at hpeer
    exact .inl (Prod.mk.inj (some.inj hpeer)).1.symm

end Moves

/-! ## Connections and dials -/

theorem slot_respondIntroduction (me : IntroIdentity) (req : IntroRequest)
    (slot : IntroConnState) (s : IntroStore) :
    (respondIntroduction env me req slot s).slot = slot ∨
    (respondIntroduction env me req slot s).slot = .done ∨
    ∃ hello live, slot = .fresh ∧ s.store.peerImport hello.claimedRoot = some live ∧
      (respondIntroduction env me req slot s).slot = .pending hello live.epoch := by
  rcases respondIntroduction_cases env me req slot s with heq | ⟨dialerTls, exporter, -, -, -, heq⟩ |
      ⟨dialerTls, exporter, -, -, -, heq⟩
  · exact .inl (by rw [heq])
  · rw [heq]
    rcases (respondHello_cases env me req dialerTls exporter slot s).2 with hdone | ⟨hfresh, hslot⟩ |
        hpending
    · exact .inr (.inl hdone)
    · exact .inl (hslot.trans hfresh.symm)
    · exact .inr (.inr hpending)
  · rw [heq]
    exact .inr (.inl (respondComplete_eq env me req dialerTls exporter slot s).1)

/-- One step of a connection. -/
inductive ConnMove (s s' : Store) : IntroConnState → IntroConnState → Prop
  | stay (slot : IntroConnState) : ConnMove s s' slot slot
  | admitted {hello : Hello} {live : PeerImport} (h : s.peerImport hello.claimedRoot = some live)
      (hsame : s' = s) : ConnMove s s' .fresh (.pending hello live.epoch)
  | ended (hello : Hello) (epoch : ℕ) : ConnMove s s' (.pending hello epoch) .done
  | refused (hsame : s' = s) : ConnMove s s' .fresh .done

def Closed (s : IntroSystem) : Handshake → Prop
  | .inbound conn => s.conns conn = .done
  | .outbound d => s.dials d = .done

section Progress

variable {env : PairingEnv} {me : IntroIdentity} {s s' : IntroSystem} {l : IntroLabel}
  {root : String} {epoch : ℕ}

theorem introStep_conn (hstep : IntroStep env me s l s') (c : ℕ) :
    ConnMove s.state.store s'.state.store (s.conns c) (s'.conns c) := by
  cases hstep with
  | request conn req =>
    by_cases hc : c = conn
    · subst hc
      have hslot : (s.afterRequest env me c req).conns c =
          (respondIntroduction env me req (s.conns c) s.state).slot := Function.update_self ..
      have hstore := store_respondIntroduction env me req (s.conns c) s.state
      have hnone : s.conns c = .fresh → requestAttempt env me req (s.conns c) = none := by
        intro hfresh
        cases hreq : requestAttempt env me req (s.conns c) with
        | none => rfl
        | some a =>
          obtain ⟨_, _, -, -, hcomplete⟩ := requestAttempt_eq_some hreq
          obtain ⟨_, _, _, _, _, hpending, -⟩ := completeAttempt_eq_some hcomplete
          rw [hfresh] at hpending
          cases hpending
      have hsame : s.conns c = .fresh →
          (s.afterRequest env me c req).state.store = s.state.store := by
        intro hfresh
        rw [hnone hfresh] at hstore
        exact hstore
      rcases slot_respondIntroduction env me req (s.conns c) s.state with heq | hdone |
          ⟨hello, live, hfresh, hlive, heq⟩
      · rw [hslot, heq]
        exact .stay _
      · rw [hslot, hdone]
        cases hold : s.conns c with
        | fresh => exact .refused (hsame hold)
        | pending hello epoch => exact .ended hello epoch
        | done => exact .stay _
      · rw [hslot, heq, hfresh]
        exact .admitted hlive (hsame hfresh)
    · have hother : (s.afterRequest env me conn req).conns c = s.conns c :=
        Function.update_of_ne hc ..
      rw [hother]
      exact .stay _
  | addImport | updateImport | remove | removeNone | dial | dialEnd | dialCommit => exact .stay _

theorem introStep_dial (hstep : IntroStep env me s l s') (d : ℕ) :
    s'.dials d = s.dials d ∨
      (∃ root imported, s.dials d = .idle ∧ s.state.store.peerImport root = some imported ∧
        s'.state.store = s.state.store ∧ s'.dials d = .dialing imported) ∨
      ((∃ imported, s.dials d = .dialing imported) ∧ s'.dials d = .done) := by
  cases hstep with
  | @dial d' root imported hidle h =>
    by_cases hd : d = d'
    · subst hd
      exact .inr (.inl ⟨root, imported, hidle, h, rfl, Function.update_self ..⟩)
    · exact .inl (Function.update_of_ne hd ..)
  | @dialEnd d' imported hdialing =>
    by_cases hd : d = d'
    · subst hd
      exact .inr (.inr ⟨⟨imported, hdialing⟩, Function.update_self ..⟩)
    · exact .inl (Function.update_of_ne hd ..)
  | @dialCommit d' imported _ _ _ _ _ hdialing _ =>
    by_cases hd : d = d'
    · subst hd
      exact .inr (.inr ⟨⟨imported, hdialing⟩, Function.update_self ..⟩)
    · exact .inl (Function.update_of_ne hd ..)
  | addImport | updateImport | remove | removeNone | request => exact .inl rfl

theorem introStep_open (hstep : IntroStep env me s l s')
    (hopen : Open s' h root epoch) : Open s h root epoch ∨ ((∀ r e, ¬ Open s h r e) ∧
      ∃ live, s.state.store.peerImport root = some live ∧ live.epoch = epoch) := by
  cases hopen with
  | @inbound conn hello epoch hpending =>
    have hmove := introStep_conn hstep conn
    rw [hpending] at hmove
    generalize hslot : s.conns conn = slot at hmove
    cases hmove with
    | stay => exact .inl (.inbound hslot)
    | @admitted _ live hlive _ =>
      refine .inr ⟨fun r e hopen => ?_, live, hlive, rfl⟩
      cases hopen with
      | inbound h' =>
        rw [hslot] at h'
        cases h'
  | @outbound d imported hdialing =>
    rcases introStep_dial hstep d with heq | ⟨root, imported', hidle, hlive, -, heq⟩ | ⟨-, heq⟩
    · exact .inl (.outbound (heq ▸ hdialing))
    · obtain rfl : imported' = imported := by
        rw [heq] at hdialing
        exact DialState.dialing.inj hdialing
      have hroot : imported'.rootThumbprint = root :=
        (importRow_eq_some_iff.1 (peerImport_eq_some_iff.1 hlive).1).2
      refine .inr ⟨fun r e hopen => ?_, imported', hroot ▸ hlive, rfl⟩
      cases hopen with
      | outbound h' =>
        rw [hidle] at h'
        cases h'
    · rw [heq] at hdialing
      cases hdialing

theorem introStep_keeps (hstep : IntroStep env me s l s')
    (hopen : Open s h root epoch ∨ Closed s h) : Open s' h root epoch ∨ Closed s' h := by
  cases h with
  | inbound conn =>
    have hmove := introStep_conn hstep conn
    rcases hopen with hopen | hclosed
    · cases hopen with
      | inbound hpending =>
        rw [hpending] at hmove
        generalize hslot : s'.conns conn = slot at hmove
        cases hmove with
        | stay => exact .inl (.inbound hslot)
        | ended => exact .inr hslot
    · rw [show s.conns conn = .done from hclosed] at hmove
      generalize hslot : s'.conns conn = slot at hmove
      cases hmove with
      | stay => exact .inr hslot
  | outbound d =>
    rcases introStep_dial hstep d with heq | ⟨_, imported', hidle, -, -, -⟩ | ⟨-, heq⟩
    · rcases hopen with hopen | hclosed
      · cases hopen with
        | outbound hdialing => exact .inl (.outbound (heq.trans hdialing))
      · exact .inr (heq.trans hclosed)
    · rcases hopen with hopen | hclosed
      · cases hopen with
        | outbound hdialing =>
          rw [hidle] at hdialing
          cases hdialing
      · rw [show s.dials d = .done from hclosed] at hidle
        cases hidle
    · exact .inr heq

end Progress

/-! ## Runs -/

/-- The invariant of the introductions. -/
structure IntroSystem.Sound (s : IntroSystem) : Prop where
  live : ∀ root, Live root (s.state.store.viewRoot root)
  reached : ∀ h root epoch, Open s h root epoch → Reached epoch (s.state.store.viewRoot root)

theorem IntroSystem.Initial.viewRoot_peer {s : IntroSystem} (h : s.Initial) (root : String) :
    (s.state.store.viewRoot root).peer = none := by
  rw [Store.viewRoot, Store.peerRow, h.peers]
  rfl

theorem IntroSystem.Initial.not_open {s : IntroSystem} (h : s.Initial) (hs : Handshake)
    (root : String) (epoch : ℕ) : ¬ Open s hs root epoch := by
  intro hopen
  cases hopen with
  | inbound hpending =>
    rw [h.conns] at hpending
    cases hpending
  | outbound hdialing =>
    rw [h.dials] at hdialing
    cases hdialing

theorem IntroSystem.Initial.sound {s : IntroSystem} (h : s.Initial) : s.Sound where
  live root hpeer := absurd (h.viewRoot_peer root) hpeer
  reached hs root epoch hopen := absurd hopen (h.not_open hs root epoch)

section Runs

variable {env : PairingEnv} {me : IntroIdentity} {s s' : IntroSystem} {l : IntroLabel}
  {root : String} {epoch : ℕ}
  {ls : List IntroLabel}

theorem introStep_sound (hs : s.Sound) (hstep : IntroStep env me s l s') : s'.Sound where
  live root := by
    obtain ⟨ev, hmove, -⟩ := introStep_view hstep root
    exact hmove.live (hs.live root)
  reached h root epoch hopen := by
    obtain ⟨ev, hmove, -⟩ := introStep_view hstep root
    have hreached : Reached epoch (s.state.store.viewRoot root) := by
      rcases introStep_open hstep hopen with hold | ⟨-, hlive⟩
      · exact hs.reached h root epoch hold
      · exact ⟨epoch, true, viewRoot_live_iff.2 hlive, le_rfl⟩
    exact (hmove.reached hreached).1

/-- A step of the run. -/
structure StepOf (env : PairingEnv) (me : IntroIdentity) (s : IntroSystem) (ls : List IntroLabel)
    (s' s₁ : IntroSystem) (l : IntroLabel) (s₂ : IntroSystem) : Prop where
  split : ∃ before after, ls = before ++ l :: after ∧ Trace (IntroStep env me) s before s₁ ∧
    Trace (IntroStep env me) s₂ after s'
  step : IntroStep env me s₁ l s₂

theorem StepOf.head (hstep : IntroStep env me s l s₁) (hrun : Trace (IntroStep env me) s₁ ls s') :
    StepOf env me s (l :: ls) s' s l s₁ :=
  ⟨⟨[], ls, rfl, .nil _, hrun⟩, hstep⟩

theorem StepOf.tail {t₁ t₂ : IntroSystem} {l' : IntroLabel} (hstep : IntroStep env me s l s₁)
    (h : StepOf env me s₁ ls s' t₁ l' t₂) : StepOf env me s (l :: ls) s' t₁ l' t₂ := by
  obtain ⟨⟨before, after, rfl, hbefore, hafter⟩, hstep'⟩ := h
  exact ⟨⟨l :: before, after, rfl, .cons hstep hbefore, hafter⟩, hstep'⟩

theorem run_open (hrun : Trace (IntroStep env me) s ls s') (hopen : Open s' h root epoch) :
    Open s h root epoch ∨ ∃ s₁ l s₂, StepOf env me s ls s' s₁ l s₂ ∧ (∀ r e, ¬ Open s₁ h r e) ∧
      Open s₂ h root epoch ∧ ∃ live, s₁.state.store.peerImport root = some live ∧ live.epoch = epoch := by
  induction hrun with
  | nil => exact .inl hopen
  | cons hstep hrest ih =>
    rcases ih hopen with hstart | ⟨s₁, l, s₂, hof, hrest'⟩
    · rcases introStep_open hstep hstart with hold | ⟨hnew, hlive⟩
      · exact .inl hold
      · exact .inr ⟨_, _, _, .head hstep hrest, hnew, hstart, hlive⟩
    · exact .inr ⟨s₁, l, s₂, hof.tail hstep, hrest'⟩

theorem run_active (hrun : Trace (IntroStep env me) s ls s')
    (hs : s.Sound) (hactive : ActiveAt q epoch (s'.state.store.viewRoot root)) :
    ActiveAt q epoch (s.state.store.viewRoot root) ∨ ∃ s₁ l s₂ h a, StepOf env me s ls s' s₁ l s₂ ∧
      l.attempts = some (h, a) ∧ Open s₁ h root epoch ∧ a.root = root ∧ a.epoch = epoch ∧
      a.peer = q ∧ ActiveAt q epoch (s₂.state.store.viewRoot root) := by
  induction hrun with
  | nil => exact .inl hactive
  | cons hstep hrest ih =>
    rcases ih (introStep_sound hs hstep) hactive with hstart | ⟨s₁, l, s₂, h, a, hof, hrest'⟩
    · obtain ⟨ev, hmove, -, hev⟩ := introStep_view hstep root
      rcases hmove.activeAt (hs.live root) hstart with hold | rfl
      · exact .inl hold
      · rcases hev with hev | hev | hev | ⟨h, a, ha, hroot, hev⟩
        · cases hev
        · cases hev
        · cases hev
        · rcases hev with hev | ⟨_, hev⟩
          · obtain ⟨rfl, rfl⟩ := RootEvent.pinned.inj hev
            have hfrom := (introStep_attempts hstep ha).1
            exact .inr ⟨_, _, _, h, a, .head hstep hrest, ha, hroot ▸ hfrom.admitted, hroot, rfl,
              rfl, hstart⟩
          · cases hev
    · exact .inr ⟨s₁, l, s₂, h, a, hof.tail hstep, hrest'⟩

theorem run_reached (hrun : Trace (IntroStep env me) s ls s')
    (h : Reached epoch (s.state.store.viewRoot root)) :
    Reached epoch (s'.state.store.viewRoot root) :=
  hrun.invariant (I := fun s => Reached epoch (s.state.store.viewRoot root))
    (fun _ _ _ hreached hstep => by
      obtain ⟨ev, hmove, -⟩ := introStep_view hstep root
      exact (hmove.reached hreached).1) h

theorem run_keeps (hrun : Trace (IntroStep env me) s ls s')
    (hopen : Open s h root epoch ∨ Closed s h) : Open s' h root epoch ∨ Closed s' h :=
  hrun.invariant (I := fun s => Open s h root epoch ∨ Closed s h)
    (fun _ _ _ hopen hstep => introStep_keeps hstep hopen) hopen

theorem run_suspended (hrun : Trace (IntroStep env me) s ls s')
    (h : (s.state.store.viewRoot root).peer = some (q, .suspended reason))
    (hls : ∀ l ∈ ls, l ≠ .removed root) :
    ∃ reason', (s'.state.store.viewRoot root).peer = some (q, .suspended reason') := by
  induction hrun generalizing reason with
  | nil => exact ⟨reason, h⟩
  | cons hstep _ ih =>
    rw [List.forall_mem_cons] at hls
    obtain ⟨ev, hmove, hremoved, -⟩ := introStep_view hstep root
    have hev : ev ≠ .removed := fun hev => hls.1 (hremoved.1 hev)
    obtain ⟨reason', h'⟩ := hmove.suspended_stays hev h
    exact ih h' hls.2

end Runs

/-! ## The two outcomes of a commit that decide a run -/

theorem commit_of_reached {root : String} {epoch : ℕ} {s : Store}
    (h : Reached (epoch + 1) (s.viewRoot root)) (peer : StoredPeer) (keys : List (String × Bytes))
    (now : Time) :
    commitIntroducedPeer root epoch peer keys now s = .ok (.notImported, s) ∨
      commitIntroducedPeer root epoch peer keys now s = .ok (.epochChanged, s) := by
  obtain ⟨e, live, himported, hle⟩ := h
  unfold commitIntroducedPeer
  cases hlive : s.peerImport root with
  | none => exact .inl rfl
  | some imported =>
    have hview := viewRoot_live_iff.2 ⟨imported, hlive, rfl⟩
    rw [himported] at hview
    have he : e = imported.epoch := (Prod.mk.inj (some.inj hview)).1
    have hne : imported.epoch ≠ epoch := by omega
    exact .inr (if_pos hne)

theorem viewRoot_commit_of_changed {root : String} {s : Store} (hroot : a.root = root)
    (hlive : ∃ live, s.peerImport root = some live ∧ live.epoch = a.epoch)
    (hpeer : (s.viewRoot root).peer = some (q, status))
    (hchanged : reintroduction q.identity a.peer.identity = some reason) :
    ((a.commit s).viewRoot root).peer = some (q, .suspended reason) := by
  subst hroot
  obtain ⟨live, himport, hepoch⟩ := hlive
  obtain ⟨row, hrow, rfl, rfl⟩ := viewRoot_peer_iff.1 hpeer
  have hcommit : a.result s = .ok (.suspended reason.name,
      (setPeerStatus a.root (.suspended reason) s).auditAppend a.now "peer.suspended" a.root) := by
    simp [Attempt.result, commitIntroducedPeer, himport, hepoch, Store.getPeerByRoot, hrow, hchanged]
  rw [Attempt.commit, hcommit]
  refine viewRoot_peer_iff.2 ⟨row.withStatus (.suspended reason), ?_, rfl, rfl⟩
  change (setPeerStatus a.root (.suspended reason) s).peerRow a.root = _
  rw [peerRow_setPeerStatus, hrow, map_some, if_pos (peerRow_root hrow)]

theorem Open.unique {s : IntroSystem} {root root' : String} {epoch epoch' : ℕ}
    (ho : Open s h root epoch) (ho' : Open s h root' epoch') : root = root' ∧ epoch = epoch' := by
  cases ho with
  | inbound hslot =>
    cases ho' with
    | inbound hslot' =>
      rw [hslot] at hslot'
      obtain ⟨rfl, rfl⟩ := IntroConnState.pending.inj hslot'
      exact ⟨rfl, rfl⟩
  | outbound hdial =>
    cases ho' with
    | outbound hdial' =>
      rw [hdial] at hdial'
      obtain rfl := DialState.dialing.inj hdial'
      exact ⟨rfl, rfl⟩

theorem Open.not_closed {s : IntroSystem} {root : String} {epoch : ℕ} (ho : Open s h root epoch) :
    ¬ Closed s h := by
  intro hclosed
  cases ho with
  | inbound hslot => cases hslot.symm.trans hclosed
  | outbound hdial => cases hdial.symm.trans hclosed

section Results

variable {env : PairingEnv} {me : IntroIdentity} {s : IntroSystem}

theorem stale_of_removed {root : String} {epoch : ℕ} {s₂ s₃ : IntroSystem} {ls : List IntroLabel}
    {l : IntroLabel} (hs : s.Sound) (hopen : Open s h root epoch)
    (hremove : IntroStep env me s (.removed root) s₁) (hrun : Trace (IntroStep env me) s₁ ls s₂)
    (hstep : IntroStep env me s₂ l s₃) (ha : l.attempts = some (h, a)) :
    (a.result s₂.state.store = .ok (.notImported, s₂.state.store) ∨
      a.result s₂.state.store = .ok (.epochChanged, s₂.state.store)) ∧
        s₃.state.store = s₂.state.store := by
  -- the removal raised the epoch over the one the handshake holds
  obtain ⟨ev, hmove, hremoved, -⟩ := introStep_view hremove root
  have hraised := (hmove.reached (hs.reached h root epoch hopen)).2 (hremoved.2 rfl)
  have hreached := run_reached hrun hraised
  -- and it still holds that epoch when it commits
  obtain ⟨hfrom, hstore⟩ := introStep_attempts hstep ha
  have hkept := run_keeps hrun (introStep_keeps hremove (.inl hopen))
  have hsame : root = a.root ∧ epoch = a.epoch := by
    rcases hkept with hstill | hclosed
    · exact hstill.unique hfrom.admitted
    · exact absurd hclosed hfrom.admitted.not_closed
  rw [hsame.1, hsame.2] at hreached
  have hresult := commit_of_reached hreached a.peer a.keys a.now
  refine ⟨hresult, ?_⟩
  rw [hstore, Attempt.commit]
  rcases hresult with heq | heq
  · rw [Attempt.result, heq]
  · rw [Attempt.result, heq]

end Results

/-- Over every run from the start, whatever the operator, the connections and the dials do:

* a handshake that is open was admitted on the way, under the epoch of the live import;
* an active peer was pinned by the commit of a handshake, and has a live import, of the epoch under
  which that handshake was admitted;
* a handshake from before a removal finds `notImported` or `epochChanged` when it commits after it;
* an identity that policy tells from the pinned one suspends the peer and leaves the record, and
  the record changes only to an identity that policy does not tell from it;
* a suspended peer stays so, with its record, until its relationship is removed;
* a connection is admitted from fresh, under the live epoch, and ends; a fresh one may end at once,
  and then nothing is written. -/
theorem introductions_keep_their_epochs (env : PairingEnv) (me : IntroIdentity)
    (s₀ s : IntroSystem) (ls : List IntroLabel) (hinit : s₀.Initial)
    (hrun : Trace (IntroStep env me) s₀ ls s) :
    (∀ h root epoch, Open s h root epoch → ∃ s₁ l s₂, StepOf env me s₀ ls s s₁ l s₂ ∧
      (∀ r e, ¬ Open s₁ h r e) ∧ Open s₂ h root epoch ∧
        ∃ live, s₁.state.store.peerImport root = some live ∧ live.epoch = epoch) ∧
    (∀ root peer, (s.state.store.viewRoot root).peer = some (peer, .active) →
      ∃ s₁ l s₂ h a live, StepOf env me s₀ ls s s₁ l s₂ ∧ l.attempts = some (h, a) ∧
        a.root = root ∧ a.peer = peer ∧ Open s₁ h root a.epoch ∧
          s₂.state.store = a.commit s₁.state.store ∧
          (s₂.state.store.viewRoot root).peer = some (peer, .active) ∧
          s.state.store.peerImport root = some live ∧ live.epoch = a.epoch) ∧
    (∀ h root epoch s₁ ls' s₂ l s₃ a, Open s h root epoch → IntroStep env me s (.removed root) s₁ →
      Trace (IntroStep env me) s₁ ls' s₂ → IntroStep env me s₂ l s₃ → l.attempts = some (h, a) →
        (a.result s₂.state.store = .ok (.notImported, s₂.state.store) ∨
          a.result s₂.state.store = .ok (.epochChanged, s₂.state.store)) ∧
            s₃.state.store = s₂.state.store) ∧
    (∀ root pinned status l s', (s.state.store.viewRoot root).peer = some (pinned, status) →
      IntroStep env me s l s' →
        (∀ h a reason, l.attempts = some (h, a) → a.root = root →
          (∃ live, s.state.store.peerImport root = some live ∧ live.epoch = a.epoch) →
            reintroduction pinned.identity a.peer.identity = some reason →
              (s'.state.store.viewRoot root).peer = some (pinned, .suspended reason)) ∧
        ∀ pinned' status', (s'.state.store.viewRoot root).peer = some (pinned', status') →
          pinned' = pinned ∨ reintroduction pinned.identity pinned'.identity = none) ∧
    (∀ root pinned reason ls' s', (s.state.store.viewRoot root).peer =
        some (pinned, .suspended reason) → Trace (IntroStep env me) s ls' s' →
      (∀ l ∈ ls', l ≠ .removed root) →
        ∃ reason', (s'.state.store.viewRoot root).peer = some (pinned, .suspended reason')) ∧
    ∀ l s' c, IntroStep env me s l s' →
      ConnMove s.state.store s'.state.store (s.conns c) (s'.conns c) := by
  have hs : s.Sound := hrun.invariant (fun _ _ _ => introStep_sound) hinit.sound
  refine ⟨?_, ?_, ?_, ?_, ?_, ?_⟩
  · intro h root epoch hopen
    rcases run_open hrun hopen with hstart | hadmitted
    · exact absurd hstart (hinit.not_open h root epoch)
    · exact hadmitted
  · intro root peer hpeer
    obtain ⟨-, epoch, himported⟩ := hs.live root (by rw [hpeer]; exact nofun)
    rcases run_active hrun hinit.sound ⟨hpeer, himported⟩ with hstart |
        ⟨s₁, l, s₂, h, a, hof, ha, hopen, hroot, rfl, rfl, hactive⟩
    · cases (hinit.viewRoot_peer root).symm.trans hstart.1
    · obtain ⟨live, hlive, hepoch⟩ := viewRoot_live_iff.1 himported
      exact ⟨s₁, l, s₂, h, a, live, hof, ha, hroot, rfl, hopen, (introStep_attempts hof.step ha).2,
        hactive.1, hlive, hepoch⟩
  · intro h root epoch s₁ ls' s₂ l s₃ a hopen hremove hrun' hstep ha
    exact stale_of_removed hs hopen hremove hrun' hstep ha
  · intro root pinned status l s' hpeer hstep
    constructor
    · intro h a reason ha hroot hlive hchanged
      rw [(introStep_attempts hstep ha).2]
      exact viewRoot_commit_of_changed hroot hlive hpeer hchanged
    · intro pinned' status' hpeer'
      obtain ⟨ev, hmove, -⟩ := introStep_view hstep root
      rcases hmove.record hpeer hpeer' with hsame | ⟨hpolicy, -⟩
      · exact .inl hsame
      · exact .inr hpolicy
  · intro root pinned reason ls' s' hpeer hrun' hls
    exact run_suspended hrun' hpeer hls
  · intro l s' c hstep
    exact introStep_conn hstep c

def emptySystem : IntroSystem where
  state := ⟨{}, ∅⟩
  conns _ := .fresh
  dials _ := .idle

theorem emptySystem_initial : emptySystem.Initial := ⟨rfl, fun _ => rfl, fun _ => rfl⟩

namespace Sample

def importedStore : Store where
  peerImports := ⟨[imported], List.pairwise_singleton _ _⟩

/-- The import is made and two dials start. -/
def dialingSystem : IntroSystem :=
  { emptySystem.withStore importedStore with
    dials := Function.update (Function.update (fun _ => .idle) 0 (.dialing imported)) 1
      (.dialing imported) }

theorem live_imported : importedStore.peerImport root = some imported := by
  simp [Store.peerImport, importedStore, imported, Table.find]

theorem root_ne_empty : root ≠ "" := by decide

theorem run_dialing : Trace (IntroStep Sample.env dialer) emptySystem [.operator, .dial 0, .dial 1]
    dialingSystem := by
  have himport : IntroStep Sample.env dialer emptySystem .operator
      (emptySystem.withStore importedStore) :=
    .addImport (show addPeerImport root "friend" "agent.example:443" 0 {} = _ from rfl)
  exact .cons himport (.cons (.dial rfl live_imported) (.cons (.dial rfl live_imported) (.nil _)))

/-- The first dial commits. -/
theorem exists_committed : ∃ a store,
    a.result importedStore = .ok (.committed, store) ∧
    store.peerImports = importedStore.peerImports ∧
    (store.viewRoot root).peer = some (a.peer, .active) ∧
    ∀ s d, s.dials d = .dialing imported → IntroStep Sample.env dialer s (.dialCommit d a)
      { s.withStore (a.commit s.state.store) with dials := Function.update s.dials d .done } := by
  obtain ⟨identity, keys, hdial⟩ := exists_dialed
  obtain ⟨_, _, _, _, hdialed, -⟩ := dialVerify_eq_ok hdial
  have hverified : identity.agentCardKey.value = root := hdialed.accepted.root_eq
  have hrow : importedStore.peerRow root = none := rfl
  have hpins : Pins root 1 ⟨identity, ""⟩ importedStore :=
    ⟨⟨imported, live_imported, rfl⟩, by simp [hrow], by simp [hrow]⟩
  obtain ⟨out, store, hpin⟩ : ∃ out store,
      pinPeer root ⟨identity, ""⟩ keys 1767225600 false importedStore = .ok (out, store) :=
    exists_pinPeer hverified root_ne_empty keys _ _ _
  have hcommit : commitIntroducedPeer root 1 ⟨identity, ""⟩ keys 1767225600 importedStore =
      .ok (out, store) := by
    rw [commitIntroducedPeer_of_pins hpins, hrow]
    exact hpin
  obtain ⟨_, _, -, -, rfl, -⟩ := pinPeer_eq_ok_iff.1 hpin
  obtain ⟨⟨row, hfound, hrecord, hstatus⟩, -⟩ := peerRow_pinPeer hpin hverified
  refine ⟨dialAttempt imported identity keys 1767225600, store, hcommit,
    (onlyPeers_commitIntroducedPeer hcommit).imports, viewRoot_peer_iff.2 ⟨row, hfound, hrecord,
      hstatus⟩, fun s d hd => ?_⟩
  rw [← dialCommit_snd]
  exact .dialCommit hd hdial

end Sample

/-- Of two dials after an import the first commits and pins the peer, under the import's epoch; the
relationship is removed, and the second finds no import. -/
theorem dial_stale_once_removed : ∃ s ls peer s₁ s₂ a,
    Trace (IntroStep Sample.env Sample.dialer) emptySystem ls s ∧
    (s.state.store.viewRoot Sample.root).peer = some (peer, .active) ∧
    (∃ s₁ l s₂ h a live, StepOf Sample.env Sample.dialer emptySystem ls s s₁ l s₂ ∧
      l.attempts = some (h, a) ∧ a.peer = peer ∧ s₂.state.store = a.commit s₁.state.store ∧
      s.state.store.peerImport Sample.root = some live ∧ live.epoch = a.epoch) ∧
    IntroStep Sample.env Sample.dialer s (.removed Sample.root) s₁ ∧
    IntroStep Sample.env Sample.dialer s₁ (.dialCommit 1 a) s₂ ∧
    (a.result s₁.state.store = .ok (.notImported, s₁.state.store) ∨
      a.result s₁.state.store = .ok (.epochChanged, s₁.state.store)) ∧
    s₂.state.store = s₁.state.store := by
  obtain ⟨a, store, hresult, himports, hpeer, hstep⟩ := Sample.exists_committed
  have hcommit : a.commit Sample.importedStore = store := by rw [Attempt.commit, hresult]
  rw [← hcommit] at himports hpeer
  have hrun := Trace.append_iff.2
    ⟨_, Sample.run_dialing, .cons (hstep Sample.dialingSystem 0 rfl) (.nil _)⟩
  obtain ⟨-, hactive, hstale, -⟩ :=
    introductions_keep_their_epochs _ _ _ _ _ emptySystem_initial hrun
  obtain ⟨s₁, l, s₂, h, b, live, hof, ha, -, hb, -, hstore, -, hlive, hepoch⟩ :=
    hactive Sample.root a.peer hpeer
  obtain ⟨removed, hremoved⟩ : ∃ removed, removeRelationship Sample.root 1767225700
      (a.commit Sample.importedStore) = (true, removed) := by
    have hcount : (a.commit Sample.importedStore).peerImports.count (liveImport Sample.root) = 1 := by
      rw [himports]
      simp [Sample.importedStore, Sample.imported, liveImport, Table.count]
    simp [removeRelationship, removePeerImport, hcount]
  have hsecond := hstep ({ Sample.dialingSystem.withStore (a.commit Sample.importedStore) with
    dials := Function.update Sample.dialingSystem.dials 0 .done }.withStore removed) 1 rfl
  obtain ⟨hresults, hkept⟩ := hstale (.outbound 1) Sample.imported.rootThumbprint
    Sample.imported.epoch _ [] _ _ _ a (.outbound rfl) (.remove hremoved) (.nil _) hsecond rfl
  exact ⟨_, _, a.peer, _, _, a, hrun, hpeer, ⟨s₁, l, s₂, h, b, live, hof, ha, hb, hstore, hlive,
    hepoch⟩, .remove hremoved, hsecond, hresults, hkept⟩

def bareComplete : IntroRequest where
  path := completePath
  method := "POST"
  contentType := introductionMediaType
  source := "203.0.113.7"
  dialerTls := some "tls-b"
  exporter := some []
  body := []
  now := 1700000000

/-- A complete without a hello takes a connection from fresh to done; and an identity that differs
from the pinned one in its card's digest alone is committed, in place of the pinned one. -/
theorem fresh_ends_and_card_digest_replaced :
    (emptySystem.conns 0 = .fresh ∧ ∃ l s', IntroStep Sample.env Sample.dialer emptySystem l s' ∧
      s'.conns 0 = .done) ∧
    ∃ s s', commitIntroducedPeer "root-b" 1 ⟨rootIdentity "root-b" "tls-b", ""⟩
        [("agent-card", [1])] 1700000001 pinnedStore = .ok (.committed, s) ∧
      (s.viewRoot "root-b").peer = some (⟨rootIdentity "root-b" "tls-b", ""⟩, .active) ∧
      commitIntroducedPeer "root-b" 1
        ⟨{ rootIdentity "root-b" "tls-b" with fullCardDigest := ⟨.jsonSha256, "card-2"⟩ }, ""⟩
        [("agent-card", [1])] 1700000002 s = .ok (.alreadyActive, s') ∧
      (s'.viewRoot "root-b").peer = some
        (⟨{ rootIdentity "root-b" "tls-b" with fullCardDigest := ⟨.jsonSha256, "card-2"⟩ }, ""⟩,
          .active) :=
  ⟨⟨rfl, _, _, .request emptySystem 0 bareComplete, rfl⟩, _, _, rfl, rfl, rfl, rfl⟩

end Akson
