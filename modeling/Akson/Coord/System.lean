/-
# The daemon under concurrency and crashes

Calls of the coordination surface run in threads that share one store behind a mutex.  `stage` and
`stage_consent` hold it throughout, so they are one step each.
-/
import Akson.Coord.Dispatch

namespace Akson

open Operation Option List Table

variable {env : Env} {localRoot : String} {d d' : Daemon} {e : DaemonEvent} {s : Store} {f : Flight}
  {c : StagedContract} {payload : Bytes}

/-! ## States and steps -/

/-- A dispatch between its spending and its record. -/
structure Flight extends Prepared where
  record : DispatchRecord
  replayed : Bool
  /-- The message body, once it is on the wire. -/
  body : Option Bytes
  landed : Bool

/-- The store, what is in flight, and the cards that were shown. -/
structure Daemon where
  store : Store
  flights : List Flight
  shown : List Consented

/-- What happens at the daemon. -/
inductive DaemonEvent where
  | stage (taskType performer payloadBase64 : String) (wall : Time)
  | stageConsent (stageRef : String) (wall : Time) (random : Bytes)
  | dispatch (stageRef consentReceipt executionKey : String) (wall : Time) (random : Bytes)
  /-- The flight with this number puts its message on the wire. -/
  | carry (flight : ℕ)
  /-- The flight with this number learns how the carriage went, and records it. -/
  | record (flight : ℕ) (answer : Except Problem (ℕ × Bytes)) (wall : Time)
  | addImport (root label endpointHint : String) (now : Time)
  | updateImport (root : String) (newLabel newEndpoint : Option String)
  | removeImport (root : String) (now : Time)
  | introduce (root : String) (epoch : ℕ) (peer : StoredPeer) (keys : List (String × Bytes))
      (now : Time)
  /-- The clock is read and nothing else is committed: an operation that died after it. -/
  | clock (wall : Time)
  | crash

def Flight.message (f : Flight) : Message :=
  coordMessage f.envelope f.payload f.record.dispatchReceipt f.record.stageRef

def Flight.launch (env : Env) (f : Flight) : Flight :=
  if f.landed = true ∨ f.body.isSome = true then f
  else
    match messageBody env f.envelope f.payload f.record.dispatchReceipt f.record.stageRef with
    | .ok body => { f with body := some body }
    | .error _ => { f with landed := true }

def Flight.finish (f : Flight) : Flight := { f with landed := true }

namespace Daemon

def onStore (d : Daemon) (s : Store) : Daemon := { d with store := s }

def transact {α : Type} (d : Daemon) (op : Store → Except StoreError (α × Store)) : Daemon :=
  d.onStore (Akson.transact op d.store).2

def step (env : Env) (localRoot : String) (d : Daemon) : DaemonEvent → Daemon
  | .stage taskType performer payloadBase64 wall =>
    d.onStore (exec (stage env taskType performer payloadBase64 wall) d.store).2
  | .stageConsent stageRef wall random =>
    match exec (stageConsent env stageRef wall random) d.store with
    | (.ok c, s) => { d with store := s, shown := d.shown ++ [c] }
    | (.error _, s) => d.onStore s
  | .dispatch stageRef consentReceipt executionKey wall random =>
    match exec (dispatchSpend env localRoot stageRef consentReceipt executionKey wall random)
      d.store with
    | (.ok (prep, out), s) =>
      match out.next with
      | .ok (.carry record replayed) =>
        { d with store := s, flights := d.flights ++ [⟨prep, record, replayed, none, false⟩] }
      | _ => d.onStore s
    | (.error _, s) => d.onStore s
  | .carry i => { d with flights := d.flights.modify i (Flight.launch env) }
  | .record i answer wall =>
    match d.flights[i]? with
    | some f =>
      if f.landed = false ∧ f.body.isSome = true then
        { d with
          store := (exec (recordCarriage f.route f.record
            (carry env f.route f.staged.stagedDigest answer) wall) d.store).2
          flights := d.flights.modify i Flight.finish }
      else d
    | none => d
  | .addImport root label endpointHint now => d.transact (addPeerImport root label endpointHint now)
  | .updateImport root newLabel newEndpoint =>
    d.transact (updatePeerImport root newLabel newEndpoint)
  | .removeImport root now => d.onStore (removeRelationship root now d.store).2
  | .introduce root epoch peer keys now => d.transact (commitIntroducedPeer root epoch peer keys now)
  | .clock wall => d.onStore (exec (trustedNow wall) d.store).2
  | .crash => { d with flights := d.flights.map Flight.finish }

end Daemon

def DaemonStep (env : Env) (localRoot : String) (d : Daemon) (e : DaemonEvent) (d' : Daemon) :
    Prop :=
  d' = d.step env localRoot e

def Daemon.run (env : Env) (localRoot : String) (d : Daemon) (es : List DaemonEvent) : Daemon :=
  es.foldl (Daemon.step env localRoot) d

theorem Daemon.run_trace (env : Env) (localRoot : String) (d : Daemon) (es : List DaemonEvent) :
    Trace (DaemonStep env localRoot) d es (d.run env localRoot es) := by
  induction es generalizing d with
  | nil => exact Trace.nil d
  | cons e es ih => exact Trace.cons rfl (ih _)

/-! ## What one step can do -/

def FlightsKept (env : Env) (fs fs' : List Flight) : Prop :=
  ∀ f' ∈ fs', ∃ f ∈ fs, f' = f ∨ f' = f.launch env ∨ f' = f.finish

theorem FlightsKept.refl (env : Env) (fs : List Flight) : FlightsKept env fs fs :=
  fun f hf => ⟨f, hf, .inl rfl⟩

theorem mem_modify {α : Type} {f : α → α} {i : ℕ} {l : List α} {a : α} (h : a ∈ l.modify i f) :
    ∃ b ∈ l, a = b ∨ a = f b := by
  obtain ⟨j, hj⟩ := mem_iff_getElem?.1 h
  rw [getElem?_modify] at hj
  cases hlj : l[j]? with
  | none => simp [hlj] at hj
  | some b =>
    rw [hlj] at hj
    refine ⟨b, mem_iff_getElem?.2 ⟨j, hlj⟩, ?_⟩
    by_cases hij : i = j
    · simp only [hij, if_true, Option.map_eq_map, Option.map_some, Option.some.injEq] at hj
      exact .inr hj.symm
    · simp only [hij, if_false, Option.map_eq_map, Option.map_some, Option.some.injEq] at hj
      exact .inl hj.symm

/-- What a step can do. -/
inductive Stepped (env : Env) (localRoot : String) (d : Daemon) : DaemonEvent → Daemon → Prop
  | quiet {e : DaemonEvent} {d' : Daemon} (hstore : SameCoord d.store d'.store)
      (hshown : d'.shown = d.shown) (hflights : FlightsKept env d.flights d'.flights) :
      Stepped env localRoot d e d'
  | staged {taskType performer payloadBase64 : String} {wall : Time} {r : Except Problem Json}
      {s' : Store} (h : exec (stage env taskType performer payloadBase64 wall) d.store = (r, s')) :
      Stepped env localRoot d (.stage taskType performer payloadBase64 wall) { d with store := s' }
  | consented {stageRef : String} {wall : Time} {random : Bytes} {floor : Option Time}
      {staged : StagedContract} {now : Time} {body : Bytes} {event : Json} {c : Consented}
      {s' : Store} (hcons : consentable stageRef d.store = .ok staged)
      (hmint : mintConsentReceipt staged.stageRef ("consent-" ++ hex random) body event now
        (d.store.atFloor floor) = .ok (some c.receipt, s'))
      (hcard : c.card = riskCard env (d.store.atFloor floor) staged none) :
      Stepped env localRoot d (.stageConsent stageRef wall random)
        { d with store := s', shown := d.shown ++ [c] }
  | spent {stageRef consentReceipt executionKey : String} {wall : Time} {random : Bytes}
      {floor : Option Time} {prep : Prepared} {out : DispatchOutcome} {event : Json} {now : Time}
      {s' : Store} {flights : List Flight}
      (hprep : prep.From env localRoot stageRef consentReceipt executionKey d.store)
      (hspend : dispatchStaged stageRef consentReceipt executionKey ("dispatch-" ++ hex random) event
        now (d.store.atFloor floor) = .ok (out, s'))
      (hflights : flights = d.flights ∨ ∃ record replayed, out.next = .ok (.carry record replayed) ∧
        flights = d.flights ++ [⟨prep, record, replayed, none, false⟩]) :
      Stepped env localRoot d (.dispatch stageRef consentReceipt executionKey wall random)
        { d with store := s', flights := flights }
  | recorded {i : ℕ} {answer : Except Problem (ℕ × Bytes)} {wall : Time} {route : CoordRoute}
      {record : DispatchRecord} {carriage : Carriage} {r : Except Problem DispatchRecord} {s' : Store}
      {flights : List Flight}
      (h : exec (recordCarriage route record carriage wall) d.store = (r, s'))
      (hflights : FlightsKept env d.flights flights) :
      Stepped env localRoot d (.record i answer wall) { d with store := s', flights := flights }

theorem Stepped.onStore (h : SameCoord d.store s) : Stepped env localRoot d e (d.onStore s) :=
  .quiet h rfl (FlightsKept.refl env d.flights)

theorem Stepped.transact {α : Type} {op : Store → Except StoreError (α × Store)}
    (h : ∀ a s', op d.store = .ok (a, s') → SameCoord d.store s') :
    Stepped env localRoot d e (d.transact op) := by
  refine Stepped.onStore ?_
  unfold Akson.transact
  split
  case h_1 a s' hop => exact h a s' hop
  case h_2 => exact SameCoord.refl _

theorem daemonStep_cases (h : DaemonStep env localRoot d e d') : Stepped env localRoot d e d' := by
  subst h
  cases e with
  | stage taskType performer payloadBase64 wall => exact .staged rfl
  | stageConsent stageRef wall random =>
    rcases hrun : exec (stageConsent env stageRef wall random) d.store with ⟨r, s'⟩
    simp only [Daemon.step, hrun]
    obtain ⟨floor, ⟨rfl, p, rfl⟩ | ⟨staged, now, body, event, c, hcons, hmint, hcard, rfl⟩⟩ :=
      exec_stageConsent hrun
    · exact Stepped.onStore (sameCoord_atFloor _ _)
    · exact .consented hcons hmint hcard
  | dispatch stageRef consentReceipt executionKey wall random =>
    rcases hrun : exec (dispatchSpend env localRoot stageRef consentReceipt executionKey wall
      random) d.store with ⟨r, s'⟩
    simp only [Daemon.step, hrun]
    obtain ⟨floor, ⟨rfl, p, rfl⟩ | ⟨prep, out, event, now, hprep, hspend, rfl⟩⟩ :=
      exec_dispatchSpend hrun
    · exact Stepped.onStore (sameCoord_atFloor _ _)
    · rw [prepare_eq_ok_iff] at hprep
      dsimp only
      split
      case h_1 record replayed hnext =>
        exact .spent hprep hspend (.inr ⟨record, replayed, hnext, rfl⟩)
      case h_2 => exact .spent hprep hspend (.inl rfl)
  | carry i =>
    refine .quiet (SameCoord.refl _) rfl (fun f' hf' => ?_)
    obtain ⟨f, hf, h | h⟩ := mem_modify hf'
    · exact ⟨f, hf, .inl h⟩
    · exact ⟨f, hf, .inr (.inl h)⟩
  | record i answer wall =>
    simp only [Daemon.step]
    split
    case h_1 f hf =>
      split
      case isTrue =>
        refine .recorded rfl (fun f' hf' => ?_)
        obtain ⟨f, hf, h | h⟩ := mem_modify hf'
        · exact ⟨f, hf, .inl h⟩
        · exact ⟨f, hf, .inr (.inr h)⟩
      case isFalse => exact .quiet (SameCoord.refl _) rfl (FlightsKept.refl _ _)
    case h_2 => exact .quiet (SameCoord.refl _) rfl (FlightsKept.refl _ _)
  | addImport root label hint now => exact Stepped.transact (fun _ _ => sameCoord_addPeerImport)
  | updateImport root newLabel newEndpoint =>
    exact Stepped.transact (fun _ _ => sameCoord_updatePeerImport)
  | removeImport root now => exact Stepped.onStore (sameCoord_removeRelationship root now d.store)
  | introduce root epoch peer keys now =>
    exact Stepped.transact (fun _ _ h => (onlyPeers_commitIntroducedPeer h).toSameCoord)
  | clock wall =>
    rcases hrun : exec (trustedNow wall) d.store with ⟨r, s'⟩
    obtain ⟨floor, rfl⟩ := exec_trustedNow hrun
    simp only [Daemon.step, hrun]
    exact Stepped.onStore (sameCoord_atFloor _ _)
  | crash =>
    refine .quiet (SameCoord.refl _) rfl (fun f' hf' => ?_)
    obtain ⟨f, hf, rfl⟩ := mem_map.1 hf'
    exact ⟨f, hf, .inr (.inr rfl)⟩

/-! ## What no step destroys -/

/-- A property of the store that every step keeps. -/
structure CoordStable (P : Store → Prop) : Prop where
  same : ∀ {s s' : Store}, P s → SameCoord s s' → P s'
  committed : ∀ {s s' : Store} {call : CoordCall} {reply : Except StoreError CoordReply},
    P s → Committed s call reply s' → P s'

theorem CoordStable.step {P : Store → Prop} (hP : CoordStable P)
    (hs : P d.store) (h : Stepped env localRoot d e d') :
    P d'.store := by
  cases h with
  | quiet hstore => exact hP.same hs hstore
  | staged h =>
    obtain ⟨floor, rfl | ⟨payload, now, out, hstage⟩⟩ := exec_stage h
    · exact hP.same hs (sameCoord_atFloor _ floor)
    · exact hP.committed (hP.same hs (sameCoord_atFloor _ floor)) (.stage hstage)
  | @consented _ _ _ floor _ _ _ _ _ _ _ hmint =>
    exact hP.committed (hP.same hs (sameCoord_atFloor _ floor)) (.mint hmint)
  | @spent _ _ _ _ _ floor _ _ _ _ _ _ _ hspend =>
    exact hP.committed (hP.same hs (sameCoord_atFloor _ floor)) (.dispatch hspend)
  | recorded h =>
    obtain ⟨floor, rfl | ⟨event, now, row, hegress⟩⟩ := exec_recordCarriage h
    · exact hP.same hs (sameCoord_atFloor _ floor)
    · exact hP.committed (hP.same hs (sameCoord_atFloor _ floor)) (.egress hegress)

def Store.HasStaging (s : Store) (c : StagedContract) (payload : Bytes) : Prop :=
  ∃ r ∈ s.coordStaged, Store.withStatus c.status r = ⟨c, payload⟩

theorem Store.HasStaging.setStatus
    (h : s.HasStaging c payload) (stageRef : String) (status : CoordStatus) :
    (s.setStatus stageRef status).HasStaging c payload := by
  obtain ⟨r, hr, hrc⟩ := h
  refine ⟨_, (mem_updateWhere (f := Store.withStatus status)).2 ⟨r, hr, rfl⟩, ?_⟩
  split
  · exact hrc
  · exact hrc

theorem hasStaging_stable (c : StagedContract) (payload : Bytes) :
    CoordStable (fun s => s.HasStaging c payload) where
  same := by
    rintro s s' ⟨r, hr, hrc⟩ h
    exact ⟨r, h.staged ▸ hr, hrc⟩
  committed := by
    intro s s' call reply hs h
    cases h with
    | failed => exact hs
    | stage h =>
      obtain ⟨_, _, _, rfl⟩ | ⟨_, _, _, hins, _, _, _, _, _, _, _, rfl⟩ := stageContract_cases h
      · exact hs
      · obtain ⟨r, hr, hrc⟩ := hs
        exact ⟨r, (mem_insert hins).2 (.inl hr), hrc⟩
    | mint h =>
      obtain ⟨_, _, ⟨_, _, rfl⟩ | ⟨_, _, _, _, _, _, rfl⟩⟩ := mintConsentReceipt_cases h
      · exact hs
      · exact hs.setStatus _ _
    | dispatch h =>
      obtain ⟨_, _, rfl, _⟩ | ⟨_, _, rfl, _⟩ | ⟨_, _, _, _, _, _, _, _, _, rfl⟩ :=
        dispatchStaged_cases h
      · exact hs
      · exact hs
      · exact hs.setStatus _ _
    | egress h =>
      obtain ⟨_, _, _, _, _, rfl⟩ := recordEgress_cases h
      exact hs

theorem keyCommitted_stable (key : String) (burn : ConsentBurn) :
    CoordStable (fun s => s.KeyCommitted key burn) where
  same := by
    rintro s s' ⟨d, hd, hburn⟩ h
    refine ⟨d, ?_, hburn⟩
    rw [Store.dispatchRowBy, h.dispatches]
    exact hd
  committed := Store.KeyCommitted.committed

theorem Store.HasStaging.unique {c' : StagedContract} {payload' : Bytes}
    (h : s.HasStaging c payload) (h' : s.HasStaging c' payload') (href : c.stageRef = c'.stageRef) :
    payload = payload' ∧ { c with status := c'.status } = c' := by
  obtain ⟨r, hr, hrc⟩ := h
  obtain ⟨r', hr', hrc'⟩ := h'
  have hreq : r.stageRef = c.stageRef := congrArg (fun x => x.stageRef) hrc
  have hreq' : r'.stageRef = c'.stageRef := congrArg (fun x => x.stageRef) hrc'
  have hrow : r = r' :=
    s.coordStaged.eq_of_clash hr hr' (.inl (hreq.trans (href.trans hreq'.symm)))
  subst hrow
  have hc : c = { r.toStagedContract with status := c.status } :=
    (congrArg StagedRow.toStagedContract hrc).symm
  have hc' : c' = { r.toStagedContract with status := c'.status } :=
    (congrArg StagedRow.toStagedContract hrc').symm
  refine ⟨(congrArg StagedRow.payload hrc).symm.trans (congrArg StagedRow.payload hrc'), ?_⟩
  rw [hc, hc']

theorem hasStaging_of_lookup {ref : String}
    (hc : s.stagedContract ref = some c) (hp : s.stagedPayload ref = some payload) :
    s.HasStaging c payload := by
  obtain ⟨r, hr, rfl⟩ := map_eq_some_iff.1 hc
  obtain ⟨r', hr', rfl⟩ := map_eq_some_iff.1 hp
  rw [hr, Option.some.injEq] at hr'
  subst hr'
  exact ⟨r, mem_of_find hr, rfl⟩

/-! ## Flights -/

/-- A flight agrees with its row and what was staged. -/
structure Flight.Sound (env : Env) (localRoot : String) (s : Store) (f : Flight) : Prop where
  row : s.KeyCommitted f.record.executionKey f.record.committed
  staging : s.HasStaging f.staged f.payload
  stageRef_eq : f.record.stageRef = f.staged.stageRef
  label_eq : f.route.label = f.staged.performer
  envelope_eq : Akson.envelope f.staged f.route localRoot f.record.receiptId = .ok f.envelope
  body_eq : ∀ body, f.body = some body →
    messageBody env f.envelope f.payload f.record.dispatchReceipt f.record.stageRef = .ok body

theorem Flight.launch_eq (env : Env) (f : Flight) :
    ∃ body landed, f.launch env = { f with body := body, landed := landed } ∧
      ∀ b, body = some b → f.body = some b ∨
        messageBody env f.envelope f.payload f.record.dispatchReceipt f.record.stageRef = .ok b := by
  unfold Flight.launch
  split
  case isTrue => exact ⟨f.body, f.landed, rfl, fun b hb => .inl hb⟩
  case isFalse =>
    split
    case h_1 body hbody =>
      refine ⟨some body, f.landed, rfl, ?_⟩
      rintro b ⟨⟩
      exact .inr hbody
    case h_2 => exact ⟨f.body, true, rfl, fun b hb => .inl hb⟩

theorem Flight.Sound.launch (h : f.Sound env localRoot s) : (f.launch env).Sound env localRoot s := by
  obtain ⟨body, landed, heq, hbody⟩ := f.launch_eq env
  rw [heq]
  refine ⟨h.row, h.staging, h.stageRef_eq, h.label_eq, h.envelope_eq, ?_⟩
  intro b hb
  rcases hbody b hb with hold | hnew
  · exact h.body_eq b hold
  · exact hnew

theorem Flight.Sound.finish (h : f.Sound env localRoot s) : f.finish.Sound env localRoot s :=
  ⟨h.row, h.staging, h.stageRef_eq, h.label_eq, h.envelope_eq, h.body_eq⟩

theorem Flight.Sound.step
    (hf : f.Sound env localRoot d.store) (h : Stepped env localRoot d e d') :
    f.Sound env localRoot d'.store :=
  ⟨(keyCommitted_stable _ _).step hf.row h, (hasStaging_stable _ _).step hf.staging h,
    hf.stageRef_eq, hf.label_eq, hf.envelope_eq, hf.body_eq⟩

/-! ## The invariant of the daemon -/

def Store.consentsBinding (s : Store) (digest : String) : ℕ :=
  s.coordConsents.count (fun c => c.stagedDigest = digest)

/-- The invariant of the daemon. -/
structure Daemon.Sound (env : Env) (localRoot : String) (d : Daemon) : Prop where
  surface : Surface d.store
  flights : ∀ f ∈ d.flights, f.Sound env localRoot d.store
  /-- The receipts that were ever shown are the ones in the table. -/
  shown_count : ∀ digest, d.shown.countP (fun c => c.receipt.stagedDigest = digest) =
    d.store.consentsBinding digest

theorem surface_step (hs : Surface d.store) (h : Stepped env localRoot d e d') : Surface d'.store := by
  cases h with
  | quiet hstore => exact hs.sameCoord hstore
  | staged h => exact surface_stage hs h
  | @consented _ _ _ floor _ _ _ _ _ _ hcons hmint =>
    obtain ⟨hstaged, hlive, hdispatch⟩ := consentable_eq_ok hcons
    rw [stageRef_of_stagedContract hstaged] at hmint
    exact (hs.atFloor floor).mint hlive hdispatch hmint
  | @spent _ _ _ _ _ floor _ _ _ _ _ _ _ hspend =>
    exact (hs.atFloor floor).spend (toList_prefix_append _ _) hspend
  | recorded h => exact surface_recordCarriage hs h

theorem flights_step
    (hs : ∀ f ∈ d.flights, f.Sound env localRoot d.store) (h : Stepped env localRoot d e d') :
    ∀ f ∈ d'.flights, f.Sound env localRoot d'.store := by
  have hkept : ∀ {fs}, FlightsKept env d.flights fs →
      ∀ f ∈ fs, f.Sound env localRoot d'.store := by
    intro fs hfs f hf
    obtain ⟨old, hold, rfl | rfl | rfl⟩ := hfs f hf
    · exact (hs _ hold).step h
    · exact ((hs old hold).step h).launch
    · exact ((hs old hold).step h).finish
  cases h with
  | quiet _ _ hflights => exact hkept hflights
  | staged h => exact hkept (FlightsKept.refl env d.flights)
  | consented => exact hkept (FlightsKept.refl env d.flights)
  | recorded _ hflights => exact hkept hflights
  | spent hprep hspend hflights =>
    rcases hflights with rfl | ⟨record, replayed, hnext, rfl⟩
    · exact hkept (FlightsKept.refl env d.flights)
    · intro f hf
      rcases mem_append.1 hf with hold | hnew
      · exact hkept (FlightsKept.refl env d.flights) f hold
      · obtain rfl := mem_singleton.1 hnew
        obtain ⟨hkey, href, hid, hrow⟩ := carry_of_dispatchStaged hspend hnext
        refine ⟨hkey ▸ hrow, ?_, ?_, (resolveRoute_eq_ok hprep.route).1, ?_, by rintro _ ⟨⟩⟩
        · exact (hasStaging_stable _ _).committed
            ((hasStaging_stable _ _).same (hasStaging_of_lookup hprep.staged hprep.payload)
              (sameCoord_atFloor _ _)) (.dispatch hspend)
        · exact href.trans (stageRef_of_stagedContract hprep.staged).symm
        · rw [hid]
          exact hprep.envelope

theorem consentsBinding_dispatchStaged
    {stageRef receiptId executionKey dispatchReceipt : String} {event : Json} {now : Time}
    {s' : Store} {out : DispatchOutcome}
    (h : dispatchStaged stageRef receiptId executionKey dispatchReceipt event now s = .ok (out, s'))
    (digest : String) : s'.consentsBinding digest = s.consentsBinding digest := by
  obtain ⟨_, _, rfl, _⟩ | ⟨_, _, rfl, _⟩ | ⟨_, _, _, _, _, _, _, _, _, rfl⟩ := dispatchStaged_cases h
  · rfl
  · rfl
  · exact count_updateWhere (f := ConsentRow.spend) (fun _ => rfl) _

theorem shown_step (hs : ∀ digest, d.shown.countP (fun c => c.receipt.stagedDigest = digest) =
      d.store.consentsBinding digest) (h : Stepped env localRoot d e d') (digest : String) :
    d'.shown.countP (fun c => c.receipt.stagedDigest = digest) =
      d'.store.consentsBinding digest := by
  cases h with
  | quiet hstore hshown =>
    rw [hshown, hs, Store.consentsBinding, ← hstore.consents, Store.consentsBinding]
  | staged h =>
    rw [hs]
    obtain ⟨floor, rfl | ⟨payload, now, out, hstage⟩⟩ := exec_stage h
    · rfl
    · obtain ⟨_, _, _, rfl⟩ | ⟨_, _, _, _, _, _, _, _, _, _, _, rfl⟩ := stageContract_cases hstage
      · rfl
      · rfl
  | @consented _ _ _ floor _ _ _ _ c _ hcons hmint =>
    obtain ⟨_, _, ⟨_, hnone, _⟩ | ⟨_, receipt, consents, _, hins, hout, rfl⟩⟩ :=
      mintConsentReceipt_cases hmint
    · cases hnone
    · cases hout
      have hcount := count_insert hins (fun r => decide (r.stagedDigest = digest))
      rw [countP_append, hs]
      exact (congrArg _ (countP_singleton ..)).trans hcount.symm
  | @spent _ _ _ _ _ floor _ _ _ _ _ _ _ hspend =>
    rw [consentsBinding_dispatchStaged hspend]
    exact hs digest
  | recorded h =>
    rw [hs]
    obtain ⟨floor, rfl | ⟨event, now, row, hegress⟩⟩ := exec_recordCarriage h
    · rfl
    · obtain ⟨_, _, _, _, _, rfl⟩ := recordEgress_cases hegress
      rfl

theorem daemonStep_sound (d : Daemon) (e : DaemonEvent)
    (d' : Daemon) (hs : d.Sound env localRoot) (h : DaemonStep env localRoot d e d') :
    d'.Sound env localRoot :=
  have hstep := daemonStep_cases h
  ⟨surface_step hs.surface hstep, flights_step hs.flights hstep, shown_step hs.shown_count hstep⟩

structure Daemon.Fresh (d : Daemon) : Prop where
  store : d.store.CoordEmpty
  flights : d.flights = []
  shown : d.shown = []

theorem Daemon.Fresh.sound (h : d.Fresh) (env : Env) (localRoot : String) :
    d.Sound env localRoot := by
  refine ⟨⟨h.store.ledger, ?_, ?_, ?_⟩, ?_, ?_⟩
  · simp [h.store.staged]
  · simp [h.store.dispatches]
  · simp [h.store.consents]
  · simp [h.flights]
  · intro digest
    rw [h.shown, Store.consentsBinding, h.store.consents]
    rfl

theorem Daemon.Fresh.run {d₀ : Daemon} {es : List DaemonEvent}
    (h₀ : d₀.Fresh) (h : Trace (DaemonStep env localRoot) d₀ es d) : d.Sound env localRoot :=
  h.invariant daemonStep_sound (h₀.sound env localRoot)

theorem Daemon.Sound.dispatch_of_flight (hd : d.Sound env localRoot) (hf : f ∈ d.flights) :
    ∃ row ∈ d.store.coordDispatches, row.committed = f.record.committed ∧
      row.stagedDigest = f.staged.stagedDigest := by
  have hsound := hd.flights f hf
  obtain ⟨row, hrow, hcom⟩ := hsound.row
  have hmem := mem_of_find hrow
  refine ⟨row, hmem, hcom, ?_⟩
  -- the row's digest is its receipt's, which is the one staged under the reference
  obtain ⟨c, hc, -, href, hdig⟩ := hd.surface.consent_of_dispatch row hmem
  obtain ⟨r, hr, hrref, hrdig⟩ := hd.surface.staged_of_consent c hc
  obtain ⟨r', hr', hrow'⟩ := hsound.staging
  have hfref : r'.stageRef = f.staged.stageRef := congrArg (fun x => x.stageRef) hrow'
  have hfdig : r'.stagedDigest = f.staged.stagedDigest := congrArg (fun x => x.stagedDigest) hrow'
  have hcref : row.stageRef = f.record.stageRef := congrArg ConsentBurn.stageRef hcom
  have hsame : r = r' := by
    refine d.store.coordStaged.eq_of_clash hr hr' (.inl ?_)
    rw [hrref, href, hcref, hsound.stageRef_eq, hfref]
  rw [← hdig, ← hrdig, hsame, hfdig]

/-- **One consent, one dispatch, one message id.**  Over every interleaving of the daemon's
operations, with crashes and any clock: a staged digest gets at most one consent receipt and at
most one dispatch row, a lookup of a dispatch has at most one candidate, and every body put on
the wire for a digest is a message with one and the same id. -/
theorem one_consent_one_dispatch_one_id {env : Env} {localRoot : String} {d₀ d : Daemon}
    {es : List DaemonEvent} (h₀ : d₀.Fresh) (h : Trace (DaemonStep env localRoot) d₀ es d) :
    (∀ digest, d.shown.countP (fun c => c.receipt.stagedDigest = digest) ≤ 1 ∧
      d.store.coordConsents.count (fun c => c.stagedDigest = digest) ≤ 1 ∧
      d.store.coordDispatches.count (fun r => r.stagedDigest = digest) ≤ 1) ∧
    (∀ taskId, d.store.coordDispatches.count
      (fun r => r.dispatchReceipt = taskId ∨ r.stageRef = taskId) ≤ 1) ∧
    (∀ digest, ∃ id, ∀ f ∈ d.flights, f.staged.stagedDigest = digest →
      ∀ body, f.body = some body → ∃ request,
        env.requestJson f.message = some request ∧
        body = Json.canonicalBytes env.fmtNum request ∧ f.message.messageId = id ∧
        ∃ r ∈ d.store.coordDispatches, r.stagedDigest = digest ∧ r.dispatchReceipt = id) := by
  have hd := h₀.run h
  refine ⟨fun digest => ⟨?_, ?_, ?_⟩, hd.surface.count_candidates_le_one, fun digest => ?_⟩
  · rw [hd.shown_count]
    exact hd.surface.count_consents_le_one digest
  · exact hd.surface.count_consents_le_one digest
  · exact hd.surface.count_dispatches_le_one digest
  · -- the id is the receipt of the one dispatch row, if there is one
    by_cases hrow : ∃ r ∈ d.store.coordDispatches, r.stagedDigest = digest
    · obtain ⟨r, hr, hdig⟩ := hrow
      refine ⟨r.dispatchReceipt, fun f hf hfdig body hbody => ?_⟩
      obtain ⟨row, hrow, hcom, hrowdig⟩ := hd.dispatch_of_flight hf
      have hsame : row = r := hd.surface.dispatch_eq hrow hr
        (.inl (hrowdig.trans (hfdig.trans hdig.symm)))
      have hbody' := (hd.flights f hf).body_eq body hbody
      unfold messageBody at hbody'
      split at hbody'
      case h_1 request hrequest =>
        refine ⟨request, hrequest, (Except.ok.inj hbody').symm, ?_, r, hr, hdig, rfl⟩
        rw [← hsame]
        exact (congrArg ConsentBurn.dispatchReceipt hcom).symm
      case h_2 => cases hbody'
    · refine ⟨"", fun f hf hfdig => ?_⟩
      obtain ⟨row, hmem, -, hrowdig⟩ := hd.dispatch_of_flight hf
      exact absurd ⟨row, hmem, hrowdig.trans hfdig⟩ hrow

/-! ## A disclosure that is carried twice -/

def Daemon.new : Daemon := ⟨{ trustedTime := some 0 }, [], []⟩

theorem Daemon.new_fresh : Daemon.new.Fresh := ⟨⟨rfl, rfl, rfl⟩, rfl, rfl⟩

def sampleDispatch (wall : Time) : DaemonEvent :=
  .dispatch sampleStaged.stageRef ("consent-" ++ hex sampleRandom) "exec-1" wall sampleRandom

def sampleStage : DaemonEvent := .stage sampleTaskType "partner" "b3V0Ym91bmQgYnl0ZXM=" 10

def carriedTwice : List DaemonEvent :=
  [.addImport "root-a" "partner" "" 1, .introduce "root-a" 1 (pinnedPeer "root-a") [] 2, sampleStage,
   .stageConsent sampleStaged.stageRef 20 sampleRandom, sampleDispatch 30, .carry 0, .crash,
   sampleDispatch 40, .carry 1]

def carriedTwiceDaemon : Daemon := Daemon.new.run sampleEnv "root-sender-fixture" carriedTwice

theorem carriedTwice_outcome :
    carriedTwiceDaemon.flights.map (fun f => (f.route.root, f.replayed, f.body.isSome)) =
      [("root-a", false, true), ("root-a", true, true)] ∧
    ∃ c ∈ carriedTwiceDaemon.shown, c.card.ShowsRoot "root-a" ∧
      ∃ f ∈ carriedTwiceDaemon.flights, f.record.receiptId = c.receipt.receiptId ∧
        f.body.isSome = true := by
  decide +kernel

theorem one_consent_one_dispatch_one_id_carriedTwice :
    carriedTwiceDaemon.flights.map (fun f => (f.route.root, f.replayed, f.body.isSome)) =
      [("root-a", false, true), ("root-a", true, true)] ∧
    carriedTwiceDaemon.store.coordConsents.count
      (fun c => c.stagedDigest = sampleStaged.stagedDigest) ≤ 1 ∧
    carriedTwiceDaemon.store.coordDispatches.count
      (fun r => r.dispatchReceipt = sampleStaged.stageRef ∨ r.stageRef = sampleStaged.stageRef) ≤ 1 :=
  have hall := one_consent_one_dispatch_one_id Daemon.new_fresh
    (Daemon.run_trace sampleEnv "root-sender-fixture" Daemon.new carriedTwice)
  ⟨carriedTwice_outcome.1, (hall.1 _).2.1, hall.2.1 _⟩

end Akson
