/-
# Labels that change hands

A disclosure is staged for a label, and the label is resolved again at every dispatch.
-/
import Akson.Coord.System

namespace Akson

open Operation Except Option List Table

variable {env : Env} {localRoot stageRef : String} {d d' : Daemon} {e : DaemonEvent} {s : Store}

/-! ## The root the operator was shown -/

def ShownRootKept (env : Env) (d : Daemon) : DaemonEvent → Prop
  | .dispatch stageRef consentReceipt _ _ _ =>
    ∀ c ∈ d.shown, c.receipt.receiptId = consentReceipt → c.receipt.stageRef = stageRef →
      ∀ root, c.card.ShowsRoot root → ∀ staged, d.store.stagedContract stageRef = some staged →
        ∀ root', d.store.rootOf staged.performer = some root' → root' ≠ root →
          ¬ d.store.Routable env root'
  | _ => True

def StepWhen (cond : Daemon → DaemonEvent → Prop) (env : Env) (localRoot : String) (d : Daemon)
    (e : DaemonEvent) (d' : Daemon) : Prop :=
  DaemonStep env localRoot d e d' ∧ cond d e

def Store.HasReceipt (s : Store) (receiptId stageRef : String) : Prop :=
  ∃ row ∈ s.coordConsents, row.receiptId = receiptId ∧ row.stageRef = stageRef

theorem hasReceipt_stable (receiptId stageRef : String) :
    CoordStable (fun s => s.HasReceipt receiptId stageRef) where
  same := by
    rintro s s' ⟨row, hrow, hid⟩ h
    exact ⟨row, h.consents ▸ hrow, hid⟩
  committed := by
    rintro s s' call reply ⟨row, hrow, hid⟩ h
    cases h with
    | failed => exact ⟨row, hrow, hid⟩
    | stage h =>
      obtain ⟨_, _, _, rfl⟩ | ⟨_, _, _, _, _, _, _, _, _, _, _, rfl⟩ := stageContract_cases h
      · exact ⟨row, hrow, hid⟩
      · exact ⟨row, hrow, hid⟩
    | mint h =>
      obtain ⟨_, _, ⟨_, _, rfl⟩ | ⟨_, _, _, _, hins, _, rfl⟩⟩ := mintConsentReceipt_cases h
      · exact ⟨row, hrow, hid⟩
      · exact ⟨row, (mem_insert hins).2 (.inl hrow), hid⟩
    | dispatch h =>
      obtain ⟨_, _, rfl, _⟩ | ⟨_, _, rfl, _⟩ | ⟨_, _, _, _, _, _, _, _, _, rfl⟩ :=
        dispatchStaged_cases h
      · exact ⟨row, hrow, hid⟩
      · exact ⟨row, hrow, hid⟩
      · refine ⟨_, (mem_updateWhere (f := ConsentRow.spend)).2 ⟨row, hrow, rfl⟩, ?_⟩
        split
        · exact hid
        · exact hid
    | egress h =>
      obtain ⟨_, _, _, _, _, rfl⟩ := recordEgress_cases h
      exact ⟨row, hrow, hid⟩

def Daemon.ShownMinted (d : Daemon) : Prop :=
  ∀ c ∈ d.shown, d.store.HasReceipt c.receipt.receiptId c.receipt.stageRef

theorem shownMinted_step (hs : d.ShownMinted) (h : Stepped env localRoot d e d') : d'.ShownMinted := by
  have hold : ∀ c ∈ d.shown, d'.store.HasReceipt c.receipt.receiptId c.receipt.stageRef :=
    fun c hc => (hasReceipt_stable _ _).step (hs c hc) h
  cases h with
  | quiet _ hshown =>
    intro c hc
    rw [hshown] at hc
    exact hold c hc
  | staged => exact hold
  | spent => exact hold
  | recorded => exact hold
  | @consented _ _ _ _ _ _ _ _ c _ hcons hmint =>
    intro a ha
    rcases mem_append.1 ha with ha | ha
    · exact hold a ha
    · obtain rfl := mem_singleton.1 ha
      obtain ⟨_, _, ⟨_, hnone, _⟩ | ⟨_, receipt, consents, _, hins, hout, rfl⟩⟩ :=
        mintConsentReceipt_cases hmint
      · cases hnone
      · cases hout
        exact ⟨_, (mem_insert hins).2 (.inr rfl), rfl, rfl⟩

theorem Daemon.Sound.hasReceipt (hd : d.Sound env localRoot) {f : Flight} (hf : f ∈ d.flights) :
    d.store.HasReceipt f.record.receiptId f.record.stageRef := by
  obtain ⟨row, hrow, hcom⟩ := (hd.flights f hf).row
  obtain ⟨c, hc, hid, href, -⟩ := hd.surface.consent_of_dispatch row (mem_of_find hrow)
  exact ⟨c, hc, hid.trans (congrArg ConsentBurn.receiptId hcom),
    href.trans (congrArg ConsentBurn.stageRef hcom)⟩

def Daemon.RoutedAsShown (d : Daemon) : Prop :=
  ∀ c ∈ d.shown, ∀ root, c.card.ShowsRoot root → ∀ f ∈ d.flights,
    f.record.receiptId = c.receipt.receiptId → f.route.root = root

theorem Flight.launch_route (env : Env) (f : Flight) :
    (f.launch env).route = f.route ∧ (f.launch env).record = f.record := by
  obtain ⟨body, landed, heq, -⟩ := f.launch_eq env
  rw [heq]
  exact ⟨rfl, rfl⟩

theorem FlightsKept.route {fs fs' : List Flight} (h : FlightsKept env fs fs')
    {f' : Flight} (hf' : f' ∈ fs') : ∃ f ∈ fs, f'.route = f.route ∧ f'.record = f.record := by
  obtain ⟨f, hf, rfl | rfl | rfl⟩ := h f' hf'
  · exact ⟨_, hf, rfl, rfl⟩
  · exact ⟨f, hf, f.launch_route env⟩
  · exact ⟨f, hf, rfl, rfl⟩

theorem routedAsShown_step
    (hd : d.Sound env localRoot) (hd' : d'.Sound env localRoot) (hminted : d'.ShownMinted)
    (hs : d.RoutedAsShown) (h : Stepped env localRoot d e d') (hcond : ShownRootKept env d e) :
    d'.RoutedAsShown := by
  have hkept : ∀ {fs}, FlightsKept env d.flights fs → ∀ c ∈ d.shown, ∀ root,
      c.card.ShowsRoot root → ∀ f ∈ fs, f.record.receiptId = c.receipt.receiptId →
        f.route.root = root := by
    intro fs hfs c hc root hroot f hf hid
    obtain ⟨old, hold, hroute, hrecord⟩ := hfs.route hf
    rw [hroute]
    exact hs c hc root hroot old hold (hrecord ▸ hid)
  cases h with
  | quiet _ hshown hflights =>
    intro c hc
    rw [hshown] at hc
    exact hkept hflights c hc
  | staged => exact hkept (FlightsKept.refl env d.flights)
  | recorded _ hflights => exact hkept hflights
  | @consented _ _ _ _ _ _ _ _ c _ hcons hmint =>
    intro a ha root hroot f hf hid
    rcases mem_append.1 ha with ha | ha
    · exact hs a ha root hroot f hf hid
    · -- a new receipt has a new id, and no flight has it
      obtain rfl := mem_singleton.1 ha
      obtain ⟨row, hrow, hrowid, -⟩ := hd.hasReceipt hf
      obtain ⟨_, _, ⟨_, hnone, _⟩ | ⟨_, receipt, consents, _, hins, hout, rfl⟩⟩ :=
        mintConsentReceipt_cases hmint
      · cases hnone
      · cases hout
        exact absurd (hrowid.trans hid) ((insert_eq_some_iff.1 hins).1 row hrow)
  | @spent stageRef consentReceipt executionKey _ _ _ prep _ _ _ s' flights hprep hspend hflights =>
    rcases hflights with rfl | ⟨record, replayed, hnext, rfl⟩
    · exact hkept (FlightsKept.refl env d.flights)
    · intro c hc root hroot f hf hid
      rcases mem_append.1 hf with hold | hnew
      · exact hs c hc root hroot f hold hid
      · -- the new flight's receipt is the one presented, for the reference presented
        obtain ⟨row, hrow, hrowid, hrowref⟩ := hd'.hasReceipt hf
        obtain ⟨row', hrow', hrowid', hrowref'⟩ := hminted c hc
        obtain rfl := mem_singleton.1 hnew
        obtain ⟨-, href, hreceipt, -⟩ := carry_of_dispatchStaged hspend hnext
        have hsame : row = row' :=
          eq_of_clash _ hrow hrow' (hrowid.trans (hid.trans hrowid'.symm))
        have hcref : c.receipt.stageRef = stageRef := by
          rw [← hrowref', ← hsame, hrowref]
          exact href
        obtain ⟨-, hnamed, hroutable⟩ := resolveRoute_eq_ok hprep.route
        by_contra hne
        exact hcond c hc (hid.symm.trans hreceipt) hcref root hroot prep.staged hprep.staged _
          hnamed hne hroutable

/-- Carriages under a shown card go to its root. -/
structure Daemon.ShownSound (env : Env) (localRoot : String) (d : Daemon) : Prop extends
    d.Sound env localRoot where
  minted : d.ShownMinted
  routed : d.RoutedAsShown

theorem shownSound_step (d : Daemon) (e : DaemonEvent) (d' : Daemon)
    (hs : d.ShownSound env localRoot) (h : StepWhen (ShownRootKept env) env localRoot d e d') :
    d'.ShownSound env localRoot := by
  have hstep := daemonStep_cases h.1
  have hsound := daemonStep_sound d e d' hs.toSound h.1
  have hminted := shownMinted_step hs.minted hstep
  exact ⟨hsound, hminted, routedAsShown_step hs.toSound hsound hminted hs.routed hstep h.2⟩

theorem Daemon.Fresh.shownSound (h : d.Fresh) (env : Env) (localRoot : String) :
    d.ShownSound env localRoot := by
  refine ⟨h.sound env localRoot, ?_, ?_⟩
  · simp [Daemon.ShownMinted, h.shown]
  · simp [Daemon.RoutedAsShown, h.shown]

variable {executionKey receiptId : String} {route : CoordRoute} {body : Bytes}
  {es : List DaemonEvent} {d₀ : Daemon} {wall now : Time} {event : Json} {s' : Store}

/-- **The bytes go where the card said.**  In every run in which no dispatch finds a shown label
at another routable root: every carriage under a receipt goes to the root its card displayed,
and a dispatch that finds the label at another root is refused with the receipt unspent. -/
theorem carried_to_shown_root {env : Env} {localRoot : String} {d₀ d : Daemon}
    {es : List DaemonEvent} (h₀ : d₀.Fresh)
    (h : Trace (StepWhen (ShownRootKept env) env localRoot) d₀ es d) :
    ∀ c ∈ d.shown, ∀ root, c.card.ShowsRoot root →
      (∀ f ∈ d.flights, f.record.receiptId = c.receipt.receiptId → ∀ body, f.body = some body →
        f.route.root = root) ∧
      (∀ staged, d.store.stagedContract c.receipt.stageRef = some staged → ∀ root',
        d.store.rootOf staged.performer = some root' → root' ≠ root →
        ∀ executionKey wall random,
          ShownRootKept env d
            (.dispatch c.receipt.stageRef c.receipt.receiptId executionKey wall random) →
          ∃ p, exec (dispatchSpend env localRoot c.receipt.stageRef c.receipt.receiptId executionKey
            wall random) d.store = (.error p, d.store)) := by
  have hd := h.invariant shownSound_step (h₀.shownSound env localRoot)
  intro c hc root hroot
  refine ⟨fun f hf hid _ _ => hd.routed c hc root hroot f hf hid, ?_⟩
  intro staged hstaged root' hroot' hne executionKey wall random hcond
  have hno := hcond c hc rfl rfl root hroot staged hstaged root' hroot' hne
  cases hprep : prepare env localRoot c.receipt.stageRef c.receipt.receiptId executionKey d.store with
  | error p => exact ⟨p, exec_bind_of_error (by rw [exec_ask, hprep])⟩
  | ok prep =>
    -- a prepared dispatch has a route, and the route leads to the root the label names
    have hfrom := prepare_eq_ok_iff.1 hprep
    obtain ⟨p, hp⟩ := resolveRoute_of_not_routable hroot' hno
    have hsame : prep.staged = staged := some.inj (hfrom.staged.symm.trans hstaged)
    have hroute := hfrom.route
    rw [hsame, hp] at hroute
    cases hroute

/-! ## The root an earlier attempt went to -/

def RoutedRootKept (env : Env) (d : Daemon) : DaemonEvent → Prop
  | .dispatch stageRef _ executionKey _ _ =>
    ∀ f ∈ d.flights, f.record.executionKey = executionKey → f.record.stageRef = stageRef →
      ∀ staged, d.store.stagedContract stageRef = some staged →
        ∀ root', d.store.rootOf staged.performer = some root' → root' ≠ f.route.root →
          ¬ d.store.Routable env root'
  | _ => True

def Daemon.RoutedAlike (d : Daemon) : Prop :=
  ∀ f ∈ d.flights, ∀ g ∈ d.flights, f.record.executionKey = g.record.executionKey →
    f.route.root = g.route.root

theorem committed_eq_of_key {key : String} {burn burn' : ConsentBurn}
    (h : s.KeyCommitted key burn) (h' : s.KeyCommitted key burn') : burn = burn' := by
  obtain ⟨row, hrow, rfl⟩ := h
  obtain ⟨row', hrow', rfl⟩ := h'
  rw [some.inj (hrow.symm.trans hrow')]

theorem routedAlike_step
    (hd' : d'.Sound env localRoot) (hs : d.RoutedAlike) (h : Stepped env localRoot d e d')
    (hcond : RoutedRootKept env d e) : d'.RoutedAlike := by
  have hkept : ∀ {fs}, FlightsKept env d.flights fs → ∀ f ∈ fs, ∀ g ∈ fs,
      f.record.executionKey = g.record.executionKey → f.route.root = g.route.root := by
    intro fs hfs f hf g hg hkey
    obtain ⟨f₀, hf₀, hroute, hrecord⟩ := hfs.route hf
    obtain ⟨g₀, hg₀, hroute', hrecord'⟩ := hfs.route hg
    rw [hroute, hroute']
    refine hs f₀ hf₀ g₀ hg₀ ?_
    rw [← hrecord, ← hrecord', hkey]
  cases h with
  | quiet _ _ hflights => exact hkept hflights
  | staged => exact hs
  | consented => exact hs
  | recorded _ hflights => exact hkept hflights
  | @spent stageRef consentReceipt executionKey _ _ _ prep _ _ _ s' flights hprep hspend hflights =>
    rcases hflights with rfl | ⟨record, replayed, hnext, rfl⟩
    · exact hs
    · obtain ⟨hkey, href, -, hrow⟩ := carry_of_dispatchStaged hspend hnext
      obtain ⟨-, hnamed, hroutable⟩ := resolveRoute_eq_ok hprep.route
      -- the new flight leads where the earlier ones under its key do
      have hnew : ∀ f ∈ d.flights, f.record.executionKey = executionKey →
          prep.route.root = f.route.root := by
        intro f hf hfkey
        have hfrow := (hd'.flights f (mem_append_left _ hf)).row
        rw [hfkey] at hfrow
        have hfref : f.record.stageRef = stageRef :=
          (congrArg ConsentBurn.stageRef (committed_eq_of_key hfrow hrow)).trans href
        by_contra hne
        exact hcond f hf hfkey hfref prep.staged hprep.staged _ hnamed hne hroutable
      intro f hf g hg hfg
      rcases mem_append.1 hf with hf | hf
      · rcases mem_append.1 hg with hg | hg
        · exact hs f hf g hg hfg
        · obtain rfl := mem_singleton.1 hg
          exact (hnew f hf (hfg.trans hkey)).symm
      · obtain rfl := mem_singleton.1 hf
        rcases mem_append.1 hg with hg | hg
        · exact hnew g hg (hfg.symm.trans hkey)
        · obtain rfl := mem_singleton.1 hg
          rfl

theorem envelope_congr {c c' : StagedContract} {route' : CoordRoute}
    (hc : { c with status := c'.status } = c') (hlabel : route.label = route'.label)
    (hroot : route.root = route'.root) (localRoot receipt : String) :
    envelope c route localRoot receipt = envelope c' route' localRoot receipt := by
  rw [← hc]
  simp only [envelope, hlabel, hroot]

theorem Daemon.Sound.body_eq (hd : d.Sound env localRoot) {f g : Flight} (hf : f ∈ d.flights)
    (hg : g ∈ d.flights) (hkey : f.record.executionKey = g.record.executionKey)
    (hroot : f.route.root = g.route.root) {body' : Bytes} (hbody : f.body = some body)
    (hbody' : g.body = some body') : body = body' := by
  have hfs := hd.flights f hf
  have hgs := hd.flights g hg
  -- the key names one row, so both carry the same committed identifiers
  have hcom : f.record.committed = g.record.committed :=
    committed_eq_of_key (hkey ▸ hfs.row) hgs.row
  have href : f.record.stageRef = g.record.stageRef := congrArg ConsentBurn.stageRef hcom
  have hreceipt : f.record.receiptId = g.record.receiptId := congrArg ConsentBurn.receiptId hcom
  have hmessage : f.record.dispatchReceipt = g.record.dispatchReceipt :=
    congrArg ConsentBurn.dispatchReceipt hcom
  obtain ⟨hpayload, hstaged⟩ := hfs.staging.unique hgs.staging
    (hfs.stageRef_eq.symm.trans (href.trans hgs.stageRef_eq))
  have hlabel : f.route.label = g.route.label := by
    rw [hfs.label_eq, hgs.label_eq, ← hstaged]
  have henvelope : f.envelope = g.envelope := by
    have hfe := hfs.envelope_eq
    rw [envelope_congr hstaged hlabel hroot, hreceipt, hgs.envelope_eq] at hfe
    exact (ok.inj hfe).symm
  have hfb := hfs.body_eq body hbody
  rw [henvelope, hpayload, hmessage, href, hgs.body_eq body' hbody'] at hfb
  exact (ok.inj hfb).symm

theorem routedAlike_run (h₀ : d₀.Fresh)
    (h : Trace (StepWhen (RoutedRootKept env) env localRoot) d₀ es d) :
    d.Sound env localRoot ∧ d.RoutedAlike := by
  refine h.invariant (I := fun d => d.Sound env localRoot ∧ d.RoutedAlike) ?_
    ⟨h₀.sound env localRoot, by simp [Daemon.RoutedAlike, h₀.flights]⟩
  rintro d e d' ⟨hsound, halike⟩ ⟨hstep, hcond⟩
  have hsound' := daemonStep_sound d e d' hsound hstep
  exact ⟨hsound', routedAlike_step hsound' halike (daemonStep_cases hstep) hcond⟩

/-- **A repeated carriage repeats the bytes.**  In every run in which no dispatch finds the label
at another routable root than an earlier dispatch under its key: any two carriages under one
execution key are byte-identical and go to the same root. -/
theorem carriages_alike {env : Env} {localRoot : String} {d₀ d : Daemon} {es : List DaemonEvent}
    (h₀ : d₀.Fresh) (h : Trace (StepWhen (RoutedRootKept env) env localRoot) d₀ es d) :
    ∀ f ∈ d.flights, ∀ g ∈ d.flights, f.record.executionKey = g.record.executionKey →
      ∀ body body', f.body = some body → g.body = some body' →
        body = body' ∧ f.route.root = g.route.root := by
  obtain ⟨hsound, halike⟩ := routedAlike_run h₀ h
  intro f hf g hg hkey body body' hbody hbody'
  have hroot := halike f hf g hg hkey
  exact ⟨hsound.body_eq hf hg hkey hroot hbody hbody', hroot⟩

/-! ## A label that keeps its root -/

/-- One root is behind the imports, on the cards that were shown and on the way. -/
def Daemon.OneRoot (root : String) (d : Daemon) : Prop :=
  (∀ r ∈ d.store.peerImports.rows, r.rootThumbprint = root) ∧
  (∀ c ∈ d.shown, ∀ who ∈ c.card.sections, who.heading = "Who receives it" → ∀ line ∈ who.lines,
    line.toList.take 17 = "root thumbprint: ".toList → line = rootLine root) ∧
  ∀ f ∈ d.flights, f.route.root = root

instance (root : String) (d : Daemon) : Decidable (d.OneRoot root) :=
  inferInstanceAs (Decidable (_ ∧ _ ∧ _))

theorem Daemon.OneRoot.rootOf {root root' label : String} (h : d.OneRoot root)
    (hroot : d.store.rootOf label = some root') : root' = root := by
  obtain ⟨r, hr, rfl⟩ := map_eq_some_iff.1 hroot
  exact h.1 r (mem_of_find hr)

theorem Daemon.OneRoot.shownRootKept {root : String} (h : d.OneRoot root) (e : DaemonEvent) :
    ShownRootKept env d e := by
  cases e with
  | dispatch stageRef consentReceipt executionKey wall random =>
    rintro c hc - - root₁ ⟨who, hwho, hhead, hline⟩ staged - root' hroot' hne
    have hstart : (rootLine root₁).toList.take 17 = "root thumbprint: ".toList :=
      (congrArg (take 17) String.toList_append).trans (take_left' (by decide))
    have hshown := append_inj_right (h.2.1 c hc who hwho hhead _ hline hstart)
    exact absurd ((h.rootOf hroot').trans hshown.symm) hne
  | _ => trivial

theorem Daemon.OneRoot.routedRootKept {root : String} (h : d.OneRoot root) (e : DaemonEvent) :
    RoutedRootKept env d e := by
  cases e with
  | dispatch stageRef consentReceipt executionKey wall random =>
    intro f hf _ _ staged _ root' hroot' hne
    exact absurd ((h.rootOf hroot').trans (h.2.2 f hf).symm) hne
  | _ => trivial

theorem Daemon.run_stepWhen {cond : Daemon → DaemonEvent → Prop}
    (h : ∀ n, ∀ e ∈ es[n]?, cond (d.run env localRoot (es.take n)) e) :
    Trace (StepWhen cond env localRoot) d es (d.run env localRoot es) := by
  induction es generalizing d with
  | nil => exact .nil d
  | cons e es ih => exact .cons ⟨rfl, h 0 e rfl⟩ (ih fun n e he => h (n + 1) e he)

theorem carriedTwice_oneRoot : ∀ n < carriedTwice.length,
    (Daemon.new.run sampleEnv "root-sender-fixture" (carriedTwice.take n)).OneRoot "root-a" := by
  decide +kernel

/-! ## Labels that change hands -/

def reboundBeforeDispatch : List DaemonEvent :=
  [.addImport "root-a" "partner" "" 1, sampleStage,
   .stageConsent sampleStaged.stageRef 20 sampleRandom, .removeImport "root-a" 21,
   .addImport "root-b" "partner" "" 22, .introduce "root-b" 1 (pinnedPeer "root-b") [] 23,
   sampleDispatch 30, .carry 0]

def reboundBeforeDispatchDaemon : Daemon :=
  Daemon.new.run sampleEnv "root-sender-fixture" reboundBeforeDispatch

/-- The card displayed one root, and the receipt was spent on a carriage to another. -/
theorem rebound_receipt_reaches_other_root :
    Daemon.new.Fresh ∧
    Trace (DaemonStep sampleEnv "root-sender-fixture") Daemon.new reboundBeforeDispatch
      reboundBeforeDispatchDaemon ∧
    ∃ c ∈ reboundBeforeDispatchDaemon.shown, c.card.ShowsRoot "root-a" ∧
      ∃ f ∈ reboundBeforeDispatchDaemon.flights, f.record.receiptId = c.receipt.receiptId ∧
        f.replayed = false ∧ f.body.isSome = true ∧ f.route.root = "root-b" :=
  ⟨Daemon.new_fresh, Daemon.run_trace _ _ _ _, by decide +kernel⟩

def reboundBeforeRetry : List DaemonEvent :=
  [.addImport "root-a" "partner" "" 1, .introduce "root-a" 1 (pinnedPeer "root-a") [] 2, sampleStage,
   .stageConsent sampleStaged.stageRef 20 sampleRandom, sampleDispatch 30, .carry 0,
   .removeImport "root-a" 31, .addImport "root-b" "partner" "" 32,
   .introduce "root-b" 1 (pinnedPeer "root-b") [] 33, sampleDispatch 40, .carry 1]

def reboundBeforeRetryDaemon : Daemon :=
  Daemon.new.run sampleEnv "root-sender-fixture" reboundBeforeRetry

/-- Two carriages under one key, with different envelopes, to different roots. -/
theorem rebound_retry_reaches_other_root :
    Daemon.new.Fresh ∧
    Trace (DaemonStep sampleEnv "root-sender-fixture") Daemon.new reboundBeforeRetry
      reboundBeforeRetryDaemon ∧
    ∃ f ∈ reboundBeforeRetryDaemon.flights, ∃ g ∈ reboundBeforeRetryDaemon.flights,
      f.record.executionKey = g.record.executionKey ∧ f.body.isSome = true ∧
        g.body.isSome = true ∧ f.route.root = "root-a" ∧ g.route.root = "root-b" :=
  ⟨Daemon.new_fresh, Daemon.run_trace _ _ _ _, by decide +kernel⟩

theorem carriedTwice_labels :
    Trace (StepWhen (ShownRootKept sampleEnv) sampleEnv "root-sender-fixture") Daemon.new carriedTwice
      carriedTwiceDaemon ∧
    Trace (StepWhen (RoutedRootKept sampleEnv) sampleEnv "root-sender-fixture") Daemon.new
      carriedTwice carriedTwiceDaemon := by
  have hroot : ∀ n, ∀ e ∈ carriedTwice[n]?, _ :=
    fun n e he => carriedTwice_oneRoot n (List.getElem?_eq_some_iff.1 he).1
  exact ⟨Daemon.run_stepWhen fun n e he => (hroot n e he).shownRootKept e,
    Daemon.run_stepWhen fun n e he => (hroot n e he).routedRootKept e⟩

theorem carried_to_shown_root_carriedTwice :
    (∃ c ∈ carriedTwiceDaemon.shown, c.card.ShowsRoot "root-a" ∧
      ∃ f ∈ carriedTwiceDaemon.flights, f.record.receiptId = c.receipt.receiptId ∧
        f.body.isSome = true) ∧
    ∀ c ∈ carriedTwiceDaemon.shown, c.card.ShowsRoot "root-a" → ∀ f ∈ carriedTwiceDaemon.flights,
      f.record.receiptId = c.receipt.receiptId → ∀ body, f.body = some body →
        f.route.root = "root-a" :=
  ⟨carriedTwice_outcome.2, fun c hc hroot => (carried_to_shown_root Daemon.new_fresh
    carriedTwice_labels.1 c hc "root-a" hroot).1⟩

theorem carriages_alike_carriedTwice :
    carriedTwiceDaemon.flights.map (fun f => (f.route.root, f.replayed, f.body.isSome)) =
      [("root-a", false, true), ("root-a", true, true)] ∧
    ∀ f ∈ carriedTwiceDaemon.flights, ∀ g ∈ carriedTwiceDaemon.flights,
      f.record.executionKey = g.record.executionKey → ∀ body body', f.body = some body →
        g.body = some body' → body = body' ∧ f.route.root = g.route.root :=
  ⟨carriedTwice_outcome.1, carriages_alike Daemon.new_fresh carriedTwice_labels.2⟩

end Akson
