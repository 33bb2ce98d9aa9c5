/-
# Opening the database, and trusted time

The database keeps a floor of trusted time.  Reading the clock raises the floor or, where the clock
has gone back too far, refuses.
-/
import Akson.Contract.Proposal
import Akson.Lib.Operation
import Akson.Lib.Trace
import Akson.Store.Peers

namespace Akson

open Operation Except Option List

/-! ## Reading the clock -/

/-- What an observation says of the clock. -/
inductive TimeStatus where
  | ok (floor : Time)
  | uncertain (floor observed : Time)

/-- Raise the floor of the clock, or report a rollback. -/
def observeTime (now toleranceSecs : Time) (s : Store) : TimeStatus × Store :=
  let floor := s.trustedTime.getD now
  if now < floor - toleranceSecs then (.uncertain floor now, s)
  else (.ok (max now floor), if now > floor then { s with trustedTime := some now } else s)

theorem Store.trustedNow_eq_observeTime (wallClock : Time) (s : Store) :
    s.trustedNow wallClock =
      match observeTime wallClock clockToleranceSecs s with
      | (.ok floor, s') => .ok (floor, s')
      | (.uncertain _ _, _) => .error .timeUncertain := by
  by_cases h : wallClock < s.trustedTime.getD wallClock - clockToleranceSecs
  · simp only [trustedNow, observeTime, if_pos h]
  · simp only [trustedNow, observeTime, if_neg h, gt_iff_lt]

def Store.trustedTimeFloor (s : Store) : Time := s.trustedTime.getD 0

/-! ## The database -/

/-- The metadata of the store, and the store. -/
structure Database where
  wrappedDek : Option Bytes := none
  commitmentKey : Option Bytes := none
  stateGeneration : Option ℕ := none
  store : Store := {}

def Database.floor (d : Database) : Time := d.store.trustedTimeFloor

/-- What is kept outside the database. -/
structure ExternalCheckpoint where
  stateGeneration : ℕ
  trustedTime : Time
  rollbackDetectable : Bool

inductive RecoveryReason where
  | stateGenerationMismatch (external database : ℕ)
deriving DecidableEq

/-- What an open finds. -/
inductive Recovery where
  | normal
  | rollbackDetectionUnavailable
  | recovery (reason : RecoveryReason)

inductive SealError where
  | auth
  | malformed
  | version (found : UInt8)

/-! ## Sealing -/

/-- XChaCha20-Poly1305: a key, a nonce, the data that is bound, and the text. -/
structure Cipher where
  encrypt : Bytes → Bytes → Bytes → Bytes → Bytes
  decrypt : Bytes → Bytes → Bytes → Bytes → Option Bytes

def sealVersion : UInt8 := 0x01

def nonceLen : ℕ := 24

def dekContext : String := "akson.dek.v1"

def commitmentKeyContext : String := "meta.commitment_key"

/-- A key that was drawn from the system, and the nonce it is sealed with. -/
structure DrawnKey where
  key : Bytes
  nonce : Bytes

namespace Cipher

variable (cipher : Cipher) (key : Bytes) (context : String)

def sealWith (drawn : DrawnKey) : Bytes :=
  sealVersion :: (drawn.nonce ++ cipher.encrypt key drawn.nonce (utf8 context) drawn.key)

def openWith : Bytes → Except SealError Bytes
  | [] => .error .malformed
  | version :: rest =>
    if version ≠ sealVersion then .error (.version version)
    else if rest.length < nonceLen then .error .malformed
    else okOr (cipher.decrypt key (rest.take nonceLen) (utf8 context) (rest.drop nonceLen)) .auth

/-- The key and the nonce have the sizes of their types, and what is encrypted is decrypted. -/
structure Keeps (drawn : DrawnKey) : Prop where
  size : drawn.key.length = 32
  nonce : drawn.nonce.length = nonceLen
  decrypts : cipher.decrypt key drawn.nonce (utf8 context)
    (cipher.encrypt key drawn.nonce (utf8 context) drawn.key) = some drawn.key

variable {cipher key context}

theorem Keeps.openWith_sealWith {drawn : DrawnKey} (h : cipher.Keeps key context drawn) :
    cipher.openWith key context (cipher.sealWith key context drawn) = .ok drawn.key := by
  have hlong : ¬ (drawn.nonce ++ cipher.encrypt key drawn.nonce (utf8 context) drawn.key).length <
      nonceLen := by
    rw [length_append, h.nonce]
    omega
  rw [sealWith, openWith, if_neg (not_not.2 rfl), if_neg hlong, take_left' h.nonce,
    drop_left' h.nonce, h.decrypts]
  rfl

end Cipher

/-- The key that the database's own key is sealed with. -/
structure Custody where
  cipher : Cipher
  kek : Bytes

def Custody.wrap (custody : Custody) (dek : DrawnKey) : Bytes :=
  custody.cipher.sealWith custody.kek dekContext dek

def Custody.unwrap (custody : Custody) (wrapped : Bytes) : Except SealError Bytes := do
  let bytes ← custody.cipher.openWith custody.kek dekContext wrapped
  ensure (bytes.length = 32) .malformed
  .ok bytes

theorem Custody.unwrap_wrap {custody : Custody} {dek : DrawnKey}
    (h : custody.cipher.Keeps custody.kek dekContext dek) :
    custody.unwrap (custody.wrap dek) = .ok dek.key := by
  rw [unwrap, wrap, h.openWith_sealWith]
  exact bind_eq_ok.2 ⟨_, rfl, bind_eq_ok.2 ⟨(), ensure_of h.size _, rfl⟩⟩

/-! ## Opening -/

def putMeta (f : Database → Database) : Operation Database SealError Unit :=
  commit (fun d => (.ok ((), f d) : Except SealError (Unit × Database))) id

def setTrustedTime (now : Time) (d : Database) : Database :=
  { d with store := { d.store with trustedTime := some now } }

def loadDek (custody : Custody) (fresh : DrawnKey) (checkpoint : ExternalCheckpoint) :
    Operation Database SealError Bytes := do
  let stored ← ask (fun d => .ok d.wrappedDek)
  match stored with
  | some wrapped => demand (custody.unwrap wrapped)
  | none => do
    putMeta (fun d => { d with wrappedDek := some (custody.wrap fresh) })
    putMeta (fun d => { d with stateGeneration := some checkpoint.stateGeneration })
    putMeta (setTrustedTime checkpoint.trustedTime)
    pure fresh.key

def loadCommitmentKey (custody : Custody) (dek : Bytes) (fresh : DrawnKey) :
    Operation Database SealError Unit := do
  let stored ← ask (fun d => .ok d.commitmentKey)
  match stored with
  | some blob => do
    let key ← demand (custody.cipher.openWith dek commitmentKeyContext blob)
    demand (ensure (key.length = 32) .malformed)
  | none => putMeta (fun d => { d with
      commitmentKey := some (custody.cipher.sealWith dek commitmentKeyContext fresh) })

def recoveryVerdict (checkpoint : ExternalCheckpoint) (d : Database) : Recovery :=
  let generation := d.stateGeneration.getD 0
  if checkpoint.rollbackDetectable = false then .rollbackDetectionUnavailable
  else if generation ≠ checkpoint.stateGeneration then
    .recovery (.stateGenerationMismatch checkpoint.stateGeneration generation)
  else .normal

def adoptFloor (checkpoint : ExternalCheckpoint) : Operation Database SealError Unit :=
  if checkpoint.rollbackDetectable then do
    let stored ← ask (fun d => .ok d.floor)
    if checkpoint.trustedTime > stored then putMeta (setTrustedTime checkpoint.trustedTime)
    else pure ()
  else pure ()

def fromConn (custody : Custody) (freshDek freshKey : DrawnKey) (checkpoint : ExternalCheckpoint) :
    Operation Database SealError Recovery := do
  let dek ← loadDek custody freshDek checkpoint
  loadCommitmentKey custody dek freshKey
  let recovery ← ask (fun d => .ok (recoveryVerdict checkpoint d))
  adoptFloor checkpoint
  pure recovery

/-! ## What an open does to the floor -/

section Opens

variable {custody : Custody} {freshDek freshKey : DrawnKey} {checkpoint : ExternalCheckpoint}
  {d d' : Database}

structure Database.Opened (d : Database) : Prop where
  key : d.wrappedDek ≠ none
  floor : d.store.trustedTime ≠ none

def KeepsFloor (d d' : Database) : Prop := d.Opened → d'.Opened ∧ d.floor ≤ d'.floor

theorem KeepsFloor.refl (d : Database) : KeepsFloor d d := fun h => ⟨h, le_rfl⟩

theorem KeepsFloor.trans {d₁ d₂ d₃ : Database} (h : KeepsFloor d₁ d₂) (h' : KeepsFloor d₂ d₃) :
    KeepsFloor d₁ d₃ := by
  intro hopened
  obtain ⟨hopened₂, hle⟩ := h hopened
  obtain ⟨hopened₃, hle'⟩ := h' hopened₂
  exact ⟨hopened₃, hle.trans hle'⟩

theorem moves_putMeta {f : Database → Database} (h : ∀ d, KeepsFloor d (f d)) :
    Moves KeepsFloor (putMeta f) := by
  refine Moves.commit KeepsFloor.refl (fun d _ _ hrun => ?_)
  cases hrun
  exact h d

theorem commits_loadDek (h : d.wrappedDek ≠ none) :
    commits (loadDek custody freshDek checkpoint) d = [] := by
  refine eq_nil_iff_forall_not_mem.2 (fun d' hd' => ?_)
  obtain ⟨stored, hstored, hd'⟩ := mem_commits_ask_bind hd'
  cases hstored
  cases hkey : d.wrappedDek with
  | none => exact h hkey
  | some wrapped =>
    rw [hkey] at hd'
    cases hd'

theorem keepsFloor_loadDek : Moves KeepsFloor (loadDek custody freshDek checkpoint) := by
  intro d d' hd' hopened
  rw [commits_loadDek hopened.key, mem_singleton] at hd'
  rw [hd']
  exact ⟨hopened, le_rfl⟩

theorem keepsFloor_loadCommitmentKey (dek : Bytes) :
    Moves KeepsFloor (loadCommitmentKey custody dek freshKey) := by
  refine Moves.ask_bind KeepsFloor.refl (fun stored _ => ?_)
  cases stored with
  | some blob => exact Moves.demand_bind KeepsFloor.refl (fun _ _ => Moves.ask KeepsFloor.refl _)
  | none => exact moves_putMeta (fun d hopened => ⟨⟨hopened.key, hopened.floor⟩, le_rfl⟩)

theorem mem_commits_adoptFloor (h : d' ∈ commits (adoptFloor checkpoint) d) :
    checkpoint.rollbackDetectable = true ∧ d.floor < checkpoint.trustedTime ∧
      d' = setTrustedTime checkpoint.trustedTime d := by
  rw [adoptFloor] at h
  split at h
  case isFalse => cases h
  case isTrue hdetectable =>
    obtain ⟨stored, hstored, h⟩ := mem_commits_ask_bind h
    cases hstored
    split at h
    case isFalse => cases h
    case isTrue hless =>
      exact ⟨hdetectable, hless, mem_singleton.1 h⟩

theorem keepsFloor_adoptFloor : Moves KeepsFloor (adoptFloor checkpoint) := by
  intro d d' hd'
  rcases mem_cons.1 hd' with rfl | hd'
  · exact KeepsFloor.refl d'
  · obtain ⟨-, hless, rfl⟩ := mem_commits_adoptFloor hd'
    exact fun hopened => ⟨⟨hopened.key, by simp [setTrustedTime]⟩, hless.le⟩

theorem keepsFloor_fromConn : Moves KeepsFloor (fromConn custody freshDek freshKey checkpoint) := by
  have htrans : ∀ d₁ d₂ d₃, KeepsFloor d₁ d₂ → KeepsFloor d₂ d₃ → KeepsFloor d₁ d₃ :=
    fun _ _ _ => KeepsFloor.trans
  refine Moves.bind htrans keepsFloor_loadDek (fun dek => ?_)
  refine Moves.bind htrans (keepsFloor_loadCommitmentKey dek) (fun _ => ?_)
  refine Moves.ask_bind KeepsFloor.refl (fun recovery _ => ?_)
  exact Moves.bind htrans keepsFloor_adoptFloor (fun _ => Moves.pure KeepsFloor.refl recovery)

theorem trustedTime_le_adoptFloor {u : Except SealError Unit}
    (hdetectable : checkpoint.rollbackDetectable = true)
    (h : exec (adoptFloor checkpoint) d = (u, d')) : checkpoint.trustedTime ≤ d'.floor := by
  rw [adoptFloor, if_pos hdetectable] at h
  obtain ⟨_, herror, -⟩ | ⟨stored, hstored, h⟩ := exec_ask_cases h
  · cases herror
  cases hstored
  split at h
  case isTrue => rw [← (Prod.mk.inj h).2]; exact le_rfl
  case isFalse hless =>
    rw [← (Prod.mk.inj h).2]
    exact not_lt.1 hless

theorem exec_fromConn_eq_ok {r : Recovery}
    (h : exec (fromConn custody freshDek freshKey checkpoint) d = (.ok r, d')) :
    ∃ dek d₁ d₂ u, exec (loadDek custody freshDek checkpoint) d = (.ok dek, d₁) ∧
      exec (loadCommitmentKey custody dek freshKey) d₁ = (.ok u, d₂) ∧
      exec (adoptFloor checkpoint) d₂ = (.ok (), d') := by
  obtain ⟨e, -, herror⟩ | ⟨dek, d₁, hdek, h⟩ := exec_bind_cases h
  · cases herror
  obtain ⟨e, -, herror⟩ | ⟨u, d₂, hkey, h⟩ := exec_bind_cases h
  · cases herror
  obtain ⟨_, -, herror, -⟩ | ⟨recovery, -, h⟩ := exec_ask_cases h
  · cases herror
  obtain ⟨e, -, herror⟩ | ⟨⟨⟩, d₃, hadopt, h⟩ := exec_bind_cases h
  · cases herror
  cases h
  exact ⟨dek, d₁, d₂, u, hdek, hkey, hadopt⟩

theorem opened_of_first {r : Recovery} (hblank : d.wrappedDek = none)
    (h : exec (fromConn custody freshDek freshKey checkpoint) d = (.ok r, d')) : d'.Opened := by
  obtain ⟨dek, d₁, d₂, u, hdek, hkey, hadopt⟩ := exec_fromConn_eq_ok h
  obtain ⟨_, herror, -⟩ | ⟨stored, hstored, hdek⟩ := exec_ask_cases hdek
  · cases herror
  obtain rfl : stored = none := (ok.inj hstored).symm.trans hblank
  have hopened : d₁.Opened := by
    rw [← (Prod.mk.inj hdek).2]
    exact ⟨nofun, nofun⟩
  exact ((keepsFloor_adoptFloor.exec hadopt)
    ((keepsFloor_loadCommitmentKey dek).exec hkey hopened).1).1

end Opens

/-! ## Runs -/

/-- The operations on the clock, with their answers. -/
inductive ClockEvent where
  | observe (now toleranceSecs : Time) (status : TimeStatus)
  | trustedNow (wallClock : Time) (answer : Except StoreError Time)
  | reopen (checkpoint : ExternalCheckpoint) (answer : Except SealError Recovery)
  /-- The process died inside an open. -/
  | cutReopen (checkpoint : ExternalCheckpoint)
  | close

def ClockEvent.returned : ClockEvent → Option Time
  | .trustedNow _ (.ok now) => some now
  | _ => none

def ClockEvent.IsUncertain : ClockEvent → Prop
  | .observe _ _ status => ∃ floor observed, status = .uncertain floor observed
  | .trustedNow _ answer => ∃ e, answer = .error e
  | _ => False

/-- One step of the clock. -/
inductive ClockStep (custody : Custody) : Database → ClockEvent → Database → Prop
  | observe {d now toleranceSecs status s'}
      (hrun : observeTime now toleranceSecs d.store = (status, s')) :
      ClockStep custody d (.observe now toleranceSecs status) { d with store := s' }
  | trustedNow {d wallClock answer s'}
      (hrun : transact (Store.trustedNow wallClock) d.store = (answer, s')) :
      ClockStep custody d (.trustedNow wallClock answer) { d with store := s' }
  | reopen {d d' freshDek freshKey checkpoint answer}
      (hrun : exec (fromConn custody freshDek freshKey checkpoint) d = (answer, d')) :
      ClockStep custody d (.reopen checkpoint answer) d'
  | cutReopen {d d' freshDek freshKey checkpoint}
      (hrun : d' ∈ commits (fromConn custody freshDek freshKey checkpoint) d) :
      ClockStep custody d (.cutReopen checkpoint) d'
  | close {d} : ClockStep custody d .close d

section Runs

variable {custody : Custody} {d d' : Database} {l : ClockEvent} {ls : List ClockEvent}

theorem observeTime_cases {now toleranceSecs : Time} {status : TimeStatus} {s s' : Store}
    (hfloor : s.trustedTime ≠ none) (h : observeTime now toleranceSecs s = (status, s')) :
    (∃ floor observed, status = .uncertain floor observed ∧ s' = s) ∨
      ∃ time, status = .ok time ∧ s' = { s with trustedTime := some time } ∧
        s.trustedTimeFloor ≤ time := by
  obtain ⟨floor, hs⟩ := ne_none_iff_exists'.1 hfloor
  simp only [observeTime, hs, getD_some] at h
  split at h
  case isTrue =>
    cases h
    exact .inl ⟨_, _, rfl, rfl⟩
  case isFalse =>
    cases h
    refine .inr ⟨max now floor, rfl, ?_, ?_⟩
    · by_cases hless : floor < now
      · rw [if_pos hless, max_eq_left hless.le]
      · rw [if_neg hless, max_eq_right (not_lt.1 hless), ← hs]
    · rw [Store.trustedTimeFloor, hs]
      exact le_max_right now floor

theorem trustedNow_cases {wallClock : Time} {answer : Except StoreError Time} {s s' : Store}
    (hfloor : s.trustedTime ≠ none) (h : transact (Store.trustedNow wallClock) s = (answer, s')) :
    (answer = .error .timeUncertain ∧ s' = s) ∨
      ∃ time, answer = .ok time ∧ s' = { s with trustedTime := some time } ∧
        s.trustedTimeFloor ≤ time := by
  rw [transact, Store.trustedNow_eq_observeTime] at h
  rcases hobserve : observeTime wallClock clockToleranceSecs s with ⟨status, s₁⟩
  rw [hobserve] at h
  obtain ⟨floor, observed, rfl, rfl⟩ | ⟨time, rfl, rfl, hle⟩ := observeTime_cases hfloor hobserve
  · cases h
    exact .inl ⟨rfl, rfl⟩
  · cases h
    exact .inr ⟨time, rfl, rfl, hle⟩

theorem clockStep_floor (hopened : d.Opened) (h : ClockStep custody d l d') :
    d'.Opened ∧ d.floor ≤ d'.floor ∧ (∀ v, l.returned = some v → v = d'.floor) ∧
      (l.IsUncertain → d' = d) := by
  cases h with
  | observe hrun =>
    obtain ⟨floor, observed, rfl, rfl⟩ | ⟨time, rfl, rfl, hle⟩ :=
      observeTime_cases hopened.floor hrun
    · exact ⟨hopened, le_rfl, nofun, fun _ => rfl⟩
    · exact ⟨⟨hopened.key, nofun⟩, hle, nofun, fun ⟨_, _, h⟩ => by cases h⟩
  | trustedNow hrun =>
    obtain ⟨rfl, rfl⟩ | ⟨time, rfl, rfl, hle⟩ := trustedNow_cases hopened.floor hrun
    · exact ⟨hopened, le_rfl, nofun, fun _ => rfl⟩
    · refine ⟨⟨hopened.key, nofun⟩, hle, fun v hv => ?_, fun ⟨_, h⟩ => by cases h⟩
      exact (some.inj hv).symm
  | reopen hrun =>
    obtain ⟨hopened', hle⟩ := keepsFloor_fromConn.exec hrun hopened
    exact ⟨hopened', hle, nofun, nofun⟩
  | cutReopen hrun =>
    obtain ⟨hopened', hle⟩ := keepsFloor_fromConn _ _ (mem_cons_of_mem _ hrun) hopened
    exact ⟨hopened', hle, nofun, nofun⟩
  | close => exact ⟨hopened, le_rfl, nofun, nofun⟩

theorem validity_ne_valid_of_expired {env : Env} {c : Contract} {now later : Time} (hle : now ≤ later)
    (h : validity env c now = .ok .expired) : validity env c later ≠ .ok .valid := by
  intro hvalid
  simp only [validity, bind_eq_ok, ok.injEq] at h hvalid
  obtain ⟨created, hcreated, expires, hexpires, h⟩ := h
  obtain ⟨created', hcreated', expires', hexpires', hvalid⟩ := hvalid
  obtain rfl := ok.inj (hcreated'.symm.trans hcreated)
  obtain rfl := ok.inj (hexpires'.symm.trans hexpires)
  split_ifs at h hvalid
  exact ‹¬ later ≥ expires'› (le_trans ‹now ≥ expires'› hle)

end Runs

/-- **Trusted time never goes back**: after every run from a first open that succeeded, the floor and
the times that were returned have not decreased, no contract that has expired under one of these
times is valid under a later one, and the next step keeps the floor or raises it, and keeps it where
the reading is uncertain.  An open of any copy of the database, with a checkpoint that can be
trusted, leaves a floor that is not below the checkpoint's time. -/
theorem trusted_time_never_goes_back (env : Env) (custody : Custody) (freshDek freshKey : DrawnKey)
    (checkpoint : ExternalCheckpoint) (blank d₀ d : Database) (r : Recovery) (ls : List ClockEvent)
    (hblank : blank.wrappedDek = none)
    (hopen : exec (fromConn custody freshDek freshKey checkpoint) blank = (.ok r, d₀))
    (hrun : Trace (ClockStep custody) d₀ ls d) :
    d₀.floor ≤ d.floor ∧
    (ls.filterMap ClockEvent.returned).Pairwise (fun now later => now ≤ later ∧
      ∀ c, validity env c now = .ok .expired → validity env c later ≠ .ok .valid) ∧
    (∀ l d', ClockStep custody d l d' → d.floor ≤ d'.floor ∧ (l.IsUncertain → d'.floor = d.floor)) ∧
    (∀ copy d' freshDek' freshKey' checkpoint' r', checkpoint'.rollbackDetectable = true →
      exec (fromConn custody freshDek' freshKey' checkpoint') copy = (.ok r', d') →
      checkpoint'.trustedTime ≤ d'.floor) := by
  have hopened : d₀.Opened := opened_of_first hblank hopen
  obtain ⟨hfloor, -, hascend⟩ := hrun.reports_ascend (I := Database.Opened) (f := Database.floor)
    (fun _ _ _ h hstep => by
      obtain ⟨hopened', hle, hreturned, -⟩ := clockStep_floor h hstep
      exact ⟨hopened', hle, hreturned⟩) hopened
  have hreached : d.Opened :=
    hrun.invariant (fun _ _ _ h hstep => (clockStep_floor h hstep).1) hopened
  refine ⟨hfloor, hascend.imp (fun hle => ⟨hle, fun c => validity_ne_valid_of_expired hle⟩), ?_, ?_⟩
  · intro l d' hstep
    obtain ⟨-, hle, -, huncertain⟩ := clockStep_floor hreached hstep
    exact ⟨hle, fun h => congrArg Database.floor (huncertain h)⟩
  · intro copy d' freshDek' freshKey' checkpoint' r' hdetectable h
    obtain ⟨_, _, _, _, -, -, hadopt⟩ := exec_fromConn_eq_ok h
    exact trustedTime_le_adoptFloor hdetectable hadopt

/-! A first open at 1000, a reading at 1500, one that is a little behind it, and one that is far
behind. -/

structure SealedText where
  key : Bytes
  context : String
  drawn : DrawnKey
  ciphertext : Bytes

/-- XChaCha20-Poly1305 on the texts of a list. -/
def Cipher.on (texts : List SealedText) : Cipher where
  encrypt key nonce context plaintext :=
    ((texts.find? (fun t => t.key = key ∧ t.drawn.nonce = nonce ∧ utf8 t.context = context ∧
      t.drawn.key = plaintext)).map SealedText.ciphertext).getD []
  decrypt key nonce context ciphertext :=
    (texts.find? (fun t => t.key = key ∧ t.drawn.nonce = nonce ∧ utf8 t.context = context ∧
      t.ciphertext = ciphertext)).map (fun t => t.drawn.key)

def drawnDek : DrawnKey := ⟨replicate 32 1, replicate 24 3⟩

def drawnKey : DrawnKey := ⟨replicate 32 2, replicate 24 4⟩

def wrappedText : Bytes :=
  beBytes 24 0x85074a1a7420c7f1761142fa46d0cf482b9b716602143714 ++
  beBytes 24 0xab5e3d0c212520bb5f6d13e73a95ab3792ef937835c11f30

def sealedText : Bytes :=
  beBytes 24 0x3d17a065aa84692aeae2bbf23a7da02388d070771335616c ++
  beBytes 24 0xb318b7c5d872ba816a09e89bacfedd2a34a252cd77076a3e

def sampleCustody : Custody where
  cipher := .on [⟨replicate 32 7, dekContext, drawnDek, wrappedText⟩,
    ⟨drawnDek.key, commitmentKeyContext, drawnKey, sealedText⟩]
  kek := replicate 32 7

def openedAt (floor : Time) : Database :=
  ⟨some (sealVersion :: (drawnDek.nonce ++ wrappedText)),
    some (sealVersion :: (drawnKey.nonce ++ sealedText)), some 0, { trustedTime := some floor }⟩

theorem trusted_time_never_goes_back_sample :
    (∃ r, exec (fromConn sampleCustody drawnDek drawnKey ⟨0, 1000, true⟩) {} = (.ok r, openedAt 1000)) ∧
    Trace (ClockStep sampleCustody) (openedAt 1000)
      [.trustedNow 1500 (.ok 1500), .trustedNow 1400 (.ok 1500),
        .trustedNow 900 (.error .timeUncertain)] (openedAt 1500) ∧
    (openedAt 1000).floor ≤ (openedAt 1500).floor := by
  have hopen : exec (fromConn sampleCustody drawnDek drawnKey ⟨0, 1000, true⟩) {} =
      (.ok .normal, openedAt 1000) := rfl
  have hrun : Trace (ClockStep sampleCustody) (openedAt 1000)
      [.trustedNow 1500 (.ok 1500), .trustedNow 1400 (.ok 1500),
        .trustedNow 900 (.error .timeUncertain)] (openedAt 1500) :=
    .cons (.trustedNow rfl) (.cons (.trustedNow rfl) (.cons (.trustedNow rfl) (.nil _)))
  exact ⟨⟨_, hopen⟩, hrun, (trusted_time_never_goes_back Env.inert sampleCustody drawnDek drawnKey
    ⟨0, 1000, true⟩ {} _ _ _ _ rfl hopen hrun).1⟩

/-! ## A first open that was cut

The key comes first, and the values of the checkpoint behind it; the next open finds the key and
takes the rest for written.  A generation that is missing counts as zero, and a missing floor is
raised by nothing but a checkpoint that can be trusted: the readings of the clock then leave no
trace. -/

/-- A database before its first open. -/
structure Database.Blank (d : Database) : Prop where
  wrappedDek : d.wrappedDek = none
  commitmentKey : d.commitmentKey = none
  stateGeneration : d.stateGeneration = none
  trustedTime : d.store.trustedTime = none

def trustedTimes : List Time → Store → List Time
  | [], _ => []
  | wallClock :: wallClocks, s =>
    match s.trustedNow wallClock with
    | .ok (now, s') => now :: trustedTimes wallClocks s'
    | .error _ => trustedTimes wallClocks s

structure Database.Recovered (checkpoint : ExternalCheckpoint) (r : Recovery) (d : Database) :
    Prop where
  generation : d.stateGeneration.getD 0 = checkpoint.stateGeneration
  verdict : checkpoint.rollbackDetectable = true → r = .normal
  floor : checkpoint.trustedTime ≤ d.floor
  ascends : ∀ wallClocks, (trustedTimes wallClocks d.store).Pairwise (· ≤ ·)

def Database.Survives (checkpoint : ExternalCheckpoint) (d : Database) : Prop :=
  d.wrappedDek = none ∨
    ((d.stateGeneration ≠ none ∨ checkpoint.stateGeneration = 0) ∧
      (d.store.trustedTime ≠ none ∨
        checkpoint.rollbackDetectable = true ∧ 0 < checkpoint.trustedTime))

section Cut

variable {custody : Custody} {freshDek freshKey : DrawnKey} {checkpoint : ExternalCheckpoint}
  {d d' : Database}

theorem trustedTimes_of_floor {s : Store} {floor : Time} (h : s.trustedTime = some floor)
    (wallClocks : List Time) :
    (∀ now ∈ trustedTimes wallClocks s, floor ≤ now) ∧
      (trustedTimes wallClocks s).Pairwise (· ≤ ·) := by
  induction wallClocks generalizing s floor with
  | nil => exact ⟨fun _ ht => absurd ht not_mem_nil, List.Pairwise.nil⟩
  | cons wallClock wallClocks ih =>
    rw [trustedTimes]
    cases hnow : s.trustedNow wallClock with
    | error e => exact ih h
    | ok out =>
      obtain ⟨now, s'⟩ := out
      have hrun : transact (Store.trustedNow wallClock) s = (.ok now, s') := by
        rw [transact, hnow]
      obtain ⟨herror, -⟩ | ⟨time, htime, rfl, hle⟩ :=
        trustedNow_cases (fun hnone => by cases h.symm.trans hnone) hrun
      · cases herror
      cases htime
      rw [Store.trustedTimeFloor, h] at hle
      obtain ⟨hlater, hpairs⟩ := @ih { s with trustedTime := some now } now rfl
      refine ⟨forall_mem_cons.2 ⟨hle, fun t ht => hle.trans (hlater t ht)⟩, ?_⟩
      exact pairwise_cons.2 ⟨hlater, hpairs⟩

theorem ascends_iff {s : Store} :
    (∀ wallClocks, (trustedTimes wallClocks s).Pairwise (· ≤ ·)) ↔ s.trustedTime ≠ none := by
  constructor
  · intro h hnone
    have htimes : trustedTimes [1, 0] s = [1, 0] := by
      simp [trustedTimes, Store.trustedNow, hnone, clockToleranceSecs]
    have hpairs := h [1, 0]
    rw [htimes] at hpairs
    exact absurd hpairs (by decide)
  · intro h wallClocks
    obtain ⟨floor, hfloor⟩ := ne_none_iff_exists'.1 h
    exact (trustedTimes_of_floor hfloor wallClocks).2

structure CutAfterKey (custody : Custody) (freshDek freshKey : DrawnKey)
    (checkpoint : ExternalCheckpoint) (d : Database) : Prop where
  dek : d.wrappedDek = some (custody.wrap freshDek)
  key : d.commitmentKey = none ∨ d.commitmentKey = 
    some (custody.cipher.sealWith freshDek.key commitmentKeyContext freshKey)
  generation : d.stateGeneration = none ∨ d.stateGeneration = some checkpoint.stateGeneration
  floor : d.store.trustedTime = none ∨ d.store.trustedTime = some checkpoint.trustedTime

theorem cutAfterKey_of_mem {blank : Database} (hblank : blank.Blank)
    (h : d ∈ commits (fromConn custody freshDek freshKey checkpoint) blank) :
    CutAfterKey custody freshDek freshKey checkpoint d := by
  obtain ⟨dek, key, generation, store⟩ := blank
  obtain ⟨rfl, rfl, rfl, htime⟩ := hblank
  obtain h | ⟨dek, d₁, hdek, h⟩ := mem_commits_bind h
  · rcases mem_cons.1 h with rfl | h
    · exact ⟨rfl, .inl rfl, .inl rfl, .inl htime⟩
    rcases mem_cons.1 h with rfl | h
    · exact ⟨rfl, .inl rfl, .inr rfl, .inl htime⟩
    rcases mem_singleton.1 h with rfl
    exact ⟨rfl, .inl rfl, .inr rfl, .inr rfl⟩
  obtain ⟨hfirst, rfl⟩ := Prod.mk.inj hdek
  obtain rfl : freshDek.key = dek := ok.inj hfirst
  obtain h | ⟨_, d₂, hkey, h⟩ := mem_commits_bind h
  · rcases mem_singleton.1 h with rfl
    exact ⟨rfl, .inr rfl, .inr rfl, .inr rfl⟩
  cases hkey
  obtain ⟨_, -, h⟩ := mem_commits_ask_bind h
  obtain h | ⟨_, _, -, h⟩ := mem_commits_bind h
  · -- the floor is the checkpoint's already
    exact absurd (mem_commits_adoptFloor h).2.1 (lt_irrefl _)
  · cases h

def Database.adopt (checkpoint : ExternalCheckpoint) (d : Database) : Database :=
  if checkpoint.rollbackDetectable = true ∧ d.floor < checkpoint.trustedTime then
    setTrustedTime checkpoint.trustedTime d
  else d

theorem exec_adoptFloor (checkpoint : ExternalCheckpoint) (d : Database) :
    exec (adoptFloor checkpoint) d = (.ok (), d.adopt checkpoint) := by
  rw [adoptFloor, Database.adopt]
  by_cases hdetectable : checkpoint.rollbackDetectable = true
  · rw [if_pos hdetectable, exec_read_bind]
    by_cases hless : d.floor < checkpoint.trustedTime
    · rw [if_pos hless, if_pos ⟨hdetectable, hless⟩]
      rfl
    · rw [if_neg hless, if_neg (fun h => hless h.2)]
      rfl
  · rw [if_neg hdetectable, if_neg (fun h => hdetectable h.1)]
    rfl

theorem exec_fromConn_of_loaded {dek : Bytes} {d₁ d₂ : Database}
    (hdek : exec (loadDek custody freshDek checkpoint) d = (.ok dek, d₁))
    (hkey : exec (loadCommitmentKey custody dek freshKey) d₁ = (.ok (), d₂)) :
    exec (fromConn custody freshDek freshKey checkpoint) d =
      (.ok (recoveryVerdict checkpoint d₂), d₂.adopt checkpoint) := by
  rw [fromConn, exec_bind_of_ok hdek, exec_bind_of_ok hkey, exec_read_bind,
    exec_bind_of_ok (exec_adoptFloor checkpoint d₂)]
  rfl

theorem recovered_iff
    (hfloor : d.store.trustedTime = none ∨ d.store.trustedTime = some checkpoint.trustedTime) :
    Database.Recovered checkpoint (recoveryVerdict checkpoint d) (d.adopt checkpoint) ↔
      d.stateGeneration.getD 0 = checkpoint.stateGeneration ∧
        (d.store.trustedTime ≠ none ∨
          checkpoint.rollbackDetectable = true ∧ 0 < checkpoint.trustedTime) := by
  rw [Database.adopt]
  have hverdict : d.stateGeneration.getD 0 = checkpoint.stateGeneration →
      checkpoint.rollbackDetectable = true → recoveryVerdict checkpoint d = .normal := by
    intro hgeneration hdetectable
    simp [recoveryVerdict, hgeneration, hdetectable]
  obtain hnone | hsome := hfloor
  · have hzero : d.floor = 0 := by rw [Database.floor, Store.trustedTimeFloor, hnone]; rfl
    rw [hzero]
    by_cases hraised : checkpoint.rollbackDetectable = true ∧ 0 < checkpoint.trustedTime
    · rw [if_pos hraised]
      refine ⟨fun h => ⟨h.generation, .inr hraised⟩, fun h => ⟨h.1, hverdict h.1, le_rfl, ?_⟩⟩
      exact ascends_iff.2 (some_ne_none _)
    · rw [if_neg hraised]
      refine iff_of_false (fun h => ?_) (fun h => ?_)
      · exact ascends_iff.1 h.ascends hnone
      · exact h.2.elim (fun hne => hne hnone) hraised
  · have hset : d.floor = checkpoint.trustedTime := by
      rw [Database.floor, Store.trustedTimeFloor, hsome]
      rfl
    have hne : d.store.trustedTime ≠ none := fun hnone => nomatch hnone.symm.trans hsome
    rw [if_neg (fun h => absurd h.2 (by rw [hset]; exact lt_irrefl _))]
    refine ⟨fun h => ⟨h.generation, .inl hne⟩, fun h => ⟨h.1, hverdict h.1, hset.ge, ?_⟩⟩
    exact ascends_iff.2 hne

theorem exec_loaded_of_cut (hdek : custody.cipher.Keeps custody.kek dekContext freshDek)
    (hkey : custody.cipher.Keeps freshDek.key commitmentKeyContext freshKey)
    (hcut : CutAfterKey custody freshDek freshKey checkpoint d) (freshDek' freshKey' : DrawnKey) :
    exec (loadDek custody freshDek' checkpoint) d = (.ok freshDek.key, d) ∧
      ∃ key, exec (loadCommitmentKey custody freshDek.key freshKey') d =
        (.ok (), { d with commitmentKey := key }) := by
  constructor
  · rw [loadDek, exec_read_bind, hcut.dek]
    exact congrArg (·, d) (Custody.unwrap_wrap hdek)
  · rw [loadCommitmentKey, exec_read_bind]
    obtain hnone | hsome := hcut.key
    · rw [hnone]
      exact ⟨_, rfl⟩
    · rw [hsome]
      refine ⟨d.commitmentKey, (exec_demand_bind_of_ok hkey.openWith_sealWith).trans ?_⟩
      exact congrArg (·, d) (ensure_of hkey.size _)

end Cut

/-- **What becomes of a first open that was cut**: wherever it was, the next open with the same
checkpoint succeeds; and it finds the state of the checkpoint, with a time that does not go back,
exactly if the cut was not between the key and a value that is missed. -/
theorem first_open_recovers_iff (custody : Custody) (checkpoint : ExternalCheckpoint)
    (freshDek freshKey freshDek' freshKey' : DrawnKey)
    (hdek : custody.cipher.Keeps custody.kek dekContext freshDek)
    (hkey : custody.cipher.Keeps freshDek.key commitmentKeyContext freshKey)
    {blank d : Database} (hblank : blank.Blank)
    (hcut : d ∈ blank :: commits (fromConn custody freshDek freshKey checkpoint) blank) :
    ∃ r d', exec (fromConn custody freshDek' freshKey' checkpoint) d = (.ok r, d') ∧
      (Database.Recovered checkpoint r d' ↔ d.Survives checkpoint) := by
  obtain rfl | hcut := mem_cons.1 hcut
  · -- nothing was written: this is the first open
    obtain ⟨dek, key, generation, store⟩ := d
    obtain ⟨rfl, rfl, rfl, htime⟩ := hblank
    refine ⟨_, _, exec_fromConn_of_loaded rfl rfl, ?_⟩
    rw [recovered_iff (.inr rfl)]
    exact iff_of_true ⟨rfl, .inl (some_ne_none _)⟩ (.inl rfl)
  · have hkeyed := cutAfterKey_of_mem hblank hcut
    obtain ⟨hloaded, key, hbound⟩ := exec_loaded_of_cut hdek hkey hkeyed freshDek' freshKey'
    refine ⟨_, _, exec_fromConn_of_loaded hloaded hbound,
      (recovered_iff (d := { d with commitmentKey := key }) hkeyed.floor).trans ?_⟩
    have hwritten : d.wrappedDek ≠ none := fun hnone => nomatch hnone.symm.trans hkeyed.dek
    have hgeneration : d.stateGeneration.getD 0 = checkpoint.stateGeneration ↔
        d.stateGeneration ≠ none ∨ checkpoint.stateGeneration = 0 := by
      obtain hnone | hsome := hkeyed.generation
      · simp [hnone, eq_comm]
      · simp [hsome]
    rw [Database.Survives, or_iff_right hwritten, ← hgeneration]

/-- The database behind the first of the writes. -/
def cutBehindKey : Database := { wrappedDek := some (sampleCustody.wrap drawnDek) }

/-- A first open that was cut right behind the key: the database looks like one that was rolled
back, and the times that are returned go back. -/
theorem first_open_cut_behind_key : ∃ r d',
    cutBehindKey ∈ commits (fromConn sampleCustody drawnDek drawnKey ⟨7, 1000, false⟩) {} ∧
    exec (fromConn sampleCustody drawnDek drawnKey ⟨7, 1000, false⟩) cutBehindKey = (.ok r, d') ∧
    d'.stateGeneration.getD 0 = 0 ∧ d'.floor = 0 ∧
    trustedTimes [2000, 1500] d'.store = [2000, 1500] :=
  ⟨_, _, mem_cons_self, rfl, rfl, rfl, by decide⟩

/-- The same cut does no harm where the generation is zero and the checkpoint can be trusted. -/
theorem first_open_recovers_behind_key : ∃ r d',
    cutBehindKey ∈ commits (fromConn sampleCustody drawnDek drawnKey ⟨0, 1000, true⟩) {} ∧
    exec (fromConn sampleCustody drawnDek drawnKey ⟨0, 1000, true⟩) cutBehindKey = (.ok r, d') ∧
    Database.Recovered ⟨0, 1000, true⟩ r d' := by
  have hcut : cutBehindKey ∈
      commits (fromConn sampleCustody drawnDek drawnKey ⟨0, 1000, true⟩) {} := mem_cons_self
  obtain ⟨r, d', hopen, hiff⟩ := first_open_recovers_iff sampleCustody ⟨0, 1000, true⟩ drawnDek
    drawnKey drawnDek drawnKey ⟨by decide, by decide, by decide⟩ ⟨by decide, by decide, by decide⟩
    ⟨rfl, rfl, rfl, rfl⟩ (mem_cons_of_mem _ hcut)
  exact ⟨r, d', hcut, hopen, hiff.2 (.inr ⟨.inr rfl, .inr ⟨rfl, by decide⟩⟩)⟩

end Akson
