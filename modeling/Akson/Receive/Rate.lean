/-
# The limiter of introductions

Before a connection without a known peer may introduce itself, its source is counted: a few calls
for each address, or prefix of addresses, in a window that opens with the first of them.
-/
import Mathlib.Data.UInt
import Mathlib.Tactic.Linarith
import Akson.Lib.Trace
import Akson.Lib.Window
import Akson.Broker.Address

namespace Akson

open Option List

/-! ## The limiter -/

def rateBucket : IpAddr → IpAddr
  | .v4 addr => .v4 addr
  | .v6 addr => .v6 ⟨addr.s0, addr.s1, addr.s2, addr.s3, 0, 0, 0, 0⟩

/-- The calls counted in a window, and when it opened. -/
structure RateWindow where
  count : UInt32
  start : Time

def windowSecs : Time := 60

def maxPerWindow : UInt32 := 10

def maxTracked : ℕ := 1024

def RateWindow.IsLive (now : Time) (w : RateWindow) : Prop := now - w.start < windowSecs

instance (now : Time) (w : RateWindow) : Decidable (w.IsLive now) :=
  inferInstanceAs (Decidable (_ < _))

def pruned (now : Time) (map : Std.HashMap IpAddr RateWindow) : Std.HashMap IpAddr RateWindow :=
  if map.size ≥ maxTracked then map.filter (fun _ w => w.IsLive now) else map

def introRateAdmit (source : IpAddr) (now : Time) (map : Std.HashMap IpAddr RateWindow) :
    Bool × Std.HashMap IpAddr RateWindow :=
  let bucket := rateBucket source
  let kept := pruned now map
  if map.size ≥ maxTracked ∧ kept.size ≥ maxTracked ∧ ¬ kept.contains bucket then (false, kept)
  else
    let entry := kept[bucket]?.getD ⟨0, now⟩
    let entry := if now - entry.start ≥ windowSecs then ⟨0, now⟩ else entry
    let entry := { entry with count := entry.count + 1 }
    (entry.count ≤ maxPerWindow, kept.insert bucket entry)

/-! ## One call -/

variable {source : IpAddr} {now : Time} {map map' : Std.HashMap IpAddr RateWindow} {admitted : Bool}

def currentWindow (now : Time) (entry : Option RateWindow) : RateWindow :=
  (entry.filter (fun w => w.IsLive now)).getD ⟨0, now⟩

theorem currentWindow_of_live {w : RateWindow} (h : w.IsLive now) :
    currentWindow now (some w) = w := by
  rw [currentWindow, filter_some, if_pos (decide_eq_true h)]
  rfl

theorem currentWindow_of_over {entry : Option RateWindow} (h : ∀ w, entry = some w → ¬ w.IsLive now) :
    currentWindow now entry = ⟨0, now⟩ := by
  cases entry with
  | none => rfl
  | some w =>
    rw [currentWindow, filter_some, if_neg (by simpa using h w rfl)]
    rfl

theorem getElem?_pruned (now : Time) (map : Std.HashMap IpAddr RateWindow) (b : IpAddr) :
    (pruned now map)[b]? = map[b]? ∨
      ((pruned now map)[b]? = none ∧ ∃ w, map[b]? = some w ∧ ¬ w.IsLive now) := by
  unfold pruned
  split
  · rw [Std.HashMap.getElem?_filter']
    cases hb : map[b]? with
    | none => exact .inl rfl
    | some w =>
      by_cases hlive : w.IsLive now
      · rw [filter_some, if_pos (decide_eq_true hlive)]
        exact .inl rfl
      · rw [filter_some, if_neg (by simpa using hlive)]
        exact .inr ⟨rfl, w, rfl, hlive⟩
  · exact .inl rfl

theorem size_pruned_le (now : Time) (map : Std.HashMap IpAddr RateWindow) :
    (pruned now map).size ≤ map.size := by
  unfold pruned
  split
  · exact Std.HashMap.size_filter_le_size
  · exact Nat.le_refl _

theorem currentWindow_pruned (now : Time) (map : Std.HashMap IpAddr RateWindow) (b : IpAddr) :
    currentWindow now (pruned now map)[b]? = currentWindow now map[b]? := by
  rcases getElem?_pruned now map b with hsame | ⟨hnone, w, hw, hover⟩
  · rw [hsame]
  · rw [hnone, hw, currentWindow_of_over (by simp), currentWindow_of_over]
    rintro _ ⟨⟩
    exact hover

theorem entry_eq_currentWindow (now : Time) (entry : Option RateWindow) :
    (if now - (entry.getD ⟨0, now⟩).start ≥ windowSecs then ⟨0, now⟩ else entry.getD ⟨0, now⟩) =
      currentWindow now entry := by
  cases entry with
  | none =>
    rw [getD_none, ite_self]
    rfl
  | some w =>
    rw [getD_some]
    by_cases hlive : w.IsLive now
    · rw [currentWindow_of_live hlive, if_neg (not_le.2 hlive)]
    · rw [if_pos (not_lt.1 hlive), currentWindow_of_over]
      rintro _ ⟨⟩
      exact hlive

theorem introRateAdmit_cases (h : introRateAdmit source now map = (admitted, map')) :
    (maxTracked ≤ (pruned now map).size ∧ (pruned now map)[rateBucket source]? = none ∧
      admitted = false ∧ map' = pruned now map) ∨
    (((pruned now map).size < maxTracked ∨ (pruned now map).contains (rateBucket source)) ∧
      admitted = decide ((currentWindow now map[rateBucket source]?).count + 1 ≤ maxPerWindow) ∧
      map' = (pruned now map).insert (rateBucket source)
        ⟨(currentWindow now map[rateBucket source]?).count + 1,
          (currentWindow now map[rateBucket source]?).start⟩) := by
  unfold introRateAdmit at h
  simp only [entry_eq_currentWindow, currentWindow_pruned] at h
  split at h
  case isTrue hfull =>
    obtain ⟨-, hroom, hnone⟩ := hfull
    cases h
    rw [Std.HashMap.contains_eq_isSome_getElem?, not_isSome_iff_eq_none] at hnone
    exact .inl ⟨hroom, hnone, rfl, rfl⟩
  case isFalse hroom =>
    cases h
    refine .inr ⟨?_, rfl, rfl⟩
    by_contra hno
    rw [not_or, not_lt] at hno
    exact hroom ⟨hno.1.trans (size_pruned_le now map), hno⟩

/-! ## A call and its answer -/

/-- A call, its answer and the window it was counted in. -/
structure RateCall where
  source : IpAddr
  now : Time
  window : Option Time
  admitted : Bool

def RateCall.bucket (c : RateCall) : IpAddr := rateBucket c.source

def RateStep (map : Std.HashMap IpAddr RateWindow) (c : RateCall)
    (map' : Std.HashMap IpAddr RateWindow) : Prop :=
  introRateAdmit c.source c.now map = (c.admitted, map') ∧
    c.window = map'[c.bucket]?.map RateWindow.start

variable {c : RateCall}

theorem RateStep.others (h : RateStep map c map') {b : IpAddr} (hb : b ≠ c.bucket) :
    map'[b]? = map[b]? ∨ (map'[b]? = none ∧ ∃ w, map[b]? = some w ∧ ¬ w.IsLive c.now) := by
  rcases introRateAdmit_cases h.1 with ⟨-, -, -, rfl⟩ | ⟨-, -, rfl⟩
  · exact getElem?_pruned c.now map b
  · rw [Std.HashMap.getElem?_insert, if_neg (by simpa [RateCall.bucket] using hb.symm)]
    exact getElem?_pruned c.now map b

theorem RateStep.caller (h : RateStep map c map') :
    (c.admitted = false ∧ c.window = none ∧ map'[c.bucket]? = none ∧
      (∀ w, map[c.bucket]? = some w → ¬ w.IsLive c.now) ∧ maxTracked ≤ map.size) ∨
    (map'[c.bucket]? = some ⟨(currentWindow c.now map[c.bucket]?).count + 1,
        (currentWindow c.now map[c.bucket]?).start⟩ ∧
      c.window = some (currentWindow c.now map[c.bucket]?).start ∧
      c.admitted = decide ((currentWindow c.now map[c.bucket]?).count + 1 ≤ maxPerWindow)) := by
  obtain ⟨hcall, hwindow⟩ := h
  rcases introRateAdmit_cases hcall with ⟨hfull, hnone, hrefused, rfl⟩ | ⟨-, hadmitted, rfl⟩
  · rw [RateCall.bucket, hnone] at hwindow
    refine .inl ⟨hrefused, hwindow, hnone, ?_, hfull.trans (size_pruned_le c.now map)⟩
    intro w hw hlive
    rcases getElem?_pruned c.now map (rateBucket c.source) with hsame | ⟨-, v, hv, hover⟩
    · have hmap : map[c.bucket]? = none := hsame.symm.trans hnone
      rw [hmap] at hw
      cases hw
    · cases hw.symm.trans hv
      exact hover hlive
  · have hself : ((pruned c.now map).insert (rateBucket c.source)
        ⟨(currentWindow c.now map[rateBucket c.source]?).count + 1,
          (currentWindow c.now map[rateBucket c.source]?).start⟩)[c.bucket]? =
        some ⟨(currentWindow c.now map[c.bucket]?).count + 1,
          (currentWindow c.now map[c.bucket]?).start⟩ := Std.HashMap.getElem?_insert_self
    rw [hself] at hwindow
    exact .inr ⟨hself, hwindow, hadmitted⟩

theorem RateStep.size_le (h : RateStep map c map') (hsize : map.size ≤ maxTracked) :
    map'.size ≤ maxTracked := by
  have hkept := (size_pruned_le c.now map).trans hsize
  rcases introRateAdmit_cases h.1 with ⟨-, -, -, rfl⟩ | ⟨hroom, -, rfl⟩
  · exact hkept
  · rw [Std.HashMap.size_insert]
    split
    · exact hkept
    · rcases hroom with hroom | hcontains
      · exact hroom
      · exact absurd (Std.HashMap.mem_iff_contains.2 hcontains) ‹_›

/-! ## The windows of a history -/

def admittedIn (calls : List RateCall) (b : IpAddr) (v : Time) : ℕ :=
  calls.countP (fun c => c.admitted ∧ c.bucket = b ∧ c.window = some v)

theorem admittedIn_snoc (calls : List RateCall) (c : RateCall) (b : IpAddr) (v : Time) :
    admittedIn (calls ++ [c]) b v = admittedIn calls b v +
      if c.admitted ∧ c.bucket = b ∧ c.window = some v then 1 else 0 := by
  rw [admittedIn, countP_append, countP_singleton]
  simp only [decide_eq_true_eq]
  rfl

def Within (calls : List RateCall) : Prop :=
  ∀ d ∈ calls, ∀ v, d.window = some v → v ≤ d.now ∧ d.now < v + windowSecs

/-- What the entry of a bucket says of the calls before: it is the last window of the bucket, and
counts what was admitted in it; without an entry, no window of the bucket is open. -/
structure Known (calls : List RateCall) (b : IpAddr) (entry : Option RateWindow) : Prop where
  started : ∀ w, entry = some w → ∃ d ∈ calls, d.bucket = b ∧ d.window = some w.start
  latest : ∀ w, entry = some w → ∀ d ∈ calls, d.bucket = b → ∀ v, d.window = some v →
    v = w.start ∨ v + windowSecs ≤ w.start
  gone : entry = none → ∀ d ∈ calls, d.bucket = b → ∀ v, d.window = some v →
    ∃ e ∈ calls, v + windowSecs ≤ e.now
  counted : ∀ w, entry = some w → admittedIn calls b w.start ≤ w.count.toNat

section Known

variable {calls : List RateCall} {b : IpAddr} {entry : Option RateWindow}

theorem Known.over (h : Known calls b entry) (hclock : ∀ d ∈ calls, d.now ≤ now)
    (hover : ∀ w, entry = some w → ¬ w.IsLive now) :
    ∀ d ∈ calls, d.bucket = b → ∀ v, d.window = some v → v + windowSecs ≤ now := by
  intro d hd hbucket v hv
  cases entry with
  | none =>
    obtain ⟨e, he, hle⟩ := h.gone rfl d hd hbucket v hv
    exact hle.trans (hclock e he)
  | some w =>
    have hend : windowSecs ≤ now - w.start := not_lt.1 (hover w rfl)
    have hpositive : (0 : ℤ) ≤ windowSecs := by decide
    rcases h.latest w rfl d hd hbucket v hv with rfl | hle
    · linarith
    · linarith

theorem Known.current (h : Known calls b entry) (hwithin : Within calls)
    (hclock : ∀ d ∈ calls, d.now ≤ now) :
    ((currentWindow now entry).start ≤ now ∧ now < (currentWindow now entry).start + windowSecs) ∧
    (∀ d ∈ calls, d.bucket = b → ∀ v, d.window = some v →
      v = (currentWindow now entry).start ∨ v + windowSecs ≤ (currentWindow now entry).start) ∧
    admittedIn calls b (currentWindow now entry).start ≤ (currentWindow now entry).count.toNat := by
  by_cases hlive : ∃ w, entry = some w ∧ w.IsLive now
  · obtain ⟨w, rfl, hlive⟩ := hlive
    rw [currentWindow_of_live hlive]
    obtain ⟨d, hd, -, hwindow⟩ := h.started w rfl
    have hstart := (hwithin d hd _ hwindow).1.trans (hclock d hd)
    have hend : now - w.start < windowSecs := hlive
    exact ⟨⟨hstart, by linarith⟩, h.latest w rfl, h.counted w rfl⟩
  · have hover : ∀ w, entry = some w → ¬ w.IsLive now := fun w hw hw' => hlive ⟨w, hw, hw'⟩
    have hpast := h.over hclock hover
    rw [currentWindow_of_over hover]
    have hpositive : (0 : ℤ) < windowSecs := by decide
    refine ⟨⟨le_refl now, by linarith⟩, fun d hd hbucket v hv => .inr (hpast d hd hbucket v hv), ?_⟩
    rw [admittedIn, countP_eq_zero.2]
    · exact Nat.zero_le _
    · intro d hd hmatch
      obtain ⟨-, hbucket, hwindow⟩ := of_decide_eq_true hmatch
      have hle := hpast d hd hbucket now hwindow
      linarith

theorem Known.other (h : Known calls b entry) (hb : b ≠ c.bucket) :
    Known (calls ++ [c]) b entry where
  started w hw := by
    obtain ⟨d, hd, hrest⟩ := h.started w hw
    exact ⟨d, mem_append_left _ hd, hrest⟩
  latest w hw := by
    rw [forall_mem_append, forall_mem_singleton]
    exact ⟨h.latest w hw, fun hbucket => absurd hbucket.symm hb⟩
  gone hnone := by
    rw [forall_mem_append, forall_mem_singleton]
    refine ⟨fun d hd hbucket v hv => ?_, fun hbucket => absurd hbucket.symm hb⟩
    obtain ⟨e, he, hle⟩ := h.gone hnone d hd hbucket v hv
    exact ⟨e, mem_append_left _ he, hle⟩
  counted w hw := by
    rw [admittedIn_snoc, if_neg (fun hmatch => hb hmatch.2.1.symm)]
    exact h.counted w hw

theorem Known.drop (h : Known calls b entry) (hclock : ∀ d ∈ calls, d.now ≤ c.now)
    (hover : ∀ w, entry = some w → ¬ w.IsLive c.now) (hc : c.bucket = b → c.window = none) :
    Known (calls ++ [c]) b none where
  started := by simp
  latest := by simp
  gone _ := by
    rw [forall_mem_append, forall_mem_singleton]
    constructor
    · intro d hd hbucket v hv
      exact ⟨c, mem_append_right _ (mem_singleton.2 rfl),
        h.over hclock hover d hd hbucket v hv⟩
    · intro hbucket v hv
      rw [hc hbucket] at hv
      cases hv
  counted := by simp

theorem Known.count (h : Known calls c.bucket entry) (hwithin : Within calls)
    (hclock : ∀ d ∈ calls, d.now ≤ c.now)
    (hwindow : c.window = some (currentWindow c.now entry).start)
    (hbelow : (currentWindow c.now entry).count.toNat + 1 < UInt32.size) :
    Known (calls ++ [c]) c.bucket
      (some ⟨(currentWindow c.now entry).count + 1, (currentWindow c.now entry).start⟩) := by
  obtain ⟨-, hlatest, hcounted⟩ := h.current hwithin hclock
  have hnext : ((currentWindow c.now entry).count + 1).toNat =
      (currentWindow c.now entry).count.toNat + 1 := by
    rw [UInt32.toNat_add]
    exact Nat.mod_eq_of_lt hbelow
  refine ⟨?_, ?_, by simp, ?_⟩
  · rintro _ ⟨⟩
    exact ⟨c, mem_append_right _ (mem_singleton.2 rfl), rfl, hwindow⟩
  · rintro _ ⟨⟩
    rw [forall_mem_append, forall_mem_singleton]
    refine ⟨hlatest, fun _ v hv => ?_⟩
    rw [hwindow] at hv
    exact .inl (some.inj hv).symm
  · rintro _ ⟨⟩
    rw [admittedIn_snoc, hnext]
    split
    · exact Nat.add_le_add_right hcounted 1
    · exact hcounted.trans (Nat.le_succ _)

end Known

/-! ## Every run -/

/-- The invariant of the limiter. -/
structure Limited (calls : List RateCall) (map : Std.HashMap IpAddr RateWindow) : Prop where
  size : map.size ≤ maxTracked
  within : Within calls
  placed : ∀ d ∈ calls, d.admitted = true → ∃ v, d.window = some v
  known : ∀ b, Known calls b map[b]?
  apart : ∀ d ∈ calls, ∀ e ∈ calls, d.bucket = e.bucket → ∀ v w, d.window = some v →
    e.window = some w → v = w ∨ v + windowSecs ≤ w ∨ w + windowSecs ≤ v
  bounded : ∀ b v, admittedIn calls b v ≤ maxPerWindow.toNat

theorem Limited.nil : Limited [] ∅ where
  size := by
    rw [Std.HashMap.size_empty]
    exact Nat.zero_le _
  within := by simp [Within]
  placed := by simp
  known b := by
    rw [Std.HashMap.getElem?_empty]
    exact ⟨by simp, by simp, by simp, by simp⟩
  apart := by simp
  bounded b v := Nat.zero_le _

def CounterBelow (map : Std.HashMap IpAddr RateWindow) (c : RateCall) : Prop :=
  (currentWindow c.now map[c.bucket]?).count.toNat + 1 < UInt32.size

variable {calls : List RateCall}

theorem Limited.known_step (h : Limited calls map) (hstep : RateStep map c map')
    (hbelow : CounterBelow map c) (hclock : ∀ d ∈ calls, d.now ≤ c.now) (b : IpAddr) :
    Known (calls ++ [c]) b map'[b]? := by
  by_cases hb : b = c.bucket
  · rw [hb]
    rcases hstep.caller with ⟨-, hwindow, hnone, hover, -⟩ | ⟨hentry, hwindow, -⟩
    · rw [hnone]
      exact (h.known c.bucket).drop hclock hover (fun _ => hwindow)
    · rw [hentry]
      exact (h.known c.bucket).count h.within hclock hwindow hbelow
  · rcases hstep.others hb with hsame | ⟨hnone, w, hw, hover⟩
    · rw [hsame]
      exact (h.known b).other hb
    · rw [hnone]
      refine (h.known b).drop hclock ?_ (fun hbucket => absurd hbucket.symm hb)
      intro w' hw'
      rw [hw] at hw'
      rwa [← some.inj hw']

theorem Limited.step (h : Limited calls map) (hstep : RateStep map c map')
    (hbelow : CounterBelow map c) (hclock : ∀ d ∈ calls, d.now ≤ c.now) :
    Limited (calls ++ [c]) map' := by
  have hknown := h.known_step hstep hbelow hclock
  obtain ⟨hcurrent, -, -⟩ := (h.known c.bucket).current h.within hclock
  -- the windows of the caller's bucket, seen from the one that the call is counted in
  have hlatest (d : RateCall) (hd : d ∈ calls ++ [c]) (hbucket : d.bucket = c.bucket) (v w : Time)
      (hv : d.window = some v) (hw : c.window = some w) : v = w ∨ v + windowSecs ≤ w := by
    rcases hstep.caller with ⟨-, hwindow, -, -⟩ | ⟨hentry, hwindow, -⟩
    · rw [hwindow] at hw
      cases hw
    · cases hwindow.symm.trans hw
      exact (hknown c.bucket).latest _ hentry d hd hbucket v hv
  refine ⟨hstep.size_le h.size, ?_, ?_, hknown, ?_, ?_⟩
  · unfold Within
    rw [forall_mem_append, forall_mem_singleton]
    refine ⟨h.within, fun v hv => ?_⟩
    rcases hstep.caller with ⟨-, hwindow, -, -⟩ | ⟨-, hwindow, -⟩
    · rw [hwindow] at hv
      cases hv
    · cases hwindow.symm.trans hv
      exact hcurrent
  · rw [forall_mem_append, forall_mem_singleton]
    refine ⟨h.placed, fun hadmitted => ?_⟩
    rcases hstep.caller with ⟨hrefused, -⟩ | ⟨-, hwindow, -⟩
    · rw [hrefused] at hadmitted
      cases hadmitted
    · exact ⟨_, hwindow⟩
  · intro d hd e he hbucket v w hv hw
    rcases mem_append.1 he with he' | he'
    · rcases mem_append.1 hd with hd' | hd'
      · exact h.apart d hd' e he' hbucket v w hv hw
      · obtain rfl := mem_singleton.1 hd'
        rcases hlatest e he hbucket.symm w v hw hv with hsame | hle
        · exact .inl hsame.symm
        · exact .inr (.inr hle)
    · obtain rfl := mem_singleton.1 he'
      rcases hlatest d hd hbucket v w hv hw with hsame | hle
      · exact .inl hsame
      · exact .inr (.inl hle)
  · intro b v
    by_cases hmatch : c.admitted ∧ c.bucket = b ∧ c.window = some v
    · obtain ⟨hadmitted, rfl, hv⟩ := hmatch
      rcases hstep.caller with ⟨hrefused, -⟩ | ⟨hentry, hwindow, hverdict⟩
      · rw [hrefused] at hadmitted
        cases hadmitted
      · cases hwindow.symm.trans hv
        rw [hverdict, decide_eq_true_eq] at hadmitted
        exact ((hknown c.bucket).counted _ hentry).trans (UInt32.le_iff_toNat_le.1 hadmitted)
    · rw [admittedIn_snoc, if_neg hmatch]
      exact h.bounded b v

theorem Limited.run {calls : List RateCall} {map : Std.HashMap IpAddr RateWindow}
    (hrun : Trace (fun map c map' => RateStep map c map' ∧ CounterBelow map c) ∅ calls map)
    (hclock : calls.Pairwise (fun c d => c.now ≤ d.now)) : Limited calls map := by
  induction calls using List.reverseRecOn generalizing map with
  | nil =>
    rw [Trace.nil_iff.1 hrun]
    exact Limited.nil
  | append_singleton calls c ih =>
    obtain ⟨map₁, hfirst, hlast⟩ := Trace.append_iff.1 hrun
    obtain ⟨_, ⟨hstep, hbelow⟩, hnil⟩ := Trace.cons_iff.1 hlast
    obtain rfl := Trace.nil_iff.1 hnil
    obtain ⟨hbefore, -, hafter⟩ := pairwise_append.1 hclock
    exact (ih hfirst hbefore).step hstep hbelow
      (fun d hd => hafter d hd c (mem_singleton.2 rfl))

theorem Limited.interval (h : Limited calls map) (b : IpAddr) (t : Time) :
    calls.countP (fun c => c.admitted ∧ c.bucket = b ∧ t ≤ c.now ∧ c.now ≤ t + windowSecs) ≤
      2 * maxPerWindow.toNat := by
  have hwindowed : FixedWindow.Windowed RateCall.now RateCall.window windowSecs
      (calls.filter (fun c => c.admitted ∧ c.bucket = b)) := by
    constructor
    · intro c hc
      rw [mem_filter, decide_eq_true_eq] at hc
      obtain ⟨v, hv⟩ := h.placed c hc.1 hc.2.1
      exact ⟨v, hv, h.within c hc.1 v hv⟩
    · intro c hc d hd
      rw [mem_filter, decide_eq_true_eq] at hc hd
      exact h.apart c hc.1 d hd.1 (hc.2.2.trans hd.2.2.symm)
  have hbound (v : Time) : (calls.filter (fun c => c.admitted ∧ c.bucket = b)).countP
      (fun c => c.window = some v) ≤ maxPerWindow.toNat := by
    refine le_trans (le_of_eq ?_) (h.bounded b v)
    rw [countP_filter, admittedIn]
    refine countP_congr (fun c _ => ?_)
    simp only [Bool.and_eq_true, decide_eq_true_eq]
    tauto
  refine le_trans (le_of_eq ?_) (FixedWindow.countP_interval_le hwindowed hbound t)
  rw [countP_filter]
  refine countP_congr (fun c _ => ?_)
  simp only [Bool.and_eq_true, decide_eq_true_eq]
  tauto

/-! ## A bucket with a live window -/

def liveVerdicts (count : UInt32) : ℕ → List Bool
  | 0 => []
  | n + 1 => decide (count + 1 ≤ maxPerWindow) :: liveVerdicts (count + 1) n

theorem verdicts_of_live {b : IpAddr} {w : RateWindow} (hrun : Trace RateStep map calls map')
    (hclock : calls.Pairwise (fun c d => c.now ≤ d.now)) (hw : map[b]? = some w)
    (hlive : ∀ c ∈ calls, c.bucket = b → w.IsLive c.now) :
    (calls.filter (fun c => c.bucket = b)).map RateCall.admitted =
      liveVerdicts w.count (calls.filter (fun c => c.bucket = b)).length := by
  induction calls generalizing map w with
  | nil => rfl
  | cons c calls ih =>
    obtain ⟨map₁, hstep, hrest⟩ := Trace.cons_iff.1 hrun
    rw [pairwise_cons] at hclock
    rw [forall_mem_cons] at hlive
    by_cases hb : c.bucket = b
    · have hcurrent : currentWindow c.now map[c.bucket]? = w := by
        rw [hb, hw, currentWindow_of_live (hlive.1 hb)]
      rcases hstep.caller with ⟨-, -, -, hover, -⟩ | ⟨hentry, -, hverdict⟩
      · exact absurd (hlive.1 hb) (hover w (hb ▸ hw))
      · rw [hcurrent] at hentry hverdict
        rw [filter_cons_of_pos (by simpa using hb), map_cons, length_cons,
          liveVerdicts, hverdict]
        rw [hb] at hentry
        exact congrArg _ (ih hrest hclock.2 hentry hlive.2)
    · rw [filter_cons_of_neg (by simpa using hb)]
      rcases hstep.others (Ne.symm hb) with hsame | ⟨-, v, hv, hover⟩
      · exact ih hrest hclock.2 (hsame.trans hw) hlive.2
      · -- the window was dropped, so the bucket has made its last call in it
        obtain rfl := some.inj (hv.symm.trans hw)
        have hnone : calls.filter (fun d => d.bucket = b) = [] := by
          refine filter_eq_nil_iff.2 (fun d hd hbucket => hover ?_)
          have hlater : d.now - v.start < windowSecs := hlive.2 d hd (of_decide_eq_true hbucket)
          have hle := hclock.1 d hd
          unfold RateWindow.IsLive
          linarith
        rw [hnone]
        rfl

/-- **The limits of the introductions.**  In every run from the start, with a clock that does not go
back, in which no window counts up to the size of its counter:

* the map never has more than 1024 entries;
* an admitted call lies in a window of its bucket, the windows of a bucket are a minute apart, and at
  most 10 calls of a bucket are admitted in one of them, and so at most 20 in any minute;
* the answers to the calls of a bucket in its live window do not depend on the other buckets: from
  any other map that has the same window, and whatever the other buckets call, they are the same. -/
theorem intro_rate_limits (calls : List RateCall) (map : Std.HashMap IpAddr RateWindow)
    (hclock : calls.Pairwise (fun c d => c.now ≤ d.now))
    (hrun : Trace (fun map c map' => RateStep map c map' ∧ CounterBelow map c) ∅ calls map) :
    map.size ≤ 1024 ∧
    (∀ c ∈ calls, c.admitted = true → ∃ v, c.window = some v ∧ v ≤ c.now ∧ c.now < v + 60) ∧
    (∀ c ∈ calls, ∀ d ∈ calls, c.bucket = d.bucket → ∀ v w, c.window = some v → d.window = some w →
      v = w ∨ v + 60 ≤ w ∨ w + 60 ≤ v) ∧
    (∀ b v, admittedIn calls b v ≤ 10) ∧
    (∀ b t, calls.countP (fun c => c.admitted ∧ c.bucket = b ∧ t ≤ c.now ∧ c.now ≤ t + 60) ≤ 20) ∧
    ∀ b w, map[b]? = some w → ∀ next next' map₁ map' map₁',
      Trace RateStep map next map₁ → next.Pairwise (fun c d => c.now ≤ d.now) →
      (∀ c ∈ next, c.bucket = b → w.IsLive c.now) →
      map'[b]? = some w → Trace RateStep map' next' map₁' →
      next'.Pairwise (fun c d => c.now ≤ d.now) →
      (∀ c ∈ next', c.bucket = b → w.IsLive c.now) →
      (next.filter (fun c => c.bucket = b)).length =
        (next'.filter (fun c => c.bucket = b)).length →
      (next.filter (fun c => c.bucket = b)).map RateCall.admitted =
        (next'.filter (fun c => c.bucket = b)).map RateCall.admitted := by
  have h := Limited.run hrun hclock
  refine ⟨h.size, ?_, h.apart, h.bounded, h.interval, ?_⟩
  · intro c hc hadmitted
    obtain ⟨v, hv⟩ := h.placed c hc hadmitted
    exact ⟨v, hv, h.within c hc v hv⟩
  · intro b w hw next next' map₁ map' map₁' hnext hclock₁ hlive hw' hnext' hclock₁' hlive' hlength
    rw [verdicts_of_live hnext hclock₁ hw hlive, verdicts_of_live hnext' hclock₁' hw' hlive', hlength]

/-! ## More calls than the counter counts -/

def RateCall.next (source : IpAddr) (now : Time) (map : Std.HashMap IpAddr RateWindow) : RateCall where
  source := source
  now := now
  window := (introRateAdmit source now map).2[rateBucket source]?.map RateWindow.start
  admitted := (introRateAdmit source now map).1

theorem rateStep_next (source : IpAddr) (now : Time) (map : Std.HashMap IpAddr RateWindow) :
    RateStep map (RateCall.next source now map) (introRateAdmit source now map).2 :=
  ⟨rfl, rfl⟩

def introSource : IpAddr := .v4 ⟨203, 0, 113, 7⟩

theorem admittedIn_next (source : IpAddr) {now : Time} (calls : List RateCall)
    {map : Std.HashMap IpAddr RateWindow} {count : UInt32}
    (hcurrent : currentWindow now map[rateBucket source]? = ⟨count, now⟩)
    (hroom : map.size < maxTracked ∨ map[rateBucket source]? = some ⟨count, now⟩) :
    (introRateAdmit source now map).2[rateBucket source]? = some ⟨count + 1, now⟩ ∧
      admittedIn (calls ++ [RateCall.next source now map]) (rateBucket source) now =
        admittedIn calls (rateBucket source) now + if count + 1 ≤ maxPerWindow then 1 else 0 := by
  have hlive : RateWindow.IsLive now ⟨count, now⟩ := by
    rw [RateWindow.IsLive, sub_self]
    decide
  have hcaller := (rateStep_next source now map).caller
  change _ ∨ (introRateAdmit source now map).2[rateBucket source]? =
    some ⟨(currentWindow now map[rateBucket source]?).count + 1,
      (currentWindow now map[rateBucket source]?).start⟩ ∧
    _ = some (currentWindow now map[rateBucket source]?).start ∧
    _ = decide ((currentWindow now map[rateBucket source]?).count + 1 ≤ maxPerWindow) at hcaller
  rw [hcurrent] at hcaller
  rcases hcaller with ⟨-, -, -, hover, hfull⟩ | ⟨hentry, hwindow, hverdict⟩
  · rcases hroom with hroom | hw
    · exact absurd hfull (not_le.2 hroom)
    · exact absurd hlive (hover _ hw)
  · refine ⟨hentry, ?_⟩
    rw [admittedIn_snoc, hwindow, hverdict]
    simp [RateCall.bucket, RateCall.next]

theorem exists_burst (source : IpAddr) (now : Time) (n : ℕ) (hn : n + 1 < UInt32.size) :
    ∃ calls map, Trace (fun map c map' => RateStep map c map' ∧ CounterBelow map c) ∅ calls map ∧
      calls.length = n + 1 ∧ (∀ c ∈ calls, c.now = now) ∧
      map[rateBucket source]? = some ⟨UInt32.ofNat (n + 1), now⟩ ∧
      admittedIn calls (rateBucket source) now = min (n + 1) 10 := by
  induction n with
  | zero =>
    have hcurrent : currentWindow now (∅ : Std.HashMap IpAddr RateWindow)[rateBucket source]? =
        ⟨0, now⟩ := by
      rw [Std.HashMap.getElem?_empty, currentWindow_of_over (by simp)]
    have hroom : (∅ : Std.HashMap IpAddr RateWindow).size < maxTracked := by
      rw [Std.HashMap.size_empty]
      decide
    obtain ⟨hentry, hadmitted⟩ := admittedIn_next source [] hcurrent (.inl hroom)
    have hbelow : CounterBelow ∅ (RateCall.next source now ∅) := by
      rw [CounterBelow, Std.HashMap.getElem?_empty, currentWindow_of_over (by simp)]
      exact lt_of_le_of_lt le_rfl hn
    exact ⟨_, _, .cons ⟨rateStep_next source now ∅, hbelow⟩ (.nil _), rfl, by simp [RateCall.next],
      hentry, hadmitted⟩
  | succ n ih =>
    obtain ⟨calls, map, hrun, hlength, hnow, hw, hcount⟩ := ih (by omega)
    have hlive : RateWindow.IsLive now ⟨UInt32.ofNat (n + 1), now⟩ := by
      rw [RateWindow.IsLive, sub_self]
      decide
    obtain ⟨hentry, hadmitted⟩ := admittedIn_next source calls
      (by rw [hw, currentWindow_of_live hlive]) (.inr hw)
    have hbelow : CounterBelow map (RateCall.next source now map) := by
      change (currentWindow now map[rateBucket source]?).count.toNat + 1 < UInt32.size
      rw [hw, currentWindow_of_live hlive, UInt32.toNat_ofNat_of_lt' (by omega)]
      exact hn
    refine ⟨_, _, Trace.append_iff.2 ⟨map, hrun, .cons ⟨rateStep_next source now map, hbelow⟩
      (.nil _)⟩, by simp [hlength], ?_, ?_, ?_⟩
    · rw [forall_mem_append, forall_mem_singleton]
      exact ⟨hnow, rfl⟩
    · rw [hentry, UInt32.ofNat_add (n + 1) 1]
      rfl
    · have hnext : UInt32.ofNat (n + 1) + 1 ≤ maxPerWindow ↔ n + 2 ≤ 10 := by
        rw [UInt32.le_iff_toNat_le, show UInt32.ofNat (n + 1) + 1 = UInt32.ofNat (n + 2) from
          (UInt32.ofNat_add (n + 1) 1).symm, UInt32.toNat_ofNat_of_lt' hn]
        rfl
      rw [hadmitted, hcount]
      simp only [hnext]
      split
      · omega
      · omega

/-- Of twelve calls of one bucket in a second, ten are admitted. -/
theorem intro_rate_limits_burst : ∃ calls map,
    Trace (fun map c map' => RateStep map c map' ∧ CounterBelow map c) ∅ calls map ∧
    calls.length = 12 ∧ admittedIn calls introSource 1800000000 = 10 ∧ map.size ≤ 1024 ∧
    ∀ b v, admittedIn calls b v ≤ 10 := by
  obtain ⟨calls, map, hrun, hlength, hnow, -, hcount⟩ :=
    exists_burst introSource 1800000000 11 (by decide)
  have hclock := pairwise_of_forall_mem_list (r := fun c d : RateCall => c.now ≤ d.now)
    (fun c hc d hd => by rw [hnow c hc, hnow d hd])
  obtain ⟨hsize, -, -, hbounded, -⟩ := intro_rate_limits calls map hclock hrun
  exact ⟨calls, map, hrun, hlength, hcount, hsize, hbounded⟩

/-- The counter is back at zero after as many calls as it has values, and the last of them is
admitted as the eleventh in its window. -/
theorem wrapped_counter_admits : ∃ calls map, Trace RateStep ∅ calls map ∧
    calls.Pairwise (fun c d => c.now ≤ d.now) ∧ admittedIn calls introSource 1800000000 = 11 := by
  obtain ⟨calls, map, hrun, -, hnow, hw, hcount⟩ :=
    exists_burst introSource 1800000000 4294967294 (by decide)
  have hlive : RateWindow.IsLive 1800000000 ⟨UInt32.ofNat (4294967294 + 1), 1800000000⟩ := by decide
  obtain ⟨-, hadmitted⟩ := admittedIn_next introSource calls
    (by rw [hw, currentWindow_of_live hlive]) (.inr hw)
  have hall : ∀ c ∈ calls ++ [RateCall.next introSource 1800000000 map], c.now = 1800000000 := by
    rw [forall_mem_append, forall_mem_singleton]
    exact ⟨hnow, rfl⟩
  refine ⟨_, _, Trace.append_iff.2 ⟨map, hrun.mono (fun _ _ _ h => h.1),
    .cons (rateStep_next introSource 1800000000 map) (.nil _)⟩, ?_, ?_⟩
  · refine pairwise_of_forall_mem_list (fun c hc d hd => ?_)
    rw [hall c hc, hall d hd]
  · change admittedIn _ (rateBucket introSource) _ = 11
    rw [hadmitted, hcount]
    decide

end Akson
