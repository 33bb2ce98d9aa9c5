/-
# The feed of coordination events

A driver reads the feed page by page: each reply carries the cursor to resume from.  A cursor is a
position in an opaque spelling.
-/
import Akson.Lib.Base64
import Akson.Lib.Decimal
import Akson.Coord.Egress

namespace Akson

open Except Option List

variable {n p : ℕ} {l : List CoordEvent} {s s' : Store}

/-! ## Cursors -/

def cursorDomain : String := "akson-coord-events-v1:"

def encodeCursor (seq : ℤ) : String :=
  base64Encode .urlSafeNoPad (utf8 (cursorDomain ++ toString seq))

def badCursor : Problem :=
  Problem.new 400 "bad-cursor" "that cursor did not come from this feed"

def decodeCursor (cursor : String) : Except Problem ℤ := do
  let bytes ← okOr (base64Decode .urlSafeNoPad cursor) badCursor
  let text ← okOr (fromUtf8 bytes) badCursor
  let seq ← okOr (Text.stripStart cursorDomain text) badCursor
  let seq ← okOr
    (Decimal.readInt (-9223372036854775808) 9223372036854775807 seq.toList) badCursor
  ensure (0 ≤ seq) badCursor
  .ok seq

theorem utf8_inj {s t : String} (h : utf8 s = utf8 t) : s = t :=
  String.toList_inj.1 (Json.utf8_inj h)

def cursorBytes (text : List Char) : Bytes := utf8 (cursorDomain ++ String.ofList text)

theorem cursorBytes_inj {text text' : List Char} (h : cursorBytes text = cursorBytes text') :
    text = text' := by
  have htext := utf8_inj h
  rw [← String.toList_inj, String.toList_append, String.toList_append] at htext
  exact String.ofList_injective (String.toList_inj.1 (append_cancel_left htext))

theorem encodeCursor_natCast (n : ℕ) :
    encodeCursor n = base64Encode .urlSafeNoPad (cursorBytes (Nat.toDigits 10 n)) := by
  have htext : toString (n : ℤ) = toString n := rfl
  rw [encodeCursor, cursorBytes, htext, Nat.toString_eq_ofList_toDigits]

theorem decodeCursor_eq_ok_iff {cursor : String} :
    decodeCursor cursor = .ok (n : ℤ) ↔
      ∃ text, base64Decode .urlSafeNoPad cursor = some (cursorBytes text) ∧
        (text = Nat.toDigits 10 n ∨ Decimal.Respells n text) ∧ n ≤ 9223372036854775807 := by
  unfold decodeCursor
  simp only [bind_eq_ok, okOr_eq_ok, ensure_eq_ok]
  constructor
  · rintro ⟨bytes, hbytes, text, htext, digits, hdigits, value, hvalue, -, -, hok⟩
    obtain rfl := fromUtf8_eq_some_iff.1 htext
    obtain rfl := Text.stripStart_eq_some_iff.1 hdigits
    rw [ok.inj hok, Decimal.readInt_eq_some_natCast_iff] at hvalue
    refine ⟨digits.toList, ?_, hvalue.1, by omega⟩
    rw [hbytes, cursorBytes, String.ofList_toList]
  · rintro ⟨text, hbytes, hspelled, hle⟩
    refine ⟨_, hbytes, _, fromUtf8_eq_some_iff.2 rfl, _, Text.stripStart_eq_some_iff.2 rfl, n, ?_,
      (), by omega, rfl⟩
    rw [String.toList_ofList, Decimal.readInt_eq_some_natCast_iff]
    exact ⟨hspelled, by omega, by omega⟩

theorem decodeCursor_encodeCursor (hn : n ≤ 9223372036854775807) :
    decodeCursor (encodeCursor n) = .ok (n : ℤ) := by
  refine decodeCursor_eq_ok_iff.2 ⟨Nat.toDigits 10 n, ?_, .inl rfl, hn⟩
  rw [encodeCursor_natCast, base64Decode_base64Encode]

theorem encodeCursor_inj {m : ℕ} (heq : encodeCursor m = encodeCursor n) : m = n := by
  rw [encodeCursor_natCast, encodeCursor_natCast] at heq
  have hdigits := cursorBytes_inj (base64Encode_inj heq)
  rw [← Decimal.valueOf_toDigits m, hdigits, Decimal.valueOf_toDigits]

/-- **A position has other spellings.**  A text is read as a position exactly if it is the cursor of
that position, unless it is the base64 of the domain and of a numeral with a sign or with a zero too
many in front, of a number that fits. -/
theorem decodeCursor_iff_encodeCursor_iff (cursor : String) :
    (∀ n : ℕ, n ≤ 9223372036854775807 →
      (decodeCursor cursor = .ok (n : ℤ) ↔ cursor = encodeCursor n)) ↔
    ¬∃ n text, n ≤ 9223372036854775807 ∧ Decimal.Respells n text ∧
      cursor = base64Encode .urlSafeNoPad (cursorBytes text) := by
  constructor
  · rintro hall ⟨n, text, hn, hspelled, hcursor⟩
    have hok : decodeCursor cursor = .ok (n : ℤ) :=
      decodeCursor_eq_ok_iff.2 ⟨text, (base64Decode_eq_some_iff rfl).2 hcursor, .inr hspelled, hn⟩
    -- the cursor of `n` and this one would be the same bytes
    have hsame := (hall n hn).1 hok
    rw [encodeCursor_natCast] at hsame
    exact hspelled.ne_toDigits (cursorBytes_inj (base64Encode_inj (hcursor.symm.trans hsame)))
  · intro hnone n hn
    constructor
    · intro hok
      obtain ⟨text, hbytes, hspelled, -⟩ := decodeCursor_eq_ok_iff.1 hok
      rcases hspelled with rfl | hspelled
      · rw [encodeCursor_natCast]
        exact (base64Decode_eq_some_iff rfl).1 hbytes
      · exact absurd ⟨n, text, hn, hspelled, (base64Decode_eq_some_iff rfl).1 hbytes⟩ hnone
    · rintro rfl
      exact decodeCursor_encodeCursor hn

/-- The cursor of the seventh event is no other spelling, and is read as seven. -/
theorem decodeCursor_seventh :
    encodeCursor 7 = "YWtzb24tY29vcmQtZXZlbnRzLXYxOjc" ∧
    decodeCursor "YWtzb24tY29vcmQtZXZlbnRzLXYxOjc" = .ok 7 := by
  have hcursor : encodeCursor (7 : ℕ) = "YWtzb24tY29vcmQtZXZlbnRzLXYxOjc" := by
    rw [encodeCursor_natCast]
    decide
  refine ⟨hcursor, ?_⟩
  have hplain : ¬∃ n text, n ≤ 9223372036854775807 ∧ Decimal.Respells n text ∧
      "YWtzb24tY29vcmQtZXZlbnRzLXYxOjc" = base64Encode .urlSafeNoPad (cursorBytes text) := by
    rintro ⟨n, text, -, hspelled, htext⟩
    rw [← hcursor, encodeCursor_natCast] at htext
    obtain rfl := cursorBytes_inj (base64Encode_inj htext)
    have hn := Decimal.readSigned_eq_some_natCast_iff.2 (.inr hspelled)
    rw [Decimal.readSigned_eq_some_natCast_iff.2 (.inl rfl)] at hn
    have hvalue := some.inj hn
    obtain rfl : 7 = n := by omega
    exact hspelled.ne_toDigits rfl
  exact ((decodeCursor_iff_encodeCursor_iff _).2 hplain 7 (by decide)).2 hcursor.symm

/-- The position five with a sign is read, though no reply spells it so. -/
theorem decodeCursor_signed :
    decodeCursor "YWtzb24tY29vcmQtZXZlbnRzLXYxOis1" = .ok 5 ∧
    encodeCursor 5 = "YWtzb24tY29vcmQtZXZlbnRzLXYxOjU" := by
  have hnumeral : Decimal.IsNumeral ['5'] := by
    refine ⟨cons_ne_nil _ _, ?_⟩
    intro c hc
    rw [mem_singleton.1 hc]
    rfl
  constructor
  · refine decodeCursor_eq_ok_iff.2 ⟨['+', '5'], ?_, .inr ⟨['5'], hnumeral, rfl, .inl rfl⟩,
      by decide⟩
    refine (base64Decode_eq_some_iff rfl).2 ?_
    decide
  · refine (encodeCursor_natCast 5).trans ?_
    decide

/-! ## The feed -/

def Numbered : ℕ → List CoordEvent → Prop
  | _, [] => True
  | n, e :: es => e.seq = n ∧ Numbered (n + 1) es

theorem numbered_append {m : List CoordEvent} :
    Numbered n (l ++ m) ↔ Numbered n l ∧ Numbered (n + l.length) m := by
  induction l generalizing n with
  | nil => simp [Numbered]
  | cons e l ih =>
    rw [cons_append, Numbered, Numbered, ih, length_cons, and_assoc, Nat.add_assoc,
      Nat.add_comm 1]

theorem Numbered.drop (h : Numbered n l) (k : ℕ) (hk : k ≤ l.length) :
    Numbered (n + k) (l.drop k) := by
  rw [← take_append_drop k l, numbered_append, length_take, Nat.min_eq_left hk] at h
  exact h.2

theorem Numbered.le_seq (h : Numbered n l) :
    ∀ e ∈ l, n ≤ e.seq := by
  induction l generalizing n with
  | nil => simp
  | cons e l ih =>
    rw [forall_mem_cons]
    refine ⟨h.1.ge, fun e' he' => ?_⟩
    have hle := ih h.2 e' he'
    omega

theorem Numbered.sorted (h : Numbered n l) :
    l.Pairwise (fun a b => a.seq ≤ b.seq) := by
  induction l generalizing n with
  | nil => exact List.Pairwise.nil
  | cons e l ih =>
    refine pairwise_cons.2 ⟨fun e' he' => ?_, ih h.2⟩
    have hle := h.2.le_seq e' he'
    have hseq := h.1
    omega

theorem Numbered.filter_after (h : Numbered (n + 1) l) {after : ℕ} (hn : n ≤ after) :
    l.filter (fun e => (after : ℤ) < (e.seq : ℤ)) = l.drop (after - n) := by
  induction l generalizing n with
  | nil => simp
  | cons e l ih =>
    rcases Nat.eq_or_lt_of_le hn with rfl | hlt
    · -- everything from here on is after the position
      rw [Nat.sub_self, drop_zero, filter_eq_self]
      intro e' he'
      have hle := h.le_seq e' he'
      exact decide_eq_true (by omega)
    · have hseq := h.1
      rw [filter_cons_of_neg (by simp; omega), ih h.2 (by omega)]
      have hsub : after - n = after - (n + 1) + 1 := by omega
      rw [hsub, drop_succ_cons]

theorem Numbered.last (h : Numbered (n + 1) l) :
    (l.getLast?.map (fun e => (e.seq : ℤ))).getD n = n + l.length := by
  induction l using List.reverseRecOn with
  | nil => simp
  | append_singleton l e _ =>
    have hseq := (numbered_append.1 h).2.1
    rw [getLast?_concat, map_some, getD_some, length_append,
      length_singleton]
    omega

theorem Numbered.foldl_max (h : Numbered (n + 1) l) :
    l.foldl (fun m e => max m e.seq) n = n + l.length := by
  induction l generalizing n with
  | nil => rfl
  | cons e l ih =>
    have hmax : max n e.seq = n + 1 := by
      have hseq := h.1
      omega
    rw [foldl_cons, hmax, ih h.2, length_cons]
    omega

/-- Events are numbered from one, and their numbers fit. -/
structure Store.Feed (s : Store) : Prop where
  numbered : Numbered 1 s.coordEvents
  fits : s.coordEvents.length ≤ 9223372036854775807

theorem Store.Feed.appendEventIn (h : s.Feed)
    (hfits : s.coordEvents.length < 9223372036854775807) (kind : CoordEventKind)
    (stageRef : Option String) (detail : Json) (now : Time) :
    (s.appendEventIn kind stageRef detail now).Feed := by
  refine ⟨?_, ?_⟩
  · rw [appendEventIn_coordEvents, numbered_append]
    exact ⟨h.numbered, Nat.add_comm _ _, trivial⟩
  · rw [appendEventIn_coordEvents, length_append, length_singleton]
    omega

/-- Events are only appended. -/
inductive FeedGrows (s : Store) : Store → Prop
  | same {s' : Store} (h : s'.coordEvents = s.coordEvents) : FeedGrows s s'
  | append {s₁ s' : Store} {kind : CoordEventKind} {stageRef : Option String} {detail : Json}
      {now : Time} (h : FeedGrows s s₁) (hfits : s₁.coordEvents.length < 9223372036854775807)
      (happend : s'.coordEvents = (s₁.appendEventIn kind stageRef detail now).coordEvents) :
      FeedGrows s s'

theorem FeedGrows.extended (h : FeedGrows s s') : s.coordEvents <+: s'.coordEvents := by
  induction h with
  | same h => exact ⟨[], by rw [append_nil, h]⟩
  | append _ _ happend ih =>
    rw [happend]
    exact ih.trans (prefix_append _ _)

theorem FeedGrows.feed (h : FeedGrows s s') (hs : s.Feed) : s'.Feed := by
  induction h with
  | same h => exact ⟨h ▸ hs.numbered, h ▸ hs.fits⟩
  | @append s₁ s' kind stageRef detail now _ hfits happend ih =>
    have hnext := ih.appendEventIn hfits kind stageRef detail now
    exact ⟨happend ▸ hnext.numbered, happend ▸ hnext.fits⟩

/-! ## What it tells of the tables -/

def Store.told (s : Store) (kind : CoordEventKind) (ref : String) : ℕ :=
  s.coordEvents.countP (fun e => e.kind = kind ∧ e.stageRef = some ref)

/-- The rows that events of a kind are written with. -/
def Store.rowsTold (s : Store) (kind : CoordEventKind) (ref : String) : ℕ :=
  match kind with
  | .staged => s.coordStaged.count (fun r => r.stageRef = ref)
  | .consentRecorded => s.coordConsents.count (fun r => r.stageRef = ref)
  | .dispatched => s.coordDispatches.count (fun r => r.stageRef = ref)
  | .egressRecorded | .dispatchReceived | .dispatchRefused => 0

def Store.FeedTells (s : Store) : Prop := ∀ kind ref, s.told kind ref = s.rowsTold kind ref

/-- A step of the four operations, or an event that the receive server writes. -/
def FeedStep (s : Store) (l : CoordLabel) (s' : Store) : Prop :=
  CoordStep s l s' ∨ ∃ kind detail now, (kind = .dispatchReceived ∨ kind = .dispatchRefused) ∧
    s' = s.appendEventIn kind none detail now

theorem Store.FeedTells.append {event : CoordEvent} (hs : s.FeedTells)
    (hevents : s'.coordEvents = s.coordEvents ++ [event])
    (hrows : ∀ kind ref, s'.rowsTold kind ref =
      s.rowsTold kind ref + if event.kind = kind ∧ event.stageRef = some ref then 1 else 0) :
    s'.FeedTells := by
  intro kind ref
  rw [hrows, ← hs kind ref, told, hevents, countP_append, countP_singleton]
  simp [told]

theorem Store.FeedTells.committed {call : CoordCall} {reply : Except StoreError CoordReply}
    (hs : s.FeedTells) (h : Committed s call reply s') : s'.FeedTells := by
  -- a row and its event are written in one transaction; the other tables keep their keys
  cases h with
  | failed => exact hs
  | stage h =>
    obtain ⟨_, _, _, rfl⟩ | ⟨_, _, _, hins, href, _, _, _, _, _, _, rfl⟩ := stageContract_cases h
    · exact hs
    refine hs.append rfl fun kind ref => ?_
    cases kind with
    | staged => exact (Table.count_insert hins _).trans (congrArg _ (by simp [href]))
    | _ => rfl
  | mint h =>
    obtain ⟨_, _, ⟨_, _, rfl⟩ | ⟨_, _, _, rfl, hins, _, rfl⟩⟩ := mintConsentReceipt_cases h
    · exact hs
    refine hs.append rfl fun kind ref => ?_
    cases kind with
    | staged => exact Table.count_updateWhere (f := withStatus _) (fun _ => rfl) _
    | consentRecorded => exact (Table.count_insert hins _).trans (congrArg _ (by simp))
    | _ => rfl
  | dispatch h =>
    obtain ⟨_, _, rfl, _⟩ | ⟨_, _, rfl, _⟩ | ⟨_, _, _, _, _, _, -, hins, _, rfl⟩ :=
      dispatchStaged_cases h
    · exact hs
    · exact hs
    refine hs.append rfl fun kind ref => ?_
    cases kind with
    | staged => exact Table.count_updateWhere (f := withStatus _) (fun _ => rfl) _
    | consentRecorded => exact Table.count_updateWhere (f := ConsentRow.spend) (fun _ => rfl) _
    | dispatched =>
      exact (Table.count_insert hins _).trans
        (congrArg _ (if_congr (decide_eq_true_iff.trans
          ((and_iff_right rfl).trans some_inj).symm) rfl rfl))
    | _ => rfl
  | egress h =>
    have hmoves := recordEgress_moves h
    obtain ⟨egress, -, -, events, audit, rfl⟩ := recordEgress_cases h
    obtain ⟨_, -, _, _, _, _, _, hevents⟩ | ⟨-, heq⟩ := hmoves
    · refine hs.append hevents fun kind ref => ?_
      cases kind with
      | dispatched =>
        exact Table.count_updateWhere (f := DispatchRecord.withEgress _ _ _) (fun _ => rfl) _
      | _ => rfl
    · rwa [heq]

/-- **The feed tells what is in the tables.**  In every state that is reached from a new database,
with crashes between the commits and whatever the receive server writes between them, each reference
has as many `staged`, `consent_recorded` and `dispatched` events as rows: no event is lost, doubled
or written without its row. -/
theorem feed_tells_tables {s₀ s : Store} {ls : List CoordLabel} (h₀ : s₀.CoordEmpty)
    (hnew : s₀.coordEvents = []) (h : Trace FeedStep s₀ ls s) (kind : CoordEventKind) (ref : String) :
    s.told kind ref = s.rowsTold kind ref := by
  have hstart : s₀.FeedTells := by
    intro kind ref
    rw [Store.told, hnew]
    cases kind <;> simp only [Store.rowsTold, h₀.staged, h₀.consents, h₀.dispatches] <;> rfl
  refine h.invariant ?_ hstart kind ref
  rintro s l s' hs (hstep | ⟨kind, detail, now, hkind, rfl⟩)
  · exact coordStep_keeps Store.FeedTells.committed hs hstep
  · refine hs.append rfl fun kind' ref => ?_
    cases kind' <;> simp [Store.rowsTold]

/-- Of three calls one is told. -/
theorem feed_tells_tables_onceAndReplayed :
    (coordRun {} onceAndReplayed).2.told .dispatched "stage-1" = 1 := by
  have hrows : (coordRun {} onceAndReplayed).2.rowsTold .dispatched "stage-1" = 1 := by decide
  rw [← hrows]
  exact feed_tells_tables ⟨rfl, rfl, rfl⟩ rfl
    ((coordRun_trace {} onceAndReplayed).mono fun _ _ _ => .inl) _ _

/-! ## Reading it -/

def CoordEventKind.asStr : CoordEventKind → String
  | .staged => "staged"
  | .consentRecorded => "consent_recorded"
  | .dispatched => "dispatched"
  | .egressRecorded => "egress_recorded"
  | .dispatchReceived => "dispatch_received"
  | .dispatchRefused => "dispatch_refused"

def defaultEventLimit : ℕ := 64

def maxEventLimit : ℕ := 256

def Store.readCoordEvents (s : Store) (afterSeq : ℤ) (limit : ℕ) : List CoordEvent :=
  sqlLimit limit ((s.coordEvents.filter (fun e => afterSeq < (e.seq : ℤ))).insertionSort
    (fun a b => a.seq ≤ b.seq))

def Store.coordEventsHead (s : Store) : ℕ := s.coordEvents.foldl (fun m e => max m e.seq) 0

def eventItem (e : CoordEvent) : Json :=
  .obj [("at", .num e.recordedAt), ("cursor", .str (encodeCursor e.seq)), ("detail", e.detail),
    ("kind", .str e.kind.asStr), ("stage_ref", (e.stageRef.map Json.str).getD .null)]

def eventPage (events : List CoordEvent) (last head : ℤ) : Json :=
  .obj [("events", .arr (events.map (eventItem))), ("has_more", .bool (last < head)),
    ("next_cursor", .str (encodeCursor last))]

def pageLimit (limit : Option ℕ) : ℕ := max 1 (min (limit.getD defaultEventLimit) maxEventLimit)

def readAfter : Option String → Except Problem ℤ
  | some cursor => decodeCursor cursor
  | none => .ok 0

def eventsRead (cursor : Option String) (limit : Option ℕ) (s : Store) :
    Except Problem Json := do
  let after ← readAfter cursor
  let events := s.readCoordEvents after (pageLimit limit)
  let last := (events.getLast?.map (fun e => (e.seq : ℤ))).getD after
  .ok (eventPage events last s.coordEventsHead)

def StandsAt (cursor : Option String) (p : ℕ) : Prop :=
  (cursor = none ∧ p = 0) ∨ cursor = some (encodeCursor p)

theorem pageLimit_le (limit : Option ℕ) : pageLimit limit ≤ maxEventLimit := by
  unfold pageLimit maxEventLimit
  omega

theorem readCoordEvents_eq (h : s.Feed) (p : ℕ) (limit : Option ℕ) :
    s.readCoordEvents p (pageLimit limit) = (s.coordEvents.drop p).take (pageLimit limit) := by
  have hafter := h.numbered.filter_after (Nat.zero_le p)
  have hsorted : (s.coordEvents.drop p).Pairwise (fun a b => a.seq ≤ b.seq) :=
    h.numbered.sorted.drop
  have hlimit := pageLimit_le limit
  unfold Store.readCoordEvents sqlLimit
  rw [hafter, Nat.sub_zero, hsorted.insertionSort_eq, if_pos]
  unfold maxEventLimit at hlimit
  omega

theorem coordEventsHead_eq (h : s.Feed) : s.coordEventsHead = s.coordEvents.length := by
  have hmax := h.numbered.foldl_max (n := 0)
  rw [Store.coordEventsHead, hmax, Nat.zero_add]

variable {cursor : Option String} {calls : List (Store × Option ℕ)}

theorem eventsRead_eq (h : s.Feed)
    (hcursor : StandsAt cursor p) (hp : p ≤ s.coordEvents.length) (limit : Option ℕ) :
    eventsRead cursor limit s =
      .ok (eventPage ((s.coordEvents.drop p).take (pageLimit limit))
        ((p + ((s.coordEvents.drop p).take (pageLimit limit)).length : ℕ) : ℤ)
        (s.coordEvents.length : ℕ)) := by
  have hafter : readAfter cursor = .ok (p : ℤ) := by
    rcases hcursor with ⟨rfl, rfl⟩ | rfl
    · rfl
    · exact decodeCursor_encodeCursor (hp.trans h.fits)
  have hnumbered : Numbered (p + 1) ((s.coordEvents.drop p).take (pageLimit limit)) := by
    have hdrop := h.numbered.drop p hp
    rw [← take_append_drop (pageLimit limit) (s.coordEvents.drop p), numbered_append,
      Nat.add_comm 1] at hdrop
    exact hdrop.1
  unfold eventsRead
  refine bind_eq_ok.2 ⟨p, hafter, ?_⟩
  rw [readCoordEvents_eq h, coordEventsHead_eq h, Int.natCast_add, ← hnumbered.last]

/-! ## Following it -/

def follow : Option String → List (Store × Option ℕ) → Except Problem (List Json)
  | _, [] => .ok []
  | cursor, (s, limit) :: calls => do
    let reply ← eventsRead cursor limit s
    let replies ← follow (reply.getStr? "next_cursor") calls
    .ok (reply :: replies)

def pageItems (reply : Json) : List Json := (reply.getArr? "events").getD []

/-- What a reader has seen after a run of pages. -/
structure Followed (p n : ℕ) (calls : List (Store × Option ℕ)) (replies : List Json) :
    Prop where
  /-- In any later state of the feed, they are the ones that follow the position, in order. -/
  delivered : ∀ t : Store, (∀ call ∈ calls, call.1.coordEvents <+: t.coordEvents) →
    n ≤ t.coordEvents.length - p ∧
    replies.flatMap pageItems = ((t.coordEvents.drop p).take n).map (eventItem)
  /-- Each call hands over an event, until all that were there at some call are handed over. -/
  progress : ∀ before call after, calls = before ++ call :: after →
    call.1.coordEvents.length ≤ p + n ∨ after.length + 1 ≤ n
  /-- A reply that promises no more has the cursor of the head. -/
  more : List.Forall₂ (fun call reply => reply.getBool? "has_more" = some false ↔
    reply.getStr? "next_cursor" = some (encodeCursor call.1.coordEventsHead)) calls replies

theorem take_page {t : List CoordEvent} (h : l <+: t) (hp : p ≤ l.length) (k n : ℕ) :
    (t.drop p).take (((l.drop p).take k).length + n) =
      (l.drop p).take k ++ (t.drop (p + ((l.drop p).take k).length)).take n := by
  obtain ⟨r, rfl⟩ := h
  have hpage : ((l ++ r).drop p).take ((l.drop p).take k).length = (l.drop p).take k := by
    rw [drop_append_of_le_length hp, take_append_of_le_length (length_take_le' _ _)]
    exact (prefix_iff_eq_take.1 ( take_prefix k _)).symm
  rw [take_add, hpage, drop_drop]

theorem followed_cons (h : s.Feed) {limit : Option ℕ}
    (hp : p ≤ s.coordEvents.length) {replies : List Json}
    (hlater : ∀ call ∈ calls, s.coordEvents <+: call.1.coordEvents)
    (hrest : Followed (p + ((s.coordEvents.drop p).take (pageLimit limit)).length) n calls
      replies) : Followed p (((s.coordEvents.drop p).take (pageLimit limit)).length + n)
      ((s, limit) :: calls) (eventPage ((s.coordEvents.drop p).take (pageLimit limit))
        ((p + ((s.coordEvents.drop p).take (pageLimit limit)).length : ℕ) : ℤ)
        (s.coordEvents.length : ℕ) :: replies) := by
  have hlength : ((s.coordEvents.drop p).take (pageLimit limit)).length =
      min (pageLimit limit) (s.coordEvents.length - p) := by
    rw [length_take, length_drop]
  have hone : 1 ≤ pageLimit limit := Nat.le_max_left _ _
  refine ⟨?_, ?_, ?_⟩
  · intro t ht
    rw [forall_mem_cons] at ht
    obtain ⟨hle, hitems⟩ := hrest.delivered t ht.2
    have hst : s.coordEvents.length ≤ t.coordEvents.length := ht.1.length_le
    constructor
    · omega
    · rw [flatMap_cons, hitems, take_page ht.1 hp, map_append]
      rfl
  · intro before call after hcalls
    cases before with
    | nil =>
      obtain ⟨rfl, rfl⟩ := List.cons.inj hcalls
      by_cases hend : s.coordEvents.length ≤ p + ((s.coordEvents.drop p).take
          (pageLimit limit)).length
      · exact .inl (by dsimp only; omega)
      · -- the page is full, so this call handed over an event
        cases calls with
        | nil => exact .inr (by rw [length_nil]; omega)
        | cons call calls =>
          have hgrown := (hlater call (by simp)).length_le
          rcases hrest.progress [] call calls rfl with hall | hmany
          · exact .inl (by dsimp only; omega)
          · exact .inr (by rw [length_cons]; omega)
    | cons first before =>
      obtain ⟨-, hcalls⟩ := List.cons.inj hcalls
      rcases hrest.progress before call after hcalls with hall | hmany
      · exact .inl (by omega)
      · exact .inr (by omega)
  · refine List.Forall₂.cons ?_ hrest.more
    rw [coordEventsHead_eq h]
    change some (decide (_ < _)) = some false ↔ some _ = some _
    rw [some.injEq, some.injEq, decide_eq_false_iff_not]
    constructor
    · intro hnot
      have hpos : p + ((s.coordEvents.drop p).take (pageLimit limit)).length =
          s.coordEvents.length := by omega
      rw [hpos]
    · intro hcursor
      have hpos := encodeCursor_inj hcursor
      omega

theorem follow_eq_ok (hfeed : ∀ call ∈ calls, call.1.Feed)
    (hgrows : calls.Pairwise (fun a b => a.1.coordEvents <+: b.1.coordEvents))
    (hcursor : StandsAt cursor p) (hp : ∀ call ∈ calls, p ≤ call.1.coordEvents.length) :
    ∃ replies n, follow cursor calls = .ok replies ∧ Followed p n calls replies := by
  induction calls generalizing cursor p with
  | nil =>
    refine ⟨[], 0, rfl, ⟨?_, ?_, List.Forall₂.nil⟩⟩
    · intro t _
      exact ⟨Nat.zero_le _, by rw [take_zero]; rfl⟩
    · intro before call after hcalls
      simp at hcalls
  | cons call calls ih =>
    obtain ⟨s, limit⟩ := call
    rw [forall_mem_cons] at hfeed hp
    obtain ⟨hlater, hgrows⟩ := pairwise_cons.1 hgrows
    have hread := eventsRead_eq hfeed.1 hcursor hp.1 limit
    have hpage : p + ((s.coordEvents.drop p).take (pageLimit limit)).length ≤
        s.coordEvents.length := by
      rw [length_take, length_drop]
      have hstart := hp.1
      dsimp only at hstart
      omega
    obtain ⟨replies, n, hreplies, hrest⟩ := ih hfeed.2 hgrows (.inr rfl)
      (fun call hcall => hpage.trans (hlater call hcall).length_le)
    refine ⟨_, _, ?_, followed_cons hfeed.1 hp.1 hlater hrest⟩
    rw [follow]
    exact bind_eq_ok.2 ⟨_, hread, bind_eq_ok.2 ⟨_, hreplies, rfl⟩⟩

theorem Numbered.seq_lt (h : Numbered n l) :
    ∀ e ∈ l, e.seq < n + l.length := by
  induction l generalizing n with
  | nil => simp
  | cons e l ih =>
    rw [forall_mem_cons, length_cons]
    have hseq := h.1
    refine ⟨by omega, fun e' he' => ?_⟩
    have hlt := ih h.2 e' he'
    omega

/-- **A driver that hands back the cursors it is given sees the feed once, in order.**

From no cursor, or from the cursor of any event, with any limits and whatever is appended between
the calls: no call is refused; the events handed over are those that follow the start, each once, in
order and without a gap; each call hands over at least one until the driver has caught up with the
feed; and a reply says there is no more exactly if its cursor is the one of the feed's head. -/
theorem feed_is_read_once (s₀ : Store) (hempty : s₀.coordEvents = []) (calls : List (Store × Option ℕ))
    (hgrown : ∀ call ∈ calls, FeedGrows s₀ call.1)
    (hgrows : calls.Pairwise (fun a b => FeedGrows a.1 b.1)) (cursor : Option String) (p : ℕ)
    (hstart : (cursor = none ∧ p = 0) ∨ ∃ call ∈ calls.head?, ∃ e ∈ call.1.coordEvents,
      e.seq = p ∧ cursor = some (encodeCursor e.seq)) :
    ∃ replies n, follow cursor calls = .ok replies ∧ Followed p n calls replies := by
  have hfeed₀ : s₀.Feed := ⟨by rw [hempty]; trivial, by rw [hempty]; exact Nat.zero_le _⟩
  have hfeed : ∀ call ∈ calls, call.1.Feed := fun call hcall => (hgrown call hcall).feed hfeed₀
  have hlater := hgrows.imp (fun h => FeedGrows.extended h)
  rcases hstart with ⟨rfl, rfl⟩ | ⟨call, hcall, e, he, rfl, rfl⟩
  · exact follow_eq_ok hfeed hlater (.inl ⟨rfl, rfl⟩) (fun _ _ => Nat.zero_le _)
  · refine follow_eq_ok hfeed hlater (.inr rfl) ?_
    obtain ⟨calls, rfl⟩ := head?_eq_some_iff.1 hcall
    have hseq := (hfeed call (by simp)).numbered.seq_lt e he
    have hfirst : e.seq ≤ call.1.coordEvents.length := by omega
    rw [forall_mem_cons]
    refine ⟨hfirst, fun next hnext => ?_⟩
    exact hfirst.trans ((pairwise_cons.1 hlater).1 next hnext).length_le

/-- Two events, read one by one, with the second appended between the calls. -/
theorem feed_is_read_once_twice :
    ∃ replies n, follow none
      [((({} : Store).appendEventIn .staged none .null 0), some 1),
        ((({} : Store).appendEventIn .staged none .null 0).appendEventIn .staged none .null 1,
          none)] = .ok replies ∧
      Followed 0 n
        [((({} : Store).appendEventIn .staged none .null 0), some 1),
          ((({} : Store).appendEventIn .staged none .null 0).appendEventIn .staged none .null 1,
            none)] replies := by
  refine feed_is_read_once {} rfl _ ?_ ?_ none 0 (.inl ⟨rfl, rfl⟩)
  · intro call hcall
    rcases mem_cons.1 hcall with rfl | hcall
    · exact .append (.same rfl) (by decide) rfl
    · obtain rfl := mem_singleton.1 hcall
      exact .append (.append (.same rfl) (by decide) rfl) (by decide) rfl
  · refine pairwise_pair.2 ?_
    exact .append (.same rfl) (by decide) rfl

end Akson
