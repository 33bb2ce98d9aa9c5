/-
# The transport

What becomes of a call on the wire.  Nothing of the request leaves before the handshake is done:
until then a failure is clean, and from the first write on it is uncertain.
-/
import Akson.Broker.Response

namespace Akson

open Operation Except Option List Http

/-- What one read returns. -/
abbrev Segment : Type := { bytes : Bytes // 0 < bytes.length ∧ bytes.length ≤ 4096 }

inductive ReadResult where
  | data (segment : Segment)
  | closed
  | unexpectedEof
  | failed (detail : String)

/-- How each stage of one connection ends. -/
structure Connection where
  config : Except String Unit
  connect : Except String Unit
  handshake : Except String Unit
  written : Except String Unit
  reads : List ReadResult

inductive TransportError where
  | clean (detail : String)
  | uncertain (detail : String)

def TransportResult.of : Except TransportError CallResponse → TransportResult
  | .ok response => .ok response
  | .error (.clean detail) => .clean detail
  | .error (.uncertain detail) => .uncertain detail

def readLoop (cap : ℕ) : List ReadResult → Bytes → Except TransportError Bytes
  -- no further read returns in time
  | [], _ => .error (.uncertain "response timed out")
  | .closed :: _, raw => .ok raw
  | .data segment :: reads, raw =>
    if cap ≤ (raw ++ segment.val).length then .ok (raw ++ segment.val)
    else readLoop cap reads (raw ++ segment.val)
  | .unexpectedEof :: _, raw => .ok raw
  | .failed detail :: _, _ => .error (.uncertain detail)

def rawCap (maxResponseBytes : ℕ) : ℕ := maxResponseBytes + 8192

def HttpsTransport.send (serverName : String → Bool) (host : String) (maxResponseBytes : ℕ)
    (c : Connection) : Except TransportError CallResponse := do
  c.config.mapError .clean
  c.connect.mapError .clean
  ensure (serverName host = true) (.clean "bad host")
  c.handshake.mapError .clean
  c.written.mapError .uncertain
  let raw ← readLoop (rawCap maxResponseBytes) c.reads []
  okOr (splitResponse raw) (.uncertain "no HTTP response")

/-! ## What was received -/

def bytesOf (segments : List Segment) : Bytes := segments.flatMap Subtype.val

@[simp] theorem bytesOf_nil : bytesOf [] = [] := rfl

@[simp] theorem bytesOf_cons (segment : Segment) (segments : List Segment) :
    bytesOf (segment :: segments) = segment.val ++ bytesOf segments := rfl

theorem bytesOf_append (segments segments' : List Segment) :
    bytesOf (segments ++ segments') = bytesOf segments ++ bytesOf segments' :=
  flatMap_append

/-- The reads stop at the first that fills the cap or ends. -/
structure ReadEnds (cap : ℕ) (raw : Bytes) (arrived : List Segment) (rest : List ReadResult) :
    Prop where
  under : ∀ earlier, earlier <+: arrived → earlier ≠ arrived → (raw ++ bytesOf earlier).length < cap
  ends : cap ≤ (raw ++ bytesOf arrived).length ∨
    rest.head? = some .closed ∨ rest.head? = some .unexpectedEof

namespace Connection

/-- The request was written. -/
structure Established (c : Connection) (serverName : String → Bool) (host : String) : Prop where
  config : c.config = .ok ()
  connect : c.connect = .ok ()
  name : serverName host = true
  handshake : c.handshake = .ok ()
  written : c.written = .ok ()

def Received (c : Connection) (maxResponseBytes : ℕ) (raw : Bytes) : Prop :=
  ∃ arrived rest, c.reads = arrived.map .data ++ rest ∧ raw = bytesOf arrived ∧
    ReadEnds (rawCap maxResponseBytes) [] arrived rest

end Connection

section Loop

variable {cap : ℕ} {raw raw' : Bytes} {arrived : List Segment} {rest : List ReadResult}

theorem ReadEnds.nil (h : cap ≤ raw.length ∨ rest.head? = some .closed ∨
    rest.head? = some .unexpectedEof) : ReadEnds cap raw [] rest where
  under earlier hearlier hne := absurd (prefix_nil.1 hearlier) hne
  ends := by rwa [bytesOf_nil, append_nil]

theorem ReadEnds.cons {segment : Segment} (hraw : raw.length < cap)
    (h : ReadEnds cap (raw ++ segment.val) arrived rest) :
    ReadEnds cap raw (segment :: arrived) rest where
  under earlier hearlier hne := by
    cases earlier with
    | nil => rwa [bytesOf_nil, append_nil]
    | cons first earlier =>
      obtain ⟨rfl, htail⟩ := cons_prefix_cons.1 hearlier
      rw [bytesOf_cons, ← append_assoc]
      exact h.under earlier htail (fun heq => hne (congrArg _ heq))
  ends := by
    rw [bytesOf_cons, ← append_assoc]
    exact h.ends

theorem readEnds_of_readLoop {reads : List ReadResult} (hraw : raw.length < cap)
    (h : readLoop cap reads raw = .ok raw') :
    ∃ arrived rest, reads = arrived.map .data ++ rest ∧ raw' = raw ++ bytesOf arrived ∧
      ReadEnds cap raw arrived rest := by
  induction reads generalizing raw with
  | nil => cases h
  | cons read reads ih =>
    cases read with
    | closed =>
      cases h
      exact ⟨[], _, rfl, (append_nil _).symm, .nil (.inr (.inl rfl))⟩
    | unexpectedEof =>
      cases h
      exact ⟨[], _, rfl, (append_nil _).symm, .nil (.inr (.inr rfl))⟩
    | failed detail => cases h
    | data segment =>
      rw [readLoop] at h
      split at h
      case isTrue hcap =>
        cases h
        refine ⟨[segment], reads, rfl, ?_, .cons hraw (.nil (.inl hcap))⟩
        rw [bytesOf_cons, bytesOf_nil, append_nil]
      case isFalse hcap =>
        obtain ⟨arrived, rest, rfl, rfl, hends⟩ := ih (Nat.not_le.1 hcap) h
        refine ⟨segment :: arrived, rest, rfl, ?_, .cons hraw hends⟩
        rw [bytesOf_cons, append_assoc]

theorem readLoop_of_readEnds (hraw : raw.length < cap) (h : ReadEnds cap raw arrived rest) :
    readLoop cap (arrived.map .data ++ rest) raw = .ok (raw ++ bytesOf arrived) := by
  induction arrived generalizing raw with
  | nil =>
    rw [map_nil, nil_append, bytesOf_nil, append_nil]
    obtain hcap | hclosed | heof := h.ends
    · rw [bytesOf_nil, append_nil] at hcap
      exact absurd hcap (Nat.not_le.2 hraw)
    · rw [head?_eq_some_iff] at hclosed
      obtain ⟨rest', rfl⟩ := hclosed
      rfl
    · rw [head?_eq_some_iff] at heof
      obtain ⟨rest', rfl⟩ := heof
      rfl
  | cons segment arrived ih =>
    rw [map_cons, cons_append, readLoop, bytesOf_cons, ← append_assoc]
    split
    case isTrue hcap =>
      -- the cap is reached with the last segment only
      have hlast : arrived = [] := by
        by_contra hne
        have hunder := h.under [segment] ⟨arrived, rfl⟩ (fun heq => hne (List.cons.inj heq).2.symm)
        rw [bytesOf_cons, bytesOf_nil, append_nil] at hunder
        exact absurd hcap (Nat.not_le.2 hunder)
      rw [hlast, bytesOf_nil, append_nil]
    case isFalse hcap =>
      apply ih (Nat.not_le.1 hcap)
      refine ⟨fun earlier hearlier hne => ?_, ?_⟩
      · have hunder := h.under (segment :: earlier) (cons_prefix_cons.2 ⟨rfl, hearlier⟩)
          (fun heq => hne (List.cons.inj heq).2)
        rwa [bytesOf_cons, ← append_assoc] at hunder
      · have hends := h.ends
        rwa [bytesOf_cons, ← append_assoc] at hends

end Loop

section Send

variable {serverName : String → Bool} {host : String} {maxResponseBytes : ℕ} {c : Connection}

variable {raw : Bytes}

theorem readLoop_eq_ok_iff :
    readLoop (rawCap maxResponseBytes) c.reads [] = .ok raw ↔ c.Received maxResponseBytes raw := by
  have hpos : ([] : Bytes).length < rawCap maxResponseBytes := by
    unfold rawCap
    exact Nat.succ_pos _
  constructor
  · intro h
    exact readEnds_of_readLoop hpos h
  · rintro ⟨arrived, rest, hreads, rfl, hends⟩
    rw [hreads]
    exact readLoop_of_readEnds hpos hends

theorem send_eq_ok_iff {response : CallResponse} :
    HttpsTransport.send serverName host maxResponseBytes c = .ok response ↔
      c.Established serverName host ∧
        ∃ raw, c.Received maxResponseBytes raw ∧ splitResponse raw = some response := by
  simp only [HttpsTransport.send, bind_eq_ok, mapError_eq_ok, ensure_eq_ok,
    okOr_eq_ok, readLoop_eq_ok_iff]
  constructor
  · rintro ⟨⟨⟩, hconfig, ⟨⟩, hconnect, ⟨⟩, hname, ⟨⟩, hhandshake, ⟨⟩, hwritten, hraw⟩
    exact ⟨⟨hconfig, hconnect, hname, hhandshake, hwritten⟩, hraw⟩
  · rintro ⟨h, hraw⟩
    exact ⟨(), h.config, (), h.connect, (), h.name, (), h.handshake, (), h.written, hraw⟩

theorem Connection.Received.unique {raw' : Bytes} (h : c.Received maxResponseBytes raw)
    (h' : c.Received maxResponseBytes raw') : raw = raw' :=
  ok.inj ((readLoop_eq_ok_iff.2 h).symm.trans (readLoop_eq_ok_iff.2 h'))

theorem Connection.Received.length_le (h : c.Received maxResponseBytes raw) :
    raw.length ≤ maxResponseBytes + 12287 := by
  obtain ⟨arrived, rest, -, rfl, hends⟩ := h
  rcases arrived.eq_nil_or_concat with rfl | ⟨init, last, rfl⟩
  · exact Nat.zero_le _
  · have hinit := hends.under init ⟨[last], (concat_eq_append).symm⟩
      (fun heq => by simpa using congrArg List.length heq)
    rw [nil_append, rawCap] at hinit
    rw [concat_eq_append, bytesOf_append, bytesOf_cons, bytesOf_nil, append_nil,
      length_append]
    have hlast := last.property.2
    omega

end Send

/-! ## How long a response can be -/

theorem length_bytesOf_le {earlier arrived : List Segment} (h : earlier <+: arrived) :
    (bytesOf earlier).length ≤ (bytesOf arrived).length := by
  obtain ⟨later, rfl⟩ := h
  rw [bytesOf_append, length_append]
  exact Nat.le_add_right _ _

def oneByOne (bytes : Bytes) : List Segment := bytes.map (fun b => ⟨[b], by simp⟩)

theorem bytesOf_oneByOne (bytes : Bytes) : bytesOf (oneByOne bytes) = bytes := by
  induction bytes with
  | nil => rfl
  | cons b bytes ih =>
    rw [oneByOne, map_cons, ← oneByOne, bytesOf_cons, ih, singleton_append]

def Connection.reading (reads : List ReadResult) : Connection :=
  ⟨.ok (), .ok (), .ok (), .ok (), reads⟩

theorem received_over_cap (maxResponseBytes : ℕ) (front : Bytes) (last : Segment)
    (hfront : front.length < rawCap maxResponseBytes)
    (hlast : rawCap maxResponseBytes ≤ (front ++ last.val).length) :
    (Connection.reading ((oneByOne front ++ [last]).map .data)).Received maxResponseBytes
      (front ++ last.val) := by
  have hraw : bytesOf (oneByOne front ++ [last]) = front ++ last.val := by
    rw [bytesOf_append, bytesOf_oneByOne, bytesOf_cons, bytesOf_nil, append_nil]
  refine ⟨_, [], (append_nil _).symm, hraw.symm, ?_, .inl ?_⟩
  · intro earlier hearlier hne
    rcases prefix_concat_iff.1 hearlier with heq | hearlier
    · exact absurd heq hne
    · have hle := length_bytesOf_le hearlier
      rw [bytesOf_oneByOne] at hle
      exact hle.trans_lt hfront
  · rw [nil_append, hraw]
    exact hlast

def bareHead : String := "HTTP/1.1 200"

theorem splitFirst_bareHead (body : Bytes) :
    List.splitFirst blankLine (utf8 bareHead ++ blankLine ++ body) =
      some (utf8 bareHead, body) :=
  splitFirst_append (by decide) body

theorem splitResponse_bareHead (body : Bytes) :
    splitResponse (utf8 bareHead ++ blankLine ++ body) = some ⟨200, body⟩ := by
  have hhead : fromUtf8 (utf8 bareHead) = some bareHead := fromUtf8_eq_some_iff.2 rfl
  have hstatus : statusCode bareHead = some 200 := rfl
  have hplain : (Text.lines bareHead).any announcesChunked = false := rfl
  simp only [splitResponse, splitFirst_bareHead, hhead, hstatus, hplain, bind_eq_bind,
    bind_some, Bool.false_eq_true, if_false]

theorem exists_received (maxResponseBytes : ℕ) (raw : Bytes)
    (hlength : raw.length = maxResponseBytes + 12287) :
    ∃ reads, (Connection.reading reads).Received maxResponseBytes raw := by
  -- all but the last segment stay one byte under the cap
  have hfront : (raw.take (maxResponseBytes + 8191)).length = maxResponseBytes + 8191 := by
    rw [length_take, hlength]
    omega
  have hlast : (raw.drop (maxResponseBytes + 8191)).length = 4096 := by
    rw [length_drop, hlength]
    omega
  have hwhole := take_append_drop (maxResponseBytes + 8191) raw
  have hreceived := received_over_cap maxResponseBytes (raw.take (maxResponseBytes + 8191))
    ⟨raw.drop (maxResponseBytes + 8191), by omega, hlast.le⟩ (by unfold rawCap; omega)
    (by rw [hwhole, hlength]; unfold rawCap; omega)
  rw [hwhole] at hreceived
  exact ⟨_, hreceived⟩

/-- The body of a response and its head, with the empty line, are together no longer than the budget
and a fixed allowance; and for every budget there is a response for which they are as long. -/
theorem response_length_bound (maxResponseBytes : ℕ) :
    (∀ (serverName : String → Bool) (host : String) (c : Connection) (response : CallResponse),
      HttpsTransport.send serverName host maxResponseBytes c = .ok response →
      ∃ raw head rawBody, c.Received maxResponseBytes raw ∧
        List.splitFirst blankLine raw = some (head, rawBody) ∧
        response.body.length + (head.length + 4) ≤ maxResponseBytes + 12287) ∧
    ∃ (serverName : String → Bool) (host : String) (c : Connection) (response : CallResponse),
      HttpsTransport.send serverName host maxResponseBytes c = .ok response ∧
      ∃ raw head rawBody, c.Received maxResponseBytes raw ∧
        List.splitFirst blankLine raw = some (head, rawBody) ∧
        response.body.length + (head.length + 4) = maxResponseBytes + 12287 := by
  constructor
  · intro serverName host c response h
    obtain ⟨-, raw, hraw, hresponse⟩ := send_eq_ok_iff.1 h
    obtain ⟨head, rawBody, hcut, -, hbody⟩ := splitResponse_eq_some hresponse
    refine ⟨raw, utf8 head, rawBody, hraw, hcut, ?_⟩
    have hlength := hraw.length_le
    rw [eq_append_of_splitFirst hcut, length_append, length_append] at hlength
    have hblank : blankLine.length = 4 := rfl
    have hdecoded : response.body.length ≤ rawBody.length := by
      rcases hbody with hbody | hbody
      · rw [hbody]
      · rw [hbody]
        exact length_dechunk_le rawBody
    omega
  · obtain ⟨body, hbody⟩ : ∃ body : Bytes, body.length = maxResponseBytes + 12271 :=
      ⟨List.replicate _ 0, length_replicate⟩
    have hhead : (utf8 bareHead).length = 12 := by decide
    have hblank : blankLine.length = 4 := rfl
    have hlength : (utf8 bareHead ++ blankLine ++ body).length = maxResponseBytes + 12287 := by
      rw [length_append, length_append, hhead, hblank, hbody]
      omega
    obtain ⟨reads, hreceived⟩ := exists_received maxResponseBytes _ hlength
    have hsend : HttpsTransport.send (fun _ => true) "" maxResponseBytes (.reading reads) =
        .ok ⟨200, body⟩ :=
      send_eq_ok_iff.2 ⟨⟨rfl, rfl, rfl, rfl, rfl⟩, _, hreceived, splitResponse_bareHead body⟩
    refine ⟨_, _, _, _, hsend, _, _, body, hreceived, splitFirst_bareHead body, ?_⟩
    rw [hhead, hbody]

def Connection.closing (bytes : Bytes) : Connection :=
  .reading ((oneByOne bytes).map .data ++ [.closed])

theorem received_closing {maxResponseBytes : ℕ} {bytes : Bytes}
    (h : bytes.length < rawCap maxResponseBytes) :
    (Connection.closing bytes).Received maxResponseBytes bytes := by
  refine ⟨_, [.closed], rfl, (bytesOf_oneByOne bytes).symm, fun earlier hearlier _ => ?_,
    .inr (.inl rfl)⟩
  have hle := length_bytesOf_le hearlier
  rw [bytesOf_oneByOne] at hle
  exact hle.trans_lt h

/-- A body of two bytes under a budget of one. -/
theorem response_over_budget :
    ∃ (c : Connection) (response : CallResponse),
      HttpsTransport.send (fun _ => true) "llm.example" 1 c = .ok response ∧
      ¬ response.body.length ≤ 1 :=
  ⟨_, ⟨200, utf8 "ok"⟩, send_eq_ok_iff.2 ⟨⟨rfl, rfl, rfl, rfl, rfl⟩, _,
    received_closing (by decide), splitResponse_bareHead (utf8 "ok")⟩, by decide⟩

/-! ## What is recorded -/

variable {q : CallRequest} {out : Outbound} {s : Store} {body : Bytes}

theorem callState_finishCall {new : SubAttemptState} (result : TransportResult)
    (hs : s.callState out.call.idempotencyKey = some .dispatching)
    (hnew : SubAttemptState.dispatching.next result.event = .ok new) :
    (exec (finishCall q out result) s).2.callState out.call.idempotencyKey = some new := by
  obtain ⟨row, hrow, hstate⟩ := map_eq_some_iff.1 hs
  obtain ⟨s', hadvance⟩ := advanceCall_total hrow result.event q.now
  rw [hstate, hnew] at hadvance
  have hmark : exec (Broker.advance out.call.idempotencyKey result.event q.now) s = (.ok new, s') := by
    rw [exec, advance_of_ok hadvance]
    rfl
  have hend : (exec (finishCall q out result) s).2 = s' := by
    rw [finishCall, exec_bind_of_ok hmark]
    cases result <;> rfl
  obtain ⟨row', -, -, ⟨e, herror, -⟩ | ⟨new', calls, hnew', -, -, hself, -⟩⟩ :=
    advanceCall_cases hadvance
  · cases herror
  · obtain rfl := ok.inj hnew'
    rw [hend, Store.callState, hself]
    rfl

theorem completed_iff_response (sent : Except TransportError CallResponse)
    (hs : s.callState out.call.idempotencyKey = some .dispatching) :
    (exec (finishCall q out (.of sent)) s).2.callState out.call.idempotencyKey =
      some .completed ↔ ∃ response, sent = .ok response := by
  cases sent with
  | ok response => exact iff_of_true (callState_finishCall (.ok response) hs rfl) ⟨response, rfl⟩
  | error e =>
    have hnone : ¬ ∃ response, (.error e : Except TransportError CallResponse) = .ok response := by
      rintro ⟨response, hresponse⟩
      cases hresponse
    cases e with
    | clean detail =>
      refine iff_of_false ?_ hnone
      rw [TransportResult.of, callState_finishCall (.clean detail) hs rfl]
      decide
    | uncertain detail =>
      refine iff_of_false ?_ hnone
      rw [TransportResult.of, callState_finishCall (.uncertain detail) hs rfl]
      decide

/-- A call is recorded as completed only if its response has arrived in full, exactly if what has
arrived by the end of the reading is a whole message whenever it has a head. -/
theorem completed_in_full_iff (q : CallRequest) (out : Outbound) (s : Store)
    (serverName : String → Bool) (c : Connection)
    (hs : s.callState out.call.idempotencyKey = some .dispatching) :
    ((exec (finishCall q out (.of (HttpsTransport.send serverName out.call.origin.host
        out.call.maxResponseBytes c))) s).2.callState out.call.idempotencyKey = some .completed →
      ∃ raw, c.Received out.call.maxResponseBytes raw ∧ Http.Whole usizeMax raw) ↔
    (c.Established serverName out.call.origin.host →
      ∀ raw, c.Received out.call.maxResponseBytes raw → HasHead raw → Http.Whole usizeMax raw) := by
  rw [completed_iff_response _ hs]
  constructor
  · intro h hestablished raw hraw hhead
    obtain ⟨response, hresponse⟩ := isSome_iff_exists.1 (splitResponse_isSome_iff.2 hhead)
    obtain ⟨raw', hraw', hwhole⟩ :=
      h ⟨response, send_eq_ok_iff.2 ⟨hestablished, raw, hraw, hresponse⟩⟩
    rwa [hraw'.unique hraw] at hwhole
  · rintro h ⟨response, hresponse⟩
    obtain ⟨hestablished, raw, hraw, hsplit⟩ := send_eq_ok_iff.1 hresponse
    have hhead : HasHead raw := by
      rw [← splitResponse_isSome_iff, hsplit, isSome_some]
    exact ⟨raw, hraw, h hestablished raw hraw hhead⟩

def pendingOut : Outbound where
  call := ⟨"llm", "example", ⟨"https", "llm.example", 443⟩, "config", "request", "order-1", "order",
    "task-1", "key-1", 0, "2027-01-15T08:00:00Z", 16⟩
  policy := ⟨[⟨"https", "llm.example", 443⟩], false⟩
  path := "/"
  expectedCert := none
  auth := .bearer
  credential := none
  headers := []
  request := []

def pendingStore : Store where
  processorCalls := .single ((pendingOut.call.row 0).withState .dispatching)

def twoBytesHead : String := "HTTP/1.1 200\r\nContent-Length: 2"

theorem splitFirst_twoBytesHead (body : Bytes) :
    List.splitFirst blankLine (utf8 twoBytesHead ++ blankLine ++ body) =
      some (utf8 twoBytesHead, body) := by
  rfl

theorem whole_twoBytesHead_iff :
    Http.Whole usizeMax (utf8 twoBytesHead ++ blankLine ++ body) ↔ 2 ≤ body.length := by
  have hplain : isChunked twoBytesHead = false := rfl
  have hlength : contentLength twoBytesHead = some 2 := rfl
  constructor
  · rintro ⟨head, rawBody, hcut, hwhole⟩
    rw [splitFirst_twoBytesHead, some.injEq, Prod.mk.injEq] at hcut
    obtain ⟨hhead, rfl⟩ := hcut
    obtain rfl : twoBytesHead = head := String.toList_inj.1 (Json.utf8_inj hhead)
    rw [Http.BodyWhole, hplain, if_neg Bool.false_ne_true, hlength] at hwhole
    obtain ⟨n, hn, hle⟩ := hwhole
    rwa [← some.inj hn] at hle
  · intro hle
    refine ⟨twoBytesHead, body, splitFirst_twoBytesHead body, ?_⟩
    rw [Http.BodyWhole, hplain, if_neg Bool.false_ne_true]
    exact ⟨2, hlength, hle⟩

def pendingRecorded (body : Bytes) : Option SubAttemptState :=
  (exec (finishCall ⟨"llm", "order-1", [], 1⟩ pendingOut (.of (HttpsTransport.send (fun _ => true)
    pendingOut.call.origin.host pendingOut.call.maxResponseBytes
    (.closing (utf8 twoBytesHead ++ blankLine ++ body))))) pendingStore).2.callState
    pendingOut.call.idempotencyKey

theorem pendingOut_dispatching :
    pendingStore.callState pendingOut.call.idempotencyKey = some .dispatching := by
  decide

theorem pendingRecorded_completed (h : (Connection.closing (utf8 twoBytesHead ++
    blankLine ++ body)).Received 16 (utf8 twoBytesHead ++ blankLine ++ body)) :
    pendingRecorded body = some .completed := by
  obtain ⟨response, hresponse⟩ :=
    isSome_iff_exists.1 (splitResponse_isSome_iff.2 ⟨_, body, splitFirst_twoBytesHead body, rfl⟩)
  refine (completed_iff_response _ pendingOut_dispatching).2 ⟨response, send_eq_ok_iff.2 ?_⟩
  exact ⟨⟨rfl, rfl, rfl, rfl, rfl⟩, _, h, hresponse⟩

/-- A response that is closed behind the two bytes it announces. -/
theorem completed_in_full_two_bytes : pendingRecorded (utf8 "ok") = some .completed ∧
    ∃ raw, (Connection.closing (utf8 twoBytesHead ++ blankLine ++ utf8 "ok")).Received 16 raw ∧
      Http.Whole usizeMax raw := by
  have hreceived : (Connection.closing (utf8 twoBytesHead ++ blankLine ++ utf8 "ok")).Received 16
      _ := received_closing (by decide)
  have hcompleted := pendingRecorded_completed hreceived
  refine ⟨hcompleted, (completed_in_full_iff ⟨"llm", "order-1", [], 1⟩ pendingOut pendingStore
    (fun _ => true) _ pendingOut_dispatching).2 ?_ hcompleted⟩
  intro _ raw hraw _
  rw [hraw.unique hreceived]
  exact whole_twoBytesHead_iff.2 (by decide)

/-- A response that is closed behind one of them is recorded as completed. -/
theorem completed_by_early_close : pendingStore.callState pendingOut.call.idempotencyKey =
      some .dispatching ∧ pendingRecorded (utf8 "o") = some .completed ∧
    ¬ ∃ raw, (Connection.closing (utf8 twoBytesHead ++ blankLine ++ utf8 "o")).Received 16 raw ∧
      Http.Whole usizeMax raw := by
  have hreceived : (Connection.closing (utf8 twoBytesHead ++ blankLine ++ utf8 "o")).Received 16
      _ := received_closing (by decide)
  refine ⟨pendingOut_dispatching, pendingRecorded_completed hreceived, ?_⟩
  rintro ⟨raw, hraw, hwhole⟩
  rw [hraw.unique hreceived, whole_twoBytesHead_iff] at hwhole
  exact absurd hwhole (by decide)

end Akson
