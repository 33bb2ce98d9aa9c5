/-
# Writing a request

The head of a request to a processor is put together as text, from the configuration the operator
gave and the credential.
-/
import Akson.Lib.HttpRequest
import Akson.Broker.Dispatch

namespace Akson

open Operation Except Option List Http

/-! ## Configuring -/

/-- The operator's request to add a processor. -/
structure ProcessorAdd where
  processorId : String
  provider : String
  originHost : String
  originPort : ℕ
  isLocal : Bool
  tlsCertificateSha256 : Option String
  path : Option String
  auth : Option String
  headers : List String

namespace ProcessorAdd

def authScheme (a : ProcessorAdd) : AuthScheme :=
  match a.auth with
  | none => .bearer
  | some name => if name = "bearer" then .bearer else if name = "none" then .none else .header name

def staticHeaders (a : ProcessorAdd) : List (String × String) :=
  (a.headers.filterMap (Text.splitOnce ':')).map (fun h => (Text.trim h.1, Text.trim h.2))

def disclosure (a : ProcessorAdd) : ProcessorDisclosure :=
  if a.isLocal then ⟨.localHost, none, none, none, none, []⟩
  else ⟨.remote, some a.provider, some "configured", none, none, []⟩

def config (a : ProcessorAdd) : ProcessorConfig where
  processorId := a.processorId
  provider := a.provider
  origin := ⟨"https", Text.toAsciiLowercase a.originHost, a.originPort⟩
  disclosure := a.disclosure
  path := a.path.getD "/"
  auth := a.authScheme
  headers := a.staticHeaders
  config := .obj []
  tlsCertificateSha256 := a.tlsCertificateSha256

end ProcessorAdd

def processorAdd (a : ProcessorAdd) (now : Time) : Operation Store Problem Json := do
  commit (putProcessor a.config now) (fun _ => internal)
  pure (.obj [("added", .bool true), ("processor_id", .str a.processorId)])

def processorCredential (processorId credential : String) (now : Time) :
    Operation Store Problem Json := do
  commit (putCredential processorId (utf8 credential) now) (fun _ => internal)
  pure (.obj [("credential_set", .bool true), ("processor_id", .str processorId)])

/-! ## The head -/

def AuthScheme.headerLine (auth : AuthScheme) (credential : Bytes) : Option String :=
  match auth with
  | .bearer => some ("Authorization: Bearer " ++ utf8Lossy credential)
  | .header name => some (name ++ ": " ++ utf8Lossy credential)
  | .none => Option.none

def withoutLineEnds (s : String) : String :=
  String.ofList (s.toList.filter (fun c => c ≠ '\r' ∧ c ≠ '\n'))

def staticLine (header : String × String) : String :=
  withoutLineEnds header.1 ++ ": " ++ withoutLineEnds header.2 ++ "\r\n"

def requestTarget (path : String) : String := if path.toList.head? = some '/' then path else "/"

namespace Outbound

def authLine (out : Outbound) : String :=
  match out.credential.bind (out.auth.headerLine) with
  | some line => line ++ "\r\n"
  | none => ""

def requestHead (out : Outbound) : String :=
  "POST " ++ requestTarget out.path ++ " HTTP/1.1\r\nHost: " ++ out.call.origin.host ++
    "\r\nContent-Type: application/json\r\n" ++ out.authLine ++
    String.join (out.headers.map staticLine) ++ "Content-Length: " ++ toString out.request.length ++
    "\r\nConnection: close\r\n\r\n"

def requestBytes (out : Outbound) : Bytes :=
  utf8 (out.requestHead) ++ out.request

end Outbound

/-! ## The request that is meant -/

def AuthScheme.field (auth : AuthScheme) (credential : String) : Option (String × String) :=
  match auth with
  | .bearer => some ("Authorization", "Bearer " ++ credential)
  | .header name => some (name, credential)
  | .none => Option.none

def requestFields (host : String) (own : List (String × String)) (length : ℕ) :
    List (String × String) :=
  [("Host", host), ("Content-Type", "application/json")] ++ own ++
    [("Content-Length", toString length), ("Connection", "close")]

def fieldBytes (field : String × String) : Bytes × Bytes := (utf8 field.1, utf8 field.2)

def fieldRead (field : String × String) : Bytes × Bytes :=
  (utf8 field.1, trimBlanks (utf8 field.2))

namespace ProcessorConfig

def ownFields (config : ProcessorConfig) (credential : String) : List (String × String) :=
  (config.auth.field credential).toList ++ config.headers

def request (config : ProcessorConfig) (credential : String) (body : Bytes) : Http.Request where
  method := utf8 "POST"
  target := utf8 config.path
  fields := (requestFields config.origin.host (config.ownFields credential) body.length).map fieldRead
  body := body

/-- The texts of a configuration stay in their places in a request: the path begins with a slash and
is a target, names are tokens, values stay on their line, and no header gives the body another
length. -/
structure Inert (config : ProcessorConfig) (credential : String) (body : Bytes) : Prop where
  absolute : config.path.toList.head? = some '/'
  target : isTarget (utf8 config.path) = true
  fields : ∀ field ∈ config.ownFields credential, isToken (utf8 field.1) = true ∧
    isValue (utf8 field.2) = true ∧ agrees body.length (fieldRead field) = true

end ProcessorConfig

theorem utf8_append (a b : String) : utf8 (a ++ b) = utf8 a ++ utf8 b := by
  rw [utf8, String.toList_append, Json.utf8, flatMap_append]
  rfl

theorem utf8_join (texts : List String) : utf8 (String.join texts) = texts.flatMap utf8 := by
  induction texts with
  | nil => rfl
  | cons text texts ih => rw [String.join_cons, utf8_append, ih, flatMap_cons]

def fieldLine (field : String × String) : String := field.1 ++ ": " ++ field.2 ++ "\r\n"

theorem utf8_head (target : String) (fields : List (String × String)) (body : Bytes) :
    utf8 ("POST " ++ target ++ " HTTP/1.1\r\n" ++ String.join (fields.map fieldLine) ++ "\r\n") ++
      body = message (headLines (utf8 "POST") (utf8 target) (fields.map fieldBytes)) body := by
  have hlines : (fields.map fieldLine).flatMap utf8 = (fields.map fieldBytes).flatMap
      (fun field => (field.1 ++ 0x3a :: 0x20 :: field.2) ++ Chunked.crlf) := by
    rw [flatMap_map, flatMap_map]
    congr 1
    funext field
    simp only [fieldLine, fieldBytes, utf8_append, append_assoc]
    rfl
  simp only [utf8_append, utf8_join, hlines, message, headLines, flatMap_cons,
    flatMap_map, append_assoc, cons_append]
  rfl

def Outbound.sentFields (out : Outbound) : List (String × String) :=
  requestFields out.call.origin.host
    ((out.credential.bind (fun credential => out.auth.field (utf8Lossy credential))).toList ++
      out.headers.map (fun h => (withoutLineEnds h.1, withoutLineEnds h.2))) out.request.length

theorem AuthScheme.headerLine_eq (auth : AuthScheme) (credential : Bytes) :
    (auth.headerLine credential).map (· ++ "\r\n") =
      (auth.field (utf8Lossy credential)).map fieldLine := by
  cases auth with
  | bearer =>
    simp only [AuthScheme.headerLine, AuthScheme.field, fieldLine, map_some,
      String.append_assoc]
    rfl
  | header name =>
    simp only [AuthScheme.headerLine, AuthScheme.field, fieldLine, map_some]
  | none => rfl

theorem Outbound.authLine_eq (out : Outbound) :
    out.authLine = String.join (((out.credential.bind (fun credential =>
      out.auth.field (utf8Lossy credential))).toList).map fieldLine) := by
  unfold Outbound.authLine
  cases hcredential : out.credential with
  | none => rfl
  | some credential =>
    have hline := AuthScheme.headerLine_eq out.auth credential
    rw [bind_some, bind_some]
    cases hauth : out.auth.headerLine credential with
    | none =>
      rw [hauth, map_none, eq_comm, map_eq_none_iff] at hline
      rw [hline]
      rfl
    | some line =>
      rw [hauth, map_some, eq_comm, map_eq_some_iff] at hline
      obtain ⟨field, hfield, hline⟩ := hline
      rw [hfield, toList_some, map_singleton, String.join_cons, String.join_nil, hline,
        String.append_empty]

theorem Outbound.requestBytes_eq (out : Outbound) :
    out.requestBytes = message (headLines (utf8 "POST")
      (utf8 (requestTarget out.path)) ((out.sentFields).map fieldBytes)) out.request := by
  have hstatic : (out.headers.map (fun h => (withoutLineEnds h.1, withoutLineEnds h.2))).map fieldLine =
      out.headers.map staticLine := map_map
  have hhead : out.requestHead = "POST " ++ requestTarget out.path ++ " HTTP/1.1\r\n" ++
      String.join ((out.sentFields).map fieldLine) ++ "\r\n" := by
    rw [← String.toList_inj]
    simp only [Outbound.requestHead, Outbound.authLine_eq, Outbound.sentFields, requestFields,
      map_append, hstatic, String.toList_append, String.toList_join, flatMap_append,
      map_cons, map_nil, flatMap_cons, flatMap_nil, fieldLine, append_nil,
      append_assoc]
    rfl
  rw [Outbound.requestBytes, hhead, utf8_head]

/-! ## When it is the request that is meant -/

variable {s host : String} {length : ℕ} {own : List (String × String)}

theorem mem_utf8 {c : Char} {b : UInt8} (hc : c ∈ s.toList) (hb : b ∈ String.utf8EncodeChar c) :
    b ∈ utf8 s :=
  mem_flatMap.2 ⟨c, hc, hb⟩

theorem withoutLineEnds_of_notMem (hcr : 13 ∉ utf8 s) (hlf : 10 ∉ utf8 s) :
    withoutLineEnds s = s := by
  have hkeep : s.toList.filter (fun c => c ≠ '\r' ∧ c ≠ '\n') = s.toList := by
    rw [filter_eq_self]
    intro c hc
    refine decide_eq_true ⟨?_, ?_⟩
    · rintro rfl
      exact hcr (mem_utf8 hc (by decide))
    · rintro rfl
      exact hlf (mem_utf8 hc (by decide))
  rw [withoutLineEnds, hkeep, String.ofList_toList]

theorem withoutLineEnds_of_isToken (h : isToken (utf8 s) = true) : withoutLineEnds s = s :=
  withoutLineEnds_of_notMem (notMem_of_all (isToken_iff.1 h).2 (by decide))
    (notMem_of_all (isToken_iff.1 h).2 (by decide))

theorem withoutLineEnds_of_isValue (h : isValue (utf8 s) = true) : withoutLineEnds s = s :=
  withoutLineEnds_of_notMem (notMem_of_all h (by decide)) (notMem_of_all h (by decide))

theorem named_fieldRead {name : String} (field value : String) :
    named name (fieldRead (field, value)) = named name (utf8 field, []) :=
  rfl

theorem agrees_of_not_named {field : String} (value : String)
    (htransfer : named "transfer-encoding" (utf8 field, []) = false)
    (hlength : named "content-length" (utf8 field, []) = false) :
    agrees length (fieldRead (field, value)) = true := by
  rw [agrees, named_fieldRead, named_fieldRead, htransfer, hlength]
  rfl

theorem utf8_toString (n : ℕ) : utf8 (toString n) = Json.utf8 (Nat.toDigits 10 n) := by
  rw [utf8, Nat.toString_eq_ofList_toDigits, String.toList_ofList]

theorem agrees_contentLength (length : ℕ) :
    agrees length (fieldRead ("Content-Length", toString length)) = true := by
  have hname : named "transfer-encoding" (fieldRead ("Content-Length", toString length)) =
      false := by
    rw [named_fieldRead]
    decide
  have hstated : statedLength (fieldRead ("Content-Length", toString length)).2 =
      some length := by
    rw [fieldRead, utf8_toString]
    dsimp only
    rw [statedLength_toDigits]
  rw [agrees, hname, hstated, decide_eq_true rfl, Bool.or_true]
  rfl

theorem framed_requestFields :
    framed ((requestFields host own length).map fieldRead) length = true ↔
      ∀ field ∈ own, agrees length (fieldRead field) = true := by
  have hany : ((requestFields host own length).map fieldRead).any (named "content-length") =
      true := by
    rw [List.any_eq_true]
    refine ⟨fieldRead ("Content-Length", toString length), List.mem_map_of_mem ?_, ?_⟩
    · exact List.mem_append_right _ List.mem_cons_self
    · rw [named_fieldRead]
      decide
  rw [framed, hany, Bool.or_true, Bool.and_true, List.all_eq_true]
  constructor
  · intro h field hfield
    exact h _ (List.mem_map_of_mem (mem_append_left _ (List.mem_append_right _ hfield)))
  · intro h read hread
    obtain ⟨field, hfield, rfl⟩ := mem_map.1 hread
    simp only [requestFields, mem_append, mem_cons, not_mem_nil, or_false] at hfield
    rcases hfield with ((rfl | rfl) | hown) | rfl | rfl
    · exact agrees_of_not_named _ (by decide) (by decide)
    · exact agrees_of_not_named _ (by decide) (by decide)
    · exact h field hown
    · exact agrees_contentLength length
    · exact agrees_of_not_named _ (by decide) (by decide)

theorem map_fieldBytes (fields : List (String × String)) :
    (fields.map fieldBytes).map (fun field => (field.1, trimBlanks field.2)) =
      fields.map fieldRead :=
  map_map

theorem wellFormed_requestFields (hhost : isValue (utf8 host) = true)
    (hown : ∀ field ∈ own, isToken (utf8 field.1) = true ∧ isValue (utf8 field.2) = true) :
    ∀ field ∈ (requestFields host own length).map fieldBytes,
      isToken field.1 = true ∧ isValue field.2 = true := by
  intro bytes hbytes
  obtain ⟨field, hfield, rfl⟩ := mem_map.1 hbytes
  rw [fieldBytes]
  dsimp only
  simp only [requestFields, mem_append, mem_cons, not_mem_nil, or_false] at hfield
  rcases hfield with ((rfl | rfl) | hmem) | rfl | rfl
  · have hname : isToken (utf8 "Host") = true := by decide
    exact ⟨hname, hhost⟩
  · exact ⟨by decide, by decide⟩
  · exact hown field hmem
  · have hname : isToken (utf8 "Content-Length") = true := by decide
    have hvalue : isValue (utf8 (toString length)) = true := by
      rw [utf8_toString]
      exact isValue_toDigits
    exact ⟨hname, hvalue⟩
  · exact ⟨by decide, by decide⟩

theorem parse_requestBytes_iff {config : ProcessorConfig} {credential : String}
    {out : Outbound} (hhost : isValue (utf8 config.origin.host) = true)
    (horigin : out.call.origin = config.origin) (hpath : out.path = config.path)
    (hauth : out.auth = config.auth) (hcredential : out.credential = some (utf8 credential))
    (hheaders : out.headers = config.headers) :
    parseRequest (out.requestBytes) = some (config.request credential out.request) ↔
      config.Inert credential out.request := by
  have hsent : out.sentFields = requestFields config.origin.host
      ((config.auth.field credential).toList ++
        config.headers.map (fun h => (withoutLineEnds h.1, withoutLineEnds h.2)))
      out.request.length := by
    rw [Outbound.sentFields, horigin, hauth, hcredential, hheaders, bind_some,
      utf8Lossy_utf8]
  rw [Outbound.requestBytes_eq, hsent, hpath]
  constructor
  · intro h
    obtain ⟨htarget, hfields, hframed⟩ := wellFormed_of_parseRequest h
    have habsolute : config.path.toList.head? = some '/' := by
      by_contra hnot
      rw [requestTarget, if_neg hnot, headLines, message_cons] at h
      have hline := requestLine_of_parseRequest (by decide) (by decide) h
      rw [parseRequestLine_write (by decide) (by decide), some.injEq, Prod.mk.injEq] at hline
      have hroot : "/" = config.path := String.toList_inj.1 (Json.utf8_inj hline.2)
      rw [← hroot] at hnot
      exact hnot rfl
    refine ⟨habsolute, htarget, fun field hfield => ?_⟩
    have hmem : fieldRead field ∈ (config.request credential out.request).fields :=
      List.mem_map_of_mem (mem_append_left _ (List.mem_append_right _ hfield))
    obtain ⟨hname, hvalue⟩ := hfields _ hmem
    exact ⟨hname, isValue_trimBlanks.symm.trans hvalue, framed_requestFields.1 hframed field hfield⟩
  · intro h
    have hown : (config.auth.field credential).toList ++
        config.headers.map (fun h => (withoutLineEnds h.1, withoutLineEnds h.2)) =
        config.ownFields credential := by
      have hstatic : ∀ header ∈ config.headers,
          (withoutLineEnds header.1, withoutLineEnds header.2) = header := by
        intro header hheader
        obtain ⟨hname, hvalue, -⟩ := h.fields header (List.mem_append_right _ hheader)
        rw [withoutLineEnds_of_isToken hname, withoutLineEnds_of_isValue hvalue]
      rw [ProcessorConfig.ownFields, List.map_congr_left hstatic, List.map_id']
    rw [hown, requestTarget, if_pos h.absolute, parseRequest_write (by decide) h.target
      (wellFormed_requestFields hhost (fun field hfield =>
        ⟨(h.fields field hfield).1, (h.fields field hfield).2.1⟩)), map_fieldBytes]
    · rfl
    · rw [map_fieldBytes]
      exact framed_requestFields.2 (fun field hfield => (h.fields field hfield).2.2)

/-! ## From the configuration to the wire -/

theorem exec_processorAdd (a : ProcessorAdd) (now : Time) (s : Store) :
    ∃ json s', exec (processorAdd a now) s = (.ok json, s') ∧
      s'.getProcessor a.processorId = some a.config ∧ s'.processorCalls = s.processorCalls := by
  obtain ⟨s', hput⟩ := putProcessor_total a.config now s
  obtain ⟨rows, hrows, hs'⟩ := putProcessor_eq hput
  refine ⟨_, s', exec_bind_of_ok (exec_commit_of_ok hput), ?_, by rw [hs']; rfl⟩
  rw [hs']
  exact (getProcessor_upsert hrows a.processorId).trans (if_pos rfl)

theorem exec_processorCredential (processorId credential : String) (now : Time) (s : Store) :
    ∃ json s', exec (processorCredential processorId credential now) s = (.ok json, s') ∧
      s'.getCredential processorId = some (utf8 credential) ∧ s'.processors = s.processors ∧
      s'.processorCalls = s.processorCalls := by
  obtain ⟨s', hput⟩ := putCredential_total processorId (utf8 credential) now s
  exact ⟨_, s', exec_bind_of_ok (exec_commit_of_ok hput), getCredential_putCredential hput⟩

theorem isValue_of_visible (h : ∀ c ∈ host.toList, 0x21 ≤ c.toNat ∧ c.toNat < 0x7f) :
    isValue (utf8 host) = true := by
  rw [isValue, List.all_eq_true, utf8,
    Chunked.utf8_of_ascii (fun c hc => (h c hc).2.trans (by decide))]
  intro b hb
  obtain ⟨c, hc, rfl⟩ := mem_map.1 hb
  have hbyte : c.toNat.toUInt8.toNat = c.toNat := by
    apply UInt8.toNat_ofNat_of_lt'
    unfold UInt8.size
    exact (h c hc).2.trans (by decide)
  have hlow := (h c hc).1
  rw [← hbyte] at hlow
  simp only [isValueByte, Bool.and_eq_true, decide_eq_true_eq]
  refine ⟨⟨?_, ?_⟩, ?_⟩ <;>
  · intro heq
    rw [heq] at hlow
    exact absurd hlow (by decide)

def ProcessorAdd.callRequest (a : ProcessorAdd) : CallRequest :=
  ⟨a.processorId, "order-1", utf8 "[]", 3⟩

def ProcessorAdd.ticket (a : ProcessorAdd) : CallTicket :=
  ⟨⟨"order-1", "order", "task-1"⟩, ⟨0, "2027-01-15T08:00:00Z", 16, 1⟩, a.config.egressPolicy⟩

theorem exists_configured_call (env : Env) (a : ProcessorAdd) (credential : String) :
    ∃ json s₁ json' s₂ out s₃, exec (processorAdd a 1) {} = (.ok json, s₁) ∧
      exec (processorCredential a.processorId credential 2) s₁ = (.ok json', s₂) ∧
      exec (beginDispatch env a.callRequest a.ticket) s₂ = (.ok (.dispatching out), s₃) ∧
      s₂.getProcessor a.processorId = some a.config ∧
      s₂.getCredential a.processorId = some (utf8 credential) ∧
      out = a.config.outbound (a.ticket.call env a.callRequest a.config) a.config.egressPolicy
        (some (utf8 credential)) (utf8 "[]") := by
  obtain ⟨json, s₁, hadd, hconfig, hcalls⟩ := exec_processorAdd a 1 {}
  obtain ⟨json', s₂, hset, hcredential, hprocessors, hcalls'⟩ :=
    exec_processorCredential a.processorId credential 2 s₁
  have hconfig' : s₂.getProcessor a.processorId = some a.config := by
    rw [Store.getProcessor, hprocessors]
    exact hconfig
  have hnone : s₂.processorCalls = ∅ := hcalls'.trans hcalls
  have hbegins : Begins env a.callRequest a.ticket s₂ a.config := by
    refine ⟨hconfig', ?_, .inr ⟨?_, ?_⟩⟩
    · exact bind_eq_ok.2 ⟨(), ensure_eq_ok.2 rfl,
        ensure_eq_ok.2 List.mem_cons_self⟩
    · rw [Store.callRow, hnone]
      exact Table.find_empty _
    · rw [Store.callCount, hnone]
      exact Nat.zero_lt_one
  obtain ⟨out, s₃, hbegin, -⟩ := exec_beginDispatch_of_begins hbegins
  obtain ⟨config, hbegins', hout, -⟩ := beginDispatch_dispatches hbegin
  obtain rfl : a.config = config := some.inj (hconfig'.symm.trans hbegins'.configured)
  rw [show a.callRequest.processorId = a.processorId from rfl, hcredential] at hout
  exact ⟨json, s₁, json', s₂, out, s₃, hadd, hset, hbegin, hconfig', hcredential, hout⟩

/-- A call of a processor as it is configured, with the credential that is set, is written as exactly
the request the configuration describes, if and only if the texts of the configuration stay in their
places.  `serverName` is what TLS takes for a host: visible characters only. -/
theorem request_as_configured_iff (env : Env) (serverName : String → Bool) (a : ProcessorAdd)
    (credential : String) (q : CallRequest) (ticket : CallTicket) (s s' : Store) (out : Outbound)
    (hserver : ∀ host, serverName host = true →
      ∀ c ∈ host.toList, 0x21 ≤ c.toNat ∧ c.toNat < 0x7f)
    (hconfig : s.getProcessor q.processorId = some a.config)
    (hcredential : s.getCredential q.processorId = some (utf8 credential))
    (hbegin : exec (beginDispatch env q ticket) s = (.ok (.dispatching out), s'))
    (hname : serverName out.call.origin.host = true) :
    parseRequest (out.requestBytes) = some (a.config.request credential q.request) ↔
      a.config.Inert credential q.request := by
  obtain ⟨config, hbegins, rfl, -⟩ := beginDispatch_dispatches hbegin
  obtain rfl : a.config = config := some.inj (hconfig.symm.trans hbegins.configured)
  exact parse_requestBytes_iff (isValue_of_visible (hserver _ hname)) rfl rfl rfl hcredential rfl

def apiKeyProcessor : ProcessorAdd where
  processorId := "llm"
  provider := "example"
  originHost := "llm.example"
  originPort := 443
  isLocal := false
  tlsCertificateSha256 := none
  path := some "/v1/messages"
  auth := some "x-api-key"
  headers := ["version: 1"]

def visibleName (host : String) : Bool :=
  host.toList.all (fun c => 0x21 ≤ c.toNat && c.toNat < 0x7f)

theorem visibleName_eq_true (h : visibleName host = true) :
    ∀ c ∈ host.toList, 0x21 ≤ c.toNat ∧ c.toNat < 0x7f := by
  intro c hc
  have hc := List.all_eq_true.1 h c hc
  rwa [Bool.and_eq_true, decide_eq_true_iff, decide_eq_true_iff] at hc

theorem visibleName_apiKeyProcessor : visibleName apiKeyProcessor.config.origin.host = true := by
  decide

theorem request_as_configured_api_key : ∃ out : Outbound,
    parseRequest (out.requestBytes) =
      some (apiKeyProcessor.config.request "secret" (utf8 "[]")) := by
  obtain ⟨-, -, -, s, out, s', -, -, hbegin, hconfig, hcredential, hout⟩ :=
    exists_configured_call Env.inert apiKeyProcessor "secret"
  have hinert : apiKeyProcessor.config.Inert "secret" (utf8 "[]") :=
    ⟨by decide, by decide, by decide⟩
  have hname : visibleName out.call.origin.host = true := by
    rw [hout]
    exact visibleName_apiKeyProcessor
  exact ⟨out, (request_as_configured_iff Env.inert visibleName apiKeyProcessor "secret" _ _ s s' out
    (fun _ => visibleName_eq_true) hconfig hcredential hbegin hname).2 hinert⟩

/-- A credential with a line end in it is accepted, and the call that is dispatched with it is not
written as the request that was configured. -/
theorem request_injected_by_credential : ∃ json s₁ json' s₂ out s₃,
    exec (processorAdd apiKeyProcessor 1) {} = (.ok json, s₁) ∧
    exec (processorCredential "llm" "secret\r\nhost: other" 2) s₁ = (.ok json', s₂) ∧
    exec (beginDispatch Env.inert apiKeyProcessor.callRequest apiKeyProcessor.ticket) s₂ =
      (.ok (.dispatching out), s₃) ∧
    visibleName out.call.origin.host = true ∧
    parseRequest (out.requestBytes) ≠
      some (apiKeyProcessor.config.request "secret\r\nhost: other" (utf8 "[]")) := by
  obtain ⟨json, s₁, json', s₂, out, s₃, hadd, hset, hbegin, -, -, rfl⟩ :=
    exists_configured_call Env.inert apiKeyProcessor "secret\r\nhost: other"
  refine ⟨json, s₁, json', s₂, _, s₃, hadd, hset, hbegin, visibleName_apiKeyProcessor, ?_⟩
  intro hparse
  have hinert := (parse_requestBytes_iff
    (isValue_of_visible (visibleName_eq_true visibleName_apiKeyProcessor)) rfl rfl rfl rfl rfl).1 hparse
  have hvalue := (hinert.fields ("x-api-key", "secret\r\nhost: other") List.mem_cons_self).2.1
  exact absurd hvalue (by decide)

end Akson
