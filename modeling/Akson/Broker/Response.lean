/-
# Reading a response

The transport of a processor call reads until the connection ends or a cap is reached, splits what
it has at the first empty line, and takes the chunked coding off the body.
-/
import Akson.Lib.Http
import Akson.Broker.Dispatch

namespace Akson

open Chunked Option List

/-! ## The body -/

def usizeMax : ℕ := 18446744073709551615

def chunkSize (line : Bytes) : Option ℕ :=
  (fromUtf8 line).bind (fun text => readHex usizeMax (Text.trim (Text.before ';' text)).toList)

def dechunkLoop : ℕ → Bytes → Bytes
  | 0, _ => []
  | rounds + 1, data =>
    match List.splitFirst crlf data with
    | none => []
    | some (line, data) =>
      match chunkSize line with
      | none => []
      | some size =>
        -- the last chunk: trailers are ignored
        if size = 0 then []
        else data.take size ++
          -- a body that ends within the chunk has no line end here
          if crlf.isPrefixOf (data.drop size) then
            dechunkLoop rounds ((data.drop size).drop crlf.length)
          else []

/-- The payload of a chunked body. -/
def dechunk (data : Bytes) : Bytes := dechunkLoop data.length data

variable {data rest part payload chunks raw : Bytes}

theorem length_of_splitFirst_crlf {line : Bytes}
    (h : List.splitFirst crlf data = some (line, rest)) : data.length = line.length + 2 + rest.length := by
  rw [eq_append_of_splitFirst h, length_append, length_append]
  rfl

theorem dechunkLoop_eq {rounds : ℕ} (h : data.length ≤ rounds) :
    dechunkLoop rounds data = dechunk data := by
  unfold dechunk
  -- induction on the bound, for both numbers of rounds at once
  suffices hboth : ∀ n rounds rounds' (data : Bytes), data.length ≤ n → data.length ≤ rounds →
      data.length ≤ rounds' → dechunkLoop rounds data = dechunkLoop rounds' data from
    hboth data.length rounds data.length data le_rfl h le_rfl
  intro n
  induction n with
  | zero =>
    intro rounds rounds' data hn _ _
    obtain rfl := eq_nil_of_length_eq_zero (Nat.le_zero.1 hn)
    cases rounds <;> cases rounds' <;> rfl
  | succ n ih =>
    intro rounds rounds' data hn h h'
    cases hdata : List.splitFirst crlf data with
    | none => cases rounds <;> cases rounds' <;> simp only [dechunkLoop, hdata]
    | some cut =>
      obtain ⟨line, rest⟩ := cut
      have hlength := length_of_splitFirst_crlf hdata
      cases rounds with
      | zero => omega
      | succ rounds =>
        cases rounds' with
        | zero => omega
        | succ rounds' =>
          simp only [dechunkLoop, hdata]
          split
          · rfl
          next size hsize =>
            have hdrop : ((rest.drop size).drop crlf.length).length ≤ rest.length := by
              rw [length_drop, length_drop]
              omega
            rw [ih rounds rounds' _ (by omega) (by omega) (by omega)]

theorem dechunk_of_splitFirst {line : Bytes} {size : ℕ}
    (hcut : List.splitFirst crlf data = some (line, rest)) (hsize : chunkSize line = some size) :
    dechunk data = if size = 0 then [] else rest.take size ++
      if crlf.isPrefixOf (rest.drop size) then dechunk ((rest.drop size).drop crlf.length) else [] := by
  have hlength := length_of_splitFirst_crlf hcut
  have hdrop : ((rest.drop size).drop crlf.length).length ≤ rest.length := by
    rw [length_drop, length_drop]
    omega
  rw [dechunk]
  obtain ⟨rounds, hrounds⟩ : ∃ rounds, data.length = rounds + 1 := ⟨data.length - 1, by omega⟩
  rw [hrounds]
  simp only [dechunkLoop, hcut, hsize]
  rw [dechunkLoop_eq (by omega)]

theorem dechunk_of_splitFirst_none (h : List.splitFirst crlf data = none) : dechunk data = [] := by
  unfold dechunk
  cases data.length with
  | zero => rfl
  | succ rounds => simp only [dechunkLoop, h]

theorem chunkSize_utf8 {size : ℕ} {line : List Char} (hline : IsSizeLine size line)
    (hfits : size ≤ usizeMax) : chunkSize (Json.utf8 line) = some size := by
  have htext : fromUtf8 (Json.utf8 line) = some (String.ofList line) := by
    rw [fromUtf8_eq_some_iff, utf8, String.toList_ofList]
  rw [chunkSize, htext, bind_some]
  exact hline.read hfits

section Rounds

variable {size : ℕ} {line : List Char}

theorem dechunk_sizeLine (hline : IsSizeLine size line) (hfits : size ≤ usizeMax) (rest : Bytes) :
    dechunk (Json.utf8 line ++ crlf ++ rest) = if size = 0 then [] else rest.take size ++
      if crlf.isPrefixOf (rest.drop size) then dechunk ((rest.drop size).drop crlf.length) else [] :=
  dechunk_of_splitFirst (splitFirst_append hline.notMem rest) (chunkSize_utf8 hline hfits)

theorem dechunk_cut_sizeLine (hline : IsSizeLine size line)
    (hpart : part <+: Json.utf8 line ++ crlf ++ rest) :
    dechunk part = [] ∨ ∃ rest', rest' <+: rest ∧ part = Json.utf8 line ++ crlf ++ rest' := by
  rcases prefix_or_prefix_of_prefix hpart (prefix_append _ rest) with hshort | ⟨rest', rfl⟩
  · by_cases hlt : part.length < (Json.utf8 line).length + crlf.length
    · left
      exact dechunk_of_splitFirst_none (splitFirst_eq_none_of_shorter hline.notMem hshort hlt)
    · right
      have hwhole : part = Json.utf8 line ++ crlf := by
        apply hshort.eq_of_length_le
        rw [length_append]
        omega
      exact ⟨[], nil_prefix, by rw [hwhole, append_nil]⟩
  · right
    exact ⟨rest', (prefix_append_right_inj _).1 hpart, rfl⟩

theorem dechunk_chunk (hline : IsSizeLine data.length line) (hne : data ≠ [])
    (hfits : data.length ≤ usizeMax) :
    dechunk (Json.utf8 line ++ crlf ++ (data ++ (crlf ++ rest))) = data ++ dechunk rest := by
  have hsize : data.length ≠ 0 := mt length_eq_zero_iff.1 hne
  have hend : crlf.isPrefixOf (crlf ++ rest) = true :=
    isPrefixOf_iff_prefix.2 (prefix_append crlf rest)
  rw [dechunk_sizeLine hline hfits, if_neg hsize, take_left, drop_left, if_pos hend,
    drop_left]

theorem dechunk_chunk_cut (hline : IsSizeLine data.length line) (hfits : data.length ≤ usizeMax)
    (hpart : part <+: data) : dechunk (Json.utf8 line ++ crlf ++ part) <+: data := by
  have htake : part.take data.length = part := take_of_length_le hpart.length_le
  have hdrop : part.drop data.length = [] := drop_of_length_le hpart.length_le
  rw [dechunk_sizeLine hline hfits]
  split
  · exact nil_prefix
  · rw [htake, hdrop, if_neg (by decide), append_nil]
    exact hpart

theorem dechunk_chunk_end (hline : IsSizeLine data.length line) (hfits : data.length ≤ usizeMax)
    (hpart : part.length < crlf.length) :
    dechunk (Json.utf8 line ++ crlf ++ (data ++ part)) <+: data := by
  have hend : ¬ crlf.isPrefixOf part = true := by
    intro h
    exact absurd ( isPrefixOf_iff_prefix.1 h).length_le (Nat.not_le.2 hpart)
  rw [dechunk_sizeLine hline hfits]
  split
  · exact nil_prefix
  · rw [take_left, drop_left, if_neg hend, append_nil]

end Rounds

theorem chunk_append (line data rest trailer : Bytes) :
    line ++ crlf ++ (data ++ (crlf ++ rest)) ++ trailer =
      line ++ crlf ++ (data ++ (crlf ++ (rest ++ trailer))) := by
  simp only [append_assoc]

theorem dechunk_chunks (h : Chunks usizeMax payload chunks) (trailer : Bytes) :
    dechunk (chunks ++ trailer) = payload := by
  induction h with
  | last hline => rw [dechunk_sizeLine hline (Nat.zero_le _), if_pos rfl]
  | @chunk line data payload rest hline hne hfits hrest ih =>
    rw [chunk_append, dechunk_chunk hline hne hfits, ih]

theorem dechunk_chunks_cut (h : Chunks usizeMax payload chunks) (trailer : Bytes)
    (hpart : part <+: chunks ++ trailer) : dechunk part <+: payload := by
  induction h generalizing part with
  | last hline =>
    obtain hnil | ⟨rest, -, rfl⟩ := dechunk_cut_sizeLine hline hpart
    · rw [hnil]
    · rw [dechunk_sizeLine hline (Nat.zero_le _), if_pos rfl]
  | @chunk line data payload rest hline hne hfits hrest ih =>
    rw [chunk_append] at hpart
    obtain hnil | ⟨body, hbody, rfl⟩ := dechunk_cut_sizeLine hline hpart
    · rw [hnil]
      exact nil_prefix
    -- the cut is within the data, within the line end, or behind it
    rcases prefix_or_prefix_of_prefix hbody (prefix_append data _) with hcut | ⟨tail, rfl⟩
    · exact (dechunk_chunk_cut hline hfits hcut).trans (prefix_append data payload)
    have htail : tail <+: crlf ++ (rest ++ trailer) := (prefix_append_right_inj data).1 hbody
    by_cases hlt : tail.length < crlf.length
    · exact (dechunk_chunk_end hline hfits hlt).trans (prefix_append data payload)
    · obtain ⟨next, rfl⟩ := prefix_of_prefix_length_le (prefix_append crlf _) htail
        (Nat.not_lt.1 hlt)
      rw [dechunk_chunk hline hne hfits, prefix_append_right_inj]
      exact ih ((prefix_append_right_inj crlf).1 htail)

/-- Every chunked encoding is decoded to its payload, and every first part of one to a first part of
the payload. -/
theorem dechunk_encodes (payload encoding : Bytes) (h : Encodes usizeMax payload encoding) :
    dechunk encoding = payload ∧ ∀ part, part <+: encoding → dechunk part <+: payload := by
  obtain ⟨chunks, trailer, hchunks, -, rfl⟩ := h
  exact ⟨dechunk_chunks hchunks trailer, fun part hpart => dechunk_chunks_cut hchunks trailer hpart⟩

theorem dechunk_encodes_extension :
    dechunk (utf8 "02 ;a\r\nok\r\n0\r\n\r\n") = utf8 "ok" := by
  have hext : ∀ c ∈ [';', 'a'], c.toNat < 0x80 ∧ c ≠ '\r' := by
    intro c hc
    rcases mem_pair.1 hc with rfl | rfl <;> decide
  have hchunk : IsSizeLine (utf8 "ok").length ['0', '2', ' ', ';', 'a'] :=
    ⟨['0', '2'], [' '], [';', 'a'], rfl, ⟨cons_ne_nil _ _, rfl⟩,
      forall_mem_singleton.2 (.inl rfl), .inr ⟨_, rfl⟩, hext⟩
  have hlast : IsSizeLine 0 ['0'] :=
    ⟨['0'], [], [], rfl, ⟨cons_ne_nil _ _, rfl⟩, forall_mem_nil _, .inl rfl,
      forall_mem_nil _⟩
  have hchunks : Chunks usizeMax (utf8 "ok" ++ []) _ :=
    .chunk hchunk (by decide) (by decide) (.last hlast)
  have hend : IsTrailer crlf := ⟨[], forall_mem_nil _, rfl⟩
  exact (dechunk_encodes _ _ ⟨_, crlf, hchunks, hend, by decide⟩).1

theorem length_dechunk_le (data : Bytes) : (dechunk data).length ≤ data.length := by
  suffices hloop : ∀ rounds (data : Bytes), (dechunkLoop rounds data).length ≤ data.length from
    hloop data.length data
  intro rounds
  induction rounds with
  | zero => exact fun data => Nat.zero_le _
  | succ rounds ih =>
    intro data
    rw [dechunkLoop]
    split
    · exact Nat.zero_le _
    next line rest hcut =>
      have hlength := length_of_splitFirst_crlf hcut
      split
      · exact Nat.zero_le _
      next size hsize =>
        split
        · exact Nat.zero_le _
        · have hrest := ih ((rest.drop size).drop crlf.length)
          rw [length_drop, length_drop] at hrest
          rw [length_append, length_take]
          split
          · omega
          · rw [length_nil]
            omega

/-! ## The head -/

def statusCode (head : String) : Option ℕ := do
  let first ← (Text.lines head).head?
  let word ← (Text.splitWhitespace first)[1]?
  Decimal.readUnsigned 65535 word.toList

def announcesChunked (line : String) : Bool :=
  let l := (Text.toAsciiLowercase line).toList
  "transfer-encoding:".toList.isPrefixOf l && (List.splitFirst "chunked".toList l).isSome

/-- Read the status and the body of an answer. -/
def splitResponse (raw : Bytes) : Option CallResponse := do
  let (head, rawBody) ← List.splitFirst Http.blankLine raw
  let head ← fromUtf8 head
  let status ← statusCode head
  some ⟨status, if (Text.lines head).any announcesChunked then dechunk rawBody else rawBody⟩

def HasHead (raw : Bytes) : Prop :=
  ∃ head body, List.splitFirst Http.blankLine raw = some (utf8 head, body) ∧
    (statusCode head).isSome = true

theorem splitResponse_eq_some {response : CallResponse} (h : splitResponse raw = some response) :
    ∃ head body, List.splitFirst Http.blankLine raw = some (utf8 head, body) ∧
      statusCode head = some response.status ∧
      (response.body = body ∨ response.body = dechunk body) := by
  obtain ⟨⟨bytes, body⟩, hcut, h⟩ := bind_eq_some_iff.1 h
  obtain ⟨head, hhead, h⟩ := bind_eq_some_iff.1 h
  obtain ⟨status, hstatus, h⟩ := bind_eq_some_iff.1 h
  cases h
  rw [fromUtf8_eq_some_iff.1 hhead] at hcut
  refine ⟨head, body, hcut, hstatus, ?_⟩
  dsimp only
  split
  · exact .inr rfl
  · exact .inl rfl

theorem splitResponse_isSome_iff : (splitResponse raw).isSome = true ↔ HasHead raw := by
  constructor
  · intro h
    obtain ⟨response, hresponse⟩ := isSome_iff_exists.1 h
    obtain ⟨head, body, hcut, hstatus, -⟩ := splitResponse_eq_some hresponse
    exact ⟨head, body, hcut, by rw [hstatus, isSome_some]⟩
  · rintro ⟨head, body, hcut, hstatus⟩
    obtain ⟨status, hstatus⟩ := isSome_iff_exists.1 hstatus
    have hhead : fromUtf8 (utf8 head) = some head := fromUtf8_eq_some_iff.2 rfl
    simp only [splitResponse, hcut, hhead, hstatus, bind_eq_bind, bind_some,
      isSome_some]

end Akson
