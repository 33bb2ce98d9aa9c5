/-
# Requests of HTTP/1.1

A parser of one request: the request line, the fields up to the empty line, and a body that has the
length the fields give it, with nothing behind it.
-/
import Mathlib.Data.List.TakeWhile
import Akson.Lib.Chunked
import Akson.Lib.Decimal
import Akson.Lib.Search

namespace Http

open Option List

open Chunked (crlf)

abbrev bytes (s : String) : List UInt8 := Json.utf8 s.toList

/-! ## The parts of a request -/

/-- An HTTP request. -/
structure Request where
  method : List UInt8
  target : List UInt8
  fields : List (List UInt8 × List UInt8)
  body : List UInt8

def isTokenByte (b : UInt8) : Bool :=
  (0x30 ≤ b && b ≤ 0x39) || (0x41 ≤ b && b ≤ 0x5a) || (0x61 ≤ b && b ≤ 0x7a) ||
    b ∈ bytes "!#$%&'*+-.^_`|~"

def isToken (name : List UInt8) : Bool := name ≠ [] && name.all isTokenByte

def isTargetByte (b : UInt8) : Bool := 0x20 < b && b ≠ 0x7f

def isTarget (target : List UInt8) : Bool := target ≠ [] && target.all isTargetByte

def isValueByte (b : UInt8) : Bool := b ≠ 13 && b ≠ 10 && b ≠ 0

def isValue (value : List UInt8) : Bool := value.all isValueByte

def isBlank (b : UInt8) : Bool := b = 0x20 || b = 0x09

def trimBlanks (value : List UInt8) : List UInt8 :=
  ((value.dropWhile isBlank).reverse.dropWhile isBlank).reverse

def named (name : String) (field : List UInt8 × List UInt8) : Bool :=
  field.1.map (fun b => if 0x41 ≤ b && b ≤ 0x5a then b + 0x20 else b) = bytes name

def statedLength (value : List UInt8) : Option ℕ :=
  Decimal.readNat (value.map (fun b => Char.ofNat b.toNat))

def agrees (length : ℕ) (field : List UInt8 × List UInt8) : Bool :=
  !named "transfer-encoding" field &&
    (!named "content-length" field || statedLength field.2 = some length)

def framed (fields : List (List UInt8 × List UInt8)) (length : ℕ) : Bool :=
  fields.all (agrees length) && (length = 0 || fields.any (named "content-length"))

/-! ## Parsing -/

def parseRequestLine (line : List UInt8) : Option (List UInt8 × List UInt8) :=
  match line.splitOn 0x20 with
  | [method, target, version] =>
    if isToken method && isTarget target && version = bytes "HTTP/1.1" then some (method, target)
    else none
  | _ => none

def parseField (line : List UInt8) : Option (List UInt8 × List UInt8) :=
  match List.splitFirst [0x3a] line with
  | some (name, value) => if isToken name && isValue value then some (name, trimBlanks value) else none
  | none => none

def readHead : ℕ → List UInt8 → Option (List (List UInt8) × List UInt8)
  | 0, _ => none
  | fuel + 1, message =>
    match List.splitFirst crlf message with
    | none => none
    | some (line, rest) =>
      if line = [] then some ([], rest)
      else (readHead fuel rest).map (fun head => (line :: head.1, head.2))

/-- Read a request of which nothing is left over. -/
def parseRequest (message : List UInt8) : Option Request := do
  let (lines, body) ← readHead (message.length + 1) message
  let first ← lines.head?
  let (method, target) ← parseRequestLine first
  let fields ← lines.tail.mapM parseField
  if framed fields body.length then some ⟨method, target, fields, body⟩ else none

/-! ## Writing -/

def headLines (method target : List UInt8) (fields : List (List UInt8 × List UInt8)) :
    List (List UInt8) :=
  (method ++ 0x20 :: (target ++ 0x20 :: bytes "HTTP/1.1")) ::
    fields.map (fun field => field.1 ++ 0x3a :: 0x20 :: field.2)

def message (lines : List (List UInt8)) (body : List UInt8) : List UInt8 :=
  lines.flatMap (fun line => line ++ crlf) ++ crlf ++ body

theorem notMem_of_all {p : UInt8 → Bool} {l : List UInt8} {b : UInt8} (h : l.all p = true)
    (hb : p b = false) : b ∉ l := by
  intro hmem
  rw [List.all_eq_true.1 h b hmem] at hb
  cases hb

theorem message_cons (line : List UInt8) (lines : List (List UInt8)) (body : List UInt8) :
    message (line :: lines) body = line ++ crlf ++ message lines body := by
  simp only [message, flatMap_cons, append_assoc]

theorem readHead_message {lines : List (List UInt8)} {fuel : ℕ}
    (hlines : ∀ line ∈ lines, line ≠ [] ∧ 13 ∉ line) (hfuel : lines.length < fuel)
    (body : List UInt8) : readHead fuel (message lines body) = some (lines, body) := by
  induction lines generalizing fuel with
  | nil =>
    cases fuel with
    | zero => exact absurd hfuel (Nat.not_lt_zero _)
    | succ fuel =>
      have hcut : List.splitFirst crlf (message [] body) = some ([], body) :=
        splitFirst_append not_mem_nil body
      simp only [readHead, hcut, if_true]
  | cons line lines ih =>
    cases fuel with
    | zero => exact absurd hfuel (Nat.not_lt_zero _)
    | succ fuel =>
      obtain ⟨hne, hcr⟩ := hlines line mem_cons_self
      have hcut : List.splitFirst crlf (message (line :: lines) body) =
          some (line, message lines body) := by
        rw [message_cons]
        exact splitFirst_append hcr _
      have hrest := ih (fun l hl => hlines l (mem_cons_of_mem _ hl))
        (Nat.lt_of_succ_lt_succ hfuel)
      simp only [readHead, hcut, if_neg hne, hrest, map_some]

theorem length_lt_message (lines : List (List UInt8)) (body : List UInt8) :
    lines.length < (message lines body).length + 1 := by
  induction lines with
  | nil => exact Nat.succ_pos _
  | cons line lines ih =>
    rw [message_cons, length_append, length_append, length_cons]
    have hcrlf : crlf.length = 2 := rfl
    omega

theorem isToken_iff {name : List UInt8} :
    isToken name = true ↔ name ≠ [] ∧ name.all isTokenByte = true := by
  rw [isToken, Bool.and_eq_true, decide_eq_true_iff]

theorem isTarget_iff {target : List UInt8} :
    isTarget target = true ↔ target ≠ [] ∧ target.all isTargetByte = true := by
  rw [isTarget, Bool.and_eq_true, decide_eq_true_iff]

theorem parseRequestLine_write {method target : List UInt8} (hmethod : isToken method = true)
    (htarget : isTarget target = true) :
    parseRequestLine (method ++ 0x20 :: (target ++ 0x20 :: bytes "HTTP/1.1")) =
      some (method, target) := by
  have hsplit : (method ++ 0x20 :: (target ++ 0x20 :: bytes "HTTP/1.1")).splitOn 0x20 =
      [method, target, bytes "HTTP/1.1"] := by
    have hparts : ∀ part ∈ [method, target, bytes "HTTP/1.1"], (0x20 : UInt8) ∉ part := by
      intro part hpart
      simp only [mem_cons, not_mem_nil, or_false] at hpart
      rcases hpart with rfl | rfl | rfl
      · exact notMem_of_all (isToken_iff.1 hmethod).2 (by decide)
      · exact notMem_of_all (isTarget_iff.1 htarget).2 (by decide)
      · decide
    have hjoin := splitOn_intercalate 0x20 hparts (cons_ne_nil _ _)
    simpa [List.intercalate, List.intersperse] using hjoin
  simp only [parseRequestLine, hsplit, hmethod, htarget, decide_true, Bool.and_self, if_true]

variable {value : List UInt8}

theorem parseField_write {name : List UInt8} (hname : isToken name = true)
    (hvalue : isValue value = true) :
    parseField (name ++ 0x3a :: 0x20 :: value) = some (name, trimBlanks value) := by
  have hcut : List.splitFirst [0x3a] (name ++ 0x3a :: 0x20 :: value) =
      some (name, 0x20 :: value) := by
    rw [show name ++ 0x3a :: 0x20 :: value = name ++ [0x3a] ++ 0x20 :: value by simp]
    exact splitFirst_append (notMem_of_all (isToken_iff.1 hname).2 (by decide)) _
  have hspace : isValue (0x20 :: value) = true := by
    rw [isValue, all_cons, ← isValue, hvalue]
    rfl
  have htrim : trimBlanks (0x20 :: value) = trimBlanks value := by
    rw [trimBlanks, dropWhile_cons_of_pos (by decide), ← trimBlanks]
  simp only [parseField, hcut, hname, hspace, htrim, Bool.and_self, if_true]

theorem mapM_map {α β γ : Type} {read : β → Option γ} {write : α → β} {view : α → γ} {l : List α}
    (h : ∀ a ∈ l, read (write a) = some (view a)) : (l.map write).mapM read = some (l.map view) := by
  induction l with
  | nil => rfl
  | cons a l ih =>
    rw [map_cons, mapM_cons, h a mem_cons_self,
      ih (fun b hb => h b (mem_cons_of_mem _ hb))]
    rfl

theorem exists_of_mem_mapM {α β : Type} {read : α → Option β} {l : List α} {l' : List β}
    (h : l.mapM read = some l') : ∀ b ∈ l', ∃ a ∈ l, read a = some b := by
  induction l generalizing l' with
  | nil =>
    cases h
    intro b hb
    cases hb
  | cons a l ih =>
    rw [mapM_cons, bind_eq_bind, bind_eq_some_iff] at h
    obtain ⟨first, hfirst, h⟩ := h
    obtain ⟨rest, hrest, h⟩ := bind_eq_some_iff.1 h
    cases h
    intro b hb
    rcases mem_cons.1 hb with rfl | hb
    · exact ⟨a, mem_cons_self, hfirst⟩
    · obtain ⟨a', ha', hread⟩ := ih hrest b hb
      exact ⟨a', mem_cons_of_mem _ ha', hread⟩

theorem parseRequest_write {method target body : List UInt8}
    {fields : List (List UInt8 × List UInt8)} (hmethod : isToken method = true)
    (htarget : isTarget target = true)
    (hfields : ∀ field ∈ fields, isToken field.1 = true ∧ isValue field.2 = true)
    (hframed : framed (fields.map (fun field => (field.1, trimBlanks field.2))) body.length = true) :
    parseRequest (message (headLines method target fields) body) =
      some ⟨method, target, fields.map (fun field => (field.1, trimBlanks field.2)), body⟩ := by
  have htoken : ∀ {name : List UInt8}, isToken name = true → 13 ∉ name :=
    fun h => notMem_of_all (isToken_iff.1 h).2 (by decide)
  have hlines : ∀ line ∈ headLines method target fields, line ≠ [] ∧ 13 ∉ line := by
    intro line hline
    rcases mem_cons.1 hline with rfl | hline
    · have hpath : 13 ∉ target := notMem_of_all (isTarget_iff.1 htarget).2 (by decide)
      have hversion : 13 ∉ bytes "HTTP/1.1" := by decide
      refine ⟨by simp, ?_⟩
      simp only [mem_append, mem_cons, not_or]
      exact ⟨htoken hmethod, by decide, hpath, by decide, hversion⟩
    · obtain ⟨field, hfield, rfl⟩ := mem_map.1 hline
      obtain ⟨hname, hvalue⟩ := hfields field hfield
      refine ⟨by simp, ?_⟩
      simp only [mem_append, mem_cons, not_or]
      exact ⟨htoken hname, by decide, by decide, notMem_of_all hvalue (by decide)⟩
  have hread := readHead_message hlines (length_lt_message _ body) body
  have hparsed := mapM_map (fun field hfield =>
    parseField_write (hfields field hfield).1 (hfields field hfield).2)
  rw [parseRequest, hread]
  simp only [headLines, bind_eq_bind, bind_some, head?_cons, tail_cons,
    parseRequestLine_write hmethod htarget, hparsed, hframed, if_true]

theorem mem_trimBlanks {b : UInt8} (hb : isBlank b = false) (h : b ∈ value) :
    b ∈ trimBlanks value := by
  have hdrop : ∀ l : List UInt8, b ∈ l → b ∈ l.dropWhile isBlank := by
    intro l hl
    rw [← takeWhile_append_dropWhile (p := isBlank) (l := l), mem_append] at hl
    rcases hl with hl | hl
    · rw [mem_takeWhile_imp hl] at hb
      cases hb
    · exact hl
  rw [trimBlanks, mem_reverse]
  exact hdrop _ (mem_reverse.2 (hdrop _ h))

theorem mem_of_mem_trimBlanks {b : UInt8} (h : b ∈ trimBlanks value) : b ∈ value := by
  rw [trimBlanks, mem_reverse] at h
  exact (dropWhile_sublist _).subset (mem_reverse.1 ((dropWhile_sublist _).subset h))

theorem isValue_trimBlanks : isValue (trimBlanks value) = isValue value := by
  rw [Bool.eq_iff_iff, isValue, isValue, List.all_eq_true, List.all_eq_true]
  constructor
  · intro h b hb
    cases hblank : isBlank b with
    | false => exact h b (mem_trimBlanks hblank hb)
    | true =>
      rw [isBlank, Bool.or_eq_true, decide_eq_true_iff, decide_eq_true_iff] at hblank
      rcases hblank with rfl | rfl <;> rfl
  · intro h b hb
    exact h b (mem_of_mem_trimBlanks hb)

theorem parseField_eq_some {line : List UInt8} {field : List UInt8 × List UInt8}
    (h : parseField line = some field) : isToken field.1 = true ∧ isValue field.2 = true := by
  rw [parseField] at h
  split at h
  case h_1 name value hcut =>
    rw [ite_none_right_eq_some, Bool.and_eq_true] at h
    obtain ⟨⟨hname, hvalue⟩, heq⟩ := h
    cases heq
    exact ⟨hname, isValue_trimBlanks.trans hvalue⟩
  case h_2 => cases h

theorem wellFormed_of_parseRequest {message : List UInt8} {r : Request}
    (h : parseRequest message = some r) :
    isTarget r.target = true ∧
      (∀ field ∈ r.fields, isToken field.1 = true ∧ isValue field.2 = true) ∧
      framed r.fields r.body.length = true := by
  obtain ⟨⟨lines, body⟩, -, h⟩ := bind_eq_some_iff.1 h
  obtain ⟨first, -, h⟩ := bind_eq_some_iff.1 h
  obtain ⟨⟨method, target⟩, hline, h⟩ := bind_eq_some_iff.1 h
  obtain ⟨fields, hfields, h⟩ := bind_eq_some_iff.1 h
  rw [ite_none_right_eq_some] at h
  obtain ⟨hframed, heq⟩ := h
  cases heq
  refine ⟨?_, ?_, hframed⟩
  · rw [parseRequestLine] at hline
    split at hline
    case h_1 method' target' version hsplit =>
      rw [ite_none_right_eq_some, Bool.and_eq_true, Bool.and_eq_true] at hline
      obtain ⟨⟨⟨-, htarget⟩, -⟩, heq⟩ := hline
      rwa [(Prod.mk.inj (some.inj heq)).2] at htarget
    case h_2 => cases hline
  · intro field hfield
    obtain ⟨line, -, hread⟩ := exists_of_mem_mapM hfields field hfield
    exact parseField_eq_some hread

theorem requestLine_of_parseRequest {line rest : List UInt8} {r : Request} (hne : line ≠ [])
    (hline : 13 ∉ line) (h : parseRequest (line ++ crlf ++ rest) = some r) :
    parseRequestLine line = some (r.method, r.target) := by
  obtain ⟨⟨lines, body⟩, hread, h⟩ := bind_eq_some_iff.1 h
  have hcut : List.splitFirst crlf (line ++ crlf ++ rest) = some (line, rest) :=
    splitFirst_append hline rest
  rw [readHead] at hread
  simp only [hcut, if_neg hne] at hread
  obtain ⟨head, -, heq⟩ := map_eq_some_iff.1 hread
  cases heq
  obtain ⟨first, hfirst, h⟩ := bind_eq_some_iff.1 h
  cases hfirst
  obtain ⟨⟨method, target⟩, hparse, h⟩ := bind_eq_some_iff.1 h
  obtain ⟨fields, -, h⟩ := bind_eq_some_iff.1 h
  rw [ite_none_right_eq_some] at h
  obtain rfl := some.inj h.2
  exact hparse

/-! ## The stated length -/

theorem trimBlanks_of_forall (h : ∀ b ∈ value, isBlank b = false) : trimBlanks value = value := by
  have hkeep : ∀ l : List UInt8, (∀ b ∈ l, isBlank b = false) → l.dropWhile isBlank = l := by
    intro l hl
    cases l with
    | nil => rfl
    | cons b l =>
      apply dropWhile_cons_of_neg
      rw [hl b mem_cons_self]
      exact Bool.false_ne_true
  rw [trimBlanks, hkeep value h, hkeep value.reverse (fun b hb => h b (mem_reverse.1 hb)),
    reverse_reverse]

section Digits

variable {n : ℕ}

theorem toNat_digit {c : Char} (hc : c ∈ Nat.toDigits 10 n) : 0x30 ≤ c.toNat ∧ c.toNat < 0x80 := by
  have h := (Decimal.isNumeral_toDigits n).2 c hc
  rw [Char.isDigit_iff_toNat] at h
  exact ⟨h.1, h.2.trans_lt (by decide)⟩

theorem toNat_digitByte {c : Char} (hc : c ∈ Nat.toDigits 10 n) :
    c.toNat.toUInt8.toNat = c.toNat := by
  apply UInt8.toNat_ofNat_of_lt'
  unfold UInt8.size
  exact (toNat_digit hc).2.trans (by decide)

theorem utf8_toDigits :
    Json.utf8 (Nat.toDigits 10 n) = (Nat.toDigits 10 n).map (fun c => c.toNat.toUInt8) :=
  Chunked.utf8_of_ascii (fun _ hc => (toNat_digit hc).2)

theorem le_toNat_of_mem {b : UInt8} (hb : b ∈ Json.utf8 (Nat.toDigits 10 n)) : 0x30 ≤ b.toNat := by
  rw [utf8_toDigits] at hb
  obtain ⟨c, hc, rfl⟩ := mem_map.1 hb
  rw [toNat_digitByte hc]
  exact (toNat_digit hc).1

theorem isValue_toDigits : isValue (Json.utf8 (Nat.toDigits 10 n)) = true := by
  rw [isValue, List.all_eq_true]
  intro b hb
  have hlow := le_toNat_of_mem hb
  simp only [isValueByte, Bool.and_eq_true, decide_eq_true_eq]
  refine ⟨⟨?_, ?_⟩, ?_⟩ <;>
  · rintro rfl
    exact absurd hlow (by decide)

theorem statedLength_toDigits :
    statedLength (trimBlanks (Json.utf8 (Nat.toDigits 10 n))) = some n := by
  have hblank : ∀ b ∈ Json.utf8 (Nat.toDigits 10 n), isBlank b = false := by
    intro b hb
    have hlow := le_toNat_of_mem hb
    rw [isBlank, Bool.or_eq_false_iff, decide_eq_false_iff_not, decide_eq_false_iff_not]
    constructor
    · rintro rfl
      exact absurd hlow (by decide)
    · rintro rfl
      exact absurd hlow (by decide)
  have hback : (Json.utf8 (Nat.toDigits 10 n)).map (fun b => Char.ofNat b.toNat) =
      Nat.toDigits 10 n := by
    rw [utf8_toDigits, List.map_map]
    refine (List.map_congr_left fun c hc => ?_).trans (List.map_id _)
    rw [Function.comp_apply, toNat_digitByte hc, Char.ofNat_toNat, id_eq]
  rw [trimBlanks_of_forall hblank, statedLength, hback, Decimal.readNat_eq_some_iff]
  exact ⟨Decimal.isNumeral_toDigits n, Decimal.valueOf_toDigits n⟩

end Digits

end Http
