/-
# The chunked transfer coding

A body in the chunked coding of HTTP/1.1 is a sequence of chunks.
-/
import Mathlib.Data.List.Infix
import Akson.Lib.Jcs
import Akson.Lib.Text

namespace Chunked

open Option List

/-! ## Hexadecimal numerals -/

def digit? (c : Char) : Option ℕ :=
  if 0x30 ≤ c.toNat ∧ c.toNat ≤ 0x39 then some (c.toNat - 0x30)
  else if 0x61 ≤ c.toNat ∧ c.toNat ≤ 0x66 then some (c.toNat - 0x61 + 10)
  else if 0x41 ≤ c.toNat ∧ c.toNat ≤ 0x46 then some (c.toNat - 0x41 + 10)
  else none

def valueOf? (digits : List Char) : Option ℕ :=
  digits.foldlM (fun n c => (digit? c).map (fun d => 16 * n + d)) 0

def readDigits (max : ℕ) (digits : List Char) : Option ℕ :=
  if digits = [] then none else (valueOf? digits).filter (· ≤ max)

def readHex (max : ℕ) : List Char → Option ℕ
  | '+' :: digits => readDigits max digits
  | digits => readDigits max digits

theorem digit?_isSome {c : Char} (h : (digit? c).isSome = true) :
    0x30 ≤ c.toNat ∧ c.toNat < 0x80 ∧ c ≠ ';' := by
  have hsemicolon : c ≠ ';' := by
    rintro rfl
    exact absurd h (by decide)
  unfold digit? at h
  split_ifs at h
  · exact ⟨by omega, by omega, hsemicolon⟩
  · exact ⟨by omega, by omega, hsemicolon⟩
  · exact ⟨by omega, by omega, hsemicolon⟩
  · cases h

variable {digits line : List Char} {size max : ℕ}

theorem digit?_isSome_of_valueOf? {n : ℕ} (h : valueOf? digits = some n) :
    ∀ c ∈ digits, (digit? c).isSome = true := by
  unfold valueOf? at h
  -- the value read so far is arbitrary: every digit has to be one for the reading to go on
  generalize 0 = acc at h
  induction digits generalizing acc with
  | nil => simp
  | cons c digits ih =>
    rw [foldlM_cons, bind_eq_bind, bind_eq_some_iff] at h
    obtain ⟨next, hnext, hrest⟩ := h
    obtain ⟨d, hd, -⟩ := map_eq_some_iff.1 hnext
    intro c' hc'
    rcases mem_cons.1 hc' with rfl | hc'
    · rw [hd, isSome_some]
    · exact ih next hrest c' hc'

theorem readHex_of_valueOf? (hne : digits ≠ []) (hvalue : valueOf? digits = some size)
    (hfits : size ≤ max) : readHex max digits = some size := by
  have hread : readDigits max digits = some size := by
    unfold readDigits
    rw [if_neg hne, hvalue, filter_some, if_pos (decide_eq_true hfits)]
  unfold readHex
  split
  case h_1 rest =>
    -- a plus sign is no digit
    have hplus := digit?_isSome_of_valueOf? hvalue '+' mem_cons_self
    exact absurd hplus (by decide)
  case h_2 => exact hread

/-! ## The line before a chunk -/

def IsSizeLine (size : ℕ) (line : List Char) : Prop :=
  ∃ digits blanks ext : List Char, line = digits ++ blanks ++ ext ∧
    (digits ≠ [] ∧ valueOf? digits = some size) ∧ (∀ c ∈ blanks, c = ' ' ∨ c = '\t') ∧
    (ext = [] ∨ ∃ rest, ext = ';' :: rest) ∧ ∀ c ∈ ext, c.toNat < 0x80 ∧ c ≠ '\r'

theorem utf8_of_ascii (h : ∀ c ∈ line, c.toNat < 0x80) :
    Json.utf8 line = line.map (fun c => c.toNat.toUInt8) := by
  induction line with
  | nil => rfl
  | cons c line ih =>
    have hc : c.val.toNat ≤ 0x7f := Nat.lt_succ_iff.1 (h c mem_cons_self)
    rw [Json.utf8, flatMap_cons, ← Json.utf8, ih (fun d hd => h d (mem_cons_of_mem _ hd)),
      map_cons, String.utf8EncodeChar, if_pos hc]
    rfl

theorem IsSizeLine.ascii (h : IsSizeLine size line) : ∀ c ∈ line, c.toNat < 0x80 ∧ c ≠ '\r' := by
  obtain ⟨digits, blanks, ext, rfl, ⟨-, hvalue⟩, hblanks, -, hext⟩ := h
  intro c hc
  rcases mem_append.1 hc with hc | hc
  · rcases mem_append.1 hc with hc | hc
    · obtain ⟨hlow, hhigh, -⟩ := digit?_isSome (digit?_isSome_of_valueOf? hvalue c hc)
      refine ⟨hhigh, ?_⟩
      rintro rfl
      exact absurd hlow (by decide)
    · rcases hblanks c hc with rfl | rfl <;> decide
  · exact hext c hc

theorem IsSizeLine.notMem (h : IsSizeLine size line) : (13 : UInt8) ∉ Json.utf8 line := by
  rw [utf8_of_ascii (fun c hc => (h.ascii c hc).1)]
  intro hmem
  obtain ⟨c, hc, hbyte⟩ := mem_map.1 hmem
  obtain ⟨hlow, hne⟩ := h.ascii c hc
  have hnat := congrArg UInt8.toNat hbyte
  rw [UInt8.toNat_ofNat_of_lt' (by unfold UInt8.size; omega)] at hnat
  exact hne (Char.toNat_inj.1 hnat)

theorem IsSizeLine.read (h : IsSizeLine size line) (hfits : size ≤ max) :
    readHex max (Text.trim (Text.before ';' (String.ofList line))).toList = some size := by
  obtain ⟨digits, blanks, ext, rfl, ⟨hne, hvalue⟩, hblanks, hext, -⟩ := h
  have hdigits := fun c hc => digit?_isSome (digit?_isSome_of_valueOf? hvalue c hc)
  have hbefore : Text.before ';' (String.ofList (digits ++ blanks ++ ext)) =
      String.ofList (digits ++ blanks) := by
    have hnone : ∀ c ∈ digits ++ blanks, decide (c ≠ ';') = true := by
      intro c hc
      rcases mem_append.1 hc with hc | hc
      · exact decide_eq_true (hdigits c hc).2.2
      · rcases hblanks c hc with rfl | rfl <;> decide
    unfold Text.before
    rw [String.toList_ofList, takeWhile_append_of_pos hnone]
    rcases hext with rfl | ⟨rest, rfl⟩
    · rw [takeWhile_nil, append_nil]
    · rw [takeWhile_cons_of_neg (by decide), append_nil]
  rw [hbefore, Text.trim_append hne, String.toList_ofList]
  · exact readHex_of_valueOf? hne hvalue hfits
  · intro c hc
    have hrange := hdigits c hc
    unfold Text.isWhitespace
    simp only [Bool.or_eq_false_iff, Bool.and_eq_false_iff, decide_eq_false_iff_not]
    omega
  · intro c hc
    rcases hblanks c hc with rfl | rfl <;> decide

/-! ## The coding -/

def crlf : List UInt8 := [13, 10]

/-- The chunked encodings of a payload. -/
inductive Chunks (limit : ℕ) : List UInt8 → List UInt8 → Prop
  | last {line : List Char} (hline : IsSizeLine 0 line) : Chunks limit [] (Json.utf8 line ++ crlf)
  | chunk {line : List Char} {data payload rest : List UInt8} (hline : IsSizeLine data.length line)
      (hne : data ≠ []) (hfits : data.length ≤ limit) (hrest : Chunks limit payload rest) :
      Chunks limit (data ++ payload) (Json.utf8 line ++ crlf ++ (data ++ (crlf ++ rest)))

def IsTrailer (trailer : List UInt8) : Prop :=
  ∃ fields : List (List UInt8), (∀ field ∈ fields, field ≠ [] ∧ ¬ crlf <:+: field) ∧
    trailer = fields.flatMap (fun field => field ++ crlf) ++ crlf

/-- A whole chunked body. -/
def Encodes (limit : ℕ) (payload encoding : List UInt8) : Prop :=
  ∃ chunks trailer, Chunks limit payload chunks ∧ IsTrailer trailer ∧ encoding = chunks ++ trailer

/-- The last chunk has come. -/
def Terminated (limit : ℕ) (body : List UInt8) : Prop :=
  ∃ payload chunks, Chunks limit payload chunks ∧ chunks <+: body

end Chunked
