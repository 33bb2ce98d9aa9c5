/-
# Rendered artifacts

An artifact that a viewer renders is scanned for active content, with numeric character references
decoded and letters in lower case.  A verdict does not depend on case or on terminated references
(`verdict_of_spelling`).  It does depend on references that lack their semicolon
(`unclosed_rejected_iff`) and on how whitespace is spelled (`respaced_rejected_iff`).
-/
import Akson.Env
import Akson.Lib.Chunked
import Akson.Lib.Text

namespace Akson

open List

/-- The content type and what was found. -/
structure NotInert where
  mediaType : String
  reason : String

def isRenderable (mediaType : String) : Bool :=
  ["image/svg+xml", "text/html", "application/xhtml+xml", "text/markdown", "text/x-markdown",
    "text/vnd.mermaid", "text/vnd.graphviz", "text/vnd.graphviz+dot"].contains
    (Text.toAsciiLowercase (Text.trim (Text.before ';' mediaType)))

/-! ## Numeric references -/

def toDigit (radix : ℕ) (c : Char) : Option ℕ := (Chunked.digit? c).filter (· < radix)

def fromDigits (radix : ℕ) (digits : List Char) : Option ℕ :=
  digits.foldlM (fun n c => (toDigit radix c).map (fun d => radix * n + d)) 0

def fromStrRadix (radix : ℕ) (text : List Char) : Option ℕ :=
  let digits := if text.head? = some '+' then text.tail else text
  if digits = [] then none else (fromDigits radix digits).filter (· < 2 ^ 32)

def charFromU32 (n : ℕ) : Option Char := if n.isValidChar then some (Char.ofNat n) else none

def untilSemicolon : List Char → Option (List Char × List Char)
  | [] => none
  | c :: t => if c = ';' then some ([], t) else (untilSemicolon t).map (Prod.map (c :: ·) id)

def readReference (radix : ℕ) (t : List Char) : Option (Char × List Char) := do
  let (digits, rest) ← untilSemicolon t
  return (← charFromU32 (← fromStrRadix radix digits), rest)

def reference : List Char → Option (Char × List Char)
  | a :: b :: c :: t =>
    if ¬ (a = '&' ∧ b = '#') then none
    else if c = 'x' ∨ c = 'X' then readReference 16 t
    else readReference 10 (c :: t)
  | _ => none

theorem untilSemicolon_eq_some_iff {t digits rest : List Char} :
    untilSemicolon t = some (digits, rest) ↔ t = digits ++ ';' :: rest ∧ ';' ∉ digits := by
  induction t generalizing digits with
  | nil => simp [untilSemicolon]
  | cons c t ih =>
    unfold untilSemicolon
    split
    case isTrue hc =>
      subst hc
      cases digits <;> simp +contextual [eq_comm]
    case isFalse hc =>
      rw [Option.map_eq_some_iff]
      constructor
      · rintro ⟨⟨run, rest'⟩, hrun, heq⟩
        cases heq
        obtain ⟨rfl, hnot⟩ := ih.1 hrun
        exact ⟨rfl, by simp [hnot, Ne.symm hc]⟩
      · rintro ⟨heq, hnot⟩
        cases digits with
        | nil => exact absurd (cons.inj heq).1 hc
        | cons d digits =>
          obtain ⟨rfl, rfl⟩ := cons.inj heq
          exact ⟨_, ih.2 ⟨rfl, fun h => hnot (mem_cons_of_mem _ h)⟩, rfl⟩

theorem length_readReference {radix : ℕ} {t rest : List Char} {c : Char}
    (h : readReference radix t = some (c, rest)) : rest.length < t.length := by
  obtain ⟨⟨digits, rest'⟩, huntil, h⟩ := Option.bind_eq_some_iff.1 h
  obtain ⟨n, -, h⟩ := Option.bind_eq_some_iff.1 h
  obtain ⟨d, -, h⟩ := Option.bind_eq_some_iff.1 h
  cases h
  rw [(untilSemicolon_eq_some_iff.1 huntil).1, length_append, length_cons]
  omega

theorem length_reference {t rest : List Char} {c : Char} (h : reference t = some (c, rest)) :
    rest.length < t.length := by
  unfold reference at h
  split at h
  case h_1 =>
    split_ifs at h
    · exact (length_readReference h).trans (by simp only [length_cons]; omega)
    · exact (length_readReference h).trans (by simp only [length_cons]; omega)
  case h_2 => cases h

def decodeNumericEntities (t : List Char) : List Char :=
  match _h : reference t with
  | some (c, rest) => c :: decodeNumericEntities rest
  | none =>
    match t with
    | [] => []
    | c :: t => c :: decodeNumericEntities t
termination_by t.length
decreasing_by
  · exact length_reference _h
  · exact Nat.lt_succ_self _

/-! ## The scan -/

def startsWith (token : String) (t : List Char) : Bool := token.toList.isPrefixOf t

/-- A search for a place: what stands before it, and what from it on. -/
def somewhere (place : Option Char → List Char → Bool) : Option Char → List Char → Bool
  | before, [] => place before []
  | before, c :: t => place before (c :: t) || somewhere place (some c) t

def contains (token : String) (text : List Char) : Bool :=
  somewhere (fun _ t => startsWith token t) none text

def isBlank (c : Char) : Bool := " \t\n\r\x0c".toList.contains c

def isHandler (boundary : String) (before : Option Char) (t : List Char) : Bool :=
  startsWith "on" t && before.all boundary.toList.contains && (t.drop 2).head?.any Char.isLower &&
    (((t.drop 2).dropWhile Char.isLower).dropWhile isBlank).head?.any (· == '=')

def isReference (skipped anchor : String) (before : Option Char) (t : List Char) : Bool :=
  let after := t.drop anchor.length
  startsWith anchor t &&
    (anchor != "url" || (!before.any Char.isAlphanum &&
      (after.dropWhile isBlank).head?.any "=(".toList.contains)) &&
    ["http://", "https://", "//"].any (startsWith · (after.dropWhile skipped.toList.contains))

def hasEventHandler (text : List Char) : Bool := somewhere (isHandler " \t\n\r</\"'") none text

def anchors : List String := ["href", "srcset", "src", "url"]

def referencesExternalUrl (text : List Char) : Bool :=
  anchors.any fun anchor => somewhere (isReference "=\"'( \t" anchor) none text

def activeMarkup : List String :=
  ["<script", "<iframe", "<object", "<embed", "<foreignobject", "<applet", "<meta http-equiv",
    "<!entity", "<!doctype", "<?xml-stylesheet"]

def scriptUris : List String := ["javascript:", "data:text/html", "vbscript:"]

def activeReason (text : List Char) : Option String :=
  if activeMarkup.any (contains · text) then some "contains active or embedding markup"
  else if scriptUris.any (contains · text) then some "contains a script or html data URI"
  else if hasEventHandler text then some "contains an inline event handler"
  else if referencesExternalUrl text then some "references an external URL"
  else none

/-- The text that is scanned. -/
def scanned (t : List Char) : List Char := (decodeNumericEntities t).map Char.toLower

def objection (bytes : Bytes) : Option String :=
  match if 0 ∈ bytes then none else fromUtf8 bytes with
  | none => some "is not clean UTF-8 text (may hide active content)"
  | some s => activeReason (scanned s.toList)

def checkInert (mediaType : String) (bytes : Bytes) : Except NotInert Unit :=
  if isRenderable mediaType then
    match objection bytes with
    | some reason => .error ⟨mediaType, reason⟩
    | none => .ok ()
  else .ok ()

/-! ## Characters that are spelled differently -/

variable {f : Char → Char} {t u : List Char} {c : Char}

/-- A change of characters that no reference notices. -/
structure Transparent (f : Char → Char) : Prop where
  twice : ∀ c, f (f c) = f c
  special : ∀ c, ∀ k ∈ ['&', '#', ';', '+'], f c = k ↔ c = k
  marker : ∀ c, (f c = 'x' ∨ f c = 'X') ↔ (c = 'x' ∨ c = 'X')
  digit : ∀ c, Chunked.digit? (f c) = Chunked.digit? c

theorem untilSemicolon_map (h : Transparent f) (t : List Char) :
    untilSemicolon (t.map f) = (untilSemicolon t).map (Prod.map (map f) (map f)) := by
  induction t with
  | nil => rfl
  | cons c t ih =>
    simp only [map_cons, untilSemicolon, h.special c ';' (by simp), ih]
    split
    · rfl
    · cases untilSemicolon t <;> rfl

theorem fromStrRadix_map (h : Transparent f) (radix : ℕ) (t : List Char) :
    fromStrRadix radix (t.map f) = fromStrRadix radix t := by
  have hdigits (l : List Char) : fromDigits radix (l.map f) = fromDigits radix l := by
    simp only [fromDigits, foldlM_map, toDigit, h.digit]
  cases t with
  | nil => rfl
  | cons c t =>
    simp only [fromStrRadix, map_cons, head?_cons, Option.some.injEq, h.special c '+' (by simp),
      tail_cons]
    split
    · simp only [hdigits, map_eq_nil_iff]
    · rw [← map_cons, hdigits]
      rfl

theorem readReference_map (h : Transparent f) (radix : ℕ) (t : List Char) :
    readReference radix (t.map f) = (readReference radix t).map (Prod.map id (map f)) := by
  unfold readReference
  rw [untilSemicolon_map h]
  cases untilSemicolon t with
  | none => rfl
  | some cut =>
    simp only [Option.map_some, Option.bind_eq_bind, Option.bind_some, Prod.map_fst,
      fromStrRadix_map h]
    cases fromStrRadix radix cut.1 with
    | none => rfl
    | some n => cases hn : charFromU32 n <;> simp [hn]

theorem reference_map (h : Transparent f) (t : List Char) :
    reference (t.map f) = (reference t).map (Prod.map id (map f)) := by
  rcases t with _ | ⟨a, _ | ⟨b, _ | ⟨c, t⟩⟩⟩
  iterate 3 rfl
  simp only [map_cons, reference, h.special a '&' (by simp), h.special b '#' (by simp), h.marker c]
  rw [← map_cons, readReference_map h, readReference_map h]
  split_ifs <;> rfl

theorem decode_of_some {rest : List Char} (h : reference t = some (c, rest)) :
    decodeNumericEntities t = c :: decodeNumericEntities rest := by
  rw [decodeNumericEntities]
  split <;> simp_all

theorem decode_of_none (h : reference (c :: t) = none) :
    decodeNumericEntities (c :: t) = c :: decodeNumericEntities t := by
  rw [decodeNumericEntities]
  split <;> simp_all

theorem decode_nil : decodeNumericEntities [] = [] := by
  rw [decodeNumericEntities]
  rfl

theorem decode_map (h : Transparent f) (t : List Char) :
    (decodeNumericEntities (t.map f)).map f = (decodeNumericEntities t).map f := by
  have href := reference_map h t
  cases hr : reference t with
  | some out =>
    rw [hr] at href
    have hshort := length_reference hr
    rw [decode_of_some href, decode_of_some hr, map_cons, map_cons]
    exact congrArg _ (decode_map h out.2)
  | none =>
    cases t with
    | nil => rfl
    | cons c t =>
      rw [hr] at href
      rw [map_cons] at href ⊢
      rw [decode_of_none href, decode_of_none hr, map_cons, map_cons, h.twice, decode_map h t]
termination_by t.length

/-! ## Letters -/

theorem toLower_cases (c : Char) :
    c.toLower = c ∨ (65 ≤ c.toNat ∧ c.toNat ≤ 90 ∧ c.toLower.toNat = c.toNat + 32) := by
  unfold Char.toLower
  split
  case isTrue h =>
    have hlow : 65 ≤ c.toNat := UInt32.le_iff_toNat_le.1 h.1
    have hhigh : c.toNat ≤ 90 := UInt32.le_iff_toNat_le.1 h.2
    refine .inr ⟨hlow, hhigh, ?_⟩
    change (c.val + 32).toNat = c.toNat + 32
    rw [UInt32.toNat_add]
    exact Nat.mod_eq_of_lt (by change c.toNat + 32 < _; omega)
  case isFalse => exact .inl rfl

theorem toLower_eq_iff {k : Char} (hk : k.toNat < 65) (c : Char) : c.toLower = k ↔ c = k := by
  rcases toLower_cases c with h | ⟨hlow, -, h⟩
  · rw [h]
  · rw [← Char.toNat_inj, h, ← Char.toNat_inj]
    omega

theorem transparent_toLower : Transparent Char.toLower where
  twice c := by
    rcases toLower_cases c with h | ⟨hlow, -, h⟩
    · rw [h, h]
    · rcases toLower_cases c.toLower with h' | ⟨-, hhigh, -⟩
      · exact h'
      · omega
  special c k hk := by
    simp only [mem_cons, not_mem_nil, or_false] at hk
    rcases hk with rfl | rfl | rfl | rfl <;> exact toLower_eq_iff (by decide) c
  marker c := by
    rcases toLower_cases c with h | ⟨hlow, hhigh, h⟩
    · rw [h]
    · simp only [← Char.toNat_inj, h, show 'x'.toNat = 120 from rfl, show 'X'.toNat = 88 from rfl]
      omega
  digit c := by
    rcases toLower_cases c with h | ⟨hlow, hhigh, h⟩
    · rw [h]
    · simp only [Chunked.digit?, h]
      split_ifs <;> first | omega | rfl

theorem zero_mem_utf8_iff {s : String} : 0 ∈ utf8 s ↔ Char.ofNat 0 ∈ s.toList := by
  have hbyte (c : Char) : 0 ∈ String.utf8EncodeChar c ↔ c = Char.ofNat 0 := by
    have hzero : c = Char.ofNat 0 ↔ c.val.toNat = 0 := by
      rw [← Char.toNat_inj]
      rfl
    rw [hzero]
    unfold String.utf8EncodeChar
    dsimp only
    generalize c.val.toNat = v
    split_ifs <;> simp [← UInt8.toNat_inj] <;> omega
  rw [utf8, Json.utf8, mem_flatMap]
  simp only [hbyte, exists_eq_right]

theorem objection_utf8 (s : String) : objection (utf8 s) =
    if Char.ofNat 0 ∈ s.toList then some "is not clean UTF-8 text (may hide active content)"
    else activeReason (scanned s.toList) := by
  have hread : fromUtf8 (utf8 s) = some s := fromUtf8_eq_some_iff.2 rfl
  simp only [objection, zero_mem_utf8_iff, hread]
  split_ifs <;> rfl

theorem isRenderable_of_toLower {s s' : String} (h : Text.toAsciiLowercase s = Text.toAsciiLowercase s') :
    isRenderable s = isRenderable s' := by
  have hblank (c : Char) : Text.isWhitespace c.toLower = Text.isWhitespace c := by
    rcases toLower_cases c with hc | ⟨hlow, hhigh, hc⟩
    · rw [hc]
    · simp only [Text.isWhitespace, hc]
      rw [← Bool.coe_iff_coe]
      simp
      omega
  have hkey (s : String) : Text.toAsciiLowercase (Text.trim (Text.before ';' s)) =
      Text.trim (Text.before ';' (Text.toAsciiLowercase s)) := by
    have hsemicolon (c : Char) : c.toLower = ';' ↔ c = ';' := toLower_eq_iff (by decide) c
    simp only [Text.toAsciiLowercase, Text.trim, Text.before, String.toList_ofList, ← map_reverse,
      takeWhile_map, dropWhile_map, Function.comp_def, hblank, ne_eq, hsemicolon]
  rw [isRenderable, isRenderable, hkey, hkey, h]

/-! ## References -/

/-- A character, and the reference it is spelled by, if it is. -/
abbrev Piece : Type := Char × Option (List Char)

/-- A reference to the character, without its opening and closing. -/
inductive Refers (c : Char) : ℕ → List Char → Prop
  | decimal {digits} (hne : digits ≠ []) (h : fromDigits 10 digits = some c.toNat) :
      Refers c 10 digits
  | hex {x digits} (hx : x = 'x' ∨ x = 'X') (hne : digits ≠ [])
      (h : fromDigits 16 digits = some c.toNat) : Refers c 16 (x :: digits)

def plain (pieces : List Piece) : List Char := pieces.map Prod.fst

def spelled (ending : List Char) : List Piece → List Char
  | [] => []
  | (c, none) :: ps => c :: spelled ending ps
  | (_, some r) :: ps => '&' :: '#' :: r ++ ending ++ spelled ending ps

/-- Every reference is one to its character, and ends where its digits end (as at a semicolon). -/
def Spells (ending : List Char) : List Piece → Prop
  | [] => True
  | (_, none) :: ps => Spells ending ps
  | (c, some r) :: ps => (∃ radix, Refers c radix r ∧
      ∀ d ∈ (ending ++ spelled ending ps).head?, toDigit radix d = none) ∧ Spells ending ps

theorem digits_of_fromDigits {radix n : ℕ} {digits : List Char}
    (h : fromDigits radix digits = some n) : ∀ c ∈ digits, (toDigit radix c).isSome = true := by
  unfold fromDigits at h
  -- the value read so far is arbitrary: every digit has to be one for the reading to go on
  generalize 0 = acc at h
  induction digits generalizing acc with
  | nil => simp
  | cons c digits ih =>
    rw [foldlM_cons, Option.bind_eq_bind, Option.bind_eq_some_iff] at h
    obtain ⟨next, hnext, hrest⟩ := h
    obtain ⟨d, hd, -⟩ := Option.map_eq_some_iff.1 hnext
    exact forall_mem_cons.2 ⟨by rw [hd, Option.isSome_some], ih next hrest⟩

theorem digits_of_fromStrRadix {radix n : ℕ} {text : List Char}
    (h : fromStrRadix radix text = some n) : ∀ c ∈ text.tail, (toDigit radix c).isSome = true := by
  simp only [fromStrRadix, Option.ite_none_left_eq_some, Option.filter_eq_some_iff] at h
  obtain ⟨-, h, -⟩ := h
  split at h
  · exact digits_of_fromDigits h
  · exact fun c hc => digits_of_fromDigits h c (mem_of_mem_tail hc)

theorem charFromU32_toNat (c : Char) : charFromU32 c.toNat = some c := by
  unfold charFromU32
  rw [if_pos (show c.toNat.isValidChar from c.valid), Char.ofNat_toNat]

theorem fromStrRadix_of_digits {radix : ℕ} {digits : List Char} (hne : digits ≠ [])
    (h : fromDigits radix digits = some c.toNat) : fromStrRadix radix digits = some c.toNat := by
  have hplus : digits.head? ≠ some '+' := by
    intro hhead
    have hdigit := digits_of_fromDigits h '+' (mem_of_head? hhead)
    cases hdigit
  have hlt : c.toNat < 2 ^ 32 := c.val.toNat_lt
  simp only [fromStrRadix, if_neg hplus, if_neg hne, h, Option.filter_some, decide_eq_true hlt, if_true]

theorem readReference_of_digits {radix : ℕ} {digits : List Char} (hne : digits ≠ [])
    (h : fromDigits radix digits = some c.toNat) (t : List Char) :
    readReference radix (digits ++ ';' :: t) = some (c, t) := by
  have hnot : ';' ∉ digits := by
    intro hmem
    have hdigit := digits_of_fromDigits h ';' hmem
    cases hdigit
  simp only [readReference, untilSemicolon_eq_some_iff.2 ⟨rfl, hnot⟩, Option.bind_eq_bind,
    Option.bind_some, fromStrRadix_of_digits hne h, charFromU32_toNat]
  rfl

variable {radix : ℕ} {r : List Char}

theorem Refers.notMem (h : Refers c radix r) {k : Char} (hk : Chunked.digit? k = none)
    (hx : k ≠ 'x' ∧ k ≠ 'X') : k ∉ r := by
  have hnot {radix n : ℕ} {digits : List Char} (h : fromDigits radix digits = some n) : k ∉ digits := by
    intro hmem
    have hdigit := digits_of_fromDigits h k hmem
    rw [toDigit, hk] at hdigit
    cases hdigit
  cases h with
  | decimal _ h => exact hnot h
  | hex hmarker _ h =>
    rw [mem_cons, not_or]
    exact ⟨by rcases hmarker with rfl | rfl; exacts [hx.1, hx.2], hnot h⟩

/-- A reference is read in one way, whatever follows it. -/
theorem Refers.read (h : Refers c radix r) (t : List Char) :
    ∃ digits, digits ≠ [] ∧ fromDigits radix digits = some c.toNat ∧
      reference ('&' :: '#' :: r ++ t) = readReference radix (digits ++ t) := by
  cases h with
  | decimal hne h =>
    cases r with
    | nil => exact absurd rfl hne
    | cons d digits =>
      have hmarker : ¬ (d = 'x' ∨ d = 'X') := by
        have hdigit := digits_of_fromDigits h d mem_cons_self
        rintro (rfl | rfl) <;> cases hdigit
      exact ⟨d :: digits, hne, h, by simp [reference, hmarker]⟩
  | hex hx hne h => exact ⟨_, hne, h, by simp [reference, hx]⟩

theorem decode_append (h : '&' ∉ t) (u : List Char) :
    decodeNumericEntities (t ++ u) = t ++ decodeNumericEntities u := by
  induction t with
  | nil => rfl
  | cons c t ih =>
    rw [mem_cons, not_or] at h
    rw [cons_append, decode_of_none, ih h.2, cons_append]
    unfold reference
    split
    case h_1 heq =>
      obtain ⟨rfl, -⟩ := cons.inj heq
      exact if_pos fun hopen => h.1 hopen.1.symm
    case h_2 => rfl

theorem decode_closed (h : Refers c radix r) (t : List Char) :
    decodeNumericEntities ('&' :: '#' :: r ++ ';' :: t) = c :: decodeNumericEntities t := by
  obtain ⟨digits, hne, hvalue, href⟩ := h.read (';' :: t)
  rw [readReference_of_digits hne hvalue] at href
  exact decode_of_some href

/-- A reference that lacks its semicolon stays as it is. -/
theorem decode_unclosed (h : Refers c radix r)
    (hnext : ∀ d ∈ t.head?, toDigit radix d = none ∧ d ≠ ';') :
    decodeNumericEntities ('&' :: '#' :: r ++ t) = '&' :: '#' :: r ++ decodeNumericEntities t := by
  obtain ⟨digits, hne, hvalue, href⟩ := h.read t
  have hnone : readReference radix (digits ++ t) = none := by
    rw [Option.eq_none_iff_forall_ne_some]
    rintro ⟨d, rest⟩ hsome
    obtain ⟨⟨run, rest'⟩, huntil, hsome⟩ := Option.bind_eq_some_iff.1 hsome
    obtain ⟨n, hread, -⟩ := Option.bind_eq_some_iff.1 hsome
    obtain ⟨d, digits, rfl⟩ := exists_cons_of_ne_nil hne
    -- the run up to the semicolon takes in the character after the reference, which is no digit
    rcases append_eq_append_iff.1 (untilSemicolon_eq_some_iff.1 huntil).1 with
      ⟨more, rfl, ht⟩ | ⟨more, hdigits, ht⟩
    · cases more with
      | nil => exact (hnext ';' (by simp [ht])).2 rfl
      | cons e more =>
        have hdigit := digits_of_fromStrRadix hread e (by simp)
        rw [(hnext e (by simp [ht])).1] at hdigit
        cases hdigit
    · cases more with
      | nil => exact (hnext ';' (congrArg head? ht.symm)).2 rfl
      | cons e more =>
        obtain ⟨rfl, -⟩ := cons.inj ht
        have hdigit := digits_of_fromDigits hvalue ';' (by simp [hdigits])
        cases hdigit
  rw [cons_append] at href ⊢
  rw [decode_of_none (href.trans hnone), decode_append (by simp [h.notMem (k := '&') rfl (by decide)])]
  rfl

theorem zero_notMem_spelled {ps : List Piece} {ending : List Char} (h : Spells ending ps)
    (hzero : Char.ofNat 0 ∉ plain ps) (hending : Char.ofNat 0 ∉ ending) :
    Char.ofNat 0 ∉ spelled ending ps := by
  induction ps with
  | nil => exact not_mem_nil
  | cons p ps ih =>
    have hrest : Char.ofNat 0 ∉ plain ps := fun h => hzero (mem_cons_of_mem _ h)
    obtain ⟨c, _ | r⟩ := p
    · rw [spelled, mem_cons, not_or]
      exact ⟨fun h => hzero (mem_cons.2 (.inl h)), ih h hrest⟩
    · obtain ⟨⟨radix, hrefers, -⟩, h⟩ := h
      have hr := hrefers.notMem (k := Char.ofNat 0) rfl (by decide)
      simp [spelled, hr, hending, ih h hrest]

theorem decode_plain (h : '&' ∉ t) : decodeNumericEntities t = t := by
  have hdecode := decode_append h []
  rwa [append_nil, decode_nil, append_nil] at hdecode

theorem decode_spelled {ps : List Piece} (h : Spells [';'] ps) (hamp : '&' ∉ plain ps) :
    decodeNumericEntities (spelled [';'] ps) = plain ps := by
  induction ps with
  | nil => exact decode_nil
  | cons p ps ih =>
    have hrest : '&' ∉ plain ps := fun h => hamp (mem_cons_of_mem _ h)
    obtain ⟨c, _ | r⟩ := p
    · have hc : '&' ∉ [c] := fun h => hamp (mem_cons.2 (.inl (mem_singleton.1 h)))
      exact (decode_append hc _).trans (congrArg (c :: ·) (ih h hrest))
    · obtain ⟨⟨radix, hrefers, -⟩, h⟩ := h
      rw [spelled, append_assoc, singleton_append, decode_closed hrefers, ih h hrest]
      rfl

def verdict (mediaType : String) (bytes : Bytes) : Except String Unit :=
  (checkInert mediaType bytes).mapError NotInert.reason

theorem verdict_congr {mediaType mediaType' : String} {s s' : String}
    (hmedia : isRenderable mediaType = isRenderable mediaType')
    (hzero : Char.ofNat 0 ∈ s.toList ↔ Char.ofNat 0 ∈ s'.toList)
    (hscan : scanned s.toList = scanned s'.toList) :
    verdict mediaType (utf8 s) = verdict mediaType' (utf8 s') := by
  simp only [verdict, checkInert, objection_utf8, hmedia, hzero, hscan]
  split
  · split <;> rfl
  · rfl

/-- **Neither case nor terminated references change a verdict.** -/
theorem verdict_of_spelling :
    (∀ mediaType mediaType' s s' : String,
      Text.toAsciiLowercase mediaType' = Text.toAsciiLowercase mediaType →
      Text.toAsciiLowercase s' = Text.toAsciiLowercase s →
      verdict mediaType' (utf8 s') = verdict mediaType (utf8 s)) ∧
    ∀ (mediaType : String) (ps : List Piece),
      Spells [';'] ps → '&' ∉ plain ps → Char.ofNat 0 ∉ plain ps →
      verdict mediaType (utf8 (String.ofList (spelled [';'] ps))) =
        verdict mediaType (utf8 (String.ofList (plain ps))) := by
  constructor
  · intro mediaType mediaType' s s' hmedia hs
    have hlower := String.ofList_injective hs
    refine verdict_congr (isRenderable_of_toLower hmedia) ?_ ?_
    · have hmem (l : List Char) : Char.ofNat 0 ∈ l ↔ Char.ofNat 0 ∈ l.map Char.toLower := by
        simp [toLower_eq_iff (k := Char.ofNat 0) (by decide)]
      rw [hmem, hlower, ← hmem]
    · rw [scanned, ← decode_map transparent_toLower, hlower, decode_map transparent_toLower, scanned]
  · intro mediaType ps hps hamp hzero
    refine verdict_congr rfl ?_ ?_
    · rw [String.toList_ofList, String.toList_ofList]
      exact iff_of_false (zero_notMem_spelled hps hzero (by decide)) hzero
    · rw [String.toList_ofList, String.toList_ofList, scanned, scanned, decode_spelled hps hamp,
        decode_plain hamp]

/-! ## References without a semicolon -/

/-- What the scan makes of references without a semicolon: the one before a semicolon of the text
takes that for its own, and the others stay as they are. -/
def seen : List Piece → List Char
  | [] => []
  | (c, none) :: ps => c :: seen ps
  | (c, some r) :: ps =>
    if (spelled [] ps).head? = some ';' then c :: (seen ps).tail else '&' :: '#' :: r ++ seen ps

theorem decode_unclosed_pieces {ps : List Piece} (h : Spells [] ps) (hamp : '&' ∉ plain ps) :
    decodeNumericEntities (spelled [] ps) = seen ps := by
  induction ps with
  | nil => exact decode_nil
  | cons p ps ih =>
    have hrest : '&' ∉ plain ps := fun h => hamp (mem_cons_of_mem _ h)
    obtain ⟨c, _ | r⟩ := p
    · have hc : '&' ∉ [c] := fun h => hamp (mem_cons.2 (.inl (mem_singleton.1 h)))
      exact (decode_append hc _).trans (congrArg (c :: ·) (ih h hrest))
    · obtain ⟨⟨radix, hrefers, hnext⟩, h⟩ := h
      have ih := ih h hrest
      rw [spelled, append_nil, seen]
      split
      case isTrue hhead =>
        obtain ⟨t, ht⟩ := head?_eq_some_iff.1 hhead
        rw [ht] at ih
        have hsemicolon := decode_append (t := [';']) (by decide) t
        rw [singleton_append] at hsemicolon
        rw [ht, decode_closed hrefers, ← ih, hsemicolon]
        rfl
      case isFalse hhead =>
        rw [decode_unclosed hrefers, ih]
        exact fun d hd => ⟨hnext d hd, fun hd' => hhead (hd' ▸ hd)⟩

def Rejected (mediaType : String) (t : List Char) : Prop :=
  ∃ e, checkInert mediaType (utf8 (String.ofList t)) = .error e

theorem rejected_iff {mediaType : String} (h : isRenderable mediaType = true) (t : List Char) :
    Rejected mediaType t ↔ Char.ofNat 0 ∈ t ∨ activeReason (scanned t) ≠ none := by
  unfold Rejected checkInert
  rw [if_pos h, objection_utf8, String.toList_ofList]
  by_cases hzero : Char.ofNat 0 ∈ t
  · simp [hzero]
  · cases hreason : activeReason (scanned t) <;> simp [hzero]

/-- References without a semicolon are rejected exactly if the text is active with each of them left
as it stands, but for those before a semicolon. -/
theorem unclosed_rejected_iff {mediaType : String} (h : isRenderable mediaType = true)
    {ps : List Piece} (hps : Spells [] ps) (hamp : '&' ∉ plain ps) (hzero : Char.ofNat 0 ∉ plain ps) :
    Rejected mediaType (spelled [] ps) ↔ activeReason ((seen ps).map Char.toLower) ≠ none := by
  rw [rejected_iff h, scanned, decode_unclosed_pieces hps hamp]
  exact or_iff_right (zero_notMem_spelled hps hzero not_mem_nil)

/-- The text `&#60script`, for `<script`. -/
def unclosedScript : List Piece := ('<', some "60".toList) :: "script".toList.map (·, none)

theorem isRenderable_html : isRenderable "text/html" = true := by decide

theorem spells_unclosedScript : Spells [] unclosedScript := by
  refine ⟨⟨10, .decimal (by decide) rfl, ?_⟩, trivial⟩
  intro d hd
  obtain rfl : 's' = d := Option.some.inj hd
  rfl

/-- The text `<script&#62`, for `<script>`. -/
def unclosedEnd : List Piece := "<script".toList.map (·, none) ++ [('>', some "62".toList)]

theorem spells_unclosedEnd : Spells [] unclosedEnd :=
  ⟨⟨10, .decimal (by decide) rfl, fun _ hd => nomatch hd⟩, trivial⟩

theorem unclosed_end_rejected : Rejected "text/html" (spelled [] unclosedEnd) ∧
    activeReason ((seen unclosedEnd).map Char.toLower) ≠ none := by
  have hactive : activeReason ((seen unclosedEnd).map Char.toLower) ≠ none := by decide
  exact ⟨(unclosed_rejected_iff isRenderable_html spells_unclosedEnd (by decide) (by decide)).2 hactive,
    hactive⟩

theorem unclosed_script_accepted : isRenderable "text/html" = true ∧ Spells [] unclosedScript ∧
    '&' ∉ plain unclosedScript ∧ Char.ofNat 0 ∉ plain unclosedScript ∧
    Rejected "text/html" (plain unclosedScript) ∧
    ¬ Rejected "text/html" (spelled [] unclosedScript) := by
  refine ⟨isRenderable_html, spells_unclosedScript, by decide, by decide, ?_, ?_⟩
  · rw [rejected_iff isRenderable_html, scanned, decode_plain (by decide)]
    exact .inr (by decide)
  · rw [rejected_iff isRenderable_html, scanned, decode_unclosed_pieces spells_unclosedScript (by decide)]
    decide

/-! ## Whitespace -/

/-- Every whitespace character is spelled as a space. -/
def respace (c : Char) : Char := if isBlank c then ' ' else c

theorem apply_respace {β : Type*} (p : Char → β)
    (h : p '\t' = p ' ' ∧ p '\n' = p ' ' ∧ p '\r' = p ' ' ∧ p '\x0c' = p ' ') (c : Char) :
    p (respace c) = p c := by
  unfold respace
  split
  case isTrue hblank =>
    obtain ⟨htab, hlf, hcr, hff⟩ := h
    simp only [isBlank, contains_iff_mem] at hblank
    simp at hblank
    rcases hblank with rfl | rfl | rfl | rfl | rfl
    exacts [rfl, htab.symm, hlf.symm, hcr.symm, hff.symm]
  case isFalse => rfl

theorem respace_eq_iff {k : Char} (hk : isBlank k = false) (c : Char) : respace c = k ↔ c = k := by
  have hspace : k ≠ ' ' := by
    rintro rfl
    cases hk
  unfold respace
  split
  case isTrue hc => exact iff_of_false hspace.symm (by rintro rfl; rw [hk] at hc; cases hc)
  case isFalse => rfl

theorem transparent_respace : Transparent respace where
  twice c := apply_respace respace ⟨rfl, rfl, rfl, rfl⟩ c
  special c k hk := by
    simp only [mem_cons, not_mem_nil, or_false] at hk
    rcases hk with rfl | rfl | rfl | rfl <;> exact respace_eq_iff rfl c
  marker c := or_congr (respace_eq_iff rfl c) (respace_eq_iff rfl c)
  digit := apply_respace _ ⟨rfl, rfl, rfl, rfl⟩

theorem scanned_respace {s s' : List Char} (h : s'.map respace = s.map respace) :
    (scanned s').map respace = (scanned s).map respace := by
  have hswap (l : List Char) : (l.map Char.toLower).map respace =
      ((l.map respace).map Char.toLower).map respace := by
    have hlower := apply_respace (fun c => respace c.toLower) ⟨rfl, rfl, rfl, rfl⟩
    simp only [map_map, Function.comp_def, hlower]
  rw [scanned, scanned, hswap, ← decode_map transparent_respace, h, decode_map transparent_respace,
    ← hswap]

theorem somewhere_iff {place : Option Char → List Char → Bool} {before : Option Char} :
    somewhere place before t = true ↔
      ∃ n, place ((t.take n).getLast?.or before) (t.drop n) = true := by
  induction t generalizing before with
  | nil => simp [somewhere]
  | cons c t ih =>
    rw [somewhere, Bool.or_eq_true, ih]
    refine Iff.trans ?_ Nat.or_exists_add_one
    simp [getLast?_cons, Option.or_some]

theorem startsWith_respace {token : String} (htoken : token.toList.all fun k => k == ' ' || !isBlank k)
    (t : List Char) : startsWith token t = true ↔ startsWith token (t.map respace) = true ∧
      ∀ i : ℕ, token.toList[i]? = some ' ' → t[i]? = some ' ' := by
  unfold startsWith
  generalize token.toList = ks at htoken
  induction ks generalizing t with
  | nil => simp
  | cons k ks ih =>
    rw [all_cons, Bool.and_eq_true] at htoken
    cases t with
    | nil => simp
    | cons c t =>
      have hhead : k = c ↔ k = respace c ∧ (k = ' ' → c = ' ') := by
        rcases Bool.or_eq_true_iff.1 htoken.1 with hk | hk
        · rw [beq_iff_eq.1 hk]
          constructor
          · rintro rfl
            exact ⟨rfl, fun _ => rfl⟩
          · exact fun h => (h.2 rfl).symm
        · rw [Bool.not_eq_true'] at hk
          rw [eq_comm, ← respace_eq_iff hk, eq_comm, iff_self_and]
          rintro - rfl
          cases hk
      rw [map_cons, isPrefixOf_cons_cons, isPrefixOf_cons_cons, Bool.and_eq_true,
        Bool.and_eq_true, ih t htoken.2,
        beq_iff_eq, beq_iff_eq, hhead,
        ← Nat.and_forall_add_one (p := fun i => (k :: ks)[i]? = some ' ' → (c :: t)[i]? = some ' ')]
      simp only [getElem?_cons_zero, getElem?_cons_succ, Option.some.injEq]
      tauto

theorem startsWith_map (token : String) (htoken : token.toList.all (!isBlank ·)) (t : List Char) :
    startsWith token (t.map respace) = startsWith token t := by
  have hblank := all_eq_true.1 htoken
  rw [← Bool.coe_iff_coe, startsWith_respace (t := t), iff_self_and]
  · intro _ i hi
    cases hblank ' ' (mem_of_getElem? hi)
  · exact all_eq_true.2 fun k hk => by rw [hblank k hk, Bool.or_true]

/-- What stands before an attribute, and what before a target, if all whitespace were known. -/
def boundary : String := " \t\n\r\x0c</\"'"

@[inherit_doc boundary]
def gap : String := "=\"'( \t\n\r\x0c"

theorem isHandler_map (before : Option Char) (t : List Char) :
    isHandler boundary (before.map respace) (t.map respace) = isHandler boundary before t := by
  have hboundary := apply_respace boundary.toList.contains ⟨rfl, rfl, rfl, rfl⟩
  have hlower := apply_respace Char.isLower ⟨rfl, rfl, rfl, rfl⟩
  have hblank := apply_respace isBlank ⟨rfl, rfl, rfl, rfl⟩
  have hequals := apply_respace (· == '=') ⟨rfl, rfl, rfl, rfl⟩
  simp only [isHandler, startsWith_map "on" rfl, Option.all_map, ← map_drop, head?_map,
    Option.any_map, dropWhile_map, Function.comp_def, hboundary, hlower, hblank, hequals]

theorem isReference_map {anchor : String} (hanchor : anchor ∈ anchors) (before : Option Char)
    (t : List Char) : isReference gap anchor (before.map respace) (t.map respace) =
      isReference gap anchor before t := by
  have hgap := apply_respace gap.toList.contains ⟨rfl, rfl, rfl, rfl⟩
  have halphanum := apply_respace Char.isAlphanum ⟨rfl, rfl, rfl, rfl⟩
  have hblank := apply_respace isBlank ⟨rfl, rfl, rfl, rfl⟩
  have hassign := apply_respace "=(".toList.contains ⟨rfl, rfl, rfl, rfl⟩
  have hplain : anchor.toList.all (!isBlank ·) := by
    simp only [anchors, mem_cons, not_mem_nil, or_false] at hanchor
    rcases hanchor with rfl | rfl | rfl | rfl <;> rfl
  simp only [isReference, startsWith_map _ hplain, startsWith_map "http://" rfl,
    startsWith_map "https://" rfl, startsWith_map "//" rfl, any_cons, any_nil,
    ← map_drop, head?_map, Option.any_map, dropWhile_map, Function.comp_def, hgap, halphanum, hblank,
    hassign]

theorem isHandler_iff (before : Option Char) (t : List Char) :
    isHandler " \t\n\r</\"'" before t = true ↔
      isHandler boundary before t = true ∧ before ≠ some '\x0c' := by
  have hbefore : before.all " \t\n\r</\"'".toList.contains = true ↔
      before.all boundary.toList.contains = true ∧ before ≠ some '\x0c' := by
    cases before with
    | none => simp
    | some c =>
      by_cases hc : c = '\x0c'
      · subst hc
        decide
      · simp [boundary, hc]
  simp only [isHandler, Bool.and_eq_true, hbefore]
  tauto

theorem isReference_iff (anchor : String) (before : Option Char) (t : List Char) :
    isReference "=\"'( \t" anchor before t = true ↔ isReference gap anchor before t = true ∧
      ∀ c ∈ (t.drop anchor.length).takeWhile gap.toList.contains, c ∉ "\n\r\x0c".toList := by
  let starts (l : List Char) : Bool := ["http://", "https://", "//"].any (startsWith · l)
  have htarget (l : List Char) : starts (l.dropWhile "=\"'( \t".toList.contains) = true ↔
      starts (l.dropWhile gap.toList.contains) = true ∧
        ∀ c ∈ l.takeWhile gap.toList.contains, c ∉ "\n\r\x0c".toList := by
    induction l with
    | nil => simp
    | cons c l ih =>
      by_cases hfar : c ∈ "\n\r\x0c".toList
      · simp at hfar
        rcases hfar with rfl | rfl | rfl <;> simp [starts, startsWith, gap]
      · have hsame : gap.toList.contains c = "=\"'( \t".toList.contains c := by
          simp at hfar
          simp [gap, hfar]
        rw [dropWhile_cons, dropWhile_cons, takeWhile_cons, hsame]
        split
        · rw [ih, forall_mem_cons, and_iff_right hfar]
        · simp
  simp only [isReference, Bool.and_eq_true]
  exact (and_congr_right' (htarget _)).trans and_assoc.symm

/-- Active content at a place of the text, whatever whitespace stands there, where the scans know
the whitespace of the second text. -/
def KnownAt (u u' : List Char) (n : ℕ) : Prop :=
  (∃ token ∈ activeMarkup ++ scriptUris, startsWith token ((u.drop n).map respace) = true ∧
    ∀ i, token.toList[i]? = some ' ' → u'[n + i]? = some ' ') ∨
  (isHandler boundary (u.take n).getLast? (u.drop n) = true ∧ (u'.take n).getLast? ≠ some '\x0c') ∨
  ∃ anchor ∈ anchors, isReference gap anchor (u.take n).getLast? (u.drop n) = true ∧
    ∀ c ∈ (u'.drop (n + anchor.length)).takeWhile gap.toList.contains, c ∉ "\n\r\x0c".toList

theorem activeReason_iff : activeReason t ≠ none ↔
    (∃ token ∈ activeMarkup ++ scriptUris, contains token t = true) ∨ hasEventHandler t = true ∨
      referencesExternalUrl t = true := by
  simp only [activeReason, mem_append, or_and_right, exists_or, ← any_eq_true]
  split_ifs <;> simp_all

theorem activeReason_respace {u u' : List Char} (h : u'.map respace = u.map respace) :
    activeReason u' ≠ none ↔ ∃ n, KnownAt u u' n := by
  have hbefore (n : ℕ) : (u'.take n).getLast?.map respace = (u.take n).getLast?.map respace := by
    rw [← getLast?_map, map_take, h, ← map_take, getLast?_map]
  have hafter (n : ℕ) : (u'.drop n).map respace = (u.drop n).map respace := by
    rw [map_drop, h, ← map_drop]
  have htoken {token : String} (h : token ∈ activeMarkup ++ scriptUris) :
      token.toList.all fun k => k == ' ' || !isBlank k :=
    all_eq_true.1 (show (activeMarkup ++ scriptUris).all
      (fun token => token.toList.all fun k => k == ' ' || !isBlank k) = true by decide) token h
  simp only [KnownAt, exists_or, activeReason_iff, contains, hasEventHandler, referencesExternalUrl,
    any_eq_true, somewhere_iff, Option.or_none, ← exists_and_left]
  refine or_congr ?_ (or_congr ?_ ?_)
  · rw [exists_comm]
    refine exists_congr fun n => exists_congr fun token => and_congr_right fun hmem => ?_
    rw [startsWith_respace (htoken hmem), hafter]
    simp only [getElem?_drop]
  · refine exists_congr fun n => ?_
    rw [isHandler_iff, ← isHandler_map, hbefore, hafter, isHandler_map]
  · rw [exists_comm]
    refine exists_congr fun n => exists_congr fun anchor => and_congr_right fun hmem => ?_
    rw [isReference_iff, ← isReference_map hmem, hbefore, hafter, isReference_map hmem, drop_drop]

/-- A text with whitespace spelled differently is rejected exactly if some active content of it is
spelled with whitespace that the scans know. -/
theorem respaced_rejected_iff {mediaType : String} (h : isRenderable mediaType = true)
    {s s' : List Char} (hs : s'.map respace = s.map respace) : Rejected mediaType s' ↔
      Char.ofNat 0 ∈ s ∨ ∃ n, KnownAt (scanned s) (scanned s') n := by
  have hzero (l : List Char) : Char.ofNat 0 ∈ l ↔ Char.ofNat 0 ∈ l.map respace := by
    simp [respace_eq_iff (k := Char.ofNat 0) rfl]
  rw [rejected_iff h, activeReason_respace (scanned_respace hs), hzero, hs, ← hzero]

/-- An event handler after a tab is rejected, as it is after a space. -/
theorem respaced_handler_rejected : Rejected "text/html" "<p\tonload=".toList ∧
    ∃ n, KnownAt (scanned "<p onload=".toList) (scanned "<p\tonload=".toList) n := by
  have hrejected : Rejected "text/html" "<p\tonload=".toList := by
    rw [rejected_iff isRenderable_html, scanned, decode_plain (by decide)]
    exact .inr (by decide)
  have hspaces : "<p\tonload=".toList.map respace = "<p onload=".toList.map respace := by decide
  have hknown := (respaced_rejected_iff isRenderable_html hspaces).1 hrejected
  exact ⟨hrejected, hknown.resolve_left (by decide)⟩

theorem respaced_meta_accepted : isRenderable "text/html" = true ∧
    "<meta\thttp-equiv".toList.map respace = "<meta http-equiv".toList.map respace ∧
    Rejected "text/html" "<meta http-equiv".toList ∧
    ¬ Rejected "text/html" "<meta\thttp-equiv".toList := by
  refine ⟨isRenderable_html, by decide, ?_, ?_⟩
  · rw [rejected_iff isRenderable_html, scanned, decode_plain (by decide)]
    exact .inr (by decide)
  · rw [rejected_iff isRenderable_html, scanned, decode_plain (by decide)]
    decide

end Akson
