/-
# Canonical JSON text

The canonical form of a JSON value (RFC 8785): no whitespace, the members of an object sorted by the
UTF-16 code units of their names, strings with the shortest escapes, and numbers printed by a
function that is a parameter here.
-/
import Akson.Lib.Json
import Mathlib.Data.Char
import Mathlib.Data.List.Lex

namespace Json

open List

/-! ## Strings -/

def hexDigit (n : ℕ) : Char :=
  if n < 10 then Char.ofNat (48 + n) else Char.ofNat (87 + n)

def escape (c : Char) : List Char :=
  if c = '"' then ['\\', '"']
  else if c = '\\' then ['\\', '\\']
  else if c = '\x08' then ['\\', 'b']
  else if c = '\t' then ['\\', 't']
  else if c = '\n' then ['\\', 'n']
  else if c = '\x0c' then ['\\', 'f']
  else if c = '\r' then ['\\', 'r']
  else if c.toNat < 32 then
    ['\\', 'u', '0', '0', hexDigit (c.toNat / 16), hexDigit (c.toNat % 16)]
  else [c]

def unescape (e : Char) : Option Char :=
  if e = '"' then some '"'
  else if e = '\\' then some '\\'
  else if e = 'b' then some '\x08'
  else if e = 't' then some '\t'
  else if e = 'n' then some '\n'
  else if e = 'f' then some '\x0c'
  else if e = 'r' then some '\r'
  else none

def hexValue (c : Char) : ℕ :=
  if c.toNat < 58 then c.toNat - 48 else c.toNat - 87

def readChar : List Char → Option (Char × List Char)
  | '\\' :: 'u' :: '0' :: '0' :: h :: l :: rest =>
    some (Char.ofNat (16 * hexValue h + hexValue l), rest)
  | '\\' :: e :: rest => (unescape e).map (fun c => (c, rest))
  | c :: rest => some (c, rest)
  | [] => none

theorem readChar_control (n : ℕ) (hn : n < 32) (x : List Char) :
    readChar (['\\', 'u', '0', '0', hexDigit (n / 16), hexDigit (n % 16)] ++ x) =
      some (Char.ofNat n, x) := by
  have hvalue : ∀ n < 32, 16 * hexValue (hexDigit (n / 16)) + hexValue (hexDigit (n % 16)) = n := by
    decide
  simp only [cons_append, nil_append, readChar]
  rw [hvalue n hn]

theorem readChar_escape (c : Char) (x : List Char) : readChar (escape c ++ x) = some (c, x) := by
  unfold escape
  split_ifs with h₁ h₂ h₃ h₄ h₅ h₆ h₇ h₈
  case pos => subst h₁; rfl
  case pos => subst h₂; rfl
  case pos => subst h₃; rfl
  case pos => subst h₄; rfl
  case pos => subst h₅; rfl
  case pos => subst h₆; rfl
  case pos => subst h₇; rfl
  case pos => rw [readChar_control _ h₈, Char.ofNat_toNat]
  case neg =>
    simp only [cons_append, nil_append]
    rw [readChar]
    all_goals simp_all

theorem escape_append_ne_quote (c : Char) (x y : List Char) : escape c ++ x ≠ '"' :: y := by
  intro h
  have hread := readChar_escape c x
  rw [h] at hread
  obtain ⟨rfl, rfl⟩ : '"' = c ∧ y = x := by simpa [readChar] using hread
  exact absurd h (by simp [escape])

theorem quoted_inj {s t x y : List Char}
    (h : s.flatMap escape ++ '"' :: x = t.flatMap escape ++ '"' :: y) : s = t ∧ x = y := by
  induction s generalizing t with
  | nil =>
    cases t with
    | nil => simpa using h
    | cons d t =>
      rw [flatMap_cons, append_assoc] at h
      exact absurd h.symm (escape_append_ne_quote _ _ _)
  | cons c s ih =>
    cases t with
    | nil =>
      rw [flatMap_cons, append_assoc] at h
      exact absurd h (escape_append_ne_quote _ _ _)
    | cons d t =>
      rw [flatMap_cons, flatMap_cons, append_assoc, append_assoc] at h
      have hread := congrArg readChar h
      rw [readChar_escape, readChar_escape] at hread
      obtain ⟨rfl, hrest⟩ : c = d ∧ _ := by simpa using hread
      obtain ⟨rfl, rfl⟩ := ih hrest
      exact ⟨rfl, rfl⟩

def quote (s : String) : List Char := '"' :: (s.toList.flatMap escape ++ ['"'])

theorem quote_inj {s t : String} {x y : List Char} (h : quote s ++ x = quote t ++ y) :
    s = t ∧ x = y := by
  simp only [quote, cons_append, append_assoc, nil_append, List.cons.injEq,
    true_and] at h
  obtain ⟨hs, hx⟩ := quoted_inj h
  exact ⟨String.toList_inj.1 hs, hx⟩

/-! ## Trees -/

mutual

def encode (fmt : Rat → List Char) : Json → List Char
  | .null => ['n', 'u', 'l', 'l']
  | .bool true => ['t', 'r', 'u', 'e']
  | .bool false => ['f', 'a', 'l', 's', 'e']
  | .num q => fmt q
  | .str s => quote s
  | .arr xs => '[' :: encodeElems fmt [] xs
  | .obj fs => '{' :: encodeMembers fmt [] fs

def encodeElems (fmt : Rat → List Char) (sep : List Char) : List Json → List Char
  | [] => [']']
  | x :: xs => sep ++ (encode fmt x ++ encodeElems fmt [','] xs)

def encodeMembers (fmt : Rat → List Char) (sep : List Char) : List (String × Json) → List Char
  | [] => ['}']
  | (k, x) :: fs => sep ++ (quote k ++ ':' :: (encode fmt x ++ encodeMembers fmt [','] fs))

end

mutual

/-- All numbers satisfy `P`. -/
def NumsIn (P : Rat → Prop) : Json → Prop
  | .null | .bool _ | .str _ => True
  | .num q => P q
  | .arr xs => NumsInElems P xs
  | .obj fs => NumsInMembers P fs

def NumsInElems (P : Rat → Prop) : List Json → Prop
  | [] => True
  | x :: xs => NumsIn P x ∧ NumsInElems P xs

def NumsInMembers (P : Rat → Prop) : List (String × Json) → Prop
  | [] => True
  | (_, x) :: fs => NumsIn P x ∧ NumsInMembers P fs

end

def isNumChar (c : Char) : Bool := c.isDigit || c ∈ ['-', '+', '.', 'e', 'E']

/-- Texts of numbers that can be told apart. -/
structure NumText (fmt : Rat → List Char) (P : Rat → Prop) : Prop where
  ne_nil : ∀ q, P q → fmt q ≠ []
  chars : ∀ q, P q → ∀ c ∈ fmt q, isNumChar c = true
  inj : ∀ q r, P q → P r → fmt q = fmt r → q = r

theorem numText_false (fmt : Rat → List Char) : NumText fmt (fun _ => False) :=
  ⟨fun _ h => h.elim, fun _ h => h.elim, fun _ _ h => h.elim⟩

def NoNum (x : List Char) : Prop := ∀ c ∈ x.head?, isNumChar c = false

theorem append_inj_of_noNum {l m x y : List Char} (hl : ∀ c ∈ l, isNumChar c = true)
    (hm : ∀ c ∈ m, isNumChar c = true) (hx : NoNum x) (hy : NoNum y) (h : l ++ x = m ++ y) :
    l = m ∧ x = y := by
  induction l generalizing m with
  | nil =>
    cases m with
    | nil => exact ⟨rfl, h⟩
    | cons d m =>
      have hd := hx d (by simp [show x = d :: (m ++ y) from h])
      simp [hm d (by simp)] at hd
  | cons c l ih =>
    cases m with
    | nil =>
      have hc := hy c (by simp [show y = c :: (l ++ x) from h.symm])
      simp [hl c (by simp)] at hc
    | cons d m =>
      simp only [cons_append, List.cons.injEq] at h
      obtain ⟨rfl, hrest⟩ := h
      obtain ⟨rfl, rfl⟩ := ih (fun c hc => hl c (by simp [hc])) (fun c hc => hm c (by simp [hc]))
        hrest
      exact ⟨rfl, rfl⟩

section Injectivity

variable {fmt : Rat → List Char} {P : Rat → Prop}

theorem NumText.head (hf : NumText fmt P) {q : Rat} (hq : P q) :
    ∃ c l, fmt q = c :: l ∧ isNumChar c = true := by
  obtain ⟨c, l, hcl⟩ := exists_cons_of_ne_nil (hf.ne_nil q hq)
  exact ⟨c, l, hcl, hf.chars q hq c (by simp [hcl])⟩

theorem encode_append_ne_bracket (hf : NumText fmt P) {a : Json} (ha : NumsIn P a)
    (x y : List Char) : encode fmt a ++ x ≠ ']' :: y := by
  cases a with
  | num q =>
    obtain ⟨c, l, hq, hc⟩ := hf.head (show P q from ha)
    simp only [encode, hq, cons_append, ne_eq, List.cons.injEq, not_and]
    rintro rfl
    exact absurd hc (by decide)
  | bool b => cases b <;> simp [encode]
  | _ => simp [encode, quote]

theorem noNum_encodeElems (xs : List Json) (x : List Char) :
    NoNum (encodeElems fmt [','] xs ++ x) := by
  cases xs <;> simp [encodeElems, NoNum] <;> decide

theorem noNum_encodeMembers (fs : List (String × Json)) (x : List Char) :
    NoNum (encodeMembers fmt [','] fs ++ x) := by
  rcases fs with - | ⟨⟨k, v⟩, fs⟩ <;> simp [encodeMembers, NoNum] <;> decide

theorem num_of_encode_eq (hf : NumText fmt P) {q : Rat} (hq : P q) {b : Json} {x y : List Char}
    (h : fmt q ++ x = encode fmt b ++ y) : ∃ r, b = .num r := by
  obtain ⟨c, l, hcl, hc⟩ := hf.head hq
  rw [hcl, cons_append] at h
  cases b with
  | num r => exact ⟨r, rfl⟩
  | bool b =>
    cases b <;>
    · simp only [encode, cons_append, List.cons.injEq] at h
      rw [h.1] at hc
      exact absurd hc (by decide)
  | _ =>
    simp only [encode, quote, cons_append, List.cons.injEq] at h
    rw [h.1] at hc
    exact absurd hc (by decide)

def IsSep (sep : List Char) : Prop := sep = [] ∨ sep = [',']

theorem encodeElems_cons_ne_nil (hf : NumText fmt P) {sep : List Char} (hsep : IsSep sep)
    {b : Json} (hb : NumsIn P b) (ys : List Json) (x y : List Char) :
    encodeElems fmt sep (b :: ys) ++ y ≠ encodeElems fmt sep [] ++ x := by
  rcases hsep with rfl | rfl
  · rw [encodeElems, encodeElems, nil_append, append_assoc]
    exact encode_append_ne_bracket hf hb _ _
  · simp [encodeElems]

theorem encodeMembers_cons_ne_nil {sep : List Char} (hsep : IsSep sep) (f : String × Json)
    (gs : List (String × Json)) (x y : List Char) :
    encodeMembers fmt sep (f :: gs) ++ y ≠ encodeMembers fmt sep [] ++ x := by
  rcases hsep with rfl | rfl <;> simp [encodeMembers, quote]

mutual

theorem encode_inj (hf : NumText fmt P) : ∀ (a b : Json) (x y : List Char), NumsIn P a →
    NumsIn P b → NoNum x → NoNum y → encode fmt a ++ x = encode fmt b ++ y → a = b ∧ x = y
  | .num q, b, x, y, ha, hb, hx, hy, h => by
    obtain ⟨r, rfl⟩ := num_of_encode_eq hf (show P q from ha) h
    obtain ⟨htext, rfl⟩ := append_inj_of_noNum (hf.chars q ha) (hf.chars r hb) hx hy h
    exact ⟨by rw [hf.inj q r ha hb htext], rfl⟩
  | a, .num r, x, y, ha, hb, hx, hy, h => by
    obtain ⟨q, rfl⟩ := num_of_encode_eq hf (show P r from hb) h.symm
    obtain ⟨htext, rfl⟩ := append_inj_of_noNum (hf.chars q ha) (hf.chars r hb) hx hy h
    exact ⟨by rw [hf.inj q r ha hb htext], rfl⟩
  | .str s, .str t, x, y, _, _, _, _, h => by
    obtain ⟨rfl, rfl⟩ := quote_inj h
    exact ⟨rfl, rfl⟩
  | .arr xs, .arr ys, x, y, ha, hb, hx, hy, h => by
    simp only [encode, cons_append, List.cons.injEq, true_and] at h
    obtain ⟨rfl, rfl⟩ := encodeElems_inj hf [] (.inl rfl) xs ys x y ha hb h
    exact ⟨rfl, rfl⟩
  | .obj fs, .obj gs, x, y, ha, hb, hx, hy, h => by
    simp only [encode, cons_append, List.cons.injEq, true_and] at h
    obtain ⟨rfl, rfl⟩ := encodeMembers_inj hf [] (.inl rfl) fs gs x y ha hb h
    exact ⟨rfl, rfl⟩
  | .null, .null, x, y, _, _, _, _, h => by simpa [encode] using h
  | .bool a, .bool b, x, y, _, _, _, _, h => by
    cases a <;> cases b <;> simp_all [encode]
  | .null, .bool b, _, _, _, _, _, _, h | .bool b, .null, _, _, _, _, _, _, h
  | .str _, .bool b, _, _, _, _, _, _, h | .bool b, .str _, _, _, _, _, _, _, h
  | .arr _, .bool b, _, _, _, _, _, _, h | .bool b, .arr _, _, _, _, _, _, _, h
  | .obj _, .bool b, _, _, _, _, _, _, h | .bool b, .obj _, _, _, _, _, _, _, h => by
    cases b <;> simp [encode, quote] at h
  | .null, .str _, _, _, _, _, _, _, h | .str _, .null, _, _, _, _, _, _, h
  | .null, .arr _, _, _, _, _, _, _, h | .arr _, .null, _, _, _, _, _, _, h
  | .null, .obj _, _, _, _, _, _, _, h | .obj _, .null, _, _, _, _, _, _, h
  | .str _, .arr _, _, _, _, _, _, _, h | .arr _, .str _, _, _, _, _, _, _, h
  | .str _, .obj _, _, _, _, _, _, _, h | .obj _, .str _, _, _, _, _, _, _, h
  | .arr _, .obj _, _, _, _, _, _, _, h | .obj _, .arr _, _, _, _, _, _, _, h => by
    simp [encode, quote] at h

theorem encodeElems_inj (hf : NumText fmt P) : ∀ (sep : List Char), IsSep sep →
    ∀ (xs ys : List Json) (x y : List Char), NumsInElems P xs → NumsInElems P ys →
    encodeElems fmt sep xs ++ x = encodeElems fmt sep ys ++ y → xs = ys ∧ x = y
  | _, _, [], [], x, y, _, _, h => by simpa [encodeElems] using h
  | _, hsep, [], b :: ys, x, y, _, hb, h =>
    absurd h.symm (encodeElems_cons_ne_nil hf hsep hb.1 ys x y)
  | _, hsep, a :: xs, [], x, y, ha, _, h =>
    absurd h (encodeElems_cons_ne_nil hf hsep ha.1 xs y x)
  | sep, _, a :: xs, b :: ys, x, y, ha, hb, h => by
    simp only [encodeElems, append_assoc, append_cancel_left_eq] at h
    obtain ⟨rfl, hrest⟩ := encode_inj hf a b _ _ ha.1 hb.1 (noNum_encodeElems xs x)
      (noNum_encodeElems ys y) h
    obtain ⟨rfl, rfl⟩ := encodeElems_inj hf [','] (.inr rfl) xs ys x y ha.2 hb.2 hrest
    exact ⟨rfl, rfl⟩

theorem encodeMembers_inj (hf : NumText fmt P) : ∀ (sep : List Char), IsSep sep →
    ∀ (fs gs : List (String × Json)) (x y : List Char), NumsInMembers P fs → NumsInMembers P gs →
    encodeMembers fmt sep fs ++ x = encodeMembers fmt sep gs ++ y → fs = gs ∧ x = y
  | _, _, [], [], x, y, _, _, h => by simpa [encodeMembers] using h
  | _, hsep, [], g :: gs, x, y, _, _, h =>
    absurd h.symm (encodeMembers_cons_ne_nil hsep g gs x y)
  | _, hsep, f :: fs, [], x, y, _, _, h =>
    absurd h (encodeMembers_cons_ne_nil hsep f fs y x)
  | sep, _, (k, a) :: fs, (l, b) :: gs, x, y, ha, hb, h => by
    simp only [encodeMembers, append_assoc, append_cancel_left_eq,
      cons_append] at h
    obtain ⟨rfl, hval⟩ := quote_inj h
    simp only [List.cons.injEq, true_and] at hval
    obtain ⟨rfl, hrest⟩ := encode_inj hf a b _ _ ha.1 hb.1 (noNum_encodeMembers fs x)
      (noNum_encodeMembers gs y) hval
    obtain ⟨rfl, rfl⟩ := encodeMembers_inj hf [','] (.inr rfl) fs gs x y ha.2 hb.2 hrest
    exact ⟨rfl, rfl⟩

end

end Injectivity

/-! ## The canonical form -/

def utf16 (c : Char) : List ℕ :=
  if c.toNat < 0x10000 then [c.toNat]
  else [0xD800 + (c.toNat - 0x10000) / 0x400, 0xDC00 + (c.toNat - 0x10000) % 0x400]

def nameLe (a b : String) : Prop :=
  a.toList.flatMap utf16 ≤ b.toList.flatMap utf16

instance : DecidableRel nameLe := fun a b =>
  inferInstanceAs (Decidable (a.toList.flatMap utf16 ≤ b.toList.flatMap utf16))

def keyLe (f g : String × Json) : Prop := nameLe f.1 g.1

instance : DecidableRel keyLe := fun f g => inferInstanceAs (Decidable (nameLe f.1 g.1))

mutual

def sortKeys : Json → Json
  | .null => .null
  | .bool b => .bool b
  | .num q => .num q
  | .str s => .str s
  | .arr xs => .arr (sortKeysElems xs)
  | .obj fs => .obj ((sortKeysMembers fs).insertionSort keyLe)

def sortKeysElems : List Json → List Json
  | [] => []
  | x :: xs => sortKeys x :: sortKeysElems xs

def sortKeysMembers : List (String × Json) → List (String × Json)
  | [] => []
  | (k, x) :: fs => (k, sortKeys x) :: sortKeysMembers fs

end

theorem sortKeysMembers_eq_map (fs : List (String × Json)) :
    sortKeysMembers fs = fs.map (fun f => (f.1, sortKeys f.2)) := by
  induction fs with
  | nil => rfl
  | cons f fs ih => rw [sortKeysMembers, ih, map_cons]

theorem sortKeysElems_eq_map (xs : List Json) : sortKeysElems xs = xs.map sortKeys := by
  induction xs with
  | nil => rfl
  | cons x xs ih => rw [sortKeysElems, ih, map_cons]

theorem exists_member_of_sortKeys_eq {fs gs : List (String × Json)}
    (h : sortKeys (.obj fs) = sortKeys (.obj gs)) {k : String} {v : Json} (hv : (k, v) ∈ fs) :
    ∃ w, (k, w) ∈ gs ∧ sortKeys v = sortKeys w := by
  rw [sortKeys, sortKeys, Json.obj.injEq] at h
  have hmem : (k, sortKeys v) ∈ (sortKeysMembers fs).insertionSort keyLe := by
    rw [mem_insertionSort, sortKeysMembers_eq_map]
    exact mem_map.2 ⟨(k, v), hv, rfl⟩
  rw [h, mem_insertionSort, sortKeysMembers_eq_map] at hmem
  obtain ⟨⟨l, w⟩, hw, heq⟩ := mem_map.1 hmem
  simp only [Prod.mk.injEq] at heq
  exact ⟨w, heq.1 ▸ hw, heq.2.symm⟩

theorem sortKeys_eq_of_mem {fs gs : List (String × Json)}
    (h : sortKeys (.obj fs) = sortKeys (.obj gs)) (hnames : (gs.map Prod.fst).Nodup) {k : String}
    {v w : Json} (hv : (k, v) ∈ fs) (hw : (k, w) ∈ gs) : sortKeys v = sortKeys w := by
  obtain ⟨w', hw', heq⟩ := exists_member_of_sortKeys_eq h hv
  have hsame := inj_on_of_nodup_map hnames hw hw' rfl
  rw [(Prod.mk.inj hsame).2]
  exact heq

theorem numsInMembers_iff {P : Rat → Prop} {fs : List (String × Json)} :
    NumsInMembers P fs ↔ ∀ f ∈ fs, NumsIn P f.2 := by
  induction fs with
  | nil => simp [NumsInMembers]
  | cons f fs ih => rw [NumsInMembers, ih, forall_mem_cons]

mutual

theorem numsIn_sortKeys {P : Rat → Prop} : ∀ v : Json, NumsIn P v → NumsIn P (sortKeys v)
  | .null, h | .bool _, h | .num _, h | .str _, h => h
  | .arr xs, h => numsIn_sortKeysElems xs h
  | .obj fs, h => by
    have hsorted := numsInMembers_iff.1 (numsIn_sortKeysMembers fs h)
    refine numsInMembers_iff.2 (fun f hf => hsorted f ?_)
    rwa [mem_insertionSort] at hf

theorem numsIn_sortKeysElems {P : Rat → Prop} :
    ∀ xs : List Json, NumsInElems P xs → NumsInElems P (sortKeysElems xs)
  | [], h => h
  | x :: xs, h => ⟨numsIn_sortKeys x h.1, numsIn_sortKeysElems xs h.2⟩

theorem numsIn_sortKeysMembers {P : Rat → Prop} :
    ∀ fs : List (String × Json), NumsInMembers P fs → NumsInMembers P (sortKeysMembers fs)
  | [], h => h
  | (_, x) :: fs, h => ⟨numsIn_sortKeys x h.1, numsIn_sortKeysMembers fs h.2⟩

end

def utf8 (l : List Char) : List UInt8 := l.flatMap String.utf8EncodeChar

/-- The canonical form of RFC 8785. -/
def canonicalBytes (fmt : Rat → List Char) (v : Json) : List UInt8 :=
  utf8 (encode fmt (sortKeys v))

theorem length_utf8_le (l : List Char) : (utf8 l).length ≤ 4 * l.length := by
  induction l with
  | nil => simp [utf8]
  | cons c l ih =>
    have hc : (String.utf8EncodeChar c).length ≤ 4 := by
      rw [String.length_utf8EncodeChar]
      exact c.utf8Size_le_four
    rw [utf8, flatMap_cons, length_append, length_cons]
    rw [utf8] at ih
    omega

theorem utf8_inj {l m : List Char} (h : utf8 l = utf8 m) : l = m := by
  have hbytes : l.utf8Encode = m.utf8Encode := by
    simpa [List.utf8Encode, utf8] using h
  have hstr : String.ofList l = String.ofList m := by
    rw [← String.toByteArray_inj, String.toByteArray_ofList, String.toByteArray_ofList, hbytes]
  exact String.ofList_injective hstr

theorem canonicalBytes_inj {fmt : Rat → List Char} {P : Rat → Prop} (hf : NumText fmt P)
    {v w : Json} (hv : NumsIn P v) (hw : NumsIn P w)
    (h : canonicalBytes fmt v = canonicalBytes fmt w) : sortKeys v = sortKeys w := by
  have htext := utf8_inj h
  have hboth := encode_inj hf (sortKeys v) (sortKeys w) [] [] (numsIn_sortKeys v hv)
    (numsIn_sortKeys w hw) (by simp [NoNum]) (by simp [NoNum]) (by rw [htext])
  exact hboth.1

/-! ## Reading back -/

/-- Reads the text of a value with such numbers, and no other text. -/
noncomputable def readBack (fmt : Rat → List Char) (P : Rat → Prop) (bytes : List UInt8) :
    Option Json :=
  @dite _ (∃ v, NumsIn P v ∧ utf8 (encode fmt v) = bytes) (Classical.propDecidable _)
    (fun h => some h.choose) (fun _ => none)

theorem readBack_encode {fmt : Rat → List Char} {P : Rat → Prop} (hf : NumText fmt P) {v : Json}
    (hv : NumsIn P v) : readBack fmt P (utf8 (encode fmt v)) = some v := by
  have hwritten : ∃ w, NumsIn P w ∧ utf8 (encode fmt w) = utf8 (encode fmt v) := ⟨v, hv, rfl⟩
  obtain ⟨hnums, htext⟩ := hwritten.choose_spec
  have hsame := encode_inj hf _ v [] [] hnums hv (by simp [NoNum]) (by simp [NoNum])
    (by rw [utf8_inj htext])
  rw [readBack, dif_pos hwritten, hsame.1]

end Json
