/-
# Base64

Bytes as digits of six bits, over any alphabet of 64 characters, with and without padding.
-/
import Mathlib.Data.List.GetD
import Mathlib.Data.List.Nodup

namespace SixBit

open Option List

/-- An alphabet of 64 characters and a padding that is not one. -/
structure Alphabet where
  chars : List Char
  length_chars : chars.length = 64
  nodup : chars.Nodup
  pad_notMem : '=' ∉ chars

namespace Alphabet

variable (α : Alphabet)

def digit (n : ℕ) : Char := α.chars.getD n '='

def value (c : Char) : Option ℕ := α.chars.idxOf? c

variable {n : ℕ} {bytes : List UInt8} {text : List Char}

theorem value_eq_some_iff {c : Char} : α.value c = some n ↔ n < 64 ∧ α.digit n = c := by
  unfold value digit
  rw [idxOf?_eq_some_iff]
  constructor
  · rintro ⟨hn, hc, -⟩
    refine ⟨α.length_chars ▸ hn, ?_⟩
    rw [getD_eq_getElem _ _ hn, hc]
  · rintro ⟨hn, hc⟩
    have hlt : n < α.chars.length := α.length_chars.symm ▸ hn
    rw [getD_eq_getElem _ _ hlt] at hc
    refine ⟨hlt, hc, ?_⟩
    intro j hj hcj
    have hjlt : j < α.chars.length := by omega
    have hsame : α.chars[j] = α.chars[n] := hcj.trans hc.symm
    have hjn : j = n := α.nodup.getElem_inj_iff.1 hsame
    omega

theorem value_digit (hn : n < 64) : α.value (α.digit n) = some n :=
  α.value_eq_some_iff.2 ⟨hn, rfl⟩

def encode : List UInt8 → List Char
  | a :: b :: c :: rest =>
    α.digit (a.toNat / 4) :: α.digit (a.toNat % 4 * 16 + b.toNat / 16) ::
      α.digit (b.toNat % 16 * 4 + c.toNat / 64) :: α.digit (c.toNat % 64) :: encode rest
  | [a, b] =>
    [α.digit (a.toNat / 4), α.digit (a.toNat % 4 * 16 + b.toNat / 16),
      α.digit (b.toNat % 16 * 4)]
  | [a] => [α.digit (a.toNat / 4), α.digit (a.toNat % 4 * 16)]
  | [] => []

def decode : List Char → Option (List UInt8)
  | p :: q :: r :: s :: rest => do
    let p ← α.value p
    let q ← α.value q
    let r ← α.value r
    let s ← α.value s
    let bytes ← decode rest
    some (UInt8.ofNat (p * 4 + q / 16) :: UInt8.ofNat (q % 16 * 16 + r / 4) ::
      UInt8.ofNat (r % 4 * 64 + s) :: bytes)
  | [p, q, r] => do
    let p ← α.value p
    let q ← α.value q
    let r ← α.value r
    -- the last two bits belong to no byte
    if r % 4 = 0 then some [UInt8.ofNat (p * 4 + q / 16), UInt8.ofNat (q % 16 * 16 + r / 4)]
    else none
  | [p, q] => do
    let p ← α.value p
    let q ← α.value q
    if q % 16 = 0 then some [UInt8.ofNat (p * 4 + q / 16)] else none
  | [_] => none
  | [] => some []

theorem ofNat_eq_of_toNat {a : UInt8} (h : n = a.toNat) : UInt8.ofNat n = a := by
  rw [h, UInt8.ofNat_toNat]

theorem decode_encode (bytes : List UInt8) : α.decode (α.encode bytes) = some bytes := by
  induction bytes using encode.induct with
  | case1 a b c rest ih =>
    have ha := a.toNat_lt
    have hb := b.toNat_lt
    have hc := c.toNat_lt
    have h₁ : UInt8.ofNat (a.toNat / 4 * 4 + (a.toNat % 4 * 16 + b.toNat / 16) / 16) = a :=
      ofNat_eq_of_toNat (by omega)
    have h₂ : UInt8.ofNat ((a.toNat % 4 * 16 + b.toNat / 16) % 16 * 16 +
        (b.toNat % 16 * 4 + c.toNat / 64) / 4) = b := ofNat_eq_of_toNat (by omega)
    have h₃ : UInt8.ofNat ((b.toNat % 16 * 4 + c.toNat / 64) % 4 * 64 + c.toNat % 64) = c :=
      ofNat_eq_of_toNat (by omega)
    simp (disch := omega) only [encode, decode, value_digit, ih, bind_eq_bind,
      bind_some, h₁, h₂, h₃]
  | case2 a b =>
    have ha := a.toNat_lt
    have hb := b.toNat_lt
    have h₁ : UInt8.ofNat (a.toNat / 4 * 4 + (a.toNat % 4 * 16 + b.toNat / 16) / 16) = a :=
      ofNat_eq_of_toNat (by omega)
    have h₂ : UInt8.ofNat ((a.toNat % 4 * 16 + b.toNat / 16) % 16 * 16 +
        b.toNat % 16 * 4 / 4) = b := ofNat_eq_of_toNat (by omega)
    have hbits : b.toNat % 16 * 4 % 4 = 0 := by omega
    simp (disch := omega) only [encode, decode, value_digit, bind_eq_bind,
      bind_some, h₁, h₂, hbits, if_true]
  | case3 a =>
    have ha := a.toNat_lt
    have h₁ : UInt8.ofNat (a.toNat / 4 * 4 + a.toNat % 4 * 16 / 16) = a :=
      ofNat_eq_of_toNat (by omega)
    have hbits : a.toNat % 4 * 16 % 16 = 0 := by omega
    simp (disch := omega) only [encode, decode, value_digit, bind_eq_bind,
      bind_some, h₁, hbits, if_true]
  | case4 => rfl

theorem toNat_ofNat_of_lt (h : n < 256) : (UInt8.ofNat n).toNat = n :=
  UInt8.toNat_ofNat_of_lt' h

theorem encode_of_decode (h : α.decode text = some bytes) : α.encode bytes = text := by
  induction text using decode.induct generalizing bytes with
  | case1 p q r s rest ih =>
    simp only [decode, bind_eq_bind, bind_eq_some_iff, some.injEq] at h
    obtain ⟨a, ha, b, hb, c, hc, d, hd, tail, htail, rfl⟩ := h
    obtain ⟨ha, rfl⟩ := α.value_eq_some_iff.1 ha
    obtain ⟨hb, rfl⟩ := α.value_eq_some_iff.1 hb
    obtain ⟨hc, rfl⟩ := α.value_eq_some_iff.1 hc
    obtain ⟨hd, rfl⟩ := α.value_eq_some_iff.1 hd
    have h₁ : (a * 4 + b / 16) / 4 = a := by omega
    have h₂ : (a * 4 + b / 16) % 4 * 16 + (b % 16 * 16 + c / 4) / 16 = b := by omega
    have h₃ : (b % 16 * 16 + c / 4) % 16 * 4 + (c % 4 * 64 + d) / 64 = c := by omega
    have h₄ : (c % 4 * 64 + d) % 64 = d := by omega
    simp (disch := omega) only [encode, ih htail, toNat_ofNat_of_lt, h₁, h₂, h₃, h₄]
  | case2 p q r =>
    simp only [decode, bind_eq_bind, bind_eq_some_iff, ite_none_right_eq_some,
      some.injEq] at h
    obtain ⟨a, ha, b, hb, c, hc, hbits, rfl⟩ := h
    obtain ⟨ha, rfl⟩ := α.value_eq_some_iff.1 ha
    obtain ⟨hb, rfl⟩ := α.value_eq_some_iff.1 hb
    obtain ⟨hc, rfl⟩ := α.value_eq_some_iff.1 hc
    have h₁ : (a * 4 + b / 16) / 4 = a := by omega
    have h₂ : (a * 4 + b / 16) % 4 * 16 + (b % 16 * 16 + c / 4) / 16 = b := by omega
    have h₃ : (b % 16 * 16 + c / 4) % 16 * 4 = c := by omega
    simp (disch := omega) only [encode, toNat_ofNat_of_lt, h₁, h₂, h₃]
  | case3 p q =>
    simp only [decode, bind_eq_bind, bind_eq_some_iff, ite_none_right_eq_some,
      some.injEq] at h
    obtain ⟨a, ha, b, hb, hbits, rfl⟩ := h
    obtain ⟨ha, rfl⟩ := α.value_eq_some_iff.1 ha
    obtain ⟨hb, rfl⟩ := α.value_eq_some_iff.1 hb
    have h₁ : (a * 4 + b / 16) / 4 = a := by omega
    have h₂ : (a * 4 + b / 16) % 4 * 16 = b := by omega
    simp (disch := omega) only [encode, toNat_ofNat_of_lt, h₁, h₂]
  | case4 => cases h
  | case5 =>
    cases h
    rfl

theorem decode_eq_some_iff : α.decode text = some bytes ↔ text = α.encode bytes := by
  constructor
  · intro h
    exact (α.encode_of_decode h).symm
  · rintro rfl
    exact α.decode_encode bytes

theorem mem_chars_of_mem_encode {c : Char} (h : c ∈ α.encode bytes) : c ∈ α.chars := by
  have hdigit : ∀ n < 64, α.digit n ∈ α.chars := by
    intro n hn
    rw [digit, getD_eq_getElem _ _ (α.length_chars.symm ▸ hn)]
    exact getElem_mem _
  induction bytes using encode.induct with
  | case1 a b c' rest ih =>
    have ha := a.toNat_lt
    have hb := b.toNat_lt
    have hc := c'.toNat_lt
    rw [encode, mem_cons, mem_cons, mem_cons, mem_cons] at h
    rcases h with rfl | rfl | rfl | rfl | h
    case inr.inr.inr.inr => exact ih h
    all_goals exact hdigit _ (by omega)
  | case2 a b =>
    have ha := a.toNat_lt
    have hb := b.toNat_lt
    rw [encode, mem_cons, mem_cons, mem_singleton] at h
    rcases h with rfl | rfl | rfl
    all_goals exact hdigit _ (by omega)
  | case3 a =>
    have ha := a.toNat_lt
    rw [encode, mem_cons, mem_singleton] at h
    rcases h with rfl | rfl
    all_goals exact hdigit _ (by omega)
  | case4 => exact absurd h not_mem_nil

theorem length_encode (bytes : List UInt8) :
    (α.encode bytes).length = (4 * bytes.length + 2) / 3 := by
  induction bytes using encode.induct with
  | case1 a b c rest ih =>
    simp only [encode, length_cons, ih]
    omega
  | case2 => simp [encode]
  | case3 => simp [encode]
  | case4 => simp [encode]

/-! ## Padding -/

/-- The digits in groups of four. -/
def pad (digits : List Char) : List Char := digits ++ replicate ((4 - digits.length % 4) % 4) '='

def decodePadded (text : List Char) : Option (List UInt8) :=
  let digits := text.takeWhile (· ≠ '=')
  if text = pad digits then α.decode digits else none

theorem decodePadded_pad_encode (bytes : List UInt8) :
    α.decodePadded (pad (α.encode bytes)) = some bytes := by
  have hdigits : (pad (α.encode bytes)).takeWhile (· ≠ '=') = α.encode bytes := by
    have hne : ∀ c ∈ α.encode bytes, decide (c ≠ '=') = true := by
      intro c hc
      refine decide_eq_true ?_
      rintro rfl
      exact α.pad_notMem (α.mem_chars_of_mem_encode hc)
    rw [pad, takeWhile_append_of_pos hne, takeWhile_replicate]
    exact append_nil _
  rw [decodePadded, hdigits, if_pos rfl, decode_encode]

end Alphabet

def standard : Alphabet where
  chars := "ABCDEFGHIJKLMNOPQRSTUVWXYZabcdefghijklmnopqrstuvwxyz0123456789+/".toList
  length_chars := by decide
  nodup := by decide
  pad_notMem := by decide

def urlSafe : Alphabet where
  chars := "ABCDEFGHIJKLMNOPQRSTUVWXYZabcdefghijklmnopqrstuvwxyz0123456789-_".toList
  length_chars := by decide
  nodup := by decide
  pad_notMem := by decide

end SixBit
