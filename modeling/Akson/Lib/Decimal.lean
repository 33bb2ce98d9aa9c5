/-
# Decimal numerals

Reading a signed integer in a range from a text: an optional sign and one or more digits.  A number
is written in one way but read from many, and the lemmas say from which.
-/
import Mathlib.Data.Nat.Cast.Order.Basic
import Mathlib.Data.List.Induction
import Mathlib.Data.Int.Order.Basic

namespace Decimal

open Option List

def IsNumeral (digits : List Char) : Prop :=
  digits ≠ [] ∧ ∀ c ∈ digits, c.isDigit = true

instance (digits : List Char) : Decidable (IsNumeral digits) :=
  decidable_of_iff (digits ≠ [] ∧ digits.all Char.isDigit = true)
    (and_congr_right fun _ => all_eq_true)

def valueOf (digits : List Char) : ℕ := Nat.ofDigitChars 10 digits 0

def readNat (text : List Char) : Option ℕ :=
  if IsNumeral text then some (valueOf text) else none

variable {text digits : List Char} {n : ℕ}

theorem readNat_eq_some_iff : readNat text = some n ↔ IsNumeral text ∧ valueOf text = n := by
  unfold readNat
  rw [ite_none_right_eq_some, some.injEq]

def readSigned : List Char → Option ℤ
  | '-' :: digits => (readNat digits).map (fun n : ℕ => -(n : ℤ))
  | '+' :: digits => (readNat digits).map (fun n : ℕ => (n : ℤ))
  | digits => (readNat digits).map (fun n : ℕ => (n : ℤ))

/-- Read an integer between two bounds. -/
def readInt (lo hi : ℤ) (text : List Char) : Option ℤ :=
  (readSigned text).filter (fun value => lo ≤ value ∧ value ≤ hi)

def readUnsigned (max : ℕ) : List Char → Option ℕ
  | '+' :: digits => (readNat digits).filter (· ≤ max)
  | digits => (readNat digits).filter (· ≤ max)

/-! ## The numeral of a number -/

theorem digitChar_of_isDigit {c : Char} (h : c.isDigit = true) :
    c.toNat - '0'.toNat < 10 ∧ Nat.digitChar (c.toNat - '0'.toNat) = c := by
  have hrange := Char.isDigit_iff_toNat.1 h
  have hlow : 48 ≤ c.toNat := hrange.1
  have hhigh : c.toNat ≤ 57 := hrange.2
  have hzero : '0'.toNat = 48 := rfl
  rw [hzero]
  refine ⟨by omega, ?_⟩
  refine Char.toNat_inj.1 ?_
  rw [Nat.toNat_digitChar_of_lt_ten (by omega)]
  omega

theorem isNumeral_toDigits (n : ℕ) : IsNumeral (Nat.toDigits 10 n) :=
  ⟨Nat.toDigits_ne_nil, fun _ hc => Nat.isDigit_of_mem_toDigits (by decide) (by decide) hc⟩

theorem valueOf_toDigits (n : ℕ) : valueOf (Nat.toDigits 10 n) = n := Nat.ofDigitChars_ten_toDigits

theorem valueOf_concat (digits : List Char) (c : Char) :
    valueOf (digits ++ [c]) = 10 * valueOf digits + (c.toNat - '0'.toNat) := by
  unfold valueOf
  rw [Nat.ofDigitChars_append, Nat.ofDigitChars_cons, Nat.ofDigitChars_nil]

theorem valueOf_pos (h : IsNumeral digits) (hzero : digits.head? ≠ some '0') :
    0 < valueOf digits := by
  induction digits using List.reverseRecOn with
  | nil => exact absurd rfl h.1
  | append_singleton digits c ih =>
    rw [valueOf_concat]
    have hc := digitChar_of_isDigit (h.2 c (by simp))
    cases digits with
    | nil =>
      have hne : c.toNat - '0'.toNat ≠ 0 := by
        intro hval
        rw [hval] at hc
        exact hzero (congrArg some hc.2.symm)
      omega
    | cons d digits =>
      have hpos := ih ⟨by simp, fun e he => h.2 e (mem_append_left _ he)⟩ hzero
      omega

theorem toDigits_valueOf (h : IsNumeral digits) (hzero : digits.head? ≠ some '0') :
    Nat.toDigits 10 (valueOf digits) = digits := by
  induction digits using List.reverseRecOn with
  | nil => exact absurd rfl h.1
  | append_singleton digits c ih =>
    obtain ⟨hlt, hchar⟩ := digitChar_of_isDigit (h.2 c (by simp))
    rw [valueOf_concat]
    cases digits with
    | nil =>
      have hval : 10 * valueOf [] + (c.toNat - '0'.toNat) = c.toNat - '0'.toNat := by
        rw [valueOf, Nat.ofDigitChars_nil, Nat.mul_zero, Nat.zero_add]
      rw [hval, Nat.toDigits_of_lt_base hlt, hchar, nil_append]
    | cons d digits =>
      have hstart : IsNumeral (d :: digits) :=
        ⟨by simp, fun e he => h.2 e (mem_append_left _ he)⟩
      have hpos := valueOf_pos hstart hzero
      generalize valueOf (d :: digits) = start at ih hpos
      rw [Nat.toDigits_of_base_le (by decide) (by omega)]
      have hdiv : (10 * start + (c.toNat - '0'.toNat)) / 10 = start := by omega
      have hmod : (10 * start + (c.toNat - '0'.toNat)) % 10 = c.toNat - '0'.toNat := by omega
      rw [hdiv, hmod, hchar, ih hstart hzero]

theorem head?_toDigits (h : (Nat.toDigits 10 n).head? = some '0') : Nat.toDigits 10 n = ['0'] := by
  induction n using Nat.strongRecOn with
  | ind n ih =>
    by_cases hlt : n < 10
    · rw [Nat.toDigits_of_lt_base hlt] at h ⊢
      rw [some.inj h]
    · rw [Nat.toDigits_of_base_le (by decide) (by omega)] at h
      rw [head?_append, or_of_isSome (isSome_head?.2 Nat.toDigits_ne_nil)] at h
      have hzero := ih (n / 10) (by omega) h
      have hval := valueOf_toDigits (n / 10)
      rw [hzero] at hval
      have : n / 10 = 0 := hval.symm
      omega

/-! ## The other spellings -/

def Respells (n : ℕ) (text : List Char) : Prop :=
  ∃ digits, IsNumeral digits ∧ valueOf digits = n ∧
    (text = '+' :: digits ∨ (text = '-' :: digits ∧ n = 0) ∨
      (text = digits ∧ digits.head? = some '0' ∧ digits ≠ ['0']))

theorem not_isDigit_sign (h : IsNumeral digits) (rest : List Char) :
    digits ≠ '-' :: rest ∧ digits ≠ '+' :: rest := by
  constructor
  · rintro rfl
    exact absurd (h.2 '-' (by simp)) (by decide)
  · rintro rfl
    exact absurd (h.2 '+' (by simp)) (by decide)

theorem Respells.ne_toDigits (h : Respells n text) : text ≠ Nat.toDigits 10 n := by
  rintro rfl
  obtain ⟨digits, -, -, hplus | ⟨hminus, -⟩ | ⟨hsame, hzero, hne⟩⟩ := h
  · exact (not_isDigit_sign (isNumeral_toDigits n) digits).2 hplus
  · exact (not_isDigit_sign (isNumeral_toDigits n) digits).1 hminus
  · rw [← hsame] at hzero hne
    exact hne (head?_toDigits hzero)

theorem readSigned_of_isNumeral (h : IsNumeral text) :
    readSigned text = some (valueOf text : ℤ) := by
  unfold readSigned
  split
  · exact absurd rfl (not_isDigit_sign h _).1
  · exact absurd rfl (not_isDigit_sign h _).2
  · rw [readNat_eq_some_iff.2 ⟨h, rfl⟩, map_some]

theorem readSigned_eq_some_natCast_iff :
    readSigned text = some (n : ℤ) ↔ text = Nat.toDigits 10 n ∨ Respells n text := by
  constructor
  · intro h
    unfold readSigned at h
    split at h
    case h_1 digits =>
      obtain ⟨m, hm, hmn⟩ := map_eq_some_iff.1 h
      have hdigits := readNat_eq_some_iff.1 hm
      have hn : n = 0 := by omega
      exact .inr ⟨digits, hdigits.1, by omega, .inr (.inl ⟨rfl, hn⟩)⟩
    case h_2 digits =>
      obtain ⟨m, hm, hmn⟩ := map_eq_some_iff.1 h
      have hdigits := readNat_eq_some_iff.1 hm
      exact .inr ⟨digits, hdigits.1, by omega, .inl rfl⟩
    case h_3 =>
      obtain ⟨m, hm, hmn⟩ := map_eq_some_iff.1 h
      have hdigits := readNat_eq_some_iff.1 hm
      have hn : valueOf text = n := by omega
      by_cases hzero : text.head? = some '0'
      · by_cases hone : text = ['0']
        · left
          rw [← hn, hone]
          rfl
        · exact .inr ⟨text, hdigits.1, hn, .inr (.inr ⟨rfl, hzero, hone⟩)⟩
      · left
        rw [← hn, toDigits_valueOf hdigits.1 hzero]
  · rintro (rfl | ⟨digits, hnum, rfl, rfl | ⟨rfl, hzero⟩ | ⟨rfl, -, -⟩⟩)
    · rw [readSigned_of_isNumeral (isNumeral_toDigits n), valueOf_toDigits]
    · have hread := readNat_eq_some_iff.2 ⟨hnum, rfl⟩
      simp [readSigned, hread]
    · have hread := readNat_eq_some_iff.2 ⟨hnum, hzero⟩
      simp [readSigned, hread, hzero]
    · exact readSigned_of_isNumeral hnum

theorem readInt_eq_some_natCast_iff {lo hi : ℤ} : readInt lo hi text = some (n : ℤ) ↔
      (text = Nat.toDigits 10 n ∨ Respells n text) ∧ lo ≤ n ∧ (n : ℤ) ≤ hi := by
  unfold readInt
  rw [filter_eq_some_iff, readSigned_eq_some_natCast_iff, decide_eq_true_eq]

end Decimal
