/-
# Prefix masks

A test of the leading bits of a word with a mask, `x &&& mask = c`, is a test that the word lies in
a range (`Nat.and_mask_eq_iff`).
-/
import Mathlib.Data.Nat.Bitwise

theorem Nat.and_mask {x n k : ℕ} (hx : x < 2 ^ n) :
    x &&& (2 ^ k * (2 ^ (n - k) - 1)) = 2 ^ k * (x / 2 ^ k) := by
  refine Nat.eq_of_testBit_eq (fun i => ?_)
  rw [Nat.testBit_and, Nat.testBit_two_pow_mul, Nat.testBit_two_pow_mul, Nat.testBit_two_pow_sub_one,
    Nat.testBit_div_two_pow]
  by_cases hk : k ≤ i
  · rw [Nat.sub_add_cancel hk]
    by_cases hi : i < n
    · have hlow : i - k < n - k := by omega
      simp [hk, hlow]
    · have hzero : x.testBit i = false := by
        refine Nat.testBit_lt_two_pow (hx.trans_le (Nat.pow_le_pow_right ?_ ?_)) <;> omega
      simp [hzero]
  · simp [hk]

theorem Nat.and_mask_eq_iff {x n k c : ℕ} (hx : x < 2 ^ n) :
    x &&& (2 ^ k * (2 ^ (n - k) - 1)) = 2 ^ k * c ↔ 2 ^ k * c ≤ x ∧ x < 2 ^ k * c + 2 ^ k := by
  have hpos : 0 < 2 ^ k := Nat.two_pow_pos k
  rw [Nat.and_mask hx, Nat.mul_right_inj hpos.ne', Nat.div_eq_iff hpos]
  constructor
  · rintro ⟨hlow, hhigh⟩
    constructor
    · rwa [Nat.mul_comm]
    · rw [Nat.mul_comm]
      omega
  · rintro ⟨hlow, hhigh⟩
    rw [Nat.mul_comm] at hlow hhigh
    omega

theorem UInt8.and_mask_eq_iff (x mask c : UInt8) (k m : ℕ)
    (hmask : mask.toNat = 2 ^ k * (2 ^ (8 - k) - 1)) (hc : c.toNat = 2 ^ k * m) :
    x &&& mask = c ↔ c.toNat ≤ x.toNat ∧ x.toNat < c.toNat + 2 ^ k := by
  rw [← UInt8.toNat_inj, UInt8.toNat_and, hmask, hc]
  exact Nat.and_mask_eq_iff x.toNat_lt

theorem UInt16.and_mask_eq_iff (x mask c : UInt16) (k m : ℕ)
    (hmask : mask.toNat = 2 ^ k * (2 ^ (16 - k) - 1)) (hc : c.toNat = 2 ^ k * m) :
    x &&& mask = c ↔ c.toNat ≤ x.toNat ∧ x.toNat < c.toNat + 2 ^ k := by
  rw [← UInt16.toNat_inj, UInt16.toNat_and, hmask, hc]
  exact Nat.and_mask_eq_iff x.toNat_lt
