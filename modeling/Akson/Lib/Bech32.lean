/-
# A checksum register

The register of a cyclic checksum over groups of five bits, for any five taps: six groups wide, each
step shifts one group in and adds the taps that the group shifted out selects.
-/
import Akson.Lib.Regroup
import Mathlib.Data.List.Basic
import Mathlib.Data.Nat.Bitwise

namespace Bech32

open List

open Regroup (value)

variable {taps : List ℕ} {c d v e : ℕ} {l m : List ℕ}

def add (b chk : ℕ) (tap : ℕ × ℕ) : ℕ := if b >>> tap.2 &&& 1 = 1 then chk ^^^ tap.1 else chk

def step (taps : List ℕ) (chk v : ℕ) : ℕ :=
  taps.zipIdx.foldl (add (chk >>> 25)) ((chk &&& 0x1ffffff) <<< 5 ^^^ v)

/-- The checksum register after the values. -/
def residue (taps : List ℕ) (values : List ℕ) : ℕ := values.foldl (step taps) 1

def groups (n : ℕ) : List ℕ := (List.range 6).map (fun i => n >>> (5 * (5 - i)) &&& 31)

/-! ## Linearity -/

theorem add_eq (b chk : ℕ) (tap : ℕ × ℕ) :
    add b chk tap = chk ^^^ bif b.testBit tap.2 then tap.1 else 0 := by
  have hbit : b >>> tap.2 &&& 1 = 1 ↔ b.testBit tap.2 = true := by
    rw [Nat.testBit_eq_decide_div_mod_eq, Nat.shiftRight_eq_div_pow, Nat.and_one_is_mod,
      decide_eq_true_iff]
  unfold add
  cases hb : b.testBit tap.2 with
  | false => rw [if_neg (by rw [hbit, hb]; decide), cond_false, Nat.xor_zero]
  | true => rw [if_pos (hbit.2 hb), cond_true]

theorem foldl_add_xor (b b' : ℕ) (taps : List (ℕ × ℕ)) :
    taps.foldl (add (b ^^^ b')) (c ^^^ d) = taps.foldl (add b) c ^^^ taps.foldl (add b') d := by
  induction taps generalizing c d with
  | nil => rfl
  | cons tap taps ih =>
    have hbits : (bif (b ^^^ b').testBit tap.2 then tap.1 else 0) =
        (bif b.testBit tap.2 then tap.1 else 0) ^^^ bif b'.testBit tap.2 then tap.1 else 0 := by
      rw [Nat.testBit_xor]
      cases b.testBit tap.2 <;> cases b'.testBit tap.2 <;> simp
    rw [foldl_cons, foldl_cons, foldl_cons, ← ih]
    congr 1
    rw [add_eq, add_eq, add_eq, hbits]
    ac_rfl

theorem step_xor : step taps (c ^^^ d) (v ^^^ e) = step taps c v ^^^ step taps d e := by
  rw [step, step, step, ← foldl_add_xor, Nat.shiftRight_xor_distrib, Nat.and_xor_distrib_right,
    Nat.shiftLeft_xor_distrib]
  congr 1
  ac_rfl

theorem foldl_step_xor (h : l.length = m.length) :
    (List.zipWith (· ^^^ ·) l m).foldl (step taps) (c ^^^ d) =
      l.foldl (step taps) c ^^^ m.foldl (step taps) d := by
  induction l generalizing m c d with
  | nil =>
    rw [length_eq_zero_iff.1 h.symm]
    rfl
  | cons v l ih =>
    cases m with
    | nil => cases h
    | cons e m =>
      rw [zipWith_cons_cons, foldl_cons, step_xor]
      exact ih (Nat.succ.inj h)

/-! ## The last six groups -/

theorem step_of_lt (hc : c < 2 ^ 25) (hv : v < 2 ^ 5) : step taps c v = c * 2 ^ 5 + v := by
  have hshift : c >>> 25 = 0 := by rw [Nat.shiftRight_eq_div_pow, Nat.div_eq_of_lt hc]
  have hadd : add 0 = fun chk _ => chk := by
    funext chk tap
    rw [add_eq, Nat.zero_testBit, cond_false, Nat.xor_zero]
  have hmask : c &&& 0x1ffffff = c := by
    rw [show 0x1ffffff = 2 ^ 25 - 1 from rfl, Nat.and_two_pow_sub_one_eq_mod, Nat.mod_eq_of_lt hc]
  rw [step, hshift, hadd, foldl_fixed, hmask, ← Nat.shiftLeft_eq,
    Nat.shiftLeft_add_eq_or_of_lt hv]
  apply Nat.eq_of_testBit_eq
  intro i
  rw [Nat.testBit_xor, Nat.testBit_or, Nat.testBit_shiftLeft]
  by_cases hi : 5 ≤ i
  · rw [Nat.testBit_lt_two_pow (hv.trans_le (Nat.pow_le_pow_right Nat.two_pos hi)), Bool.xor_false,
      Bool.or_false]
  · rw [decide_eq_false hi, Bool.false_and, Bool.false_xor, Bool.false_or]

theorem foldl_step_of_length_le (hl : ∀ g ∈ l, g < 2 ^ 5) (hlen : l.length ≤ 6) :
    l.foldl (step taps) 0 = value 5 l := by
  induction l using List.reverseRecOn with
  | nil => rfl
  | append_singleton l g ih =>
    rw [forall_mem_append, forall_mem_singleton] at hl
    rw [length_append, length_singleton] at hlen
    have hlt : value 5 l < 2 ^ 25 :=
      (Regroup.value_lt hl.1).trans_le (Nat.pow_le_pow_right Nat.two_pos (by omega))
    rw [foldl_append, ih hl.1 (by omega), Regroup.value_concat]
    exact step_of_lt hlt hl.2

theorem residue_append (hm : ∀ g ∈ m, g < 2 ^ 5) (hlen : m.length = 6) :
    residue taps (l ++ m) = residue taps (l ++ List.replicate 6 0) ^^^ value 5 m := by
  have hzip : List.zipWith (· ^^^ ·) (List.replicate 6 0) m = m := by
    rw [← hlen]
    exact ext_getElem (by simp) (by simp)
  have hxor := @foldl_step_xor taps (residue taps l) 0 (List.replicate 6 0) m (by simp [hlen])
  rw [hzip, Nat.xor_zero, foldl_step_of_length_le hm hlen.le] at hxor
  rw [residue, foldl_append, residue, foldl_append]
  exact hxor

theorem step_lt (htaps : ∀ tap ∈ taps, tap < 2 ^ 30) (hv : v < 2 ^ 5) :
    step taps c v < 2 ^ 30 := by
  have hfold (b chk : ℕ) (hchk : chk < 2 ^ 30) (l : List (ℕ × ℕ)) (hl : ∀ tap ∈ l, tap.1 < 2 ^ 30) :
      l.foldl (add b) chk < 2 ^ 30 := by
    induction l generalizing chk with
    | nil => exact hchk
    | cons tap l ih =>
      rw [forall_mem_cons] at hl
      refine ih _ ?_ hl.2
      unfold add
      split
      · exact Nat.xor_lt_two_pow hchk hl.1
      · exact hchk
  refine hfold _ _ (Nat.xor_lt_two_pow ?_ (hv.trans (by decide))) _ ?_
  · have hmask : c &&& 0x1ffffff < 2 ^ 25 := Nat.and_lt_two_pow _ (by decide)
    rw [Nat.shiftLeft_eq]
    omega
  · rintro ⟨tap, i⟩ htap
    exact htaps tap (fst_mem_of_mem_zipIdx htap)

theorem groups_lt (n : ℕ) : ∀ g ∈ groups n, g < 2 ^ 5 := by
  intro g hg
  obtain ⟨i, -, rfl⟩ := mem_map.1 hg
  exact Nat.and_lt_two_pow _ (by decide)

theorem value_groups {n : ℕ} (hn : n < 2 ^ 30) : value 5 (groups n) = n := by
  have hgroup (i : ℕ) : n >>> i &&& 31 = n / 2 ^ i % 32 := by
    rw [Nat.shiftRight_eq_div_pow, show 31 = 2 ^ 5 - 1 from rfl, Nat.and_two_pow_sub_one_eq_mod]
  simp only [groups, hgroup, value, range_succ, range_zero, nil_append,
    map_cons, map_nil, cons_append, foldl_cons,
    foldl_nil]
  omega

theorem length_groups (n : ℕ) : (groups n).length = 6 := by
  rw [groups, length_map, length_range]

theorem residue_append_eq_iff (htaps : ∀ tap ∈ taps, tap < 2 ^ 30) {final : ℕ}
    (hfinal : final < 2 ^ 30) (hm : ∀ g ∈ m, g < 2 ^ 5) (hlen : m.length = 6) :
    residue taps (l ++ m) = final ↔
      m = groups (residue taps (l ++ List.replicate 6 0) ^^^ final) := by
  have hlt : residue taps (l ++ List.replicate 6 0) < 2 ^ 30 := by
    rw [show List.replicate 6 0 = List.replicate 5 0 ++ [0] from rfl, ← append_assoc, residue,
      foldl_append]
    exact step_lt htaps (by decide)
  have hgroups := value_groups (Nat.xor_lt_two_pow hlt hfinal)
  rw [residue_append hm hlen]
  constructor
  · intro h
    refine Regroup.value_inj (hlen.trans (length_groups _).symm) hm (groups_lt _) ?_
    rw [hgroups, ← h, ← Nat.xor_assoc, Nat.xor_self, Nat.zero_xor]
  · intro h
    rw [h, hgroups, ← Nat.xor_assoc, Nat.xor_self, Nat.zero_xor]

end Bech32
