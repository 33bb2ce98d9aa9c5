/-
# Regrouping bits

Groups of `k` bits read into a 32-bit register and written out as groups of `w` bits, with zero
padding (`spread`) or with the padding checked (`gather`).
-/
import Mathlib.Algebra.Order.Ring.Nat
import Mathlib.Data.List.Induction
import Mathlib.Data.Nat.ModEq
import Mathlib.Tactic.Ring

namespace Regroup

open List

/-- The bits that were read and not yet written. -/
structure Buffer where
  acc : ℕ := 0
  bits : ℕ := 0
  out : List ℕ := []

variable {k w n v g : ℕ} {b : Buffer} {l m input output : List ℕ}

namespace Buffer

def feed (k : ℕ) (b : Buffer) (g : ℕ) : Buffer :=
  ⟨(b.acc <<< k ||| g) % 2 ^ 32, b.bits + k, b.out⟩

def emit (w : ℕ) (b : Buffer) : Buffer :=
  ⟨b.acc, b.bits - w, b.out ++ [b.acc >>> (b.bits - w) &&& (2 ^ w - 1)]⟩

def drain (w : ℕ) : ℕ → Buffer → Buffer
  | 0, b => b
  | fuel + 1, b => if w ≤ b.bits then drain w fuel (b.emit w) else b

def push (k w : ℕ) (b : Buffer) (g : ℕ) : Buffer := (b.feed k g).drain w (b.feed k g).bits

def pushOne (k w : ℕ) (b : Buffer) (g : ℕ) : Buffer :=
  if w ≤ (b.feed k g).bits then (b.feed k g).emit w else b.feed k g

end Buffer

/-- Write in groups of `w` bits, the last one filled up. -/
def spread (k w : ℕ) (input : List ℕ) : List ℕ :=
  let b := input.foldl (Buffer.push k w) {}
  if 0 < b.bits then b.out ++ [(b.acc <<< (w - b.bits)) % 2 ^ 32 &&& (2 ^ w - 1)] else b.out

/-- Write whole groups, the rest being zero. -/
def gather (k w : ℕ) (input : List ℕ) : Option (List ℕ) :=
  let b := input.foldl (Buffer.pushOne k w) {}
  if k ≤ b.bits ∨ b.acc &&& (1 <<< b.bits - 1) ≠ 0 then none else some b.out

/-! ## The number that groups write down -/

/-- The groups as one number. -/
def value (w : ℕ) (l : List ℕ) : ℕ := l.foldl (fun v g => v * 2 ^ w + g) 0

theorem value_concat : value w (l ++ [g]) = value w l * 2 ^ w + g := by
  rw [value, foldl_append]
  rfl

theorem concat_div (hg : g < 2 ^ w) : (v * 2 ^ w + g) / 2 ^ w = v := by
  rw [Nat.add_comm, Nat.add_mul_div_right _ _ (Nat.two_pow_pos w), Nat.div_eq_of_lt hg,
    Nat.zero_add]

theorem concat_mod (hg : g < 2 ^ w) : (v * 2 ^ w + g) % 2 ^ w = g := by
  rw [Nat.add_comm, Nat.add_mul_mod_self_right, Nat.mod_eq_of_lt hg]

theorem value_lt (h : ∀ g ∈ l, g < 2 ^ w) : value w l < 2 ^ (w * l.length) := by
  induction l using List.reverseRecOn with
  | nil => exact Nat.one_pos
  | append_singleton l g ih =>
    rw [forall_mem_append, forall_mem_singleton] at h
    have hl := ih h.1
    calc value w (l ++ [g]) = value w l * 2 ^ w + g := value_concat
      _ < value w l * 2 ^ w + 2 ^ w := Nat.add_lt_add_left h.2 _
      _ = (value w l + 1) * 2 ^ w := by ring
      _ ≤ 2 ^ (w * l.length) * 2 ^ w := Nat.mul_le_mul_right _ hl
      _ = 2 ^ (w * (l ++ [g]).length) := by
        rw [← pow_add, length_append, length_singleton, Nat.mul_succ]

theorem value_inj (hlen : l.length = m.length) (hl : ∀ g ∈ l, g < 2 ^ w)
    (hm : ∀ g ∈ m, g < 2 ^ w) (h : value w l = value w m) : l = m := by
  induction l using List.reverseRecOn generalizing m with
  | nil => exact (length_eq_zero_iff.1 hlen.symm).symm
  | append_singleton l g ih =>
    induction m using List.reverseRecOn with
    | nil => simp at hlen
    | append_singleton m g' _ =>
      rw [forall_mem_append, forall_mem_singleton] at hl hm
      rw [value_concat, value_concat] at h
      have hdiv : value w l = value w m := by
        rw [← @concat_div w (value w l) _ hl.2, h, concat_div hm.2]
      have hmod : g = g' := by
        rw [← @concat_mod w (value w l) _ hl.2, h, concat_mod hm.2]
      rw [ih (by simpa using hlen) hl.1 hm.1 hdiv, hmod]

/-! ## What the register holds -/

/-- What the buffer holds after `n` bits of value `v`. -/
structure Buffer.Holds (w : ℕ) (b : Buffer) (v n : ℕ) : Prop where
  acc : b.acc = v % 2 ^ 32
  out : value w b.out = v / 2 ^ b.bits
  lt : ∀ g ∈ b.out, g < 2 ^ w
  length : w * b.out.length + b.bits = n

namespace Buffer.Holds

theorem feed (h : b.Holds w v n) (hg : g < 2 ^ k) :
    (b.feed k g).Holds w (v * 2 ^ k + g) (n + k) where
  acc := by
    rw [Buffer.feed, ← Nat.shiftLeft_add_eq_or_of_lt hg, Nat.shiftLeft_eq, h.acc]
    exact ((Nat.mod_modEq v _).mul_right _).add_right _
  out := by
    rw [Buffer.feed, h.out, pow_add, Nat.mul_comm (2 ^ b.bits), ← Nat.div_div_eq_div_mul,
      concat_div hg]
  lt := h.lt
  length := by
    rw [← h.length]
    exact (Nat.add_assoc _ _ _).symm

theorem emit (h : b.Holds w v n) (hw : w ≤ b.bits) (hbits : b.bits ≤ 32) :
    (b.emit w).Holds w v n where
  acc := h.acc
  out := by
    obtain ⟨a, ha⟩ := Nat.exists_eq_add_of_le hw
    have hgroup : b.acc >>> (b.bits - w) &&& (2 ^ w - 1) = v / 2 ^ a % 2 ^ w := by
      rw [ha, Nat.add_sub_cancel_left, Nat.and_two_pow_sub_one_eq_mod, Nat.shiftRight_eq_div_pow,
        h.acc, ← Nat.mod_mul_right_div_self, ← Nat.mod_mul_right_div_self, ← pow_add,
        Nat.mod_mod_of_dvd _ (pow_dvd_pow 2 (by omega))]
    rw [Buffer.emit, value_concat, hgroup, h.out, ha, Nat.add_sub_cancel_left, Nat.add_comm w,
      pow_add, ← Nat.div_div_eq_div_mul, Nat.div_add_mod']
  lt := by
    rw [Buffer.emit, forall_mem_append, forall_mem_singleton]
    exact ⟨h.lt, by rw [Nat.and_two_pow_sub_one_eq_mod]; exact Nat.mod_lt _ (Nat.two_pow_pos w)⟩
  length := by
    have hlength := h.length
    simp only [Buffer.emit, length_append, length_singleton, Nat.mul_succ]
    omega

theorem drain (hw : 0 < w) {fuel : ℕ} (h : b.Holds w v n) (hbits : b.bits ≤ 32)
    (hfuel : b.bits ≤ fuel) : (b.drain w fuel).Holds w v n ∧ (b.drain w fuel).bits < w := by
  induction fuel generalizing b with
  | zero => exact ⟨h, (Nat.le_zero.1 hfuel).symm ▸ hw⟩
  | succ fuel ih =>
    rw [Buffer.drain]
    split
    next hle =>
      have hless : (b.emit w).bits = b.bits - w := rfl
      exact ih (h.emit hle hbits) (by omega) (by omega)
    next hlt => exact ⟨h, not_le.1 hlt⟩

theorem push (hw : 0 < w) (hkw : k + w ≤ 32) (h : b.Holds w v n) (hb : b.bits < w)
    (hg : g < 2 ^ k) :
    (b.push k w g).Holds w (v * 2 ^ k + g) (n + k) ∧ (b.push k w g).bits < w := by
  have hfeed : (b.feed k g).bits = b.bits + k := rfl
  exact (h.feed hg).drain hw (by omega) le_rfl

theorem pushOne (hk : k ≤ w) (hw : w ≤ 16) (h : b.Holds w v n) (hb : b.bits < w)
    (hg : g < 2 ^ k) :
    (b.pushOne k w g).Holds w (v * 2 ^ k + g) (n + k) ∧ (b.pushOne k w g).bits < w := by
  have hfeed : (b.feed k g).bits = b.bits + k := rfl
  rw [Buffer.pushOne]
  split
  next hle =>
    have hless : ((b.feed k g).emit w).bits = (b.feed k g).bits - w := rfl
    exact ⟨(h.feed hg).emit hle (by omega), by omega⟩
  next hlt => exact ⟨h.feed hg, not_le.1 hlt⟩

theorem foldl {step : Buffer → ℕ → Buffer} (hw : 0 < w)
    (hstep : ∀ {b v n g}, Buffer.Holds w b v n → b.bits < w → g < 2 ^ k →
      (step b g).Holds w (v * 2 ^ k + g) (n + k) ∧ (step b g).bits < w)
    (hinput : ∀ g ∈ input, g < 2 ^ k) :
    (input.foldl step {}).Holds w (value k input) (k * input.length) ∧
      (input.foldl step {}).bits < w := by
  induction input using List.reverseRecOn with
  | nil => exact ⟨⟨rfl, (Nat.zero_div _).symm, nofun, rfl⟩, hw⟩
  | append_singleton l g ih =>
    rw [forall_mem_append, forall_mem_singleton] at hinput
    obtain ⟨hl, hbits⟩ := ih hinput.1
    rw [foldl_append, value_concat, length_append, length_singleton, Nat.mul_succ]
    exact hstep hl hbits hinput.2

end Buffer.Holds

/-! ## Both directions -/

/-- The output is the input in groups of another width. -/
structure Packs (k w : ℕ) (input output : List ℕ) : Prop where
  input_lt : ∀ g ∈ input, g < 2 ^ k
  output_lt : ∀ g ∈ output, g < 2 ^ w
  exists_pad : ∃ pad < w, w * output.length = k * input.length + pad ∧
    value w output = value k input * 2 ^ pad

theorem eq_of_mul_add_eq {x y r s : ℕ} (hr : r < w) (hs : s < w)
    (h : w * x + r = w * y + s) : x = y := by
  have hdiv := congrArg (· / w) h
  simp only [Nat.mul_add_div (Nat.zero_lt_of_lt hr), Nat.div_eq_of_lt hr,
    Nat.div_eq_of_lt hs] at hdiv
  exact hdiv

theorem Packs.unique {output' : List ℕ} (h : Packs k w input output)
    (h' : Packs k w input output') : output = output' := by
  obtain ⟨pad, hpad, hlen, hvalue⟩ := h.exists_pad
  obtain ⟨pad', hpad', hlen', hvalue'⟩ := h'.exists_pad
  have hlength : output.length = output'.length := eq_of_mul_add_eq hpad' hpad (by omega)
  rw [hlength, hlen', Nat.add_left_cancel_iff] at hlen
  rw [hlen] at hvalue'
  exact value_inj hlength h.output_lt h'.output_lt (hvalue.trans hvalue'.symm)

theorem Buffer.Holds.packs {pad : ℕ} (h : ∀ g ∈ input, g < 2 ^ k) (hpad : pad < w)
    (hb : b.Holds w (value k input * 2 ^ pad) (k * input.length + pad)) (hbits : b.bits = 0) :
    Packs k w input b.out := by
  refine ⟨h, hb.lt, pad, hpad, ?_, ?_⟩
  · rw [← hb.length, hbits]
    rfl
  · rw [hb.out, hbits, pow_zero, Nat.div_one]

theorem packs_spread (hw : 0 < w) (hkw : k + w ≤ 32) (h : ∀ g ∈ input, g < 2 ^ k) :
    Packs k w input (spread k w input) := by
  obtain ⟨hb, hbits⟩ := Buffer.Holds.foldl hw (Buffer.Holds.push hw hkw) h
  rw [spread]
  generalize input.foldl (Buffer.push k w) {} = b at hb hbits
  by_cases hzero : 0 < b.bits
  · -- The padding is a last group of zero bits.
    obtain ⟨pad, hpad⟩ := Nat.exists_eq_add_of_le hbits.le
    have hfed : (b.feed pad 0).bits = w := hpad.symm
    have hlast : b.out ++ [(b.acc <<< (w - b.bits)) % 2 ^ 32 &&& (2 ^ w - 1)] =
        ((b.feed pad 0).emit w).out := by
      rw [Buffer.emit, hfed, Nat.sub_self, Nat.shiftRight_zero, Buffer.feed, Nat.or_zero,
        show w - b.bits = pad by omega]
    have hempty : ((b.feed pad 0).emit w).bits = 0 := by
      rw [Buffer.emit, hfed, Nat.sub_self]
    have hpacks : ((b.feed pad 0).emit w).Holds w (value k input * 2 ^ pad)
        (k * input.length + pad) :=
      (hb.feed (Nat.two_pow_pos pad)).emit hfed.ge (by omega)
    rw [if_pos hzero, hlast]
    exact hpacks.packs h (by omega) hempty
  · rw [if_neg hzero]
    have hpacks : b.Holds w (value k input * 2 ^ 0) (k * input.length + 0) := by
      rwa [pow_zero, Nat.mul_one]
    exact hpacks.packs h hw (Nat.eq_zero_of_not_pos hzero)

theorem gather_eq_some_iff (hk : 0 < k) (hkw : k ≤ w) (hw : w ≤ 16) (h : ∀ g ∈ input, g < 2 ^ k) :
    gather k w input = some output ↔ Packs w k output input := by
  obtain ⟨hb, hbits⟩ :=
    Buffer.Holds.foldl (hk.trans_le hkw) (Buffer.Holds.pushOne hkw hw) h
  rw [gather]
  generalize input.foldl (Buffer.pushOne k w) {} = b at hb hbits
  have hrest : b.acc &&& (1 <<< b.bits - 1) = value k input % 2 ^ b.bits := by
    rw [Nat.one_shiftLeft, Nat.and_two_pow_sub_one_eq_mod, hb.acc,
      Nat.mod_mod_of_dvd _ (pow_dvd_pow 2 (by omega))]
  have hlength := hb.length
  simp only [hrest, ite_eq_iff, reduceCtorEq, and_false, false_or, not_or, not_le, not_not,
    Option.some.injEq]
  constructor
  · rintro ⟨⟨hpad, hmod⟩, rfl⟩
    refine ⟨hb.lt, h, b.bits, hpad, by omega, ?_⟩
    rw [hb.out, Nat.div_mul_cancel (Nat.dvd_of_mod_eq_zero hmod)]
  · rintro ⟨houtput, -, pad, hpad, hlen, hvalue⟩
    have hlen' : b.out.length = output.length :=
      eq_of_mul_add_eq hbits (hpad.trans_le hkw) (by omega)
    have hbits' : b.bits = pad := by
      rw [hlen'] at hlength
      omega
    rw [hbits', hvalue, Nat.mul_mod_left]
    refine ⟨⟨hpad, rfl⟩, value_inj hlen' hb.lt houtput ?_⟩
    rw [hb.out, hbits', hvalue, Nat.mul_div_cancel _ (Nat.two_pow_pos pad)]

section RoundTrip

variable (hw : 0 < w) (hwk : w ≤ k) (hk : k ≤ 16)
include hw hwk hk

theorem gather_spread (h : ∀ g ∈ input, g < 2 ^ k) :
    gather w k (spread k w input) = some input := by
  have hpacks := packs_spread hw (by omega) h
  exact (gather_eq_some_iff hw hwk hk hpacks.output_lt).2 hpacks

theorem spread_of_gather (h : ∀ g ∈ output, g < 2 ^ w) (hgather : gather w k output = some input) :
    spread k w input = output := by
  have hpacks := (gather_eq_some_iff hw hwk hk h).1 hgather
  exact (packs_spread hw (by omega) hpacks.input_lt).unique hpacks

end RoundTrip

end Regroup
