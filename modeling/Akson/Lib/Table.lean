/-
# Tables with uniqueness constraints

A relational table as the list of its rows in insertion order.
-/
import Mathlib.Data.List.Pairwise
import Mathlib.Data.List.Nodup
import Mathlib.Tactic.Common

/-- Rows that a unique constraint keeps apart. -/
class Row (ρ : Type) where
  clash : ρ → ρ → Prop
  clash_symm : ∀ a b, clash a b → clash b a
  clash_dec : DecidableRel clash

namespace Row

/-- Rows that clash where one column is equal. -/
@[reducible]
def ofKey {ρ κ : Type} [DecidableEq κ] (key : ρ → κ) : Row ρ where
  clash a b := key a = key b
  clash_symm _ _ h := h.symm
  clash_dec _ _ := inferInstanceAs (Decidable (_ = _))

/-- Rows that clash where two columns are equal. -/
@[reducible]
def ofKeys {ρ κ κ' : Type} [DecidableEq κ] [DecidableEq κ'] (key : ρ → κ) (key' : ρ → κ') :
    Row ρ where
  clash a b := key a = key b ∧ key' a = key' b
  clash_symm _ _ h := h.imp Eq.symm Eq.symm
  clash_dec _ _ := inferInstanceAs (Decidable (_ ∧ _))

variable {ρ : Type} [Row ρ]

instance : DecidableRel (clash : ρ → ρ → Prop) := clash_dec

instance : Std.Symm (fun a b : ρ => ¬ clash a b) :=
  ⟨fun a b hab hba => hab (clash_symm b a hba)⟩

/-- `f` makes no new clash. -/
def KeepsKey (f : ρ → ρ) : Prop :=
  ∀ a b : ρ, clash (f a) b → clash a b

theorem KeepsKey.of_clash {f : ρ → ρ} (h : ∀ a b, clash (f a) b → clash a b) : KeepsKey f := h

end Row

open Row

/-- Rows of which no two clash. -/
structure Table (ρ : Type) [Row ρ] where
  rows : List ρ
  distinct : rows.Pairwise (fun a b => ¬ clash a b)

namespace Table

variable {ρ : Type} [Row ρ]

variable {t u : Table ρ} {r a : ρ} {p q same : ρ → Bool} {f : ρ → ρ} {k : KeepsKey f}
  {rows : List ρ}

@[ext]
theorem ext (h : t.rows = u.rows) : t = u := by
  cases t
  cases u
  congr

instance : Membership ρ (Table ρ) := ⟨fun t r => r ∈ t.rows⟩

theorem mem_def : r ∈ t ↔ r ∈ t.rows := Iff.rfl

instance [DecidableEq ρ] (r : ρ) (t : Table ρ) : Decidable (r ∈ t) :=
  inferInstanceAs (Decidable (r ∈ t.rows))

def empty : Table ρ := ⟨[], List.Pairwise.nil⟩

instance : EmptyCollection (Table ρ) := ⟨empty⟩

def single (r : ρ) : Table ρ := ⟨[r], List.pairwise_singleton _ _⟩

@[simp] theorem rows_empty : (∅ : Table ρ).rows = [] := rfl

@[simp] theorem not_mem_empty (r : ρ) : ¬ r ∈ (∅ : Table ρ) := by
  simp [mem_def]

theorem eq_of_clash (t : Table ρ) {b : ρ} (ha : a ∈ t) (hb : b ∈ t) (h : clash a b) : a = b := by
  by_contra hne
  exact t.distinct.forall ha hb hne h

/-! ## Queries -/

def find (p : ρ → Bool) (t : Table ρ) : Option ρ := t.rows.find? p

def select (p : ρ → Bool) (t : Table ρ) : List ρ := t.rows.filter p

def count (p : ρ → Bool) (t : Table ρ) : ℕ := t.rows.countP p

def firstBy (f : ρ → Int) : List ρ → Option ρ
  | [] => none
  | r :: rs =>
    match firstBy f rs with
    | none => some r
    | some b => if f b < f r then some b else some r

omit [Row ρ] in
theorem firstBy_eq_none {f : ρ → Int} {l : List ρ} (h : firstBy f l = none) : l = [] := by
  cases l with
  | nil => rfl
  | cons r rs =>
    simp only [firstBy] at h
    split at h
    · cases h
    · split at h <;> cases h

theorem find_empty (p : ρ → Bool) : find p (∅ : Table ρ) = none := rfl

theorem mem_of_find (h : t.find p = some r) : r ∈ t :=
  List.mem_of_find?_eq_some h

theorem pred_of_find (h : t.find p = some r) : p r = true :=
  List.find?_some h

theorem find_eq_none_iff : t.find p = none ↔ ∀ r ∈ t, p r = false := by
  simp [find, mem_def]

/-- No two rows of a table satisfy `p`. -/
def OnKey (p : ρ → Bool) : Prop := ∀ a b : ρ, p a = true → p b = true → clash a b

theorem onKey {κ : Type} [DecidableEq κ] (key : ρ → κ) (k : κ)
    (h : ∀ a b, key a = key b → clash a b := by exact fun _ _ h => h) :
    OnKey (fun r => key r = k) :=
  fun a b ha hb => h a b ((of_decide_eq_true ha).trans (of_decide_eq_true hb).symm)

theorem find_eq_some_iff (hp : OnKey p) : t.find p = some r ↔ r ∈ t ∧ p r = true := by
  constructor
  · intro h
    exact ⟨mem_of_find h, pred_of_find h⟩
  · rintro ⟨hr, hpr⟩
    cases hf : t.find p with
    | none => exact absurd (find_eq_none_iff.1 hf r hr) (by simp [hpr])
    | some a =>
      rw [t.eq_of_clash (mem_of_find hf) hr (hp a r (pred_of_find hf) hpr)]

theorem count_le_one_of_clash (hp : ∀ a ∈ t, ∀ b ∈ t, p a = true → p b = true → clash a b) :
    t.count p ≤ 1 := by
  rw [count, List.countP_eq_length_filter]
  have hd : (t.rows.filter p).Pairwise (fun a b => ¬ clash a b) := t.distinct.filter p
  cases hl : t.rows.filter p with
  | nil => simp
  | cons a l =>
    cases l with
    | nil => simp
    | cons b l =>
      rw [hl] at hd
      have ha : a ∈ t.rows.filter p := by rw [hl]; simp
      have hb : b ∈ t.rows.filter p := by rw [hl]; simp
      rw [List.mem_filter] at ha hb
      exact absurd (hp a ha.1 b hb.1 ha.2 hb.2) (List.rel_of_pairwise_cons hd (by simp))

theorem count_le_one (hp : OnKey p) (t : Table ρ) : t.count p ≤ 1 :=
  count_le_one_of_clash (fun a _ b _ ha hb => hp a b ha hb)

theorem forall_not_of_count_ne_one (hp : OnKey p) (h : t.count p ≠ 1) : ∀ r ∈ t, p r = false := by
  have hle := t.count_le_one hp
  have hzero : t.count p = 0 := by omega
  intro r hr
  simpa using List.countP_eq_zero.1 hzero r hr

theorem count_eq_one (hp : OnKey p) (hr : r ∈ t) (hpr : p r = true) : t.count p = 1 :=
  Nat.le_antisymm (t.count_le_one hp) (List.countP_pos_iff.2 ⟨r, hr, hpr⟩)

theorem exists_of_count_eq_one (h : t.count p = 1) : ∃ r ∈ t, p r = true :=
  List.countP_pos_iff.1 (show 0 < t.rows.countP p by rw [count] at h; omega)

/-! ## Insertion -/

/-- Insert a row that clashes with none. -/
def insert (t : Table ρ) (r : ρ) : Option (Table ρ) :=
  if h : ∀ a ∈ t.rows, ¬ clash a r then
    some ⟨t.rows ++ [r], List.pairwise_append.2
      ⟨t.distinct, List.pairwise_singleton _ _, fun a ha b hb => by
        rw [List.mem_singleton.1 hb]
        exact h a ha⟩⟩
  else none

theorem insert_eq_some_iff :
    t.insert r = some u ↔ (∀ a ∈ t, ¬ clash a r) ∧ u.rows = t.rows ++ [r] := by
  unfold insert
  split
  case isTrue h =>
    simp only [Option.some.injEq]
    exact ⟨fun hu => ⟨h, hu ▸ rfl⟩, fun hu => Table.ext hu.2.symm⟩
  case isFalse h => simp [mem_def, h]

theorem insert_eq_none_iff : t.insert r = none ↔ ∃ a ∈ t, clash a r := by
  unfold insert
  split
  case isTrue h => simpa [mem_def] using h
  case isFalse h => simpa [mem_def] using h

theorem mem_insert (h : t.insert r = some u) : a ∈ u ↔ a ∈ t ∨ a = r := by
  simp [mem_def, (insert_eq_some_iff.1 h).2]

theorem count_insert (h : t.insert r = some u) (p : ρ → Bool) :
    u.count p = t.count p + if p r then 1 else 0 := by
  rw [count, (insert_eq_some_iff.1 h).2, List.countP_append, List.countP_singleton]
  rfl

theorem find_insert_of_some (h : t.insert r = some u) (ha : t.find p = some a) :
    u.find p = some a := by
  rw [find, (insert_eq_some_iff.1 h).2, List.find?_append]
  rw [find] at ha
  simp [ha]

theorem find_insert_of_not (h : t.insert r = some u) (hr : p r = false) : u.find p = t.find p := by
  rw [find, (insert_eq_some_iff.1 h).2, List.find?_append, List.find?_cons_of_neg (by simp [hr])]
  simp [find]

theorem insert_of_find_eq_none (hp : ∀ a, clash a r → p a = true) (h : t.find p = none) :
    ∃ u, t.insert r = some u := by
  cases hins : t.insert r with
  | some u => exact ⟨u, rfl⟩
  | none =>
    obtain ⟨a, ha, hclash⟩ := insert_eq_none_iff.1 hins
    exact absurd (find_eq_none_iff.1 h a ha) (by simp [hp a hclash])

/-! ## Updates and deletion -/

/-- Update the rows with `p`. -/
def updateWhere (p : ρ → Bool) (f : ρ → ρ) (t : Table ρ)
    (hf : KeepsKey f := by exact Row.KeepsKey.of_clash fun _ _ h => h) : Table ρ where
  rows := t.rows.map (fun r => if p r then f r else r)
  distinct := by
    refine t.distinct.map _ (fun a b hab h => hab ?_)
    have hmap : ∀ c d : ρ, clash (if p c then f c else c) d → clash c d := by
      intro c d hcd
      split at hcd
      · exact hf c d hcd
      · exact hcd
    exact clash_symm _ _ (hmap _ _ (clash_symm _ _ (hmap _ _ h)))

theorem mem_updateWhere (k : KeepsKey f := by exact Row.KeepsKey.of_clash fun _ _ h => h) :
    a ∈ t.updateWhere p f k ↔ ∃ r ∈ t, (if p r then f r else r) = a := by
  simp [updateWhere, mem_def]

theorem updateWhere_of_forall_not (h : ∀ r ∈ t, p r = false)
    (k : KeepsKey f := by exact Row.KeepsKey.of_clash fun _ _ h => h) :
    t.updateWhere p f k = t := by
  apply Table.ext
  calc t.rows.map (fun r => if p r then f r else r)
      = t.rows.map id := List.map_congr_left (fun r hr => by simp [h r hr])
    _ = t.rows := List.map_id _

theorem updateWhere_updateWhere (hagain : ∀ r, f (f r) = f r) (t : Table ρ)
    (k : KeepsKey f := by exact Row.KeepsKey.of_clash fun _ _ h => h) :
    (t.updateWhere p f k).updateWhere p f k = t.updateWhere p f k := by
  apply Table.ext
  unfold updateWhere
  simp only [List.map_map]
  refine List.map_congr_left (fun r _ => ?_)
  simp only [Function.comp]
  by_cases hr : p r = true
  · rw [if_pos hr, hagain, ite_self]
  · rw [if_neg hr, if_neg hr]

theorem count_updateWhere (hq : ∀ r, q (f r) = q r) (t : Table ρ)
    (k : KeepsKey f := by exact Row.KeepsKey.of_clash fun _ _ h => h) :
    (t.updateWhere p f k).count q = t.count q := by
  rw [count, count, updateWhere, List.countP_map]
  congr 1
  funext r
  simp only [Function.comp]
  split
  · exact hq r
  · rfl

theorem find_updateWhere (hq : ∀ r, q (f r) = q r) (t : Table ρ)
    (k : KeepsKey f := by exact Row.KeepsKey.of_clash fun _ _ h => h) :
    (t.updateWhere p f k).find q = (t.find q).map (fun r => if p r then f r else r) := by
  rw [find, find, updateWhere, List.find?_map]
  congr 2
  funext r
  simp only [Function.comp]
  split
  · exact hq r
  · rfl

theorem find_updateWhere_self (h : t.find q = some r) (hpr : p r = true)
    (hq : ∀ r, q (f r) = q r)
    (k : KeepsKey f := by exact Row.KeepsKey.of_clash fun _ _ h => h) :
    (t.updateWhere p f k).find q = some (f r) := by
  rw [find_updateWhere hq t k, h, Option.map_some, if_pos hpr]

theorem find_updateWhere_of_not (hq : ∀ r, q (f r) = q r)
    (hapart : ∀ r, p r = true → q r = false)
    (k : KeepsKey f := by exact Row.KeepsKey.of_clash fun _ _ h => h) :
    (t.updateWhere p f k).find q = t.find q := by
  rw [find_updateWhere hq t k]
  cases hfind : t.find q with
  | none => rfl
  | some r =>
    have hnot : ¬ p r = true := fun hpr => by
      simpa [hapart r hpr] using pred_of_find hfind
    rw [Option.map_some, if_neg hnot]

theorem find_updateWhere_of_count_eq_one (hcount : t.count p = 1) (hkey : OnKey q)
    (hpq : ∀ r, p r = true → q r = true) (hq : ∀ r, q (f r) = q r)
    (k : KeepsKey f := by exact Row.KeepsKey.of_clash fun _ _ h => h) :
    ∃ r, t.find q = some r ∧ p r = true ∧ (t.updateWhere p f k).find q = some (f r) := by
  obtain ⟨r, hr, hpr⟩ := exists_of_count_eq_one hcount
  have hfind := (find_eq_some_iff hkey).2 ⟨hr, hpq r hpr⟩
  exact ⟨r, hfind, hpr, find_updateWhere_self hfind hpr hq k⟩

/-- Update the rows with `p`, unless two then clash. -/
def updateChecked (p : ρ → Bool) (f : ρ → ρ) (t : Table ρ) : Option (Table ρ) :=
  if h : (t.rows.map (fun r => if p r then f r else r)).Pairwise (fun a b => ¬ clash a b) then
    some ⟨_, h⟩
  else none

theorem updateChecked_eq_some (h : t.updateChecked p f = some u) :
    u.rows = t.rows.map (fun r => if p r then f r else r) := by
  unfold updateChecked at h
  split at h
  case isTrue => rw [← Option.some.inj h]
  case isFalse => cases h

theorem mem_updateChecked (h : t.updateChecked p f = some u) :
    a ∈ u ↔ ∃ r ∈ t, (if p r then f r else r) = a := by
  simp [mem_def, updateChecked_eq_some h]

theorem find_updateChecked (h : t.updateChecked p f = some u)
    (hq : ∀ r, p r = true → q (f r) = q r) :
    u.find q = (t.find q).map (fun r => if p r then f r else r) := by
  rw [find, find, updateChecked_eq_some h, List.find?_map]
  congr 2
  funext r
  simp only [Function.comp]
  split
  case isTrue hp => exact hq r hp
  case isFalse => rfl

/-- Update the row that is the same, or insert. -/
def upsert (same : ρ → Bool) (f : ρ → ρ) (r : ρ) (t : Table ρ)
    (hf : KeepsKey f := by exact Row.KeepsKey.of_clash fun _ _ h => h) : Option (Table ρ) :=
  if t.rows.any same then some (t.updateWhere same f hf) else t.insert r

theorem clash_of_upsert_eq_none (h : t.upsert same f r k = none) :
    ∃ a, clash a r ∧ same a = false := by
  unfold upsert at h
  split at h
  case isTrue => cases h
  case isFalse hany =>
    obtain ⟨a, ha, hclash⟩ := insert_eq_none_iff.1 h
    refine ⟨a, hclash, ?_⟩
    simp only [List.any_eq_true, not_exists, not_and, Bool.not_eq_true] at hany
    exact hany a ha

theorem find_upsert_self (h : t.upsert same f r k = some u) (hsame : ∀ a, same (f a) = same a)
    (hr : same r = true) : u.find same = some (((t.find same).map f).getD r) := by
  unfold upsert at h
  split at h
  case isTrue hany =>
    obtain ⟨a, ha⟩ : ∃ a, t.find same = some a := by
      rw [← Option.isSome_iff_exists, find, List.find?_isSome]
      simpa using hany
    rw [← Option.some.inj h, find_updateWhere hsame t k, ha]
    simp [pred_of_find ha]
  case isFalse hany =>
    have hnone : t.find same = none := find_eq_none_iff.2 (fun a ha => by simp_all [mem_def])
    rw [find, (insert_eq_some_iff.1 h).2, List.find?_append]
    rw [find] at hnone
    simp [hnone, hr, find]

theorem find_upsert_of_not (h : t.upsert same f r k = some u) (hq : ∀ a, q (f a) = q a)
    (hr : same r = true) (hapart : ∀ a, same a = true → q a = false) : u.find q = t.find q := by
  unfold upsert at h
  split at h
  case isTrue =>
    rw [← Option.some.inj h]
    exact find_updateWhere_of_not hq hapart k
  case isFalse => exact find_insert_of_not h (hapart r hr)

/-- Rows without `p` are as they were. -/
def SameOutside (p : ρ → Bool) (t u : Table ρ) : Prop := ∀ r, p r = false → (r ∈ u ↔ r ∈ t)

theorem SameOutside.refl (p : ρ → Bool) (t : Table ρ) : SameOutside p t t := fun _ _ => Iff.rfl

theorem SameOutside.trans {v : Table ρ} (h : SameOutside p t u) (h' : SameOutside p u v) :
    SameOutside p t v :=
  fun r hr => (h' r hr).trans (h r hr)

theorem sameOutside_updateWhere (hq : ∀ a ∈ t, q a = true → p a = true)
    (hp : ∀ a, q a = true → p (f a) = true)
    (k : KeepsKey f := by exact Row.KeepsKey.of_clash fun _ _ h => h) :
    SameOutside p t (t.updateWhere q f k) := by
  intro r hr
  rw [mem_updateWhere k]
  constructor
  · rintro ⟨a, ha, heq⟩
    split at heq
    case isTrue hqa =>
      rw [← heq, hp a hqa] at hr
      cases hr
    case isFalse => exact heq ▸ ha
  · intro hmem
    refine ⟨r, hmem, if_neg (fun hqr => ?_)⟩
    rw [hq r hmem hqr] at hr
    cases hr

theorem sameOutside_upsert (h : t.upsert same f r k = some u)
    (hsame : ∀ a ∈ t, same a = true → p a = true) (hp : ∀ a, same a = true → p (f a) = true)
    (hr : p r = true) : SameOutside p t u := by
  unfold upsert at h
  split at h
  case isTrue =>
    rw [← Option.some.inj h]
    exact sameOutside_updateWhere hsame hp k
  case isFalse =>
    intro a ha
    rw [mem_insert h]
    constructor
    · rintro (hmem | rfl)
      · exact hmem
      · rw [hr] at ha
        cases ha
    · exact .inl

theorem of_mem_upsert (h : t.upsert same f r k = some u) (ha : a ∈ u) :
    (a ∈ t ∧ same a = false) ∨ (∃ b ∈ t, same b = true ∧ a = f b) ∨ a = r := by
  unfold upsert at h
  split at h
  case isTrue =>
    rw [← Option.some.inj h, mem_updateWhere k] at ha
    obtain ⟨b, hb, heq⟩ := ha
    split at heq
    case isTrue hsame => exact .inr (.inl ⟨b, hb, hsame, heq.symm⟩)
    case isFalse hsame => exact .inl ⟨heq ▸ hb, by simpa [← heq] using hsame⟩
  case isFalse hany =>
    rcases (mem_insert h).1 ha with hmem | rfl
    · refine .inl ⟨hmem, ?_⟩
      simp only [List.any_eq_true, not_exists, not_and, Bool.not_eq_true] at hany
      exact hany a hmem
    · exact .inr (.inr rfl)

/-- Insert, unless it clashes. -/
def insertIgnore (t : Table ρ) (r : ρ) : Table ρ := (t.insert r).getD t

theorem mem_insertIgnore : a ∈ t.insertIgnore r ↔ a ∈ t ∨ (a = r ∧ ∀ b ∈ t, ¬ clash b r) := by
  unfold insertIgnore
  cases h : t.insert r with
  | none =>
    obtain ⟨b, hb, hclash⟩ := insert_eq_none_iff.1 h
    simp only [Option.getD_none, iff_self_or]
    exact fun ⟨_, hno⟩ => absurd hclash (hno b hb)
  | some u =>
    rw [Option.getD_some, mem_insert h]
    have hno := (insert_eq_some_iff.1 h).1
    constructor
    · exact Or.imp_right (fun ha => ⟨ha, hno⟩)
    · exact Or.imp_right And.left

theorem rows_insertIgnore (t : Table ρ) (r : ρ) :
    (t.insertIgnore r).rows = if ∀ a ∈ t, ¬ clash a r then t.rows ++ [r] else t.rows := by
  unfold insertIgnore
  cases h : t.insert r with
  | none =>
    obtain ⟨b, hb, hclash⟩ := insert_eq_none_iff.1 h
    rw [if_neg (fun hno => hno b hb hclash)]
    rfl
  | some u =>
    obtain ⟨hno, hrows⟩ := insert_eq_some_iff.1 h
    rw [if_pos hno, Option.getD_some, hrows]

theorem mem_foldl_insertIgnore (h : a ∈ rows.foldl insertIgnore t) : a ∈ t ∨ a ∈ rows := by
  induction rows generalizing t with
  | nil => exact .inl h
  | cons row rows ih =>
    rcases ih h with hmem | hmem
    · rcases mem_insertIgnore.1 hmem with ha | ⟨rfl, -⟩
      · exact .inl ha
      · exact .inr List.mem_cons_self
    · exact .inr (List.mem_cons_of_mem _ hmem)

theorem mem_foldl_insertIgnore_of_mem (h : a ∈ t) : a ∈ rows.foldl insertIgnore t := by
  induction rows generalizing t with
  | nil => exact h
  | cons row rows ih => exact ih (mem_insertIgnore.2 (.inl h))

theorem exists_clash_foldl_insertIgnore (hr : r ∈ rows) :
    ∃ a ∈ rows.foldl insertIgnore t, a = r ∨ clash a r := by
  induction rows generalizing t with
  | nil => cases hr
  | cons row rows ih =>
    rw [List.foldl_cons]
    rcases List.mem_cons.1 hr with rfl | hr
    · by_cases hfree : ∀ b ∈ t, ¬ clash b r
      · exact ⟨r, mem_foldl_insertIgnore_of_mem (mem_insertIgnore.2 (.inr ⟨rfl, hfree⟩)),
          .inl rfl⟩
      · push Not at hfree
        obtain ⟨b, hb, hclash⟩ := hfree
        exact ⟨b, mem_foldl_insertIgnore_of_mem (mem_insertIgnore.2 (.inl hb)), .inr hclash⟩
    · exact ih hr

theorem insertIgnore_of_clash (ha : a ∈ t) (hclash : clash a r) : t.insertIgnore r = t := by
  apply Table.ext
  rw [rows_insertIgnore, if_neg (fun hfree => hfree a ha hclash)]

theorem foldl_insertIgnore_of_clash (h : ∀ r ∈ rows, ∃ a ∈ t, clash a r) :
    rows.foldl insertIgnore t = t := by
  induction rows with
  | nil => rfl
  | cons row rows ih =>
    rw [List.forall_mem_cons] at h
    obtain ⟨⟨a, ha, hclash⟩, hrows⟩ := h
    rw [List.foldl_cons, insertIgnore_of_clash ha hclash, ih hrows]

theorem foldl_insertIgnore_take (hself : ∀ r ∈ rows, clash r r) (n : ℕ) (t : Table ρ) :
    rows.foldl insertIgnore ((rows.take n).foldl insertIgnore t) =
      rows.foldl insertIgnore t := by
  have hdropped : (rows.take n).foldl insertIgnore ((rows.take n).foldl insertIgnore t) =
      (rows.take n).foldl insertIgnore t := by
    apply foldl_insertIgnore_of_clash
    intro r hr
    obtain ⟨a, ha, rfl | hclash⟩ := exists_clash_foldl_insertIgnore (t := t) hr
    · exact ⟨a, ha, hself a (List.mem_of_mem_take hr)⟩
    · exact ⟨a, ha, hclash⟩
  calc rows.foldl insertIgnore ((rows.take n).foldl insertIgnore t)
      = (rows.take n ++ rows.drop n).foldl insertIgnore ((rows.take n).foldl insertIgnore t) := by
        rw [List.take_append_drop]
    _ = (rows.take n ++ rows.drop n).foldl insertIgnore t := by
        rw [List.foldl_append, hdropped, ← List.foldl_append]
    _ = rows.foldl insertIgnore t := by rw [List.take_append_drop]

theorem rows_foldl_insertIgnore (hfree : ∀ r ∈ rows, ∀ a ∈ t, ¬ clash a r)
    (hdistinct : rows.Pairwise (fun a b => ¬ clash a b)) :
    (rows.foldl insertIgnore t).rows = t.rows ++ rows := by
  induction rows generalizing t with
  | nil => rw [List.foldl_nil, List.append_nil]
  | cons row rows ih =>
    rw [List.forall_mem_cons] at hfree
    rw [List.pairwise_cons] at hdistinct
    rw [List.foldl_cons, ih _ hdistinct.2, rows_insertIgnore, if_pos hfree.1, List.append_assoc,
      List.singleton_append]
    intro r hr a ha
    rcases mem_insertIgnore.1 ha with ha | ⟨rfl, -⟩
    · exact hfree.2 r hr a ha
    · exact hdistinct.1 r hr

theorem select_foldl_insertIgnore_of_not (t : Table ρ) (h : ∀ r ∈ rows, p r = false) :
    (rows.foldl insertIgnore t).select p = t.select p := by
  induction rows generalizing t with
  | nil => rfl
  | cons row rows ih =>
    rw [List.forall_mem_cons] at h
    rw [List.foldl_cons, ih _ h.2, select, rows_insertIgnore]
    split
    case isTrue => rw [List.filter_append, List.filter_singleton, h.1, select]; simp
    case isFalse => rfl

def deleteWhere (p : ρ → Bool) (t : Table ρ) : Table ρ :=
  ⟨t.rows.filter (fun r => !p r), t.distinct.filter _⟩

theorem mem_deleteWhere : a ∈ t.deleteWhere p ↔ a ∈ t ∧ p a = false := by
  simp [deleteWhere, mem_def]

theorem find_deleteWhere_of_not (h : ∀ r, q r = true → p r = false) (t : Table ρ) :
    (t.deleteWhere p).find q = t.find q := by
  rw [find, deleteWhere, List.find?_filter, find]
  congr 1
  funext r
  cases hq : q r with
  | false => simp
  | true => simp [h r hq]

theorem find_deleteWhere_self (p : ρ → Bool) (t : Table ρ) : (t.deleteWhere p).find p = none := by
  rw [find_eq_none_iff]
  intro r hr
  exact (mem_deleteWhere.1 hr).2

end Table
