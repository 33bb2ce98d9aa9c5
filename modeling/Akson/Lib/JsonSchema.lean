/-
# Checks on JSON values

The part of JSON Schema that closed record formats use, as predicates on values: texts of a given
form, integers in a range, bounded lists, and objects with required and optional members and no
others.
-/
import Akson.Lib.Json

/-! ## Forms of texts -/

namespace Text

def bounded (lo hi : ℕ) (cls : Char → Bool) (s : String) : Bool :=
  lo ≤ s.toList.length ∧ s.toList.length ≤ hi ∧ s.toList.all cls

def dropRuns : List (ℕ × (Char → Bool)) → List Char → Option (List Char)
  | [], cs => some cs
  | (n, cls) :: runs, cs =>
    if n ≤ cs.length ∧ (cs.take n).all cls then dropRuns runs (cs.drop n) else none

def ofRuns (runs : List (ℕ × (Char → Bool))) (s : String) : Bool :=
  dropRuns runs s.toList = some []

end Text

/-! ## Values -/

namespace Json

def strWith (p : String → Bool) : Json → Bool
  | .str s => p s
  | _ => false

def oneOf (texts : List String) : Json → Bool := strWith (fun s => texts.contains s)

def intIn (lo hi : ℕ) : Json → Bool
  | .num q => q.den = 1 ∧ (lo : Rat) ≤ q ∧ q ≤ (hi : Rat)
  | _ => false

def isBool : Json → Bool
  | .bool _ => true
  | _ => false

def listOf (lo hi : ℕ) (p : Json → Bool) : Json → Bool
  | .arr xs => lo ≤ xs.length ∧ xs.length ≤ hi ∧ xs.all p
  | _ => false

def hasMember (k : String) (v : Json) : Bool := (v.get? k).isSome

/-- An object with these members and no others. -/
def record (required optional : List (String × (Json → Bool))) : Json → Bool
  | .obj fs =>
    fs.all (fun f => (required ++ optional).any (fun m => m.1 = f.1 && m.2 f.2)) &&
      required.all (fun m => fs.any (fun f => f.1 = m.1))
  | _ => false

/-! ## What passes -/

section Passes

variable {required optional : List (String × (Json → Bool))} {lo hi : ℕ} {p : Json → Bool}
  {v w : Json} {k : String} {α : Type}

theorem record_get? (h : record required optional v = true) (hw : v.get? k = some w) :
    ∃ p, (k, p) ∈ required ++ optional ∧ p w = true := by
  cases v with
  | obj fs =>
    rw [record, Bool.and_eq_true, List.all_eq_true] at h
    obtain ⟨f, hf, rfl⟩ := Option.map_eq_some_iff.1 hw
    have hk := List.find?_some hf
    rw [decide_eq_true_eq] at hk
    obtain ⟨m, hm, hpass⟩ := List.any_eq_true.1 (h.1 f (List.mem_of_find?_eq_some hf))
    rw [Bool.and_eq_true, decide_eq_true_eq] at hpass
    refine ⟨m.2, ?_, hpass.2⟩
    rw [← hk, ← hpass.1]
    exact hm
  | _ => cases h

theorem record_check (h : record required optional v = true)
    (hp : ∀ q, (k, q) ∈ required ++ optional → q = p) (hw : v.get? k = some w) : p w = true := by
  obtain ⟨q, hq, hpass⟩ := record_get? h hw
  rw [← hp q hq]
  exact hpass

theorem intIn_natCast {n : ℕ} : intIn lo hi (.num n) = true ↔ lo ≤ n ∧ n ≤ hi := by
  simp only [intIn, Rat.natCast_le_natCast, Rat.den_natCast, true_and, decide_eq_true_eq]

theorem intIn_of_nat? {n : ℕ} (h : intIn lo hi w = true) (hn : w.nat? = some n) :
    lo ≤ n ∧ n ≤ hi := by
  cases w with
  | num q =>
    rw [nat?] at hn
    split at hn
    case isTrue hq =>
      cases hn
      have hcast : q = (q.num.toNat : Rat) := by
        refine Rat.ext ?_ hq.1
        rw [Rat.num_natCast, Int.toNat_of_nonneg hq.2]
      rw [hcast] at h
      exact intIn_natCast.1 h
    case isFalse => cases hn
  | _ => cases h

theorem listOf_map {f : α → Json} {l : List α} :
    listOf lo hi p (.arr (l.map f)) = true ↔
      lo ≤ l.length ∧ l.length ≤ hi ∧ ∀ a ∈ l, p (f a) = true := by
  simp [listOf]

theorem mapM_forall {f : Json → Option α} {xs : List Json} {ys : List α} (hys : xs.mapM f = some ys)
    (h : ∀ x ∈ xs, p x = true) :
    ys.length = xs.length ∧ ∀ y ∈ ys, ∃ x, p x = true ∧ f x = some y := by
  induction xs generalizing ys with
  | nil =>
    cases hys
    exact ⟨rfl, nofun⟩
  | cons x xs ih =>
    simp only [List.mapM_cons, Option.bind_eq_bind, Option.bind_eq_some_iff, Option.pure_def] at hys
    obtain ⟨y, hy, ys, hrest, hys⟩ := hys
    cases hys
    obtain ⟨hlength, hall⟩ := ih hrest (fun x' hx' => h x' (List.mem_cons_of_mem _ hx'))
    refine ⟨by rw [List.length_cons, List.length_cons, hlength], fun y' hy' => ?_⟩
    rcases List.mem_cons.1 hy' with rfl | hy'
    · exact ⟨x, h x List.mem_cons_self, hy⟩
    · exact hall y' hy'

theorem get?_of_getArr? {f : List Json → Option α} {a : α}
    (h : (v.getArr? k).bind f = some a) : ∃ w, v.get? k = some w := by
  cases hw : v.get? k with
  | none => simp [getArr?, hw] at h
  | some w => exact ⟨w, rfl⟩

theorem listOf_getArr? {f : Json → Option α} {ys : List α} (h : v.get? k = some w)
    (hpass : listOf lo hi p w = true) (hys : (v.getArr? k).bind (·.mapM f) = some ys) :
    lo ≤ ys.length ∧ ys.length ≤ hi ∧ ∀ y ∈ ys, ∃ x, p x = true ∧ f x = some y := by
  cases w with
  | arr xs =>
    rw [getArr?, h] at hys
    rw [listOf, decide_eq_true_eq] at hpass
    obtain ⟨hlength, hall⟩ := mapM_forall hys (List.all_eq_true.1 hpass.2.2)
    exact ⟨hlength ▸ hpass.1, hlength ▸ hpass.2.1, hall⟩
  | _ => cases hpass

end Passes

/-! ## What passes can be read -/

def bool? : Json → Option Bool
  | .bool b => some b
  | _ => none

def arrOf? {α : Type} (f : Json → Option α) : Json → Option (List α)
  | .arr xs => xs.mapM f
  | _ => none

section Reads

variable {required optional : List (String × (Json → Bool))} {lo hi : ℕ} {p : Json → Bool}
  {v w : Json} {k : String} {α : Type} {f : Json → Option α}

theorem getStr?_eq (v : Json) (k : String) : v.getStr? k = (v.get? k).bind str? := by
  unfold getStr?
  cases v.get? k with
  | none => rfl
  | some w => cases w <;> rfl

theorem getBool?_eq (v : Json) (k : String) : v.getBool? k = (v.get? k).bind bool? := by
  unfold getBool?
  cases v.get? k with
  | none => rfl
  | some w => cases w <;> rfl

theorem getArr?_mapM (v : Json) (k : String) (f : Json → Option α) :
    (v.getArr? k).bind (·.mapM f) = (v.get? k).bind (arrOf? f) := by
  unfold getArr?
  cases v.get? k with
  | none => rfl
  | some w => cases w <;> rfl

/-- What passes the check can be read. -/
def Reads (p : Json → Bool) (f : Json → Option α) : Prop :=
  ∀ w, p w = true → ∃ a, f w = some a

@[simp]
theorem reads_str (p : String → Bool) : Reads (strWith p) str? := by
  intro w h
  cases w with
  | str s => exact ⟨s, rfl⟩
  | _ => cases h

theorem reads_oneOf {texts : List String} {g : String → Option α}
    (hg : ∀ s ∈ texts, (g s).isSome = true) : Reads (oneOf texts) (fun w => w.str?.bind g) := by
  intro w h
  cases w with
  | str s => exact Option.isSome_iff_exists.1 (hg s (List.contains_iff_mem.1 h))
  | _ => cases h

@[simp]
theorem reads_bool : Reads isBool bool? := by
  intro w h
  cases w with
  | bool b => exact ⟨b, rfl⟩
  | _ => cases h

@[simp]
theorem reads_nat (lo hi : ℕ) : Reads (intIn lo hi) nat? := by
  intro w h
  cases w with
  | num q =>
    rw [intIn, decide_eq_true_eq] at h
    have hnonneg : 0 ≤ q := Rat.le_trans Rat.natCast_nonneg h.2.1
    exact ⟨q.num.toNat, if_pos ⟨h.1, Rat.num_nonneg.2 hnonneg⟩⟩
  | _ => cases h

@[simp]
theorem reads_arr (lo hi : ℕ) (hf : Reads p f) : Reads (listOf lo hi p) (arrOf? f) := by
  have hmapM : ∀ xs : List Json, (∀ x ∈ xs, p x = true) → ∃ as, xs.mapM f = some as := by
    intro xs h
    induction xs with
    | nil => exact ⟨[], rfl⟩
    | cons x xs ih =>
      obtain ⟨a, ha⟩ := hf x (h x List.mem_cons_self)
      obtain ⟨as, has⟩ := ih (fun x' hx' => h x' (List.mem_cons_of_mem _ hx'))
      exact ⟨a :: as, by rw [List.mapM_cons, ha, has]; rfl⟩
  intro w h
  cases w with
  | arr xs =>
    rw [listOf, decide_eq_true_eq] at h
    exact hmapM xs (List.all_eq_true.1 h.2.2)
  | _ => cases h

theorem exists_read (h : record required optional v = true)
    (hf : ∀ q, (k, q) ∈ required ++ optional → Reads q f)
    (hk : required.any (fun m => m.1 = k) = true) : ∃ a, (v.get? k).bind f = some a := by
  have hmember : ∃ w, v.get? k = some w := by
    cases v with
    | obj fs =>
      rw [record, Bool.and_eq_true, List.all_eq_true, List.all_eq_true] at h
      obtain ⟨m, hm, hmk⟩ := List.any_eq_true.1 hk
      obtain ⟨x, hx, hxm⟩ := List.any_eq_true.1 (h.2 m hm)
      rw [decide_eq_true_eq] at hmk hxm
      have hfind : (fs.find? (fun f => f.1 = k)).isSome = true :=
        List.find?_isSome.2 ⟨x, hx, decide_eq_true (hxm.trans hmk)⟩
      obtain ⟨y, hy⟩ := Option.isSome_iff_exists.1 hfind
      exact ⟨y.2, by rw [get?, hy]; rfl⟩
    | _ => cases h
  obtain ⟨w, hw⟩ := hmember
  obtain ⟨q, hq, hpass⟩ := record_get? h hw
  rw [hw]
  exact hf q hq w hpass

theorem exists_getOptional? (h : record required optional v = true)
    (hf : ∀ q, (k, q) ∈ required ++ optional → Reads q f) : ∃ o, v.getOptional? f k = some o := by
  unfold getOptional?
  split
  · exact ⟨none, rfl⟩
  · exact ⟨none, rfl⟩
  · rename_i w _ hw
    obtain ⟨q, hq, hpass⟩ := record_get? h hw
    obtain ⟨a, ha⟩ := hf q hq w hpass
    exact ⟨some a, by rw [ha]; rfl⟩

end Reads

end Json
