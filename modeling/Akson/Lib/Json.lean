/-
# JSON values

JSON trees, decidable equality, and member lookup.  An object is the list of its members, in
the order in which the value holds them.
-/
import Mathlib.Data.List.Sort
import Mathlib.Data.Rat.Defs
import Mathlib.Tactic.Common

/-- JSON values, with the members of an object in their order. -/
inductive Json where
  | null
  | bool (b : Bool)
  | num (q : Rat)
  | str (s : String)
  | arr (xs : List Json)
  | obj (fs : List (String × Json))

namespace Json

mutual

def decEq : (a b : Json) → Decidable (a = b)
  | .null, .null => isTrue rfl
  | .bool a, .bool b => decidable_of_iff (a = b) (by simp)
  | .num a, .num b => decidable_of_iff (a = b) (by simp)
  | .str a, .str b => decidable_of_iff (a = b) (by simp)
  | .arr a, .arr b =>
    match decEqList a b with
    | isTrue h => isTrue (by rw [h])
    | isFalse h => isFalse (by simpa using h)
  | .obj a, .obj b =>
    match decEqFields a b with
    | isTrue h => isTrue (by rw [h])
    | isFalse h => isFalse (by simpa using h)
  | .null, .bool _ | .null, .num _ | .null, .str _ | .null, .arr _ | .null, .obj _
  | .bool _, .null | .bool _, .num _ | .bool _, .str _ | .bool _, .arr _ | .bool _, .obj _
  | .num _, .null | .num _, .bool _ | .num _, .str _ | .num _, .arr _ | .num _, .obj _
  | .str _, .null | .str _, .bool _ | .str _, .num _ | .str _, .arr _ | .str _, .obj _
  | .arr _, .null | .arr _, .bool _ | .arr _, .num _ | .arr _, .str _ | .arr _, .obj _
  | .obj _, .null | .obj _, .bool _ | .obj _, .num _ | .obj _, .str _ | .obj _, .arr _ =>
    isFalse (by simp)

def decEqList : (a b : List Json) → Decidable (a = b)
  | [], [] => isTrue rfl
  | [], _ :: _ => isFalse (by simp)
  | _ :: _, [] => isFalse (by simp)
  | x :: xs, y :: ys =>
    match decEq x y, decEqList xs ys with
    | isTrue h, isTrue hs => isTrue (by rw [h, hs])
    | isFalse h, _ => isFalse (by simp [h])
    | _, isFalse hs => isFalse (by simp [hs])

def decEqFields : (a b : List (String × Json)) → Decidable (a = b)
  | [], [] => isTrue rfl
  | [], _ :: _ => isFalse (by simp)
  | _ :: _, [] => isFalse (by simp)
  | (k, x) :: xs, (l, y) :: ys =>
    match decEq x y, decEqFields xs ys with
    | isTrue h, isTrue hs => decidable_of_iff (k = l) (by simp [h, hs])
    | isFalse h, _ => isFalse (by simp [h])
    | _, isFalse hs => isFalse (by simp [hs])

end

instance : DecidableEq Json := decEq

def get? (v : Json) (k : String) : Option Json :=
  match v with
  | .obj fs => (fs.find? (fun f => f.1 = k)).map Prod.snd
  | _ => none

def getStr? (v : Json) (k : String) : Option String :=
  match v.get? k with
  | some (.str s) => some s
  | _ => none

def getBool? (v : Json) (k : String) : Option Bool :=
  match v.get? k with
  | some (.bool b) => some b
  | _ => none

def getArr? (v : Json) (k : String) : Option (List Json) :=
  match v.get? k with
  | some (.arr xs) => some xs
  | _ => none

def getOptional? {α : Type} (read : Json → Option α) (v : Json) (k : String) : Option (Option α) :=
  match v.get? k with
  | none | some .null => some none
  | some w => (read w).map some

def str? : Json → Option String
  | .str s => some s
  | _ => none

def nat? : Json → Option ℕ
  | .num q => if q.den = 1 ∧ 0 ≤ q.num then some q.num.toNat else none
  | _ => none

def getNat? (v : Json) (k : String) : Option ℕ := (v.get? k).bind nat?

theorem get?_eq_of_getStr? {v : Json} {k s : String} (h : v.getStr? k = some s) :
    v.get? k = some (.str s) := by
  unfold getStr? at h
  split at h
  case h_1 hs => rw [hs, Option.some.inj h]
  case h_2 => cases h

end Json
