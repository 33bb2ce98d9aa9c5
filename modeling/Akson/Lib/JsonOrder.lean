/-
# The order of members

A reader that takes a canonical text apart finds the members of each object in canonical order,
whatever order they were written from.
-/
import Akson.Lib.Jcs
import Akson.Lib.JsonSchema

namespace Json

open List

/-! ## Reading -/

theorem find?_orderedInsert {α : Type} {r : α → α → Prop} [DecidableRel r] {p : α → Bool}
    (h : ∀ a b, p a = true → p b = true → r a b) (a : α) (l : List α) :
    (l.orderedInsert r a).find? p = (a :: l).find? p := by
  induction l with
  | nil => rfl
  | cons b l ih =>
    rw [List.orderedInsert]
    split
    · rfl
    · rename_i hnot
      cases hb : p b with
      | false =>
        rw [find?_cons_of_neg (by simp [hb]), ih]
        cases ha : p a with
        | false => simp [ha, hb]
        | true => simp [ha]
      | true =>
        have ha : p a = false := by
          cases ha : p a with
          | false => rfl
          | true => exact absurd (h a b ha hb) hnot
        simp [ha, hb]

theorem find?_insertionSort {α : Type} {r : α → α → Prop} [DecidableRel r] {p : α → Bool}
    (h : ∀ a b, p a = true → p b = true → r a b) (l : List α) :
    (l.insertionSort r).find? p = l.find? p := by
  induction l with
  | nil => rfl
  | cons a l ih =>
    rw [insertionSort_cons, find?_orderedInsert h, find?_cons, find?_cons, ih]

theorem get?_sortKeys (v : Json) (k : String) : (sortKeys v).get? k = (v.get? k).map sortKeys := by
  cases v with
  | obj fs =>
    have hsame : ∀ f g : String × Json, decide (f.1 = k) = true → decide (g.1 = k) = true →
        keyLe f g := by
      intro f g hf hg
      rw [keyLe, of_decide_eq_true hf, of_decide_eq_true hg]
      exact le_refl _
    rw [sortKeys, get?, find?_insertionSort hsame, sortKeysMembers_eq_map, List.find?_map, get?]
    simp only [Option.map_map, Function.comp_def]
  | _ => rfl

theorem get?_of_sortKeys_eq {v w : Json} (h : sortKeys v = sortKeys w) (k : String) :
    (v.get? k).map sortKeys = (w.get? k).map sortKeys := by
  rw [← get?_sortKeys, h, get?_sortKeys]

theorem getStr?_sortKeys (v : Json) (k : String) : (sortKeys v).getStr? k = v.getStr? k := by
  rw [getStr?, get?_sortKeys, getStr?]
  cases v.get? k with
  | none => rfl
  | some w => cases w <;> rfl

theorem getNat?_sortKeys (v : Json) (k : String) : (sortKeys v).getNat? k = v.getNat? k := by
  rw [getNat?, get?_sortKeys, getNat?]
  cases v.get? k with
  | none => rfl
  | some w => cases w <;> rfl

theorem getArr?_sortKeys (v : Json) (k : String) :
    (sortKeys v).getArr? k = (v.getArr? k).map (List.map sortKeys) := by
  rw [getArr?, get?_sortKeys, getArr?]
  cases v.get? k with
  | none => rfl
  | some w =>
    cases w with
    | arr xs => exact congrArg some (sortKeysElems_eq_map xs)
    | _ => rfl

theorem getOptional?_str_sortKeys (v : Json) (k : String) :
    (sortKeys v).getOptional? str? k = v.getOptional? str? k := by
  rw [getOptional?, get?_sortKeys, getOptional?]
  cases v.get? k with
  | none => rfl
  | some w => cases w <;> rfl

theorem hasMember_sortKeys (v : Json) (k : String) : (sortKeys v).hasMember k = v.hasMember k := by
  rw [hasMember, get?_sortKeys, hasMember, Option.isSome_map]

theorem nat?_natCast (n : ℕ) : nat? (.num n) = some n := by
  have hwhole : (n : Rat).den = 1 ∧ 0 ≤ (n : Rat).num := by simp
  rw [nat?, if_pos hwhole, Rat.num_natCast, Int.toNat_natCast]

theorem mapM_map_sortKeys {α : Type} {f : α → Json} {read : Json → Option α}
    (h : ∀ a, read (sortKeys (f a)) = some a) (l : List α) :
    ((l.map f).map sortKeys).mapM read = some l := by
  induction l with
  | nil => rfl
  | cons a l ih =>
    rw [map_cons, map_cons, mapM_cons, h, ih]
    rfl

/-! ## The canonical order is one -/

mutual

theorem sortKeys_sortKeys : ∀ v : Json, sortKeys (sortKeys v) = sortKeys v
  | .null | .bool _ | .num _ | .str _ => rfl
  | .arr xs => by
    rw [sortKeys, sortKeys, sortKeysElems_sortKeysElems xs]
  | .obj fs => by
    have htotal : Std.Total keyLe := ⟨fun _ _ => le_total _ _⟩
    have htrans : IsTrans (String × Json) keyLe := ⟨fun _ _ _ => le_trans⟩
    have hsorted := pairwise_insertionSort keyLe (sortKeysMembers fs)
    -- sorting goes by the names alone, so it commutes with sorting the values
    have hmap : ((sortKeysMembers fs).insertionSort keyLe).map (fun f => (f.1, sortKeys f.2)) =
        (sortKeysMembers (sortKeysMembers fs)).insertionSort keyLe := by
      rw [sortKeysMembers_eq_map (sortKeysMembers fs)]
      exact map_insertionSort _ _ _ _ (fun _ _ _ _ => Iff.rfl)
    rw [sortKeys, sortKeys, sortKeysMembers_eq_map, hmap, sortKeysMembers_sortKeysMembers fs,
      hsorted.insertionSort_eq]

theorem sortKeysElems_sortKeysElems :
    ∀ xs : List Json, sortKeysElems (sortKeysElems xs) = sortKeysElems xs
  | [] => rfl
  | x :: xs => by
    rw [sortKeysElems, sortKeysElems, sortKeys_sortKeys x, sortKeysElems_sortKeysElems xs]

theorem sortKeysMembers_sortKeysMembers :
    ∀ fs : List (String × Json), sortKeysMembers (sortKeysMembers fs) = sortKeysMembers fs
  | [] => rfl
  | (k, x) :: fs => by
    rw [sortKeysMembers, sortKeysMembers, sortKeys_sortKeys x, sortKeysMembers_sortKeysMembers fs]

end

theorem canonicalBytes_sortKeys (fmt : Rat → List Char) (v : Json) :
    canonicalBytes fmt (sortKeys v) = canonicalBytes fmt v := by
  rw [canonicalBytes, canonicalBytes, sortKeys_sortKeys]

/-! ## Checking -/

/-- The check does not depend on the order of members. -/
def OrderFree (p : Json → Bool) : Prop := ∀ v, p (sortKeys v) = p v

@[simp] theorem orderFree_strWith (p : String → Bool) : OrderFree (strWith p) := by
  intro v
  cases v <;> rfl

@[simp] theorem orderFree_oneOf (texts : List String) : OrderFree (oneOf texts) := orderFree_strWith _

@[simp] theorem orderFree_intIn (lo hi : ℕ) : OrderFree (intIn lo hi) := by
  intro v
  cases v <;> rfl

@[simp] theorem orderFree_num (q : Rat) : OrderFree (fun w => w = .num q) := by
  intro v
  cases v <;> simp [sortKeys]

theorem orderFree_listOf (lo hi : ℕ) {p : Json → Bool} (hp : OrderFree p) :
    OrderFree (listOf lo hi p) := by
  intro v
  cases v with
  | arr xs =>
    have hall : (xs.map sortKeys).all p = xs.all p := by
      rw [List.all_map]
      exact congrArg xs.all (funext hp)
    rw [sortKeys, sortKeysElems_eq_map, listOf, listOf, List.length_map, hall]
  | _ => rfl

theorem perm_sortKeys (fs : List (String × Json)) :
    ((sortKeysMembers fs).insertionSort keyLe).Perm (fs.map (fun f => (f.1, sortKeys f.2))) := by
  rw [← sortKeysMembers_eq_map]
  exact perm_insertionSort _ _

theorem orderFree_record {required optional : List (String × (Json → Bool))}
    (h : ∀ m ∈ required ++ optional, OrderFree m.2) : OrderFree (record required optional) := by
  intro v
  cases v with
  | obj fs =>
    have hany : ∀ f : String × Json,
        (required ++ optional).any (fun m => m.1 = f.1 && m.2 (sortKeys f.2)) =
          (required ++ optional).any (fun m => m.1 = f.1 && m.2 f.2) := by
      intro f
      rw [Bool.eq_iff_iff, List.any_eq_true, List.any_eq_true]
      refine exists_congr (fun m => and_congr_right (fun hm => ?_))
      rw [h m hm]
    have hnamed : ∀ m : String × (Json → Bool),
        ((sortKeysMembers fs).insertionSort keyLe).any (fun f => f.1 = m.1) =
          fs.any (fun f => f.1 = m.1) := by
      intro m
      rw [(perm_sortKeys fs).any_eq, List.any_map]
      rfl
    rw [sortKeys, record, record, (perm_sortKeys fs).all_eq, List.all_map]
    simp only [Function.comp_def, hany, hnamed]
  | _ => rfl

end Json
