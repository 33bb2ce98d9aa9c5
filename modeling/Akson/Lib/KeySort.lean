/-
# Sorting by a key

A stable sort leaves entries with the same key in the order they came in.
-/
import Mathlib.Data.List.Sort
import Mathlib.Data.Set.Function

namespace List

variable {α κ : Type*} [LinearOrder κ] (key : α → κ)

theorem pairwise_insertionSort_key (l : List α) :
    (l.insertionSort (fun a b => key a ≤ key b)).Pairwise (fun a b => key a ≤ key b) := by
  have : Std.Total (fun a b : α => key a ≤ key b) := ⟨fun a b => le_total _ _⟩
  have : IsTrans α (fun a b : α => key a ≤ key b) := ⟨fun a b c => le_trans⟩
  exact pairwise_insertionSort _ l

theorem filter_insertionSort_key (l : List α) (k : κ) :
    (l.insertionSort (fun a b => key a ≤ key b)).filter (fun a => key a = k) =
      l.filter (fun a => key a = k) := by
  have : Std.Total (fun a b : α => key a ≤ key b) := ⟨fun a b => le_total _ _⟩
  have : IsTrans α (fun a b : α => key a ≤ key b) := ⟨fun a b c => le_trans⟩
  have hsorted : (l.filter (fun a => key a = k)).Pairwise (fun a b => key a ≤ key b) := by
    refine pairwise_of_forall_mem_list (fun a ha b hb => ?_)
    rw [of_decide_eq_true (mem_filter.1 ha).2, of_decide_eq_true (mem_filter.1 hb).2]
  have hsub := (sublist_insertionSort hsorted filter_sublist).filter (fun a => key a = k)
  rw [filter_filter] at hsub
  simp only [Bool.and_self] at hsub
  -- the two lists are permutations of each other, so the one is not a proper part of the other
  refine (hsub.eq_of_length ?_).symm
  exact ((perm_insertionSort _ l).symm.filter _).length_eq

theorem insertionSort_key_of_perm {l l' : List α} (h : l' ~ l) (hinj : Set.InjOn key {a | a ∈ l}) :
    l'.insertionSort (fun a b => key a ≤ key b) = l.insertionSort (fun a b => key a ≤ key b) := by
  have hperm := ((perm_insertionSort (fun a b => key a ≤ key b) l').trans h).trans
    (perm_insertionSort (fun a b => key a ≤ key b) l).symm
  refine hperm.eq_of_pairwise (fun a b ha hb hab hba => ?_) (pairwise_insertionSort_key key l')
    (pairwise_insertionSort_key key l)
  refine hinj ?_ ?_ (le_antisymm hab hba)
  · exact h.mem_iff.1 ((mem_insertionSort _).1 ha)
  · exact (mem_insertionSort _).1 hb

theorem insertionSort_key_perm_iff (l : List α) :
    (∀ l', l' ~ l → l'.insertionSort (fun a b => key a ≤ key b) =
        l.insertionSort (fun a b => key a ≤ key b)) ↔
      Set.InjOn key {a | a ∈ l} := by
  constructor
  · intro hsame a ha b hb hkey
    by_contra hne
    obtain ⟨rest, hrest⟩ : ∃ rest, a :: b :: rest ~ l := by
      classical
      have hb' : b ∈ l.erase a := (mem_erase_of_ne (Ne.symm hne)).2 hb
      exact ⟨_, (((perm_cons_erase hb').symm.cons a).trans (perm_cons_erase ha).symm)⟩
    have hswap : b :: a :: rest ~ l := (Perm.swap a b rest).trans hrest
    have hsort := (hsame _ hrest).trans (hsame _ hswap).symm
    have hfilter := congrArg (filter (fun c => key c = key a)) hsort
    rw [filter_insertionSort_key, filter_insertionSort_key] at hfilter
    simp only [filter_cons, hkey, decide_true, if_true, cons.injEq] at hfilter
    exact hne hfilter.1
  · intro hinj l' h
    exact insertionSort_key_of_perm key h hinj

end List
