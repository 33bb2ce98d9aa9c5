/-
# Text

The operations on texts that network code is written with, over the characters of the text:
trimming, splitting once, dropping a delimiter at an edge, and comparison without regard to the
case of US-ASCII letters.
-/
import Mathlib.Data.List.Basic

namespace Text

open Option List

def isControl (c : Char) : Bool :=
  c.toNat ≤ 0x1f || (0x7f ≤ c.toNat && c.toNat ≤ 0x9f)

def isWhitespace (c : Char) : Bool :=
  (0x09 ≤ c.toNat && c.toNat ≤ 0x0d) || c.toNat = 0x20 || c.toNat = 0x85 || c.toNat = 0xa0 ||
    c.toNat = 0x1680 || (0x2000 ≤ c.toNat && c.toNat ≤ 0x200a) || c.toNat = 0x2028 ||
    c.toNat = 0x2029 || c.toNat = 0x202f || c.toNat = 0x205f || c.toNat = 0x3000

def trim (s : String) : String :=
  String.ofList ((s.toList.dropWhile isWhitespace).reverse.dropWhile isWhitespace).reverse

theorem trim_append {text blanks : List Char} (hne : text ≠ [])
    (htext : ∀ c ∈ text, isWhitespace c = false) (hblanks : ∀ c ∈ blanks, isWhitespace c = true) :
    trim (String.ofList (text ++ blanks)) = String.ofList text := by
  have hkeep : ∀ l tail : List Char, l ≠ [] → (∀ c ∈ l, isWhitespace c = false) →
      (l ++ tail).dropWhile isWhitespace = l ++ tail := by
    intro l tail hl hclean
    cases l with
    | nil => exact absurd rfl hl
    | cons c l =>
      apply dropWhile_cons_of_neg
      rw [hclean c mem_cons_self]
      exact Bool.false_ne_true
  have hback := hkeep text.reverse [] (mt reverse_eq_nil_iff.1 hne)
    (fun c hc => htext c (mem_reverse.1 hc))
  rw [append_nil] at hback
  unfold trim
  rw [String.toList_ofList, hkeep text blanks hne htext, reverse_append,
    dropWhile_append_of_pos (fun c hc => hblanks c (mem_reverse.1 hc)), hback,
    reverse_reverse]

def splitOnce (c : Char) (s : String) : Option (String × String) :=
  match s.toList.span (· ≠ c) with
  | (before, _ :: after) => some (String.ofList before, String.ofList after)
  | (_, []) => none

def before (c : Char) (s : String) : String := String.ofList (s.toList.takeWhile (· ≠ c))

def dropFirst (c : Char) (s : String) : Option String :=
  match s.toList with
  | d :: rest => if d = c then some (String.ofList rest) else none
  | [] => none

def dropLast (c : Char) (s : String) : Option String :=
  (dropFirst c (String.ofList s.toList.reverse)).map (fun r => String.ofList r.toList.reverse)

def stripStart (start s : String) : Option String :=
  if start.toList.isPrefixOf s.toList then some (String.ofList (s.toList.drop start.toList.length))
  else none

theorem stripStart_eq_some_iff {start s rest : String} :
    stripStart start s = some rest ↔ s = start ++ rest := by
  unfold stripStart
  rw [ite_none_right_eq_some, some.injEq, isPrefixOf_iff_prefix]
  constructor
  · rintro ⟨⟨tail, htail⟩, rfl⟩
    rw [← htail, drop_left, ← String.toList_inj, String.toList_append, String.toList_ofList,
      htail]
  · rintro rfl
    rw [String.toList_append, drop_left, String.ofList_toList]
    exact ⟨prefix_append _ _, rfl⟩

def eqIgnoreAsciiCase (a b : String) : Bool :=
  a.toList.map Char.toLower = b.toList.map Char.toLower

def toAsciiLowercase (s : String) : String := String.ofList (s.toList.map Char.toLower)

def splitWhitespace (s : String) : List String :=
  ((s.toList.splitOnP isWhitespace).filter (· ≠ [])).map String.ofList

/-! ## Lines -/

def chomp (line : String) : String := (dropLast '\r' line).getD line

/-- The lines of a text, without their ends.  An end is a line feed, with the carriage return
before it; what follows the last end is a line if it is not empty, and keeps its carriage
return. -/
def lines (s : String) : List String :=
  let pieces := (s.toList.splitOn '\n').map String.ofList
  pieces.dropLast.map chomp ++ (pieces.getLast?.filter (· ≠ "")).toList

theorem dropLast_eq_some_iff {c : Char} {s rest : String} :
    dropLast c s = some rest ↔ s = rest.push c := by
  unfold dropLast dropFirst
  rw [String.toList_ofList, ← String.toList_inj, String.toList_push]
  rcases s.toList.eq_nil_or_concat with hs | ⟨init, d, hs⟩
  · simp [hs]
  · rw [hs, concat_eq_append, reverse_append, reverse_singleton,
      singleton_append, append_singleton_inj]
    dsimp only
    split
    case isTrue hd =>
      simp only [map_some, String.toList_ofList, reverse_reverse, some.injEq, hd,
        and_true]
      rw [← String.toList_inj, String.toList_ofList]
    case isFalse hd => simp [hd]

theorem chomp_cases (line : String) :
    (chomp line = line ∧ ∀ u : String, line ≠ u.push '\r') ∨ line = (chomp line).push '\r' := by
  unfold chomp
  cases h : dropLast '\r' line with
  | none =>
    refine .inl ⟨rfl, fun u hu => ?_⟩
    rw [dropLast_eq_some_iff.2 hu] at h
    cases h
  | some u => exact .inr (dropLast_eq_some_iff.1 h)

@[simp] theorem chomp_push (u : String) : chomp (u.push '\r') = u := by
  unfold chomp
  rw [dropLast_eq_some_iff.2 rfl, getD_some]

theorem notMem_of_mem_splitOn {α : Type*} [DecidableEq α] {x : α} {l piece : List α}
    (h : piece ∈ l.splitOn x) : x ∉ piece := by
  induction l generalizing piece with
  | nil =>
    rw [splitOn_nil, mem_singleton] at h
    rw [h]
    exact not_mem_nil
  | cons a l ih =>
    rw [splitOn_cons_eq_if_modifyHead] at h
    split at h
    case isTrue =>
      rcases mem_cons.1 h with rfl | h
      · exact not_mem_nil
      · exact ih h
    case isFalse ha =>
      -- the first piece of the rest gets one more element in front
      rcases hrest : l.splitOn x with _ | ⟨first, rest⟩
      · exact absurd hrest (splitOn_ne_nil x l)
      rw [hrest] at h ih
      rcases mem_cons.1 h with rfl | h
      · rintro (_ | ⟨_, hmem⟩)
        · exact ha (beq_self_eq_true x)
        · exact ih mem_cons_self hmem
      · exact ih (mem_cons_of_mem _ h)

theorem newline_notMem_of_mem_lines {s line : String} (h : line ∈ lines s) : '\n' ∉ line.toList := by
  have hpiece : ∀ piece ∈ (s.toList.splitOn '\n').map String.ofList, '\n' ∉ piece.toList := by
    intro piece hpiece
    obtain ⟨chars, hchars, rfl⟩ := mem_map.1 hpiece
    rw [String.toList_ofList]
    exact notMem_of_mem_splitOn hchars
  rcases mem_append.1 h with h | h
  · obtain ⟨piece, hmem, rfl⟩ := mem_map.1 h
    intro hnewline
    apply hpiece piece (dropLast_subset _ hmem)
    rcases chomp_cases piece with ⟨hsame, -⟩ | hpush
    · rwa [hsame] at hnewline
    · rw [hpush, String.toList_push]
      exact mem_append_left _ hnewline
  · rw [mem_toList, filter_eq_some_iff] at h
    exact hpiece line (mem_of_mem_getLast? h.1)

theorem lines_intercalate (init : List String) (last : String)
    (h : ∀ piece ∈ init ++ [last], '\n' ∉ piece.toList) (hlast : last ≠ "") :
    lines ("\n".intercalate (init ++ [last])) = init.map chomp ++ [last] := by
  have hpieces : (("\n".intercalate (init ++ [last])).toList.splitOn '\n').map String.ofList =
      init ++ [last] := by
    rw [String.toList_intercalate, show "\n".toList = ['\n'] from rfl, List.splitOn_intercalate]
    · rw [List.map_map]
      exact (List.map_congr_left (fun s _ => String.ofList_toList)).trans (List.map_id _)
    · intro chars hchars
      obtain ⟨piece, hpiece, rfl⟩ := mem_map.1 hchars
      exact h piece hpiece
    · simp
  unfold lines
  dsimp only
  rw [hpieces, dropLast_concat, getLast?_concat, filter_some,
    if_pos (decide_eq_true hlast), toList_some]

end Text
