/-
# What a strictly read text holds

The limits of the strict reader of JSON texts, over the whole tree that a text holds: in a text that
is accepted no object repeats a member name, no container lies too deep, the nodes are not too many,
and the whole numbers are ones that a double can hold.
-/
import Akson.Env
import Akson.Lib.Fallible

namespace Json

namespace Reading

mutual

def nodesAt (depth : ℕ) : Reading → List (ℕ × Reading)
  | .arr xs stop => (depth, .arr xs stop) :: nodesAtElems (depth + 1) xs
  | .obj fs stop => (depth, .obj fs stop) :: nodesAtMembers (depth + 1) fs
  | x => [(depth, x)]

def nodesAtElems (depth : ℕ) : List Reading → List (ℕ × Reading)
  | [] => []
  | x :: xs => nodesAt depth x ++ nodesAtElems depth xs

def nodesAtMembers (depth : ℕ) : List (String × Reading) → List (ℕ × Reading)
  | [] => []
  | (_, x) :: fs => nodesAt depth x ++ nodesAtMembers depth fs

end

def FitsAt (limit depth : ℕ) : Reading → Prop
  | .arr _ _ => depth + 1 ≤ limit
  | .obj fs _ => depth + 1 ≤ limit ∧ (fs.map Prod.fst).Nodup
  | _ => True

end Reading

def SafeInteger (q : Rat) : Prop := q.den = 1 → q.num.natAbs ≤ maxSafeInteger

/-- The nodes that a walk has counted. -/
structure Walked (limit nodes nodes' : ℕ) (found : List (ℕ × Reading)) : Prop where
  count : nodes' = nodes + found.length
  bound : nodes ≤ maxNodes → nodes' ≤ maxNodes
  fits : ∀ p ∈ found, p.2.FitsAt limit p.1

theorem countNode_eq_ok {nodes n : ℕ} :
    countNode nodes = .ok n ↔ nodes + 1 ≤ maxNodes ∧ n = nodes + 1 := by
  unfold countNode
  split
  · simp only [reduceCtorEq, false_iff]
    omega
  · simp only [Except.ok.injEq, eq_comm, iff_and_self]
    omega

namespace Walked

variable {limit nodes n nodes' depth : ℕ} {found more : List (ℕ × Reading)} {x : Reading}

theorem nil : Walked limit nodes nodes [] := ⟨rfl, id, by simp⟩

theorem append (h : Walked limit nodes n found) (h' : Walked limit n nodes' more) :
    Walked limit nodes nodes' (found ++ more) := by
  refine ⟨?_, fun hn => h'.bound (h.bound hn), ?_⟩
  · rw [h'.count, h.count, List.length_append, Nat.add_assoc]
  · intro p hp
    exact (List.mem_append.1 hp).elim (h.fits p) (h'.fits p)

theorem node (h : countNode nodes = .ok n) (hx : x.FitsAt limit depth) :
    Walked limit nodes n [(depth, x)] := by
  obtain ⟨hle, rfl⟩ := countNode_eq_ok.1 h
  exact ⟨rfl, fun _ => hle, by simpa using hx⟩

end Walked

theorem any_insertMember {k x : String} {v : Json} {seen : List (String × Json)} :
    (insertMember k v seen).any (fun f => f.1 = x) ↔ k = x ∨ seen.any (fun f => f.1 = x) := by
  induction seen with
  | nil => simp [insertMember]
  | cons f fs ih =>
    simp only [insertMember]
    split
    · simp
    · rw [List.any_cons, List.any_cons, Bool.or_eq_true, Bool.or_eq_true, ih, or_left_comm]

theorem numsIn_insertMember {P : Rat → Prop} {k : String} {v : Json}
    {seen : List (String × Json)} (hv : NumsIn P v) (hseen : NumsInMembers P seen) :
    NumsInMembers P (insertMember k v seen) := by
  induction seen with
  | nil => exact ⟨hv, trivial⟩
  | cons f fs ih =>
    simp only [insertMember]
    split
    · exact ⟨hv, hseen⟩
    · exact ⟨hseen.1, ih hseen.2⟩

section Visit

variable {fmtFloat : Rat → String} {limit limit' : ℕ}

-- by induction over the tree: what is read under a limit fits it, and is read under a higher one
mutual

theorem visit_eq_ok (hle : limit ≤ limit') : ∀ (x : Reading) (depth nodes : ℕ) (v : Json) (n : ℕ),
    visit fmtFloat limit depth nodes x = .ok (v, n) →
    Walked limit nodes n (x.nodesAt depth) ∧ NumsIn SafeInteger v ∧
      visit fmtFloat limit' depth nodes x = .ok (v, n)
  | .null, depth, nodes, v, n, h | .bool _, depth, nodes, v, n, h
  | .str _, depth, nodes, v, n, h => by
    rw [visit] at h ⊢
    obtain ⟨m, hm, hv⟩ := Except.bind_eq_ok.1 h
    cases hv
    exact ⟨.node hm trivial, trivial, h⟩
  | .int i, depth, nodes, v, n, h => by
    rw [visit] at h ⊢
    obtain ⟨m, hm, hv⟩ := Except.bind_eq_ok.1 h
    split at hv
    · cases hv
    · rename_i hsafe
      cases hv
      exact ⟨.node hm trivial, fun _ => not_lt.1 hsafe, h⟩
  | .float q, depth, nodes, v, n, h => by
    rw [visit] at h ⊢
    obtain ⟨m, hm, hv⟩ := Except.bind_eq_ok.1 h
    split at hv
    · cases hv
    · rename_i hsafe
      cases hv
      exact ⟨.node hm trivial, fun hden => not_lt.1 (fun hlt => hsafe ⟨hden, hlt⟩), h⟩
  | .arr xs stop, depth, nodes, v, n, h => by
    rw [visit] at h ⊢
    obtain ⟨m, hm, hv⟩ := Except.bind_eq_ok.1 h
    split at hv
    · cases hv
    · rename_i hdepth
      obtain ⟨⟨items, n'⟩, hitems, hv⟩ := Except.bind_eq_ok.1 hv
      obtain ⟨_, hstop, hv⟩ := Except.bind_eq_ok.1 hv
      cases hv
      obtain ⟨hwalk, hnums, hitems'⟩ := visitElems_eq_ok hle xs _ _ _ _ hitems
      have hnode : Walked limit nodes m [(depth, .arr xs stop)] := .node hm (not_le.1 hdepth)
      refine ⟨hnode.append hwalk, hnums, Except.bind_eq_ok.2 ⟨m, hm, ?_⟩⟩
      rw [if_neg (fun hge => hdepth (hle.trans hge))]
      exact Except.bind_eq_ok.2 ⟨_, hitems', Except.bind_eq_ok.2 ⟨_, hstop, rfl⟩⟩
  | .obj fs stop, depth, nodes, v, n, h => by
    rw [visit] at h ⊢
    obtain ⟨m, hm, hv⟩ := Except.bind_eq_ok.1 h
    split at hv
    · cases hv
    · rename_i hdepth
      obtain ⟨⟨members, n'⟩, hmembers, hv⟩ := Except.bind_eq_ok.1 hv
      obtain ⟨_, hstop, hv⟩ := Except.bind_eq_ok.1 hv
      cases hv
      obtain ⟨hwalk, hnums, ⟨hnodup, -⟩, hmembers'⟩ :=
        visitMembers_eq_ok hle fs _ _ [] _ _ trivial hmembers
      have hnode : Walked limit nodes m [(depth, .obj fs stop)] :=
        .node hm ⟨not_le.1 hdepth, hnodup⟩
      refine ⟨hnode.append hwalk, hnums, Except.bind_eq_ok.2 ⟨m, hm, ?_⟩⟩
      rw [if_neg (fun hge => hdepth (hle.trans hge))]
      exact Except.bind_eq_ok.2 ⟨_, hmembers', Except.bind_eq_ok.2 ⟨_, hstop, rfl⟩⟩
  | .bad message, depth, nodes, v, n, h => by
    rw [visit] at h
    obtain ⟨m, -, hv⟩ := Except.bind_eq_ok.1 h
    cases hv

theorem visitElems_eq_ok (hle : limit ≤ limit') : ∀ (xs : List Reading) (depth nodes : ℕ)
    (vs : List Json) (n : ℕ), visitElems fmtFloat limit depth nodes xs = .ok (vs, n) →
    Walked limit nodes n (Reading.nodesAtElems depth xs) ∧ NumsInElems SafeInteger vs ∧
      visitElems fmtFloat limit' depth nodes xs = .ok (vs, n)
  | [], depth, nodes, vs, n, h => by
    cases h
    exact ⟨.nil, trivial, rfl⟩
  | x :: xs, depth, nodes, vs, n, h => by
    rw [visitElems] at h ⊢
    obtain ⟨⟨v, m⟩, hv, h⟩ := Except.bind_eq_ok.1 h
    obtain ⟨⟨vs', n'⟩, hvs, h⟩ := Except.bind_eq_ok.1 h
    cases h
    obtain ⟨hwalk, hnums, hv'⟩ := visit_eq_ok hle x _ _ _ _ hv
    obtain ⟨hwalks, hnums', hvs'⟩ := visitElems_eq_ok hle xs _ _ _ _ hvs
    exact ⟨hwalk.append hwalks, ⟨hnums, hnums'⟩,
      Except.bind_eq_ok.2 ⟨_, hv', Except.bind_eq_ok.2 ⟨_, hvs', rfl⟩⟩⟩

theorem visitMembers_eq_ok (hle : limit ≤ limit') : ∀ (fs : List (String × Reading))
    (depth nodes : ℕ) (seen members : List (String × Json)) (n : ℕ),
    NumsInMembers SafeInteger seen →
    visitMembers fmtFloat limit depth nodes seen fs = .ok (members, n) →
    Walked limit nodes n (Reading.nodesAtMembers depth fs) ∧ NumsInMembers SafeInteger members ∧
      ((fs.map Prod.fst).Nodup ∧ ∀ k ∈ fs.map Prod.fst, ¬ seen.any (fun f => f.1 = k)) ∧
      visitMembers fmtFloat limit' depth nodes seen fs = .ok (members, n)
  | [], depth, nodes, seen, members, n, hseen, h => by
    cases h
    exact ⟨.nil, hseen, ⟨.nil, nofun⟩, rfl⟩
  | (k, x) :: fs, depth, nodes, seen, members, n, hseen, h => by
    rw [visitMembers] at h ⊢
    obtain ⟨⟨v, m⟩, hv, h⟩ := Except.bind_eq_ok.1 h
    dsimp only at h
    split at h
    · cases h
    · rename_i hnew
      obtain ⟨hwalk, hnums, hv'⟩ := visit_eq_ok hle x _ _ _ _ hv
      obtain ⟨hwalks, hmembers, ⟨hnodup, hfresh⟩, hfs'⟩ :=
        visitMembers_eq_ok hle fs _ _ _ _ _ (numsIn_insertMember hnums hseen) h
      refine ⟨hwalk.append hwalks, hmembers, ⟨?_, ?_⟩, Except.bind_eq_ok.2 ⟨_, hv', ?_⟩⟩
      · refine List.nodup_cons.2 ⟨fun hk => hfresh k hk ?_, hnodup⟩
        exact any_insertMember.2 (.inl rfl)
      · rintro l (_ | ⟨_, hl⟩)
        · exact hnew
        · exact fun hany => hfresh l hl (any_insertMember.2 (.inr hany))
      · exact (if_neg hnew).trans hfs'

end

end Visit

end Json

namespace Akson

/-- A text is accepted only if no object in it repeats a name, its containers are no deeper than
both limits, its nodes are not too many and its whole numbers are safe; and a caller's limits
never admit a text that the general ones refuse. -/
theorem accepted_text_within_limits (env : Env) (bytes : Bytes) (byteLimit depthLimit : ℕ)
    (v : Json)
    (h : Json.parseWithLimits env.fmtFloat env.readJson bytes byteLimit depthLimit = .ok v) :
    let found := (env.readJson bytes).1.nodesAt 0
    (∀ p ∈ found, p.2.FitsAt (min depthLimit Json.maxDepth) p.1) ∧
      found.length ≤ Json.maxNodes ∧ v.NumsIn Json.SafeInteger ∧
      Json.parse env.fmtFloat env.readJson bytes = .ok v := by
  unfold Json.parseWithLimits at h
  dsimp only at h
  split at h
  · cases h
  · rename_i hsize
    obtain ⟨⟨value, n⟩, hvisit, h⟩ := Except.bind_eq_ok.1 h
    obtain ⟨_, htrailing, h⟩ := Except.bind_eq_ok.1 h
    cases h
    obtain ⟨hwalk, hnums, hvisit'⟩ := Json.visit_eq_ok (min_le_right _ _) _ _ _ _ _ hvisit
    refine ⟨hwalk.fits, ?_, hnums, ?_⟩
    · rw [← Nat.zero_add (List.length _), ← hwalk.count]
      exact hwalk.bound (Nat.zero_le _)
    · unfold Json.parse Json.parseWithLimits
      rw [min_self, min_self, if_neg (fun hgt => hsize (lt_of_le_of_lt (min_le_right _ _) hgt))]
      exact Except.bind_eq_ok.2 ⟨_, hvisit', Except.bind_eq_ok.2 ⟨_, htrailing, rfl⟩⟩

def nestedTextEnv : Env :=
  { Env.inert with
    readJson := fun bytes =>
      if bytes = utf8 "\x7b\"a\":[1]\x7d" then (.obj [("a", .arr [.int 1] none)] none, none)
      else (.bad "", none) }

theorem accepted_text_within_limits_nested :
    ((nestedTextEnv.readJson (utf8 "\x7b\"a\":[1]\x7d")).1.nodesAt 0).length ≤ Json.maxNodes ∧
      Json.parse nestedTextEnv.fmtFloat nestedTextEnv.readJson (utf8 "\x7b\"a\":[1]\x7d") =
        .ok (.obj [("a", .arr [.num 1])]) :=
  have h := accepted_text_within_limits nestedTextEnv (utf8 "\x7b\"a\":[1]\x7d") 16 2
    (.obj [("a", .arr [.num 1])]) rfl
  ⟨h.2.1, h.2.2.2⟩

end Akson
