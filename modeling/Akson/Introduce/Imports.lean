/-
# The imports over whole runs

The operator adds imports, relabels them and removes them, with or without the relationship behind
them.
-/
import Akson.Introduce.Relationship

namespace Akson

open Option Table

/-- One operation on the imports. -/
inductive ImportStep : Store → Option String → Store → Prop
  | add {s s' : Store} {root label hint : String} {now : Time} {out : ImportOutcome}
      (h : addPeerImport root label hint now s = .ok (out, s')) : ImportStep s none s'
  | update {s s' : Store} {root : String} {newLabel newEndpoint : Option String}
      {out : ImportOutcome} (h : updatePeerImport root newLabel newEndpoint s = .ok (out, s')) :
      ImportStep s none s'
  | remove {s s' : Store} {root : String} {now : Time} {removed : Bool}
      (h : removePeerImport root now s = (removed, s')) :
      ImportStep s (if removed then some root else none) s'
  | removeRelationship {s s' : Store} {root : String} {now : Time} {removed : Bool}
      (h : removeRelationship root now s = (removed, s')) :
      ImportStep s (if removed then some root else none) s'

def Store.Labelled (s : Store) : Prop :=
  ∀ r ∈ s.peerImports, r.label.isSome = true ↔ r.tombstonedAt = none

def Store.epochOf (s : Store) (root : String) : ℕ :=
  ((s.viewRoot root).imported.map Prod.fst).getD 1

variable {s s' s₀ : Store} {root : String} {now : Time} {removed : Bool}

/-! ## Labels -/

theorem Store.Labelled.setImport {f : PeerImport → PeerImport} (hs : s.Labelled)
    (h : setImport f root s = .ok s') (hf : ∀ r ∈ s.peerImports, r.rootThumbprint = root →
      ((f r).label.isSome = true ↔ (f r).tombstonedAt = none)) : s'.Labelled := by
  obtain ⟨imports, hset, rfl⟩ := setImport_eq_ok h
  intro r hr
  obtain ⟨r₀, hr₀, rfl⟩ := (mem_updateChecked hset).1 hr
  split
  case isTrue hroot => exact hf r₀ hr₀ (of_decide_eq_true hroot)
  case isFalse => exact hs r₀ hr₀

theorem Store.Labelled.addPeerImport {label hint : String} {out : ImportOutcome} (hs : s.Labelled)
    (h : addPeerImport root label hint now s = .ok (out, s')) : s'.Labelled := by
  rcases addPeerImport_cases h with rfl | ⟨imports, hset, rfl⟩ | ⟨imports, hins, rfl⟩
  · exact hs
  · intro r hr
    obtain ⟨r₀, hr₀, rfl⟩ := (mem_updateChecked hset).1 hr
    split
    case isTrue => simp
    case isFalse => exact hs r₀ hr₀
  · intro r hr
    rcases (mem_insert hins).1 hr with hr | rfl
    · exact hs r hr
    · simp

theorem Store.Labelled.updatePeerImport {newLabel newEndpoint : Option String}
    {out : ImportOutcome} (hs : s.Labelled)
    (h : updatePeerImport root newLabel newEndpoint s = .ok (out, s')) : s'.Labelled := by
  by_cases hnone : (s.peerImport root).isNone = true
  · rw [Akson.updatePeerImport, if_pos hnone] at h
    exact Except.snd_eq_of_ok h ▸ hs
  obtain ⟨live, hlive⟩ := ne_none_iff_exists'.1 (fun h => hnone (isNone_iff_eq_none.2 h))
  rw [peerImport_eq_some_iff] at hlive
  have honly : ∀ r ∈ s.peerImports, r.rootThumbprint = root → r.tombstonedAt = none := by
    intro r hr hroot
    have hrow := hlive.1.symm.trans (importRow_eq_some_iff.2 ⟨hr, hroot⟩)
    exact some.inj hrow ▸ hlive.2
  rcases updatePeerImport_cases h with rfl | ⟨s₁, hlabel, hhint⟩
  · exact hs
  have hs₁ : s₁.Labelled := by
    rcases hlabel with ⟨-, rfl⟩ | ⟨label, -, hset⟩
    · exact hs
    · exact hs.setImport hset (fun r hr hroot => by simp [honly r hr hroot])
  rcases hhint with rfl | ⟨hint, hset⟩
  · exact hs₁
  · exact hs₁.setImport hset (fun r hr _ => hs₁ r hr)

theorem Store.Labelled.removePeerImport (hs : s.Labelled)
    (h : removePeerImport root now s = (removed, s')) : s'.Labelled := by
  cases h
  intro r hr
  obtain ⟨r₀, hr₀, rfl⟩ := (mem_updateWhere (PeerImport.tombstone_keepsKey now)).1 hr
  split
  case isTrue => simp [PeerImport.tombstone]
  case isFalse => exact hs r₀ hr₀

/-! ## Removal -/

theorem exists_removePeerImport (h : removeRelationship root now s = (removed, s')) :
    ∃ s₁, removePeerImport root now s = (removed, s₁) ∧ s'.peerImports = s₁.peerImports := by
  unfold removeRelationship at h
  split at h
  case h_1 s₁ hremove =>
    obtain ⟨rfl, rfl⟩ := Prod.mk.inj h
    exact ⟨s₁, hremove, rfl⟩
  case h_2 s₁ hremove =>
    obtain ⟨rfl, rfl⟩ := Prod.mk.inj h
    exact ⟨s₁, hremove, rfl⟩

theorem epochOf_congr (h : s'.peerImports = s.peerImports) (r : String) :
    s'.epochOf r = s.epochOf r := by
  rw [Store.epochOf, Store.epochOf, Store.viewRoot, Store.viewRoot, Store.importRow,
    Store.importRow, h]

theorem epochOf_removePeerImport (h : removePeerImport root now s = (removed, s')) (r : String) :
    s'.epochOf r = s.epochOf r +
      [if removed then some root else none].count (some r) := by
  cases removed with
  | false => simp [removePeerImport_of_fst h]
  | true =>
    obtain ⟨hcount, hs'⟩ := Prod.mk.inj h
    have hrow := importRow_removePeerImport root now s r
    rw [h] at hrow
    obtain ⟨live, hmem, hlive⟩ := exists_of_count_eq_one (of_decide_eq_true hcount)
    simp only [Store.epochOf, Store.viewRoot, hrow, map_map]
    by_cases hr : r = root
    · subst hr
      rw [importRow_eq_some_iff.2 ⟨hmem, (of_decide_eq_true hlive).1⟩]
      simp [hlive, PeerImport.tombstone]
    · cases hfind : s.importRow r with
      | none => simp [Ne.symm hr]
      | some i =>
        have hi := (importRow_eq_some_iff.1 hfind).2
        simp [liveImport, hi, hr, Ne.symm hr]

theorem deleteWhere_behind {ρ : Type} [Row ρ] (key : ρ → String) (root : String) (t : Table ρ) :
    (root ≠ "" → ∀ r ∈ t.deleteWhere (fun r => decide (key r = root ∧ key r ≠ "")), key r ≠ root) ∧
      t.SameOutside (fun r => key r = root)
        (t.deleteWhere (fun r => decide (key r = root ∧ key r ≠ ""))) := by
  constructor
  · intro hroot r hr hkey
    exact of_decide_eq_false (mem_deleteWhere.1 hr).2 ⟨hkey, hkey ▸ hroot⟩
  · intro r hr
    rw [mem_deleteWhere, decide_eq_false_iff_not]
    exact and_iff_left (fun hboth => of_decide_eq_false hr hboth.1)

theorem removeRelationship_leaves (h : removeRelationship root now s = (true, s')) :
    (root ≠ "" → (∀ r ∈ s'.peers, r.rootThumbprint ≠ root) ∧
      (∀ r ∈ s'.peerKeys, r.rootThumbprint ≠ root) ∧
      ∀ r ∈ s'.autoApprove, r.rootThumbprint ≠ root) ∧
    SameForOthers root s s' ∧
    s.peerImports.SameOutside (fun r => r.rootThumbprint = root) s'.peerImports := by
  unfold removeRelationship at h
  split at h
  case h_1 => cases h
  case h_2 s₁ hremove =>
    obtain ⟨-, rfl⟩ := Prod.mk.inj hremove
    obtain ⟨-, rfl⟩ := Prod.mk.inj h
    have hpeers := deleteWhere_behind PeerRow.rootThumbprint root s.peers
    have hkeys := deleteWhere_behind PeerKeyRow.rootThumbprint root s.peerKeys
    have happrove := deleteWhere_behind AutoApproveRow.rootThumbprint root s.autoApprove
    refine ⟨fun hroot => ⟨hpeers.1 hroot, hkeys.1 hroot, happrove.1 hroot⟩,
      ⟨hpeers.2, hkeys.2, happrove.2⟩, ?_⟩
    refine sameOutside_updateWhere ?_ ?_ (PeerImport.tombstone_keepsKey now)
    · exact fun r _ hr => decide_eq_true (of_decide_eq_true hr).1
    · exact fun r hr => decide_eq_true (of_decide_eq_true hr).1

/-! ## Runs -/

theorem importStep_labelled {l : Option String} (hs : s.Labelled) (h : ImportStep s l s') :
    s'.Labelled := by
  cases h with
  | add h => exact hs.addPeerImport h
  | update h => exact hs.updatePeerImport h
  | remove h => exact hs.removePeerImport h
  | removeRelationship h =>
    obtain ⟨s₁, hremove, himports⟩ := exists_removePeerImport h
    intro r hr
    exact hs.removePeerImport hremove r (himports ▸ hr)

theorem RootMove.epoch_of_opened {r : String} {v v' : RootView} (h : RootMove r v .opened v') :
    (v'.imported.map Prod.fst).getD 1 = (v.imported.map Prod.fst).getD 1 := by
  cases h with
  | imported hnone => simp [hnone]
  | revived hdead => simp [hdead]

theorem importStep_epochOf {l : Option String} (h : ImportStep s l s') (r : String) :
    s'.epochOf r = s.epochOf r + [l].count (some r) := by
  cases h with
  | add h =>
    rcases rootMove_addPeerImport h r with hsame | hopened
    · simp [Store.epochOf, hsame]
    · exact hopened.epoch_of_opened
  | update h => simp [Store.epochOf, rootMove_updatePeerImport h r]
  | remove h => exact epochOf_removePeerImport h r
  | removeRelationship h =>
    obtain ⟨s₁, hremove, himports⟩ := exists_removePeerImport h
    rw [epochOf_congr himports]
    exact epochOf_removePeerImport hremove r

/-- Over any sequence of operations on the imports there is one live import at most for a label
and for a root, tombstones hold no label, the epoch of a root counts its removals, and a
relationship is removed as a whole and alone. -/
theorem imports_stay_orderly {ls : List (Option String)} (h₀ : s₀.Labelled)
    (hrun : Trace ImportStep s₀ ls s) :
    (∀ a ∈ s.peerImports, ∀ b ∈ s.peerImports, a.tombstonedAt = none → b.tombstonedAt = none →
      (a.rootThumbprint = b.rootThumbprint ∨ a.label = b.label) → a = b) ∧
    (∀ r ∈ s.peerImports, r.tombstonedAt ≠ none → r.label = none) ∧
    (∀ r, s.epochOf r = s₀.epochOf r + ls.count (some r)) ∧
    ∀ root now s', removeRelationship root now s = (true, s') →
      (root ≠ "" → (∀ r ∈ s'.peers, r.rootThumbprint ≠ root) ∧
        (∀ r ∈ s'.peerKeys, r.rootThumbprint ≠ root) ∧
        ∀ r ∈ s'.autoApprove, r.rootThumbprint ≠ root) ∧
      SameForOthers root s s' ∧
      s.peerImports.SameOutside (fun r => r.rootThumbprint = root) s'.peerImports := by
  have hs : s.Labelled := hrun.invariant (fun _ _ _ => importStep_labelled) h₀
  refine ⟨?_, ?_, ?_, fun root now s' => removeRelationship_leaves⟩
  · intro a ha b hb hlive _ hsame
    exact s.peerImports.eq_of_clash ha hb (hsame.imp_right (fun h => ⟨(hs a ha).2 hlive, h⟩))
  · intro r hr hdead
    cases hlabel : r.label with
    | none => rfl
    | some label => exact absurd ((hs r hr).1 (by rw [hlabel]; rfl)) hdead
  · intro r
    clear hs h₀
    induction hrun with
    | nil => simp
    | cons hstep _ ih =>
      rw [ih, importStep_epochOf hstep, Nat.add_assoc, ← List.count_append, List.singleton_append]

/-- An import that is added and removed again is at epoch two. -/
theorem imports_stay_orderly_once : ∃ s, Trace ImportStep {} [none, some "root-a"] s ∧
    s.epochOf "root-a" = 2 := by
  have hadd : addPeerImport "root-a" "a" "" 100 {} = .ok (.added,
    { peerImports := Table.single ⟨"root-a", some "a", "", 1, 100, none⟩ }) := rfl
  have hremove : removePeerImport "root-a" 101
    { peerImports := Table.single ⟨"root-a", some "a", "", 1, 100, none⟩ } = (true, _) := rfl
  have hrun : Trace ImportStep {} [none, some "root-a"] _ :=
    .cons (.add hadd) (.cons (.remove hremove) (.nil _))
  have hnone : Store.Labelled {} := fun r hr => absurd hr (not_mem_empty r)
  exact ⟨_, hrun, (imports_stay_orderly hnone hrun).2.2.1 "root-a"⟩

end Akson
