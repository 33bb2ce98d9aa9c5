/-
# What the coordination surface keeps

The store alone lets a second receipt be minted once the first is spent.  The daemon does not:
`stage_consent` also asks the dispatch ledger, under the same lock.
-/
import Akson.Store.Ledger
import Akson.Coord.Daemon

namespace Akson

open Operation Option List Table

variable {s s' : Store} {now : Time} {stageRef receiptId executionKey : String} {event : Json}

/-! ## The invariant -/

/-- The ledger, and the names the daemon gives to its rows. -/
structure Surface (s : Store) : Prop extends Ledger s where
  stage_ref : ∀ r ∈ s.coordStaged, "stage-".toList <+: r.stageRef.toList
  dispatch_receipt : ∀ d ∈ s.coordDispatches, "dispatch-".toList <+: d.dispatchReceipt.toList
  consent_unique : ∀ c ∈ s.coordConsents, ∀ c' ∈ s.coordConsents,
    c.stageRef = c'.stageRef → c = c'

theorem Ledger.sameCoord (hs : Ledger s) (h : SameCoord s s') : Ledger s' := by
  have hcount : ∀ id, s'.dispatchesNaming id = s.dispatchesNaming id := by
    intro id
    rw [Store.dispatchesNaming, Store.dispatchesNaming, h.dispatches]
  refine ⟨?_, ?_, ?_, ?_⟩
  · rw [h.consents]
    exact hs.maxUses_eq
  · rw [h.consents]
    intro c hc
    rw [hcount]
    exact hs.uses_eq c hc
  · rw [h.consents, h.dispatches]
    exact hs.consent_of_dispatch
  · rw [h.consents]
    intro c hc
    obtain ⟨r, hr, hrc⟩ := hs.staged_of_consent c hc
    exact ⟨r, by rw [h.staged]; exact hr, hrc⟩

theorem Surface.sameCoord (hs : Surface s) (h : SameCoord s s') : Surface s' := by
  refine ⟨hs.toLedger.sameCoord h, ?_, ?_, ?_⟩
  · rw [h.staged]
    exact hs.stage_ref
  · rw [h.dispatches]
    exact hs.dispatch_receipt
  · rw [h.consents]
    exact hs.consent_unique

theorem toList_prefix_append (p t : String) : p.toList <+: (p ++ t).toList := by
  rw [String.toList_append]
  exact prefix_append _ _

/-! ## Each operation keeps it -/

theorem Surface.stageContract {new : NewStagedContract}
    {out : StageOutcome} (hs : Surface s) (href : "stage-".toList <+: new.stageRef.toList)
    (h : stageContract new now s = .ok (out, s')) : Surface s' := by
  have hledger := hs.toLedger.stage h
  obtain ⟨_, _, _, rfl⟩ | ⟨_, staged, contract, hins, hcref, _, _, _, _, _, _, rfl⟩ :=
    stageContract_cases h
  · exact hs
  · refine ⟨hledger, ?_, hs.dispatch_receipt, hs.consent_unique⟩
    intro r hr
    rcases (mem_insert hins).1 hr with hold | rfl
    · exact hs.stage_ref r hold
    · show "stage-".toList <+: contract.stageRef.toList
      rw [hcref]
      exact href

theorem stage_ref_setStatus {status : CoordStatus}
    (hs : ∀ r ∈ s.coordStaged, "stage-".toList <+: r.stageRef.toList) :
    ∀ r ∈ (s.setStatus stageRef status).coordStaged, "stage-".toList <+: r.stageRef.toList := by
  intro r hr
  obtain ⟨old, hold, rfl⟩ := (mem_updateWhere (f := Store.withStatus status)).1 hr
  split
  · exact hs old hold
  · exact hs old hold

variable {c : ConsentRow} {dispatchReceipt : String} {out : DispatchOutcome} {wall : Time}
  {record d : DispatchRecord}

theorem Ledger.coordDispatch_isSome (hs : Ledger s) (hc : c ∈ s.coordConsents)
    (hspent : ¬ c.uses < c.maxUses) : (s.coordDispatch c.stageRef).isSome = true := by
  have hpos : 0 < s.dispatchesNaming c.receiptId := by
    rw [← hs.uses_eq c hc]
    have hmax := hs.maxUses_eq c hc
    omega
  obtain ⟨d, hd, hid⟩ := countP_pos_iff.1 hpos
  obtain ⟨c', hc', hid', href, -⟩ := hs.consent_of_dispatch d hd
  have hrid : c'.receiptId = c.receiptId := hid'.trans (of_decide_eq_true hid)
  obtain rfl := s.coordConsents.eq_of_clash hc' hc hrid
  unfold Store.coordDispatch
  split
  case h_1 => rfl
  case h_2 =>
    -- the row itself answers the lookup by reference
    by_contra hnone
    have hall := find_eq_none_iff.1 (not_isSome_iff_eq_none.1 hnone) d hd
    simp [href] at hall

theorem Ledger.no_consent_of_consentable (hs : Ledger s)
    (hlive : s.unconsumedConsent stageRef = none) (hdispatch : s.coordDispatch stageRef = none) :
    ∀ c ∈ s.coordConsents, c.stageRef ≠ stageRef := by
  rintro c hc rfl
  by_cases huse : c.uses < c.maxUses
  · have hempty := firstBy_eq_none (map_eq_none_iff.1 hlive)
    have hmem : c ∈ s.coordConsents.select
        (fun r => r.stageRef = c.stageRef ∧ r.uses < r.maxUses) :=
      mem_filter.2 ⟨hc, by simp [huse]⟩
    rw [hempty] at hmem
    cases hmem
  · have hsome := hs.coordDispatch_isSome hc huse
    rw [hdispatch] at hsome
    cases hsome

theorem Surface.mint {body : Bytes} {out : Option ConsentReceipt} (hs : Surface s)
    (hlive : s.unconsumedConsent stageRef = none) (hdispatch : s.coordDispatch stageRef = none)
    (h : mintConsentReceipt stageRef receiptId body event now s = .ok (out, s')) : Surface s' := by
  have hledger := hs.toLedger.mint h
  have hnone := hs.no_consent_of_consentable hlive hdispatch
  obtain ⟨_, _, ⟨_, _, rfl⟩ | ⟨_, receipt, consents, hrec, hins, _, rfl⟩⟩ :=
    mintConsentReceipt_cases h
  · exact hs
  · subst hrec
    refine ⟨hledger, stage_ref_setStatus hs.stage_ref, hs.dispatch_receipt, ?_⟩
    intro c hc c' hc' href
    rcases (mem_insert hins).1 hc with hold | rfl
    · rcases (mem_insert hins).1 hc' with hold' | rfl
      · exact hs.consent_unique c hold c' hold' href
      · exact absurd href (hnone c hold)
    · rcases (mem_insert hins).1 hc' with hold' | rfl
      · exact absurd href.symm (hnone c' hold')
      · rfl

theorem Surface.spend (hs : Surface s) (hreceipt : "dispatch-".toList <+: dispatchReceipt.toList)
    (h : dispatchStaged stageRef receiptId executionKey dispatchReceipt event now s
      = .ok (out, s')) : Surface s' := by
  have hledger := hs.toLedger.dispatch h
  obtain ⟨_, _, rfl, _⟩ | ⟨_, _, rfl, _⟩ |
    ⟨_, _, _, _, burn, dispatches, hburn, hins, _, rfl⟩ := dispatchStaged_cases h
  · exact hs
  · exact hs
  · refine ⟨hledger, stage_ref_setStatus hs.stage_ref, ?_, ?_⟩
    · intro d hd
      rcases (mem_insert hins).1 hd with hold | rfl
      · exact hs.dispatch_receipt d hold
      · subst hburn
        exact hreceipt
    · intro c hc c' hc' href
      obtain ⟨r, hr, rfl⟩ := (mem_updateWhere (f := ConsentRow.spend)).1 hc
      obtain ⟨r', hr', rfl⟩ := (mem_updateWhere (f := ConsentRow.spend)).1 hc'
      -- a spend keeps the reference, so the two rows were one row
      have hkeep : ∀ r : ConsentRow, (if spendable burn.stageRef burn.receiptId r = true then r.spend
          else r).stageRef = r.stageRef := by
        intro r
        split <;> rfl
      rw [hkeep, hkeep] at href
      rw [hs.consent_unique r hr r' hr' href]

theorem Surface.egress {state detail : String} {out : Option DispatchRecord} (hs : Surface s)
    (h : recordEgress executionKey state detail event now s = .ok (out, s')) : Surface s' := by
  have hledger := hs.toLedger.egress h
  obtain ⟨egress, _, _, events, audit, rfl⟩ := recordEgress_cases h
  refine ⟨hledger, hs.stage_ref, ?_, hs.consent_unique⟩
  intro d hd
  obtain ⟨r, hr, rfl⟩ :=
    (mem_updateWhere (f := DispatchRecord.withEgress egress detail now)).1 hd
  split
  · exact hs.dispatch_receipt r hr
  · exact hs.dispatch_receipt r hr

/-! ## The daemon's operations keep it -/

theorem stageRef_of_stagedContract {ref : String} {c : StagedContract}
    (h : s.stagedContract ref = some c) : c.stageRef = ref := by
  obtain ⟨r, hr, rfl⟩ := map_eq_some_iff.1 h
  simpa using pred_of_find hr

theorem Surface.atFloor (hs : Surface s) (floor : Option Time) :
    Surface (s.atFloor floor) :=
  hs.sameCoord (sameCoord_atFloor s floor)

theorem surface_stage {env : Env} {taskType performer payloadBase64 : String}
    {r : Except Problem Json} (hs : Surface s)
    (h : exec (stage env taskType performer payloadBase64 wall) s = (r, s')) : Surface s' := by
  obtain ⟨floor, rfl | ⟨payload, now, out, hstage⟩⟩ := exec_stage h
  · exact hs.atFloor floor
  · exact (hs.atFloor floor).stageContract (toList_prefix_append _ _) hstage

theorem surface_recordCarriage {route : CoordRoute} {carriage : Carriage}
    {r : Except Problem DispatchRecord} (hs : Surface s)
    (h : exec (recordCarriage route record carriage wall) s = (r, s')) : Surface s' := by
  obtain ⟨floor, rfl | ⟨event, now, row, hegress⟩⟩ := exec_recordCarriage h
  · exact hs.atFloor floor
  · exact (hs.atFloor floor).egress hegress

/-! ## What a dispatch goes on to carry -/

theorem carry_of_dispatchStaged {replayed : Bool}
    (h : dispatchStaged stageRef receiptId executionKey dispatchReceipt event now s = .ok (out, s'))
    (hnext : out.next = .ok (.carry record replayed)) :
    record.executionKey = executionKey ∧ record.stageRef = stageRef ∧
      record.receiptId = receiptId ∧ s'.KeyCommitted executionKey record.committed := by
  cases out with
  | dispatched burn =>
    obtain ⟨rfl, -⟩ : burn.intoRecord = record ∧ false = replayed := by
      simpa [DispatchOutcome.next] using hnext
    obtain ⟨href, hid, hkey⟩ := keyCommitted_of_dispatched h
    refine ⟨?_, href, hid, hkey⟩
    obtain ⟨d, hd, hburn⟩ := hkey
    have hkey' : d.executionKey = executionKey := by simpa using pred_of_find hd
    rw [← hkey', ← hburn]
    rfl
  | alreadyDispatched existing =>
    obtain ⟨d, hd, rfl, hout⟩ | ⟨_, _, _, hout | hout⟩ | ⟨_, _, _, _, _, _, _, _, hout, _⟩ :=
      dispatchStaged_cases h
    · split at hout
      case isTrue hsame =>
        obtain rfl := DispatchOutcome.alreadyDispatched.inj hout
        have hrec : existing = record := by
          simp only [DispatchOutcome.next, Except.ok.injEq] at hnext
          split at hnext
          · exact (Next.carry.inj hnext).1
          · cases hnext
        subst hrec
        exact ⟨by simpa using pred_of_find hd, hsame.1, hsame.2, existing, hd, rfl⟩
      case isFalse => cases hout
    · cases hout
    · cases hout
    · cases hout
  | consentSpent => cases hnext
  | consentUnknown => cases hnext
  | executionKeyConflict existing => cases hnext

/-! ## One receipt, one dispatch, one message id -/

theorem Surface.consent_eq_of_digest (hs : Surface s) {c' : ConsentRow} (hc : c ∈ s.coordConsents)
    (hc' : c' ∈ s.coordConsents) (h : c.stagedDigest = c'.stagedDigest) : c = c' := by
  obtain ⟨r, hr, href, hdig⟩ := hs.staged_of_consent c hc
  obtain ⟨r', hr', href', hdig'⟩ := hs.staged_of_consent c' hc'
  have hrow : r = r' :=
    s.coordStaged.eq_of_clash hr hr' (.inr (hdig.trans (h.trans hdig'.symm)))
  refine hs.consent_unique c hc c' hc' ?_
  rw [← href, ← href', hrow]

theorem Surface.dispatch_eq (hs : Surface s) {d' : DispatchRecord} (hd : d ∈ s.coordDispatches)
    (hd' : d' ∈ s.coordDispatches)
    (h : d.stagedDigest = d'.stagedDigest ∨ d.stageRef = d'.stageRef) : d = d' := by
  obtain ⟨c, hc, hid, href, hdig⟩ := hs.consent_of_dispatch d hd
  obtain ⟨c', hc', hid', href', hdig'⟩ := hs.consent_of_dispatch d' hd'
  have hcc : c = c' := by
    rcases h with h | h
    · exact hs.consent_eq_of_digest hc hc' (hdig.trans (h.trans hdig'.symm))
    · exact hs.consent_unique c hc c' hc' (href.trans (h.trans href'.symm))
  subst hcc
  exact s.coordDispatches.eq_of_clash hd hd' (.inr (.inl (hid.symm.trans hid')))

theorem Surface.stageRef_of_dispatch (hs : Surface s) (hd : d ∈ s.coordDispatches) :
    "stage-".toList <+: d.stageRef.toList := by
  obtain ⟨c, hc, -, href, -⟩ := hs.consent_of_dispatch d hd
  obtain ⟨r, hr, hrref, -⟩ := hs.staged_of_consent c hc
  rw [← href, ← hrref]
  exact hs.stage_ref r hr

theorem not_stage_and_dispatch (l : List Char) (h : "stage-".toList <+: l)
    (h' : "dispatch-".toList <+: l) : False := by
  obtain ⟨t, rfl⟩ := h
  obtain ⟨t', ht⟩ := h'
  have hhead : some 'd' = some 's' := congrArg List.head? ht
  exact absurd hhead (by decide)

theorem Surface.count_consents_le_one (hs : Surface s) (digest : String) :
    s.coordConsents.count (fun c => c.stagedDigest = digest) ≤ 1 := by
  refine count_le_one_of_clash (fun c hc c' hc' hp hp' => ?_)
  simp only [decide_eq_true_eq] at hp hp'
  rw [hs.consent_eq_of_digest hc hc' (hp.trans hp'.symm)]
  rfl

theorem Surface.count_dispatches_le_one (hs : Surface s) (digest : String) :
    s.coordDispatches.count (fun d => d.stagedDigest = digest) ≤ 1 := by
  refine count_le_one_of_clash (fun d hd d' hd' hp hp' => ?_)
  simp only [decide_eq_true_eq] at hp hp'
  rw [hs.dispatch_eq hd hd' (.inl (hp.trans hp'.symm))]
  exact .inl rfl

theorem Surface.count_candidates_le_one (hs : Surface s) (taskId : String) :
    s.coordDispatches.count (fun d => d.dispatchReceipt = taskId ∨ d.stageRef = taskId) ≤ 1 := by
  refine count_le_one_of_clash (fun d hd d' hd' hp hp' => ?_)
  simp only [decide_eq_true_eq] at hp hp'
  rcases hp with hp | hp
  · rcases hp' with hp' | hp'
    · exact .inr (.inr (hp.trans hp'.symm))
    · refine (not_stage_and_dispatch taskId.toList ?_ ?_).elim
      · rw [← hp']
        exact hs.stageRef_of_dispatch hd'
      · rw [← hp]
        exact hs.dispatch_receipt d hd
  · rcases hp' with hp' | hp'
    · refine (not_stage_and_dispatch taskId.toList ?_ ?_).elim
      · rw [← hp]
        exact hs.stageRef_of_dispatch hd
      · rw [← hp']
        exact hs.dispatch_receipt d' hd'
    · rw [hs.dispatch_eq hd hd' (.inr (hp.trans hp'.symm))]
      exact .inl rfl

end Akson
