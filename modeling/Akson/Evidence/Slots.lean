/-
# Evidence slots

The slots a contract requires, checked against the records of a result: a slot that is missing, that
did not pass or that shows less than was asked for does not count as satisfied.
-/
import Akson.Evidence.ResultManifest

namespace Akson

open Except Option List

/-- What a slot has to show. -/
structure RequiredSlot where
  slotId : String
  requiredResult : SlotResult
  requireFullDisclosure : Bool
deriving DecidableEq

/-- Why the slots are refused. -/
inductive SlotError where
  | missing (slotId : String)
  | resultMismatch (slotId : String) (want got : SlotResult)
  | redacted (slotId : String) (got : Evidence.Disclosure)
  | missingEvidenceRole (slotId : String)
deriving DecidableEq

def SlotResult.debug : SlotResult → String
  | .passed => "Passed"
  | .failed => "Failed"
  | .error => "Error"
  | .notRun => "NotRun"
  | .unavailable => "Unavailable"

def Evidence.Disclosure.debug : Evidence.Disclosure → String
  | .full => "Full"
  | .summary => "Summary"
  | .redacted => "Redacted"

def SlotError.message (env : Env) : SlotError → String
  | .missing slotId => s!"required slot {env.debugStr slotId} is missing from the result manifest"
  | .resultMismatch slotId want got =>
    s!"required slot {env.debugStr slotId}: result is {got.debug}, contract requires {want.debug}"
  | .redacted slotId got =>
    s!"required slot {env.debugStr slotId} needs visible evidence but disclosure is {got.debug}"
  | .missingEvidenceRole slotId =>
    s!"slot {env.debugStr slotId} has a passed/failed/error result but no evidence_role"

def SlotResult.conclusive : SlotResult → Bool
  | .passed | .failed | .error => true
  | .notRun | .unavailable => false

def checkEvidenceRoles : List SlotRecord → Except SlotError Unit
  | [] => .ok ()
  | slot :: slots => do
    ensure (¬ (slot.result.conclusive = true ∧ slot.evidenceRole = none))
      (.missingEvidenceRole slot.slotId)
    checkEvidenceRoles slots

def RequiredSlot.check (provided : List SlotRecord) (req : RequiredSlot) : Except SlotError Unit := do
  let got ← okOr (provided.find? (fun s => s.slotId = req.slotId)) (.missing req.slotId)
  ensure (got.result = req.requiredResult)
    (.resultMismatch req.slotId req.requiredResult got.result)
  ensure (¬ (req.requireFullDisclosure = true ∧ got.disclosure ≠ .full))
    (.redacted req.slotId got.disclosure)

def checkRequired (provided : List SlotRecord) : List RequiredSlot → Except SlotError Unit
  | [] => .ok ()
  | req :: reqs => do
    req.check provided
    checkRequired provided reqs

/-- Check the slots that a contract requires. -/
def checkSlots (required : List RequiredSlot) (provided : List SlotRecord) : Except SlotError Unit := do
  checkEvidenceRoles provided
  checkRequired provided required

section Slots

variable {required : List RequiredSlot} {provided : List SlotRecord}

theorem checkEvidenceRoles_eq_ok_iff :
    checkEvidenceRoles provided = .ok () ↔
      ∀ slot ∈ provided, slot.result.conclusive = true → slot.evidenceRole ≠ none := by
  induction provided with
  | nil => simp [checkEvidenceRoles]
  | cons slot slots ih =>
    simp only [checkEvidenceRoles, bind_eq_ok, ensure_eq_ok, exists_const, ih,
      forall_mem_cons, not_and]

theorem checkRequired_eq_ok_iff :
    checkRequired provided required = .ok () ↔ ∀ req ∈ required, req.check provided = .ok () := by
  induction required with
  | nil => simp [checkRequired]
  | cons req reqs ih =>
    simp only [checkRequired, bind_eq_ok, Unique.exists_iff, PUnit.default_eq_unit, ih,
      forall_mem_cons]

theorem checkSlots_eq_ok_iff :
    checkSlots required provided = .ok () ↔
      (∀ slot ∈ provided, slot.result.conclusive = true → slot.evidenceRole ≠ none) ∧
      ∀ req ∈ required, ∃ got, provided.find? (fun s => s.slotId = req.slotId) = some got ∧
        got.result = req.requiredResult ∧
        (req.requireFullDisclosure = true → got.disclosure = .full) := by
  simp only [checkSlots, bind_eq_ok, Unique.exists_iff, PUnit.default_eq_unit,
    checkEvidenceRoles_eq_ok_iff, checkRequired_eq_ok_iff, RequiredSlot.check, okOr_eq_ok,
    ensure_eq_ok, not_and, not_not]

def SlotRecord.Meets (s : SlotRecord) (req : RequiredSlot) : Prop :=
  s.result = req.requiredResult ∧ (req.requireFullDisclosure = true → s.disclosure = .full)

def RolesNamed (provided : List SlotRecord) : Prop :=
  ∀ slot ∈ provided, slot.result.conclusive = true → slot.evidenceRole ≠ none

theorem checkSlots_eq_ok_iff_meets :
    checkSlots required provided = .ok () ↔
      RolesNamed provided ∧ ∀ req ∈ required, ∃ got,
        provided.find? (fun s => s.slotId = req.slotId) = some got ∧ got.Meets req :=
  checkSlots_eq_ok_iff

theorem mem_of_find_slot {id : String} {got : SlotRecord}
    (h : provided.find? (fun s => s.slotId = id) = some got) : got ∈ provided ∧ got.slotId = id :=
  ⟨mem_of_find?_eq_some h, by simpa using find?_some h⟩

theorem exists_find_slot {id : String} {s : SlotRecord} (hs : s ∈ provided) (hid : s.slotId = id) :
    ∃ got, provided.find? (fun s => s.slotId = id) = some got := by
  rw [← isSome_iff_exists, find?_isSome]
  exact ⟨s, hs, decide_eq_true hid⟩

theorem checkSlots_of_all_meet
    (h : ∀ req ∈ required, ∀ s ∈ provided, s.slotId = req.slotId → s.Meets req) :
    checkSlots required provided = .ok () ↔
      RolesNamed provided ∧ ∀ req ∈ required, ∃ s ∈ provided, s.slotId = req.slotId := by
  rw [checkSlots_eq_ok_iff_meets]
  refine and_congr_right (fun _ => forall₂_congr (fun req hreq => ?_))
  constructor
  · rintro ⟨got, hfind, -⟩
    exact ⟨got, mem_of_find_slot hfind⟩
  · rintro ⟨s, hs, hid⟩
    obtain ⟨got, hfind⟩ := exists_find_slot hs hid
    obtain ⟨hgot, hsame⟩ := mem_of_find_slot hfind
    exact ⟨got, hfind, h req hreq got hgot hsame⟩

theorem exists_perm_checkSlots_ok (hroles : RolesNamed provided)
    (h : ∀ req ∈ required, ∃ s ∈ provided, s.slotId = req.slotId ∧
      ∀ req' ∈ required, req'.slotId = s.slotId → s.Meets req') :
    ∃ provided', provided'.Perm provided ∧ checkSlots required provided' = .ok () := by
  classical
  let good : SlotRecord → Bool := fun s => ∀ req' ∈ required, req'.slotId = s.slotId → s.Meets req'
  have hperm := filter_append_perm good provided
  refine ⟨_, hperm, checkSlots_eq_ok_iff_meets.2 ⟨fun slot hslot => ?_, fun req hreq => ?_⟩⟩
  · exact hroles slot (hperm.mem_iff.1 hslot)
  · obtain ⟨s, hs, hid, hmeets⟩ := h req hreq
    have hfront : s ∈ provided.filter good := mem_filter.2 ⟨hs, decide_eq_true hmeets⟩
    obtain ⟨got, hfind⟩ := exists_find_slot hfront hid
    obtain ⟨hgot, hsame⟩ := mem_of_find_slot hfind
    refine ⟨got, by rw [find?_append, hfind, some_or], ?_⟩
    exact of_decide_eq_true (mem_filter.1 hgot).2 req hreq hsame.symm

theorem exists_perm_checkSlots_ne_ok {req : RequiredSlot} {s : SlotRecord} (hreq : req ∈ required)
    (hs : s ∈ provided) (hid : s.slotId = req.slotId) (hnot : ¬ s.Meets req) :
    ∃ provided', provided'.Perm provided ∧ checkSlots required provided' ≠ .ok () := by
  refine ⟨s :: provided.erase s, (perm_cons_erase hs).symm, fun hok => ?_⟩
  obtain ⟨got, hfind, hmeets⟩ := (checkSlots_eq_ok_iff_meets.1 hok).2 req hreq
  rw [find?_cons_of_pos (by exact decide_eq_true hid)] at hfind
  exact hnot (some.inj hfind ▸ hmeets)

/-- The verdict is the same for every order of the records, and no record of another result hides
behind one that passes, exactly if the records leave no choice: one of them lacks its evidence
role, or a required slot has no record that meets what is asked of it, or all the records of the
required slots do. -/
theorem checkSlots_order_free_iff (required : List RequiredSlot) (provided : List SlotRecord) :
    ((∀ provided', provided'.Perm provided →
        (checkSlots required provided' = .ok () ↔ checkSlots required provided = .ok ())) ∧
      (checkSlots required provided = .ok () → ∀ req ∈ required, ∀ s ∈ provided,
        s.slotId = req.slotId → s.result = req.requiredResult)) ↔
    ¬ RolesNamed provided ∨
      (∃ req ∈ required, ∀ s ∈ provided, s.slotId = req.slotId →
        ∃ req' ∈ required, req'.slotId = s.slotId ∧ ¬ s.Meets req') ∨
      ∀ req ∈ required, ∀ s ∈ provided, s.slotId = req.slotId → s.Meets req := by
  constructor
  · rintro ⟨hsame, -⟩
    by_contra hcontra
    push Not at hcontra
    obtain ⟨hroles, hgood, req, hreq, s, hs, hid, hnot⟩ := hcontra
    obtain ⟨front, hfront, hok⟩ := exists_perm_checkSlots_ok hroles hgood
    obtain ⟨back, hback, hrefused⟩ := exists_perm_checkSlots_ne_ok hreq hs hid hnot
    exact hrefused ((hsame back hback).2 ((hsame front hfront).1 hok))
  · have hmem : ∀ {provided' : List SlotRecord}, provided'.Perm provided →
        (RolesNamed provided' ↔ RolesNamed provided) :=
      fun hperm => forall_congr' (fun _ => imp_congr_left hperm.mem_iff)
    rintro (hroles | ⟨req, hreq, hno⟩ | hall)
    · have hrefused : ∀ provided', provided'.Perm provided → checkSlots required provided' ≠ .ok () :=
        fun provided' hperm hok => hroles ((hmem hperm).1 (checkSlots_eq_ok_iff_meets.1 hok).1)
      exact ⟨fun provided' hperm => iff_of_false (hrefused _ hperm) (hrefused _ (.refl _)),
        fun hok => absurd hok (hrefused _ (.refl _))⟩
    · have hrefused : ∀ provided', provided'.Perm provided → checkSlots required provided' ≠ .ok () := by
        intro provided' hperm hok
        obtain ⟨-, hmet⟩ := checkSlots_eq_ok_iff_meets.1 hok
        obtain ⟨got, hfind, -⟩ := hmet req hreq
        obtain ⟨hgot, hid⟩ := mem_of_find_slot hfind
        obtain ⟨req', hreq', hid', hnot⟩ := hno got (hperm.mem_iff.1 hgot) hid
        -- the other requirement looks at the same record
        obtain ⟨got', hfind', hmeets⟩ := hmet req' hreq'
        rw [hid', hid, hfind] at hfind'
        exact hnot (some.inj hfind' ▸ hmeets)
      exact ⟨fun provided' hperm => iff_of_false (hrefused _ hperm) (hrefused _ (.refl _)),
        fun hok => absurd hok (hrefused _ (.refl _))⟩
    · refine ⟨fun provided' hperm => ?_, fun _ req hreq s hs hid => (hall req hreq s hs hid).1⟩
      rw [checkSlots_of_all_meet hall, checkSlots_of_all_meet (fun req hreq s hs =>
        hall req hreq s (hperm.mem_iff.1 hs)), hmem hperm]
      refine and_congr_right (fun _ => forall₂_congr (fun req _ => exists_congr (fun s => ?_)))
      rw [hperm.mem_iff]

/-- A failing record behind a passing one of the same slot: the check passes, and the other order
is refused. -/
theorem checkSlots_hides_failure : ∃ (req : RequiredSlot) (passed failed : SlotRecord),
    failed.slotId = req.slotId ∧ failed.result ≠ req.requiredResult ∧
    checkSlots [req] [passed, failed] = .ok () ∧ checkSlots [req] [failed, passed] ≠ .ok () :=
  ⟨⟨"license-scan", .passed, false⟩, ⟨"license-scan", some "license", .passed, .full⟩,
    ⟨"license-scan", some "license", .failed, .full⟩, rfl, by decide, rfl, by decide⟩

end Slots

end Akson
