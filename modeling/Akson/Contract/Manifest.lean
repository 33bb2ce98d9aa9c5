/-
# The input manifest

A contract names its inputs by the coordinates of a message part and by the digest of its bytes.
-/
import Akson.Contract.Contract

namespace Akson

open Except List

inductive PartBody where
  | text (s : String)
  | data (v : Json)

/-- An input, as the message carries it. -/
structure InputPart where
  messageId : String
  partIndex : ℕ
  mediaType : String
  body : PartBody

def PartBody.kind : PartBody → PartKind
  | .text _ => .text
  | .data _ => .data

def PartBody.rule : PartBody → CanonicalRule
  | .text _ => .utf8Exact
  | .data _ => .jcs

variable (env : Env)

def PartBody.bytes : PartBody → Bytes
  | .text s => utf8 s
  | .data v => Json.canonicalBytes env.fmtNum v

def InputEntry.coords (e : InputEntry) : String × ℕ := (e.messageId, e.partIndex)

def InputPart.coords (p : InputPart) : String × ℕ := (p.messageId, p.partIndex)

/-- Why the parts do not fit the manifest. -/
inductive BindError where
  | unmanifested (messageId : String) (partIndex : ℕ)
  | duplicatePart (messageId : String) (partIndex : ℕ)
  | multiplyReferenced (a b : String)
  | danglingEntry (id : String)
  | kindMismatch (id : String)
  | mediaTypeMismatch (id : String)
  | byteLengthMismatch (id : String)
  | digestMismatch (id : String)

def BindError.message : BindError → String
  | .unmanifested messageId partIndex =>
    s!"Part ({env.debugStr messageId}, {partIndex}) has no manifest entry"
  | .duplicatePart messageId partIndex =>
    s!"two Parts share coordinates ({env.debugStr messageId}, {partIndex})"
  | .multiplyReferenced a b =>
    s!"manifest entries {env.debugStr a} and {env.debugStr b} reference the same Part"
  | .danglingEntry id =>
    s!"manifest entry {env.debugStr id} references a Part that was not supplied"
  | .kindMismatch id => s!"manifest entry {env.debugStr id}: content kind does not match the Part"
  | .mediaTypeMismatch id =>
    s!"manifest entry {env.debugStr id}: media type does not match the Part"
  | .byteLengthMismatch id =>
    s!"manifest entry {env.debugStr id}: byte length does not match the Part"
  | .digestMismatch id =>
    s!"manifest entry {env.debugStr id}: SHA-256 digest does not match the Part"

def checkPart (entry : InputEntry) (part : InputPart) : Except BindError Unit := do
  ensure (part.body.kind = entry.kind) (.kindMismatch entry.id)
  ensure (entry.mediaType = part.mediaType) (.mediaTypeMismatch entry.id)
  ensure (part.body.rule = entry.canonicalRule) (.kindMismatch entry.id)
  let bytes := part.body.bytes env
  ensure (bytes.length = entry.byteLength) (.byteLengthMismatch entry.id)
  ensure (hex (env.sha256 bytes) = entry.sha256) (.digestMismatch entry.id)

def indexEntries (seen : List InputEntry) : List InputEntry → Except BindError Unit
  | [] => .ok ()
  | entry :: entries =>
    match seen.find? (fun prior => prior.coords = entry.coords) with
    | some prior => .error (.multiplyReferenced prior.id entry.id)
    | none => indexEntries (entry :: seen) entries

def bindParts (env : Env) (entries : List InputEntry) (seen : List (String × ℕ)) :
    List InputPart → Except BindError (List (String × ℕ))
  | [] => .ok seen
  | part :: parts => do
    ensure (part.coords ∉ seen) (.duplicatePart part.messageId part.partIndex)
    let entry ← okOr (entries.find? (fun entry => entry.coords = part.coords))
      (.unmanifested part.messageId part.partIndex)
    checkPart env entry part
    bindParts env entries (part.coords :: seen) parts

/-- Match the inputs with the entries. -/
def bindInputs (entries : List InputEntry) (parts : List InputPart) :
    Except BindError Unit := do
  indexEntries [] entries
  let seen ← bindParts env entries [] parts
  match entries.find? (fun entry => entry.coords ∉ seen) with
  | some entry => .error (.danglingEntry entry.id)
  | none => .ok ()

/-! ## What is accepted -/

/-- The part is what the entry says. -/
structure Binds (env : Env) (entry : InputEntry) (part : InputPart) : Prop where
  kind : part.body.kind = entry.kind
  mediaType : entry.mediaType = part.mediaType
  rule : part.body.rule = entry.canonicalRule
  byteLength : (part.body.bytes env).length = entry.byteLength
  sha256 : hex (env.sha256 (part.body.bytes env)) = entry.sha256

variable {env : Env} {u : Unit} {entries : List InputEntry} {parts : List InputPart}

theorem checkPart_eq_ok_iff {entry : InputEntry} {part : InputPart} :
    checkPart env entry part = .ok u ↔ Binds env entry part := by
  simp only [checkPart, bind_eq_ok, ensure_eq_ok, exists_const]
  constructor
  · rintro ⟨hkind, hmedia, hrule, hlength, hdigest⟩
    exact ⟨hkind, hmedia, hrule, hlength, hdigest⟩
  · intro h
    exact ⟨h.kind, h.mediaType, h.rule, h.byteLength, h.sha256⟩

theorem indexEntries_eq_ok_iff {seen : List InputEntry} : indexEntries seen entries = .ok u ↔
      (entries.map InputEntry.coords).Nodup ∧
        ∀ e ∈ entries, ∀ prior ∈ seen, prior.coords ≠ e.coords := by
  induction entries generalizing seen with
  | nil => simp [indexEntries]
  | cons entry entries ih =>
    rw [forall_mem_cons, map_cons, nodup_cons]
    unfold indexEntries
    split
    case h_1 prior hprior =>
      have hclash := find?_some hprior
      simp only [decide_eq_true_eq] at hclash
      simp only [reduceCtorEq, false_iff, not_and]
      rintro - hall
      exact absurd hclash (hall prior (mem_of_find?_eq_some hprior))
    case h_2 hnone =>
      rw [find?_eq_none] at hnone
      simp only [decide_eq_true_eq] at hnone
      rw [ih]
      constructor
      · rintro ⟨hnodup, hrest⟩
        refine ⟨⟨fun hmem => ?_, hnodup⟩, hnone, fun e he prior hp =>
          hrest e he prior (mem_cons_of_mem _ hp)⟩
        obtain ⟨e, he, hcoords⟩ := mem_map.1 hmem
        exact hrest e he entry mem_cons_self hcoords.symm
      · rintro ⟨⟨hfresh, hnodup⟩, -, hrest⟩
        refine ⟨hnodup, fun e he prior hp => ?_⟩
        rcases mem_cons.1 hp with rfl | hp
        · exact fun hcoords => hfresh (mem_map.2 ⟨e, he, hcoords.symm⟩)
        · exact hrest e he prior hp

theorem bindParts_eq_ok_iff {seen out : List (String × ℕ)} :
    bindParts env entries seen parts = .ok out ↔
      out = (parts.map InputPart.coords).reverse ++ seen ∧ (parts.map InputPart.coords).Nodup ∧
        ∀ p ∈ parts, p.coords ∉ seen ∧
          ∃ e, entries.find? (fun e => e.coords = p.coords) = some e ∧ Binds env e p := by
  induction parts generalizing seen with
  | nil => simp [bindParts, eq_comm]
  | cons part parts ih =>
    rw [forall_mem_cons, map_cons, nodup_cons, reverse_cons, append_assoc,
      singleton_append]
    simp only [bindParts, bind_eq_ok, ensure_eq_ok, okOr_eq_ok,
      checkPart_eq_ok_iff, ih, exists_const]
    constructor
    · rintro ⟨hfresh, entry, hentry, hbinds, hout, hnodup, hrest⟩
      refine ⟨hout, ⟨fun hmem => ?_, hnodup⟩, ⟨hfresh, entry, hentry, hbinds⟩, fun p hp =>
        ⟨fun hseen => (hrest p hp).1 (mem_cons_of_mem _ hseen), (hrest p hp).2⟩⟩
      obtain ⟨p, hp, hcoords⟩ := mem_map.1 hmem
      exact (hrest p hp).1 (hcoords ▸ mem_cons_self)
    · rintro ⟨hout, ⟨hnot, hnodup⟩, ⟨hfresh, entry, hentry, hbinds⟩, hrest⟩
      refine ⟨hfresh, entry, hentry, hbinds, hout, hnodup, fun p hp => ⟨?_, (hrest p hp).2⟩⟩
      rw [mem_cons, not_or]
      exact ⟨fun hcoords => hnot (mem_map.2 ⟨p, hp, hcoords⟩), (hrest p hp).1⟩

/-- Entries and parts match one to one. -/
structure Bound (env : Env) (entries : List InputEntry) (parts : List InputPart) : Prop where
  entries_nodup : (entries.map InputEntry.coords).Nodup
  parts_nodup : (parts.map InputPart.coords).Nodup
  binds : ∀ p ∈ parts, ∃ e, entries.find? (fun e => e.coords = p.coords) = some e ∧ Binds env e p
  covered : ∀ e ∈ entries, ∃ p ∈ parts, p.coords = e.coords

theorem bindInputs_eq_ok_iff : bindInputs env entries parts = .ok u ↔ Bound env entries parts := by
  simp only [bindInputs, bind_eq_ok, indexEntries_eq_ok_iff, bindParts_eq_ok_iff]
  constructor
  · rintro ⟨-, ⟨hentries, -⟩, seen, ⟨rfl, hparts, hall⟩, hlast⟩
    refine ⟨hentries, hparts, fun p hp => (hall p hp).2, fun e he => ?_⟩
    split at hlast
    case h_1 => cases hlast
    case h_2 hnone =>
      have hseen := find?_eq_none.1 hnone e he
      simp only [append_nil, mem_reverse, decide_eq_true_eq, not_not] at hseen
      exact mem_map.1 hseen
  · intro h
    refine ⟨(), ⟨h.entries_nodup, by simp⟩, _, ⟨rfl, h.parts_nodup, fun p hp =>
      ⟨not_mem_nil, h.binds p hp⟩⟩, ?_⟩
    split
    case h_1 entry hentry =>
      obtain ⟨p, hp, hcoords⟩ := h.covered entry (mem_of_find?_eq_some hentry)
      have hmissing := find?_some hentry
      simp only [append_nil, mem_reverse, decide_eq_true_eq] at hmissing
      exact absurd (mem_map.2 ⟨p, hp, hcoords⟩) hmissing
    case h_2 => rfl

theorem Bound.find_part (h : Bound env entries parts) {e : InputEntry} (he : e ∈ entries) :
    ∃ p, parts.find? (fun p => p.messageId = e.messageId ∧ p.partIndex = e.partIndex) = some p ∧
      Binds env e p := by
  obtain ⟨q, hq, hcoords⟩ := h.covered e he
  cases hfind : parts.find? (fun p => p.messageId = e.messageId ∧ p.partIndex = e.partIndex) with
  | none =>
    have hnot := find?_eq_none.1 hfind q hq
    exact absurd (Prod.mk.inj hcoords) (by simpa using hnot)
  | some p =>
    have hp : p.coords = e.coords := by
      have hfound := find?_some hfind
      simp only [decide_eq_true_eq] at hfound
      exact Prod.ext hfound.1 hfound.2
    obtain ⟨e', he', hbinds⟩ := h.binds p (mem_of_find?_eq_some hfind)
    have heq : e'.coords = e.coords := by
      have hcoords' := find?_some he'
      simp only [decide_eq_true_eq] at hcoords'
      exact hcoords'.trans hp
    rw [inj_on_of_nodup_map h.entries_nodup (mem_of_find?_eq_some he') he heq] at hbinds
    exact ⟨p, rfl, hbinds⟩

end Akson
