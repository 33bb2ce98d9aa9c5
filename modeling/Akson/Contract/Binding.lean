/-
# The parts of a proposal and its manifest

The manifest names a part by the id of the message and the index of the part in it, and the
extraction keeps that index.
-/
import Mathlib.Data.Fintype.EquivFin
import Akson.Contract.Wire

namespace Akson

open Except Option List

/-! ## One entry for each part, one part for each entry -/

def SameCoords (entries : List InputEntry) (parts : List InputPart) (i : Fin entries.length)
    (j : Fin parts.length) : Prop :=
  (entries.get i).coords = (parts.get j).coords

/-- The entries and the parts at their coordinates, one to one. -/
def IsManifestMap (entries : List InputEntry) (parts : List InputPart)
    (f : Fin entries.length → Fin parts.length) : Prop :=
  Function.Bijective f ∧ ∀ i j, SameCoords entries parts i j ↔ f i = j

theorem nodup_map_iff_injective_get {α β : Type} {f : α → β} {l : List α} :
    (l.map f).Nodup ↔ Function.Injective (fun i => f (l.get i)) := by
  have hmap : l.map f = List.ofFn (f ∘ l.get) := by
    rw [← map_ofFn, ofFn_get]
  rw [hmap, nodup_ofFn]
  rfl

variable {env : Env} {entries : List InputEntry} {parts : List InputPart}

theorem Bound.exists_map (h : Bound env entries parts) :
    ∃ f, IsManifestMap entries parts f ∧ ∀ i, Binds env (entries.get i) (parts.get (f i)) := by
  have hentries := nodup_map_iff_injective_get.1 h.entries_nodup
  have hparts := nodup_map_iff_injective_get.1 h.parts_nodup
  have hplace (i : Fin entries.length) : ∃ j, SameCoords entries parts i j := by
    obtain ⟨p, hp, hcoords⟩ := h.covered _ (get_mem entries i)
    obtain ⟨j, rfl⟩ := mem_iff_get.1 hp
    exact ⟨j, hcoords.symm⟩
  choose f hf using hplace
  have hbinds (j : Fin parts.length) :
      ∃ i, SameCoords entries parts i j ∧ Binds env (entries.get i) (parts.get j) := by
    obtain ⟨e, hfind, hbinds⟩ := h.binds _ (get_mem parts j)
    obtain ⟨i, rfl⟩ := mem_iff_get.1 (mem_of_find?_eq_some hfind)
    have hcoords := find?_some hfind
    simp only [decide_eq_true_eq] at hcoords
    exact ⟨i, hcoords, hbinds⟩
  have hgraph (i : Fin entries.length) (j : Fin parts.length) :
      SameCoords entries parts i j ↔ f i = j := by
    constructor
    · intro hij
      exact hparts ((hf i).symm.trans hij)
    · rintro rfl
      exact hf i
  refine ⟨f, ⟨⟨?_, ?_⟩, hgraph⟩, ?_⟩
  · intro i k hik
    have hk := hf k
    rw [← hik] at hk
    exact hentries ((hf i).trans hk.symm)
  · intro j
    obtain ⟨i, hij, -⟩ := hbinds j
    exact ⟨i, (hgraph i j).1 hij⟩
  · intro i
    obtain ⟨k, hk, hbinds⟩ := hbinds (f i)
    rwa [hentries (hk.trans (hf i).symm)] at hbinds

theorem Bound.of_map {f : Fin entries.length → Fin parts.length}
    (hf : IsManifestMap entries parts f)
    (hbinds : ∀ i, Binds env (entries.get i) (parts.get (f i))) : Bound env entries parts := by
  obtain ⟨⟨hinj, hsurj⟩, hgraph⟩ := hf
  refine ⟨?_, ?_, ?_, ?_⟩
  · refine nodup_map_iff_injective_get.2 (fun i k hik => hinj ?_)
    have hi := (hgraph i (f i)).2 rfl
    exact ((hgraph k (f i)).1 (hik.symm.trans hi)).symm
  · refine nodup_map_iff_injective_get.2 (fun j k hjk => ?_)
    obtain ⟨i, rfl⟩ := hsurj j
    have hi := (hgraph i (f i)).2 rfl
    exact (hgraph i k).1 (hi.trans hjk)
  · intro p hp
    obtain ⟨j, rfl⟩ := mem_iff_get.1 hp
    obtain ⟨i, rfl⟩ := hsurj j
    have hi := (hgraph i (f i)).2 rfl
    cases hfind : entries.find? (fun e => e.coords = (parts.get (f i)).coords) with
    | none =>
      have hno := find?_eq_none.1 hfind _ (get_mem entries i)
      exact absurd (show (entries.get i).coords = _ from hi) (by simpa using hno)
    | some e =>
      -- the entry found at the coordinates is the one that the map pairs with the part
      obtain ⟨k, rfl⟩ := mem_iff_get.1 (mem_of_find?_eq_some hfind)
      have hk := find?_some hfind
      simp only [decide_eq_true_eq] at hk
      obtain rfl := hinj ((hgraph k (f i)).1 hk)
      exact ⟨_, rfl, hbinds k⟩
  · intro e he
    obtain ⟨i, rfl⟩ := mem_iff_get.1 he
    exact ⟨_, get_mem parts (f i), ((hgraph i (f i)).2 rfl).symm⟩

/-! ## The parts of the message -/

def Part.IsContract (p : Part) : Prop := p.mediaType = dsseEnvelopeMediaType

instance (p : Part) : Decidable p.IsContract := inferInstanceAs (Decidable (_ = _))

def PartBody.content : PartBody → Content
  | .text s => .text s
  | .data v => .data v

variable {messageId : String} {index : ℕ} {envelope out : Option Envelope} {part : Part}
  {rest : List Part} {inputs : List InputPart}

theorem extractParts_cons
    (h : extractParts messageId index envelope (part :: rest) = .ok (out, inputs)) :
    (part.IsContract ∧ envelope = none ∧ ∃ value found, part.content = some (.data value) ∧
      Envelope.ofJson value = some found ∧
      extractParts messageId (index + 1) (some found) rest = .ok (out, inputs)) ∨
    (¬ part.IsContract ∧ ∃ body others, part.content = some (PartBody.content body) ∧
      inputs = ⟨messageId, index, part.mediaType, body⟩ :: others ∧
      extractParts messageId (index + 1) envelope rest = .ok (out, others)) := by
  by_cases hcontract : part.IsContract
  · have hdecide : decide (part.mediaType = dsseEnvelopeMediaType) = true := decide_eq_true hcontract
    rw [extractParts, hdecide] at h
    refine .inl ⟨hcontract, ?_⟩
    cases hcontent : part.content with
    | none =>
      simp only [hcontent] at h
      cases h
    | some content =>
      cases content with
      | data value =>
        simp only [hcontent, bind_eq_ok, ensure_eq_ok, okOr_eq_ok,
          exists_const] at h
        obtain ⟨hnone, found, hfound, hrest⟩ := h
        exact ⟨hnone, value, found, rfl, hfound, hrest⟩
      | _ =>
        simp only [hcontent] at h
        cases h
  · have hdecide : decide (part.mediaType = dsseEnvelopeMediaType) = false := decide_eq_false hcontract
    rw [extractParts, hdecide] at h
    refine .inr ⟨hcontract, ?_⟩
    cases hcontent : part.content with
    | none =>
      simp only [hcontent] at h
      cases h
    | some content =>
      cases content with
      | text s =>
        simp only [hcontent, bind_eq_ok] at h
        obtain ⟨⟨found, others⟩, hrest, hout⟩ := h
        cases hout
        exact ⟨.text s, others, rfl, rfl, hrest⟩
      | data value =>
        simp only [hcontent, bind_eq_ok] at h
        obtain ⟨⟨found, others⟩, hrest, hout⟩ := h
        cases hout
        exact ⟨.data value, others, rfl, rfl, hrest⟩
      | _ =>
        simp only [hcontent] at h
        cases h

theorem extractParts_count (h : extractParts messageId index envelope rest = .ok (out, inputs)) :
    rest.countP (fun p => p.IsContract) + envelope.toList.length = out.toList.length := by
  induction rest generalizing index envelope inputs with
  | nil =>
    cases h
    rw [countP_nil, Nat.zero_add]
  | cons part rest ih =>
    rcases extractParts_cons h with ⟨hcontract, rfl, _, found, -, -, hrest⟩ |
      ⟨hinput, _, others, -, -, hrest⟩
    · have hcount := ih hrest
      rw [countP_cons, if_pos (decide_eq_true hcontract)]
      exact hcount
    · rw [countP_cons, if_neg (by simpa using hinput)]
      exact ih hrest

theorem extractParts_input (h : extractParts messageId index envelope rest = .ok (out, inputs))
    {n : ℕ} (hn : rest[n]? = some part) (hinput : ¬ part.IsContract) :
    ∃ body, part.content = some (PartBody.content body) ∧
      ⟨messageId, index + n, part.mediaType, body⟩ ∈ inputs := by
  induction rest generalizing index envelope inputs n with
  | nil => cases hn
  | cons first rest ih =>
    rcases extractParts_cons h with ⟨hcontract, -, _, _, -, -, hrest⟩ |
      ⟨-, body, others, hcontent, rfl, hrest⟩
    · cases n with
      | zero =>
        cases hn
        exact absurd hcontract hinput
      | succ n =>
        obtain ⟨body, hcontent, hmem⟩ := ih hrest hn
        rw [show index + 1 + n = index + (n + 1) from by omega] at hmem
        exact ⟨body, hcontent, hmem⟩
    · cases n with
      | zero =>
        cases hn
        exact ⟨body, hcontent, mem_cons_self⟩
      | succ n =>
        obtain ⟨body, hcontent, hmem⟩ := ih hrest hn
        rw [show index + 1 + n = index + (n + 1) from by omega] at hmem
        exact ⟨body, hcontent, mem_cons_of_mem _ hmem⟩

/-! ## What is received -/

theorem receiveProposal_extracted {proposalKey : PurposeVerifyingKey}
    {requesterOrigin localPerformer : Identity} {now : Time} {r : ReceivedProposal}
    (h : receiveProposal env messageId rest proposalKey requesterOrigin localPerformer now = .ok r) :
    ∃ found, extractParts messageId 0 none rest = .ok (some found, r.inputs) := by
  simp only [receiveProposal, extractProposal, bind_eq_ok, mapError_eq_ok,
    okOr_eq_ok] at h
  obtain ⟨_, ⟨⟨_, _⟩, hparts, found, rfl, hextracted⟩, _, -, -, -, -, -, _, -, -, -, hout⟩ := h
  cases hextracted
  cases hout
  exact ⟨found, hparts⟩

/-- **The manifest binds the parts one to one, and a received message holds nothing else.**

* Binding accepts exactly if the map from the entries to the parts by message id and part index is a
  bijection, and each part has the kind of its entry, with the rule of that kind, its media type, and
  the byte length and the digest of its canonical bytes.
* If a proposal is received, one part of the message is the contract's, every other part is the one
  that the one entry at its place says, the two identities are the expected ones, and the time is in
  the window, which opens a few seconds before the creation and ends at the expiry. -/
theorem manifest_binds_parts (env : Env) :
    (∀ entries parts, bindInputs env entries parts = .ok () ↔
      ∃ f, IsManifestMap entries parts f ∧ ∀ i, Binds env (entries.get i) (parts.get (f i))) ∧
    ∀ (messageId : String) (parts : List Part) (proposalKey : PurposeVerifyingKey)
      (requesterOrigin localPerformer : Identity) (now : Time) (r : ReceivedProposal),
      receiveProposal env messageId parts proposalKey requesterOrigin localPerformer now = .ok r →
        parts.countP (fun p => p.IsContract) = 1 ∧
        (∀ n part, parts[n]? = some part → ¬ part.IsContract → ∃ body e,
          part.content = some (PartBody.content body) ∧ e ∈ r.proposal.contract.inputs ∧
          e.coords = (messageId, n) ∧ Binds env e ⟨messageId, n, part.mediaType, body⟩ ∧
          ∀ e' ∈ r.proposal.contract.inputs, e'.coords = (messageId, n) → e' = e) ∧
        r.proposal.contract.requester = requesterOrigin ∧
        r.proposal.contract.performer = localPerformer ∧
        ∃ created expires,
          parseTimestamp env r.proposal.contract.createdAt "created_at" = .ok created ∧
          parseTimestamp env r.proposal.contract.expiresAt "expires_at" = .ok expires ∧
          created < expires ∧ created - notYetValidLeewaySecs ≤ now ∧ now < expires := by
  constructor
  · intro entries parts
    rw [bindInputs_eq_ok_iff]
    exact ⟨Bound.exists_map, fun ⟨_, hf, hbinds⟩ => Bound.of_map hf hbinds⟩
  · intro messageId parts proposalKey requesterOrigin localPerformer now r h
    have hadmitted := receiveProposal_eq_ok h
    have hbound := hadmitted.bound
    obtain ⟨found, hparts⟩ := receiveProposal_extracted h
    refine ⟨extractParts_count hparts, ?_, hadmitted.requester, hadmitted.performer,
      validity_eq_valid_iff.1 hadmitted.window⟩
    intro n part hn hinput
    obtain ⟨body, hcontent, hmem⟩ := extractParts_input hparts hn hinput
    rw [Nat.zero_add] at hmem
    obtain ⟨e, hfind, hbinds⟩ := hbound.binds _ hmem
    have he := mem_of_find?_eq_some hfind
    have hcoords := find?_some hfind
    rw [decide_eq_true_eq, InputPart.coords] at hcoords
    refine ⟨body, e, hcontent, he, hcoords, hbinds, ?_⟩
    intro e' he' hcoords'
    exact inj_on_of_nodup_map hbound.entries_nodup he' he (hcoords'.trans hcoords.symm)

/-- The two texts of the sample message are bound by the two entries of its manifest. -/
theorem manifest_binds_parts_repeated :
    receiveProposal repeatedWire.env "m1" repeatedWire.parts (wireKey.verifying repeatedWire.env)
      repeatedWire.contract.requester repeatedWire.contract.performer 1800000000 =
        .ok repeatedWire.received ∧
    repeatedWire.parts.countP (fun p => p.IsContract) = 1 := by
  have hreceive := repeatedWire.receive repeatedWire.extractProposal_eq repeatedWire_bound
    (repeatedWire.window rfl rfl)
  exact ⟨hreceive, ((manifest_binds_parts repeatedWire.env).2 _ _ _ _ _ _ _ hreceive).1⟩

end Akson
