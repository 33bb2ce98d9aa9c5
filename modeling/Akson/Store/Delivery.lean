/-
# Idempotent delivery

A request is delivered at least once and processed once: a later sighting is answered from the
record of the first.
-/
import Akson.Store.Schema
import Akson.Lib.SortDedup
import Akson.Lib.Trace
import Mathlib.Data.Set.Function
import Mathlib.Data.String.Basic

namespace Akson

open Except Option List Table

variable {covered c : CoveredValues} {body response : Bytes} {taskId : Option String}
  {responseClass peer messageId : String} {now : Time} {prior : PriorSighting}

/-! ## The digest of a body -/

variable (env : Env)

def bodyDigest (body : Bytes) : String :=
  base64Encode .standard (env.sha256 body)

/-- Why a content digest is refused. -/
inductive DeliveryError where
  | missing
  | notSingle
  | algorithm
  | malformed
  | mismatch
deriving DecidableEq

def verifyContentDigest (header : String) (body : Bytes) :
    Except DeliveryError Unit := do
  let header := Text.trim header
  ensure (header ≠ "") .missing
  -- a comma separates several values
  ensure (',' ∉ header.toList) .notSingle
  let (alg, value) ← okOr (Text.splitOnce '=' header) .malformed
  ensure (Text.trim alg = "sha-256") .algorithm
  let inner ← okOr ((Text.dropFirst ':' (Text.trim value)).bind (Text.dropLast ':'))
    .malformed
  let got ← okOr (base64Decode .standard inner) .malformed
  ensure (got = env.sha256 body) .mismatch

/-! ## Covered values -/

/-- What the commitment to a request covers. -/
structure CoveredValues where
  peer : String
  messageId : String
  bodyDigest : String
  interfaceUrl : String
  tenant : Option String
  a2aVersion : String
  extensions : List String
  contentType : String
  httpMethod : String
deriving DecidableEq

namespace CoveredValues

def normalized (covered : CoveredValues) : CoveredValues :=
  { covered with extensions := covered.extensions.sortDedup }

def members (covered : CoveredValues) : List (String × Json) :=
  [("peer", .str covered.peer), ("message_id", .str covered.messageId),
    ("body_digest", .str covered.bodyDigest), ("interface_url", .str covered.interfaceUrl)] ++
  (match covered.tenant with
    | some tenant => [("tenant", .str tenant)]
    | none => []) ++
  [("a2a_version", .str covered.a2aVersion), ("extensions", .arr (covered.extensions.map .str)),
    ("content_type", .str covered.contentType), ("http_method", .str covered.httpMethod)]

def canonicalBytes (covered : CoveredValues) : Bytes :=
  Json.canonicalBytes env.fmtNum (.obj covered.members)

def commitment (key : Bytes) (covered : CoveredValues) : Bytes :=
  env.hmacSha256 key (covered.canonicalBytes env)

variable {c' : CoveredValues}

theorem normalized_eq (hrest : { c with extensions := [] } = { c' with extensions := [] })
    (hext : ∀ u, u ∈ c.extensions ↔ u ∈ c'.extensions) : c.normalized = c'.normalized := by
  have hsorted := sortDedup_eq_iff.2 hext
  simp only [CoveredValues.mk.injEq] at hrest
  simp only [normalized, CoveredValues.mk.injEq]
  exact ⟨hrest.1, hrest.2.1, hrest.2.2.1, hrest.2.2.2.1, hrest.2.2.2.2.1, hrest.2.2.2.2.2.1,
    hsorted, hrest.2.2.2.2.2.2.2.1, hrest.2.2.2.2.2.2.2.2⟩

theorem mem_members {k : String} {v : Json} :
    (k, v) ∈ c.members ↔
      (k = "peer" ∧ v = .str c.peer) ∨ (k = "message_id" ∧ v = .str c.messageId) ∨
      (k = "body_digest" ∧ v = .str c.bodyDigest) ∨
      (k = "interface_url" ∧ v = .str c.interfaceUrl) ∨
      (k = "tenant" ∧ ∃ tenant, c.tenant = some tenant ∧ v = .str tenant) ∨
      (k = "a2a_version" ∧ v = .str c.a2aVersion) ∨
      (k = "extensions" ∧ v = .arr (c.extensions.map .str)) ∨
      (k = "content_type" ∧ v = .str c.contentType) ∨
      (k = "http_method" ∧ v = .str c.httpMethod) := by
  cases htenant : c.tenant <;> simp [members, htenant]

theorem numsIn_members (c : CoveredValues) :
    Json.NumsIn (fun _ => False) (.obj c.members) := by
  refine Json.numsInMembers_iff.2 ?_
  rintro ⟨k, v⟩ hv
  have helems : ∀ l : List String, Json.NumsInElems (fun _ => False) (l.map .str) := by
    intro l
    induction l with
    | nil => trivial
    | cons s l ih => exact ⟨trivial, ih⟩
  rcases mem_members.1 hv with ⟨-, rfl⟩ | ⟨-, rfl⟩ | ⟨-, rfl⟩ | ⟨-, rfl⟩ | ⟨-, t, -, rfl⟩ | ⟨-, rfl⟩ |
    ⟨-, rfl⟩ | ⟨-, rfl⟩ | ⟨-, rfl⟩
  all_goals first | trivial | exact helems _

theorem canonicalBytes_inj {env : Env} (h : c.canonicalBytes env = c'.canonicalBytes env) :
    c = c' := by
  have hsort := Json.canonicalBytes_inj (Json.numText_false env.fmtNum) c.numsIn_members
    c'.numsIn_members h
  have hmem : ∀ k v, (k, v) ∈ c.members → ∃ w, (k, w) ∈ c'.members ∧
      Json.sortKeys v = Json.sortKeys w := fun k v => Json.exists_member_of_sortKeys_eq hsort
  have hstr : ∀ l : List String, Json.sortKeysElems (l.map .str) = l.map .str := by
    intro l
    rw [Json.sortKeysElems_eq_map, List.map_map]
    rfl
  have hmap : Function.Injective (List.map Json.str) :=
    map_injective_iff.2 (fun a b hab => Json.str.inj hab)
  have htenant : c.tenant = c'.tenant := by
    cases ht : c.tenant with
    | some tenant => simpa [mem_members, Json.sortKeys, ht, eq_comm] using hmem "tenant" (.str tenant)
    | none =>
      cases ht' : c'.tenant with
      | none => rfl
      | some tenant =>
        have hback := Json.exists_member_of_sortKeys_eq hsort.symm
          (mem_members.2 (.inr (.inr (.inr (.inr (.inl ⟨rfl, tenant, ht', rfl⟩))))))
        simp [mem_members, ht] at hback
  have hpeer := hmem "peer" (.str c.peer) (by simp [mem_members])
  have hid := hmem "message_id" (.str c.messageId) (by simp [mem_members])
  have hdigest := hmem "body_digest" (.str c.bodyDigest) (by simp [mem_members])
  have hurl := hmem "interface_url" (.str c.interfaceUrl) (by simp [mem_members])
  have hversion := hmem "a2a_version" (.str c.a2aVersion) (by simp [mem_members])
  have hext := hmem "extensions" (.arr (c.extensions.map .str)) (by simp [mem_members])
  have htype := hmem "content_type" (.str c.contentType) (by simp [mem_members])
  have hmethod := hmem "http_method" (.str c.httpMethod) (by simp [mem_members])
  simp [mem_members, Json.sortKeys, hstr, hmap.eq_iff] at hpeer hid hdigest hurl hversion hext htype hmethod
  cases c
  cases c'
  simp_all

end CoveredValues

/-! ## The record of a request -/

/-- The verdict on a sighting. -/
inductive Receipt where
  | fresh
  | duplicate (taskId : Option String) (response : Bytes) (responseClass : String)
  | conflict
deriving DecidableEq

/-- What is kept of the first sighting. -/
structure PriorSighting where
  commitment : Bytes
  taskId : Option String
  response : Bytes
  responseClass : String

def InboxRow.sighting (r : InboxRow) : PriorSighting :=
  ⟨r.commitment, r.taskId, r.response, r.responseClass⟩

def TombstoneRow.sighting (r : TombstoneRow) : PriorSighting :=
  ⟨r.commitment, r.taskId, r.response, r.responseClass⟩

def InboxRow.hasKey (peer messageId : String) (r : InboxRow) : Bool :=
  r.peer = peer ∧ r.messageId = messageId

def TombstoneRow.hasKey (peer messageId : String) (r : TombstoneRow) : Bool :=
  r.peer = peer ∧ r.messageId = messageId

def Store.priorResponse (s : Store) (peer messageId : String) : Option PriorSighting :=
  match s.inboxObjects.find (InboxRow.hasKey peer messageId) with
  | some r => some r.sighting
  | none => (s.replayTombstones.find (TombstoneRow.hasKey peer messageId)).map TombstoneRow.sighting

def PriorSighting.decide (prior : PriorSighting) (commitment : Bytes) : Receipt :=
  if prior.commitment ≠ commitment then .conflict
  else .duplicate prior.taskId prior.response prior.responseClass

theorem PriorSighting.decide_ne_fresh (prior : PriorSighting) (commitment : Bytes) :
    prior.decide commitment ≠ .fresh := by
  rw [PriorSighting.decide]
  split <;> simp

/-- Record a sighting, or replay the first one. -/
def receiveRequest (key : Bytes) (covered : CoveredValues) (body response : Bytes)
    (taskId : Option String) (responseClass : String) (now : Time) (s : Store) :
    Except StoreError (Receipt × Store) :=
  let commitment := covered.commitment env key
  match s.priorResponse covered.peer covered.messageId with
  | some prior => .ok (prior.decide commitment, s)
  | none => do
    let inbox ← insertRow s.inboxObjects ⟨covered.peer, covered.messageId, commitment,
      covered.bodyDigest, taskId, responseClass, body, response, now⟩
    .ok (.fresh, { s with inboxObjects := inbox })

def peek (key : Bytes) (covered : CoveredValues) (s : Store) : Receipt :=
  match s.priorResponse covered.peer covered.messageId with
  | some prior => prior.decide (covered.commitment env key)
  | none => .fresh

def demoteToTombstone (peer messageId : String) (expiresAt : Time) (s : Store) :
    Except StoreError (Bool × Store) :=
  match s.inboxObjects.find (InboxRow.hasKey peer messageId) with
  | none => .ok (false, s)
  | some r => do
    let tombstones ← insertRow s.replayTombstones
      ⟨r.peer, r.messageId, r.commitment, r.taskId, r.responseClass, r.response, expiresAt⟩
    let inbox := s.inboxObjects.deleteWhere (InboxRow.hasKey peer messageId)
    .ok (true, { s with inboxObjects := inbox, replayTombstones := tombstones })

def Store.KeysApart (s : Store) : Prop :=
  ∀ r ∈ s.inboxObjects, ∀ t ∈ s.replayTombstones, ¬ (r.peer = t.peer ∧ r.messageId = t.messageId)

/-! ## What the operations do to the records -/

variable {r : InboxRow} {receipt : Receipt} {answer : Except StoreError Receipt}

theorem InboxRow.key_of_hasKey (h : r.hasKey peer messageId = true) :
    r.peer = peer ∧ r.messageId = messageId :=
  of_decide_eq_true h

theorem inboxKey_onKey (peer messageId : String) :
    Table.OnKey (InboxRow.hasKey peer messageId) := by
  intro a b ha hb
  have ha := InboxRow.key_of_hasKey ha
  have hb := InboxRow.key_of_hasKey hb
  exact ⟨ha.1.trans hb.1.symm, ha.2.trans hb.2.symm⟩

theorem tombstoneKey_onKey (peer messageId : String) :
    Table.OnKey (TombstoneRow.hasKey peer messageId) := by
  intro a b ha hb
  simp only [TombstoneRow.hasKey, decide_eq_true_eq] at ha hb
  exact ⟨ha.1.trans hb.1.symm, ha.2.trans hb.2.symm⟩

theorem priorResponse_of_inbox {s : Store} (h : r ∈ s.inboxObjects) :
    s.priorResponse r.peer r.messageId = some r.sighting := by
  have hfind : s.inboxObjects.find (InboxRow.hasKey r.peer r.messageId) = some r :=
    (find_eq_some_iff (inboxKey_onKey _ _)).2 ⟨h, by simp [InboxRow.hasKey]⟩
  rw [Store.priorResponse, hfind]

theorem priorResponse_eq_none_iff {s : Store} :
    s.priorResponse peer messageId = none ↔
      s.inboxObjects.find (InboxRow.hasKey peer messageId) = none ∧
        s.replayTombstones.find (TombstoneRow.hasKey peer messageId) = none := by
  unfold Store.priorResponse
  cases s.inboxObjects.find (InboxRow.hasKey peer messageId) <;> simp

/-- The store now answers with this sighting. -/
structure Records (s s' : Store) (peer messageId : String) (prior : PriorSighting) : Prop where
  apart : s'.KeysApart
  here : s'.priorResponse peer messageId = some prior
  elsewhere : ∀ peer' messageId', ¬ (peer' = peer ∧ messageId' = messageId) →
    s'.priorResponse peer' messageId' = s.priorResponse peer' messageId'

theorem receiveRequest_total (key : Bytes) (covered : CoveredValues)
    (body response : Bytes) (taskId : Option String) (responseClass : String) (now : Time)
    {s : Store} (h : s.priorResponse covered.peer covered.messageId = none) :
    ∃ s', receiveRequest env key covered body response taskId responseClass now s =
      .ok (.fresh, s') := by
  obtain ⟨inbox, hins⟩ := insert_of_find_eq_none
    (r := (⟨covered.peer, covered.messageId, covered.commitment env key, covered.bodyDigest, taskId,
      responseClass, body, response, now⟩ : InboxRow))
    (fun a ha => decide_eq_true (show a.peer = _ ∧ a.messageId = _ from ha))
    (priorResponse_eq_none_iff.1 h).1
  refine ⟨{ s with inboxObjects := inbox }, ?_⟩
  simp only [receiveRequest, h, insertRow, hins]
  rfl

theorem receiveRequest_inserts {env : Env} {key : Bytes} {s s' : Store}
    (hnone : s.priorResponse covered.peer covered.messageId = none)
    (h : receiveRequest env key covered body response taskId responseClass now s =
      .ok (receipt, s')) : receipt = .fresh ∧ ∃ inbox, s' = { s with inboxObjects := inbox } ∧
      s.inboxObjects.insert ⟨covered.peer, covered.messageId, covered.commitment env key,
        covered.bodyDigest, taskId, responseClass, body, response, now⟩ = some inbox := by
  simp only [receiveRequest, hnone, bind_eq_ok, insertRow_eq_ok] at h
  obtain ⟨inbox, hins, hout⟩ := h
  cases hout
  exact ⟨rfl, inbox, rfl, hins⟩

theorem priorResponse_receiveRequest {env : Env} {key : Bytes} {s s' : Store}
    (hnone : s.priorResponse covered.peer covered.messageId = none)
    (h : receiveRequest env key covered body response taskId responseClass now s =
      .ok (receipt, s')) : s'.priorResponse covered.peer covered.messageId =
      some ⟨covered.commitment env key, taskId, response, responseClass⟩ := by
  obtain ⟨-, inbox, rfl, hins⟩ := receiveRequest_inserts hnone h
  exact priorResponse_of_inbox (s := { s with inboxObjects := inbox })
    ((mem_insert hins).2 (.inr rfl))

theorem receiveRequest_of_none (key : Bytes)
    (body response : Bytes) (taskId : Option String) (responseClass : String) (now : Time)
    {s : Store} (hs : s.KeysApart) (h : s.priorResponse covered.peer covered.messageId = none) :
    ∃ s', receiveRequest env key covered body response taskId responseClass now s =
        .ok (.fresh, s') ∧
      Records s s' covered.peer covered.messageId
        ⟨covered.commitment env key, taskId, response, responseClass⟩ := by
  obtain ⟨s', hok⟩ := receiveRequest_total env key covered body response taskId responseClass now h
  obtain ⟨-, inbox, rfl, hins⟩ := receiveRequest_inserts h hok
  refine ⟨_, hok, ?_, priorResponse_receiveRequest h hok, ?_⟩
  · intro r hr t ht
    rcases (mem_insert hins).1 hr with hr | rfl
    · exact hs r hr t ht
    · have hnot := of_decide_eq_false
        (find_eq_none_iff.1 (priorResponse_eq_none_iff.1 h).2 t ht)
      exact fun ⟨hpeer, hid⟩ => hnot ⟨hpeer.symm, hid.symm⟩
  · intro peer' messageId' hne
    have hfind := find_insert_of_not hins (p := InboxRow.hasKey peer' messageId')
      (decide_eq_false (fun ⟨hpeer, hid⟩ => hne ⟨hpeer.symm, hid.symm⟩))
    simp only [Store.priorResponse, hfind]

theorem receiveRequest_of_some {env : Env} {key : Bytes} {s : Store}
    (h : s.priorResponse covered.peer covered.messageId = some prior) :
    receiveRequest env key covered body response taskId responseClass now s =
      .ok (prior.decide (covered.commitment env key), s) := by
  simp only [receiveRequest, h]

theorem demoteToTombstone_spec {s : Store} (hs : s.KeysApart) (peer messageId : String)
    (expiresAt : Time) :
    ∃ moved s', demoteToTombstone peer messageId expiresAt s = .ok (moved, s') ∧ s'.KeysApart ∧
      s'.priorResponse = s.priorResponse := by
  cases hfind : s.inboxObjects.find (InboxRow.hasKey peer messageId) with
  | none => exact ⟨false, s, by simp only [demoteToTombstone, hfind], hs, rfl⟩
  | some r =>
    have hr := mem_of_find hfind
    obtain ⟨rfl, rfl⟩ := InboxRow.key_of_hasKey (pred_of_find hfind)
    have htomb : s.replayTombstones.find (TombstoneRow.hasKey r.peer r.messageId) = none := by
      refine find_eq_none_iff.2 (fun t ht => ?_)
      exact decide_eq_false (fun ⟨hpeer, hid⟩ => hs r hr t ht ⟨hpeer.symm, hid.symm⟩)
    obtain ⟨tombstones, hins⟩ := insert_of_find_eq_none
      (r := (⟨r.peer, r.messageId, r.commitment, r.taskId, r.responseClass, r.response,
        expiresAt⟩ : TombstoneRow))
      (fun a ha => decide_eq_true (show a.peer = _ ∧ a.messageId = _ from ha)) htomb
    refine ⟨true, _, by simp only [demoteToTombstone, hfind, insertRow, hins]; rfl, ?_, ?_⟩
    · intro a ha t ht
      rw [mem_deleteWhere] at ha
      rcases (mem_insert hins).1 ht with ht | rfl
      · exact hs a ha.1 t ht
      · exact of_decide_eq_false ha.2
    · funext peer' messageId'
      by_cases hsame : peer' = r.peer ∧ messageId' = r.messageId
      · obtain ⟨rfl, rfl⟩ := hsame
        -- the row is gone, and its tombstone answers in its place
        have hgone := find_deleteWhere_self (InboxRow.hasKey r.peer r.messageId) s.inboxObjects
        have hnew := (find_eq_some_iff (tombstoneKey_onKey r.peer r.messageId)).2
          ⟨(mem_insert hins).2 (.inr rfl), by simp [TombstoneRow.hasKey]⟩
        simp only [Store.priorResponse, hgone, hnew, hfind, map_some]
        rfl
      · have hinbox := find_deleteWhere_of_not (p := InboxRow.hasKey r.peer r.messageId)
          (q := InboxRow.hasKey peer' messageId') (fun a ha => decide_eq_false (fun hr => hsame
            ⟨(InboxRow.key_of_hasKey ha).1.symm.trans hr.1,
              (InboxRow.key_of_hasKey ha).2.symm.trans hr.2⟩))
          s.inboxObjects
        have htombs := find_insert_of_not hins (p := TombstoneRow.hasKey peer' messageId')
          (decide_eq_false (fun ⟨hpeer, hid⟩ => hsame ⟨hpeer.symm, hid.symm⟩))
        simp only [Store.priorResponse, hinbox, htombs]

theorem receiveRequest_cases {env : Env} {key : Bytes} {s s' : Store} (hs : s.KeysApart)
    (h : transact (receiveRequest env key covered body response taskId responseClass now) s =
      (answer, s')) : (∃ prior, s.priorResponse covered.peer covered.messageId = some prior ∧
      answer = .ok (prior.decide (covered.commitment env key)) ∧ s' = s) ∨
    (s.priorResponse covered.peer covered.messageId = none ∧ answer = .ok .fresh ∧
      Records s s' covered.peer covered.messageId
        ⟨covered.commitment env key, taskId, response, responseClass⟩) := by
  cases hprior : s.priorResponse covered.peer covered.messageId with
  | some prior =>
    simp only [transact, receiveRequest_of_some hprior, Prod.mk.injEq] at h
    exact .inl ⟨prior, rfl, h.1.symm, h.2.symm⟩
  | none =>
    obtain ⟨s₁, hok, hrec⟩ :=
      receiveRequest_of_none env key body response taskId responseClass now hs hprior
    simp only [transact, hok, Prod.mk.injEq] at h
    obtain ⟨ha, rfl⟩ := h
    exact .inr ⟨rfl, ha.symm, hrec⟩

/-! ## Runs -/

/-- The operations on deliveries, with their answers. -/
inductive DeliveryEvent where
  | receive (covered : CoveredValues) (body response : Bytes) (taskId : Option String)
      (responseClass : String) (now : Time) (answer : Except StoreError Receipt)
  | peek (covered : CoveredValues) (answer : Receipt)
  | demote (peer messageId : String) (expiresAt : Time) (answer : Except StoreError Bool)

namespace DeliveryEvent

def asked : DeliveryEvent → Option (CoveredValues × Except StoreError Receipt)
  | .receive covered _ _ _ _ _ answer => some (covered, answer)
  | .peek covered answer => some (covered, .ok answer)
  | .demote _ _ _ _ => none

def freshFor (peer messageId : String) : DeliveryEvent → Bool
  | .receive covered _ _ _ _ _ (.ok .fresh) =>
    covered.peer = peer ∧ covered.messageId = messageId
  | _ => false

end DeliveryEvent

def DeliveryStep (key : Bytes) (s : Store) : DeliveryEvent → Store → Prop
  | .receive covered body response taskId responseClass now answer, s' =>
    transact (receiveRequest env key covered body response taskId responseClass now) s =
      (answer, s')
  | .peek covered answer, s' => peek env key covered s = answer ∧ s' = s
  | .demote peer messageId expiresAt answer, s' =>
    transact (demoteToTombstone peer messageId expiresAt) s = (answer, s')

section Runs

variable {env : Env} {key : Bytes} {s s' : Store} {e : DeliveryEvent}

theorem deliveryStep_keeps (hs : s.KeysApart) (h : DeliveryStep env key s e s') :
    s'.KeysApart ∧ ∀ peer messageId prior, s.priorResponse peer messageId = some prior →
      s'.priorResponse peer messageId = some prior := by
  cases e with
  | receive covered body response taskId responseClass now answer =>
    obtain ⟨_, -, -, rfl⟩ | ⟨hnone, -, hrec⟩ := receiveRequest_cases hs h
    · exact ⟨hs, fun _ _ _ hprior => hprior⟩
    · refine ⟨hrec.apart, fun peer messageId prior hprior => ?_⟩
      rw [hrec.elsewhere, hprior]
      rintro ⟨rfl, rfl⟩
      rw [hnone] at hprior
      cases hprior
  | peek covered answer =>
    obtain ⟨-, rfl⟩ := h
    exact ⟨hs, fun _ _ _ hprior => hprior⟩
  | demote peer messageId expiresAt answer =>
    obtain ⟨moved, s₁, hok, hs₁, hsame⟩ := demoteToTombstone_spec hs peer messageId expiresAt
    simp only [DeliveryStep, transact, hok, Prod.mk.injEq] at h
    obtain ⟨-, rfl⟩ := h
    exact ⟨hs₁, fun _ _ _ hprior => hsame ▸ hprior⟩

theorem deliveryStep_answer (hs : s.KeysApart) (h : DeliveryStep env key s e s')
    (hprior : s.priorResponse covered.peer covered.messageId = some prior)
    (hasked : e.asked = some (covered, answer)) :
    answer = .ok (prior.decide (covered.commitment env key)) := by
  cases e with
  | receive covered' body response taskId responseClass now answer' =>
    simp only [DeliveryEvent.asked, some.injEq, Prod.mk.injEq] at hasked
    obtain ⟨rfl, rfl⟩ := hasked
    obtain ⟨prior', hprior', ha, -⟩ | ⟨hnone, -⟩ := receiveRequest_cases hs h
    · rw [hprior] at hprior'
      rw [ha, some.inj hprior']
    · rw [hprior] at hnone
      cases hnone
  | peek covered' answer' =>
    simp only [DeliveryEvent.asked, some.injEq, Prod.mk.injEq] at hasked
    obtain ⟨rfl, rfl⟩ := hasked
    rw [← h.1, peek, hprior]
  | demote peer messageId expiresAt answer' => cases hasked

theorem deliveryStep_fresh (hs : s.KeysApart) (h : DeliveryStep env key s
      (.receive covered body response taskId responseClass now (.ok .fresh)) s') :
    s'.priorResponse covered.peer covered.messageId =
      some ⟨covered.commitment env key, taskId, response, responseClass⟩ := by
  obtain ⟨prior, -, ha, -⟩ | ⟨-, -, hrec⟩ := receiveRequest_cases hs h
  · exact absurd (ok.inj ha).symm (prior.decide_ne_fresh _)
  · exact hrec.here

theorem deliveryStep_not_fresh (hs : s.KeysApart) (h : DeliveryStep env key s e s')
    (hprior : s.priorResponse peer messageId = some prior) :
    e.freshFor peer messageId = false := by
  unfold DeliveryEvent.freshFor
  split
  case h_1 covered body response taskId responseClass now =>
    refine decide_eq_false ?_
    rintro ⟨rfl, rfl⟩
    have hanswer := deliveryStep_answer hs h hprior rfl
    exact prior.decide_ne_fresh _ (ok.inj hanswer).symm
  case h_2 => rfl

theorem exists_prior_of_freshFor (hs : s.KeysApart) (h : DeliveryStep env key s e s')
    (hfresh : e.freshFor peer messageId = true) :
    ∃ prior, s'.priorResponse peer messageId = some prior := by
  unfold DeliveryEvent.freshFor at hfresh
  split at hfresh
  case h_1 covered body response taskId responseClass now =>
    obtain ⟨rfl, rfl⟩ := of_decide_eq_true hfresh
    exact ⟨_, deliveryStep_fresh hs h⟩
  case h_2 => cases hfresh

theorem answers_after_fresh {rest : List DeliveryEvent} (hs : s.KeysApart)
    (hprior : s.priorResponse c.peer c.messageId = some prior)
    (hrun : Trace (DeliveryStep env key) s rest s') :
    ∀ e ∈ rest, ∀ c' answer, e.asked = some (c', answer) → c'.peer = c.peer →
      c'.messageId = c.messageId → answer = .ok (prior.decide (c'.commitment env key)) := by
  refine hrun.forall_mem_of_stable (I := Store.KeysApart)
    (P := fun s => s.priorResponse c.peer c.messageId = some prior)
    (fun _ _ _ hs h => (deliveryStep_keeps hs h).1)
    (fun _ _ _ hs hp h => (deliveryStep_keeps hs h).2 _ _ _ hp) ?_ hs hprior
  intro s e s' hs hp h c' answer hasked hpeer hid
  exact deliveryStep_answer hs h (hpeer ▸ hid ▸ hp) hasked

/-- **Every message id has one first sighting, and it answers all later ones.**  In every run of
calls, a message id is recorded at most once; from then on the answer is the recorded one exactly
for the same covered values, and a conflict for others; requests that differ in the order or
repetition of extensions are the same; and no message id is ever in both tables. -/
theorem first_sighting_answers_replays (env : Env) (key : Bytes) {s s' : Store}
    {es : List DeliveryEvent} (hs : s.KeysApart) (hrun : Trace (DeliveryStep env key) s es s')
    (hcf : Set.InjOn (env.hmacSha256 key)
      {b | ∃ e ∈ es, ∃ c answer, e.asked = some (c, answer) ∧ b = c.canonicalBytes env}) :
    (∀ peer messageId, es.countP (DeliveryEvent.freshFor peer messageId) ≤ 1) ∧
    (∀ before after c body response taskId responseClass now,
      es = before ++
        .receive c body response taskId responseClass now (.ok .fresh) :: after →
      ∀ e ∈ after, ∀ c' answer, e.asked = some (c', answer) → c'.peer = c.peer →
        c'.messageId = c.messageId →
        (c' = c → answer = .ok (.duplicate taskId response responseClass)) ∧
        (c' ≠ c → answer = .ok .conflict)) ∧
    (∀ c c' : CoveredValues, { c with extensions := [] } = { c' with extensions := [] } →
      (∀ u, u ∈ c.extensions ↔ u ∈ c'.extensions) → c.normalized = c'.normalized) ∧
    s'.KeysApart := by
  refine ⟨fun peer messageId => ?_, ?_, fun c c' => CoveredValues.normalized_eq,
    hrun.invariant (fun _ _ _ hs h => (deliveryStep_keeps hs h).1) hs⟩
  · refine hrun.countP_le_one (I := Store.KeysApart)
      (P := fun s => ∃ prior, s.priorResponse peer messageId = some prior)
      (fun _ _ _ hs h => (deliveryStep_keeps hs h).1) ?_
      (fun _ _ _ hs h hfresh => exists_prior_of_freshFor hs h hfresh) ?_ hs
    · rintro s e s' hs ⟨prior, hp⟩ h
      exact ⟨prior, (deliveryStep_keeps hs h).2 _ _ _ hp⟩
    · rintro s e s' hs ⟨prior, hp⟩ h
      exact deliveryStep_not_fresh hs h hp
  · rintro before after c body response taskId responseClass now rfl e he c' answer hasked hpeer hid
    obtain ⟨s₁, hfirst, hrest⟩ := Trace.append_iff.1 hrun
    obtain ⟨s₂, hstep, hafter⟩ := Trace.cons_iff.1 hrest
    have hs₁ : s₁.KeysApart := hfirst.invariant (fun _ _ _ hs h => (deliveryStep_keeps hs h).1) hs
    have hanswer := answers_after_fresh (deliveryStep_keeps hs₁ hstep).1
      (deliveryStep_fresh hs₁ hstep) hafter e he c' answer hasked hpeer hid
    rw [hanswer, PriorSighting.decide]
    constructor
    · rintro rfl
      rw [if_neg (by simp)]
    · intro hne
      -- other covered values have other canonical bytes, so another commitment
      rw [if_pos]
      intro hcommit
      refine hne (CoveredValues.canonicalBytes_inj (hcf ?_ ?_ hcommit)).symm
      · exact ⟨_, mem_append_right _ mem_cons_self, c, _, rfl, rfl⟩
      · exact ⟨e, by simp [he], c', answer, hasked, rfl⟩

end Runs

/-! ## One message id, seen four times -/

def sampleCovered : CoveredValues where
  peer := "agent-b"
  messageId := "m1"
  bodyDigest := "Iw2DWNyOiJC0xY3utikS7i8gNXrpKlzIYbmOaP4xrLU="
  interfaceUrl := "https://agent.example/a2a"
  tenant := none
  a2aVersion := "1.0"
  extensions := []
  contentType := "application/a2a+json"
  httpMethod := "POST"

def changedCovered : CoveredValues :=
  { sampleCovered with bodyDigest := "nW+WWsgy5Apd9sBq/pg+O0ScB7hD/1HOdiBN4FxpDRE=" }

def sampleKey : Bytes := List.replicate 32 7

def sampleHmac (b : Bytes) : Bytes :=
  if b = sampleCovered.canonicalBytes Env.inert then
    beBytes 32 0xb50ada48de5b75d10d673ff757867121856d9e4add469ec66e137b1bb5506dda
  else if b = changedCovered.canonicalBytes Env.inert then
    beBytes 32 0x193df8d3e61d07b5c943e6a76664c9fab03367827e55501fc4ede0a54b8c8088
  else []

def deliveryEnv : Env := { Env.inert with hmacSha256 := fun _ => sampleHmac }

theorem commitment_deliveryEnv (c : CoveredValues) :
    c.commitment deliveryEnv sampleKey = sampleHmac (c.canonicalBytes Env.inert) := rfl

theorem sampleHmac_ne :
    sampleHmac (sampleCovered.canonicalBytes Env.inert) ≠
      sampleHmac (changedCovered.canonicalBytes Env.inert) := by
  have hne : changedCovered.canonicalBytes Env.inert ≠ sampleCovered.canonicalBytes Env.inert :=
    fun h => absurd (CoveredValues.canonicalBytes_inj h) (by decide)
  rw [sampleHmac, sampleHmac, if_pos rfl, if_neg hne, if_pos rfl]
  decide

def sampleEvents (moved : Bool) : List DeliveryEvent :=
  [.receive sampleCovered [98] [82] (some "task-9") "task" 100 (.ok .fresh),
    .demote "agent-b" "m1" 9999 (.ok moved),
    .peek sampleCovered (.duplicate (some "task-9") [82] "task"),
    .receive changedCovered [100] [82] none "task" 201 (.ok .conflict)]

theorem keysApart_new : ({} : Store).KeysApart := by
  intro r hr
  exact absurd hr (not_mem_empty r)

theorem exists_sample_run :
    ∃ moved s', Trace (DeliveryStep deliveryEnv sampleKey) {} (sampleEvents moved) s' := by
  obtain ⟨s₁, hfirst, hrec⟩ := receiveRequest_of_none deliveryEnv sampleKey [98] [82]
    (some "task-9") "task" 100 keysApart_new
    (show ({} : Store).priorResponse sampleCovered.peer sampleCovered.messageId = none from rfl)
  obtain ⟨moved, s₂, hdemote, -, hsame⟩ := demoteToTombstone_spec hrec.apart "agent-b" "m1" 9999
  have hprior := hrec.here
  rw [← hsame] at hprior
  have hchanged : sampleCovered.commitment deliveryEnv sampleKey ≠
      changedCovered.commitment deliveryEnv sampleKey := by
    rw [commitment_deliveryEnv, commitment_deliveryEnv]
    exact sampleHmac_ne
  refine ⟨moved, s₂, .cons (?_ : _ = (_, s₁)) (.cons (?_ : _ = (_, s₂)) (.cons ⟨?_, rfl⟩
    (.cons (?_ : _ = (_, s₂)) (.nil _))))⟩
  · rw [transact, hfirst]
  · rw [transact, hdemote]
  · simp only [peek, hprior, PriorSighting.decide, ne_eq, not_true_eq_false, if_false]
  · rw [transact, receiveRequest_of_some (show s₂.priorResponse changedCovered.peer
      changedCovered.messageId = _ from hprior)]
    simp only [PriorSighting.decide, ne_eq, hchanged, not_false_eq_true, if_true]

theorem injOn_sampleEvents (moved : Bool) :
    Set.InjOn (deliveryEnv.hmacSha256 sampleKey) {b | ∃ e ∈ sampleEvents moved, ∃ c answer,
      e.asked = some (c, answer) ∧ b = c.canonicalBytes deliveryEnv} := by
  refine (Set.injOn_pair.2 (fun h => absurd h sampleHmac_ne)).mono ?_
  rintro b ⟨e, he, c, answer, hasked, rfl⟩
  simp only [sampleEvents, mem_cons, not_mem_nil, or_false] at he
  rcases he with rfl | rfl | rfl | rfl
  all_goals cases hasked
  · exact .inl rfl
  · exact .inl rfl
  · exact .inr rfl

theorem first_sighting_answers_replays_sample :
    ∃ moved s', Trace (DeliveryStep deliveryEnv sampleKey) {} (sampleEvents moved) s' ∧
      (sampleEvents moved).countP (DeliveryEvent.freshFor "agent-b" "m1") ≤ 1 ∧ s'.KeysApart := by
  obtain ⟨moved, s', hrun⟩ := exists_sample_run
  have h := first_sighting_answers_replays deliveryEnv sampleKey keysApart_new hrun
    (injOn_sampleEvents moved)
  exact ⟨moved, s', hrun, h.1 "agent-b" "m1", h.2.2.2⟩

end Akson
