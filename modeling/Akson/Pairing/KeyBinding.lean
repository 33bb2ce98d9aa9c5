/-
# Key bindings

The record that binds one verification key to each purpose.
-/
import Akson.Ext.Forms
import Akson.Pairing.Card

namespace Akson

open Except List Json

/-! ## Keys as JWKs -/

structure Ed25519PublicJwk where
  kty : String
  crv : String
  x : String

inductive JwkError where
  | unsupported
  | invalidX

namespace Ed25519PublicJwk

def fromKey (key : Bytes) : Ed25519PublicJwk :=
  ⟨"OKP", "Ed25519", base64Encode .urlSafeNoPad key⟩

def toKey (env : Env) (jwk : Ed25519PublicJwk) : Except JwkError Bytes := do
  ensure (jwk.kty = "OKP" ∧ jwk.crv = "Ed25519") .unsupported
  let bytes ← okOr (base64Decode .urlSafeNoPad jwk.x) .invalidX
  ensure (bytes.length = 32) .invalidX
  ensure (env.isPublicKey bytes) .invalidX
  .ok bytes

def thumbprint (env : Env) (jwk : Ed25519PublicJwk) : String :=
  base64Encode .urlSafeNoPad (env.sha256 (env.jsonText
    (.obj [("crv", .str jwk.crv), ("kty", .str jwk.kty), ("x", .str jwk.x)])))

def json (jwk : Ed25519PublicJwk) : Json :=
  .obj [("kty", .str jwk.kty), ("crv", .str jwk.crv), ("x", .str jwk.x)]

def ofJson (v : Json) : Option Ed25519PublicJwk := do
  let kty ← v.getStr? "kty"
  let crv ← v.getStr? "crv"
  let x ← v.getStr? "x"
  some ⟨kty, crv, x⟩

theorem toKey_fromKey {env : Env} {key : Bytes} (hlength : key.length = 32)
    (hpoint : env.isPublicKey key = true) : (fromKey key).toKey env = .ok key := by
  simp [toKey, fromKey, hlength, hpoint, bind_eq_ok]

end Ed25519PublicJwk

/-! ## The record -/

/-- A key with its interval. -/
structure KeyEntry where
  jwk : Ed25519PublicJwk
  thumbprint : String
  generation : ℕ
  notBefore : String
  notAfter : String

/-- The keys an agent binds to itself. -/
structure KeyBindingSet where
  issuer : String
  agent : String
  tlsCertificateSha256 : String
  /-- By purpose, in the order of the names. -/
  keys : List (String × KeyEntry)

def KeyEntry.json (e : KeyEntry) : Json :=
  .obj [("jwk", e.jwk.json), ("thumbprint", .str e.thumbprint), ("generation", .num e.generation),
    ("not_before", .str e.notBefore), ("not_after", .str e.notAfter)]

def KeyEntry.ofJson (v : Json) : Option KeyEntry := do
  let jwk ← (v.get? "jwk").bind Ed25519PublicJwk.ofJson
  let thumbprint ← v.getStr? "thumbprint"
  let generation ← v.getNat? "generation"
  let notBefore ← v.getStr? "not_before"
  let notAfter ← v.getStr? "not_after"
  some ⟨jwk, thumbprint, generation, notBefore, notAfter⟩

def sortByName {α : Type} (members : List (String × α)) : List (String × α) :=
  members.insertionSort (fun a b => a.1 ≤ b.1)

theorem mem_sortByName {α : Type} {members : List (String × α)} {m : String × α} :
    m ∈ sortByName members ↔ m ∈ members :=
  mem_insertionSort _

def readKeys : Json → Option (List (String × KeyEntry))
  | .obj fs =>
    (fs.mapM (fun f => (KeyEntry.ofJson f.2).map (fun entry => (f.1, entry)))).map sortByName
  | _ => none

def KeyBindingSet.ofJson (v : Json) : Option KeyBindingSet := do
  let subject ← v.get? "subject"
  let issuer ← subject.getStr? "issuer"
  let agent ← subject.getStr? "agent"
  let tls ← v.getStr? "tls_certificate_sha256"
  let keys ← (v.get? "keys").bind readKeys
  some ⟨issuer, agent, tls, keys⟩

def KeyBindingSet.json (b : KeyBindingSet) : Json :=
  .obj [("schema_version", .num 1),
    ("subject", .obj [("issuer", .str b.issuer), ("agent", .str b.agent)]),
    ("tls_certificate_sha256", .str b.tlsCertificateSha256),
    ("keys", .obj (b.keys.map (fun k => (k.1, k.2.json))))]

/-! ## The schema -/

def validJwk : Json → Bool :=
  record [("kty", oneOf ["OKP"]), ("crv", oneOf ["Ed25519"]),
    ("x", strWith isThumbprint)] []

def validKeyEntry : Json → Bool :=
  record [("jwk", validJwk), ("thumbprint", strWith isThumbprint),
    ("generation", intIn 0 1000000), ("not_before", strWith isRfc3339Utc),
    ("not_after", strWith isRfc3339Utc)] []

def statementPurposes : List String :=
  ["agent-card", "contract-proposal", "contract-decision", "task-result", "evidence",
    "requester-outcome"]

def validKeys (v : Json) : Bool :=
  v ≠ .obj [] && record [] (statementPurposes.map (fun purpose => (purpose, validKeyEntry))) v

def validKeyBinding : Json → Bool :=
  record
    [("schema_version", intIn 1 1),
     ("subject", record
       [("issuer", strWith (Text.bounded 1 512 (fun _ => true))),
        ("agent", strWith (Text.bounded 1 512 (fun _ => true)))] []),
     ("tls_certificate_sha256", strWith isSha256Hex),
     ("keys", validKeys)] []

/-! ## Verification -/

inductive KeyBindingError where
  | schema (error : String)
  | parse (error : String)
  | badJwk (purpose : String)
  | thumbprintMismatch (purpose : String)
  | reusedKey (purpose : String)
  | badTimestamp (purpose : String)
  | badInterval (purpose : String)
  | notCurrentlyValid (purpose : String)

def verifyEntry (env : PairingEnv) (now : Int) (seen : List String) (purpose : String)
    (entry : KeyEntry) : Except KeyBindingError String := do
  let _ ← (entry.jwk.toKey env.toEnv).mapError (fun _ => .badJwk purpose)
  let thumbprint := entry.jwk.thumbprint env.toEnv
  ensure (thumbprint = entry.thumbprint) (.thumbprintMismatch purpose)
  ensure (thumbprint ∉ seen) (.reusedKey purpose)
  let notBefore ← okOr (env.parseNanos entry.notBefore) (.badTimestamp purpose)
  let notAfter ← okOr (env.parseNanos entry.notAfter) (.badTimestamp purpose)
  ensure (notBefore < notAfter) (.badInterval purpose)
  ensure (notBefore ≤ now ∧ now < notAfter) (.notCurrentlyValid purpose)
  .ok thumbprint

def verifyKeys (env : PairingEnv) (now : Int) :
    List String → List (String × KeyEntry) → Except KeyBindingError Unit
  | _, [] => .ok ()
  | seen, (purpose, entry) :: keys => do
    let thumbprint ← verifyEntry env now seen purpose entry
    verifyKeys env now (thumbprint :: seen) keys

def keyBindingVerify (env : PairingEnv) (value : Json) (now : Int) :
    Except KeyBindingError KeyBindingSet := do
  ensure (validKeyBinding value) (.schema (env.schemaError "key-binding.v1" value))
  let set ← okOr (KeyBindingSet.ofJson value) (.parse (env.shapeError value))
  verifyKeys env now [] set.keys
  .ok set

/-- The key is well formed and its interval is open. -/
structure KeyEntry.ValidAt (env : PairingEnv) (now : Int) (e : KeyEntry) : Prop where
  key : ∃ key, e.jwk.toKey env.toEnv = .ok key
  thumbprint : e.jwk.thumbprint env.toEnv = e.thumbprint
  interval : ∃ notBefore notAfter, env.parseNanos e.notBefore = some notBefore ∧
    env.parseNanos e.notAfter = some notAfter ∧ notBefore ≤ now ∧ now < notAfter

variable {env : PairingEnv} {now : Int} {seen : List String}

theorem verifyEntry_eq_ok_iff {purpose : String} {entry : KeyEntry} {thumbprint : String} :
    verifyEntry env now seen purpose entry = .ok thumbprint ↔
      entry.ValidAt env now ∧ entry.thumbprint ∉ seen ∧ thumbprint = entry.thumbprint := by
  simp only [verifyEntry, bind_eq_ok, mapError_eq_ok, ensure_eq_ok,
    okOr_eq_ok, exists_const]
  constructor
  · rintro ⟨key, hkey, hthumb, hseen, nb, hnb, na, hna, -, hnow, hout⟩
    rw [hthumb] at hseen hout
    exact ⟨⟨⟨key, hkey⟩, hthumb, nb, na, hnb, hna, hnow⟩, hseen, (ok.inj hout).symm⟩
  · rintro ⟨⟨⟨key, hkey⟩, hthumb, nb, na, hnb, hna, hnow⟩, hseen, rfl⟩
    rw [hthumb]
    exact ⟨key, hkey, rfl, hseen, nb, hnb, na, hna, lt_of_le_of_lt hnow.1 hnow.2, hnow, rfl⟩

theorem verifyKeys_eq_ok_iff {keys : List (String × KeyEntry)} :
    verifyKeys env now seen keys = .ok () ↔ (∀ k ∈ keys, k.2.ValidAt env now) ∧
      (keys.map (fun k => k.2.thumbprint)).Nodup ∧ ∀ k ∈ keys, k.2.thumbprint ∉ seen := by
  induction keys generalizing seen with
  | nil => simp [verifyKeys]
  | cons k keys ih =>
    obtain ⟨purpose, entry⟩ := k
    rw [verifyKeys, bind_eq_ok]
    simp only [verifyEntry_eq_ok_iff, forall_mem_cons, map_cons, nodup_cons]
    constructor
    · rintro ⟨thumbprint, ⟨hvalid, hseen, rfl⟩, hrest⟩
      obtain ⟨hall, hnodup, hnot⟩ := ih.1 hrest
      refine ⟨⟨hvalid, hall⟩, ⟨?_, hnodup⟩, hseen, fun k hk hmem => ?_⟩
      · intro hmem
        obtain ⟨k, hk, heq⟩ := mem_map.1 hmem
        exact hnot k hk (heq ▸ mem_cons_self)
      · exact hnot k hk (mem_cons_of_mem _ hmem)
    · rintro ⟨⟨hvalid, hall⟩, ⟨hfresh, hnodup⟩, hseen, hnot⟩
      refine ⟨_, ⟨hvalid, hseen, rfl⟩, ih.2 ⟨hall, hnodup, fun k hk hmem => ?_⟩⟩
      rcases mem_cons.1 hmem with heq | hmem
      · exact hfresh (heq ▸ mem_map_of_mem hk)
      · exact hnot k hk hmem

/-- What a verified key binding has been checked for. -/
structure BindsKeys (env : PairingEnv) (value : Json) (now : Int) (set : KeyBindingSet) : Prop where
  conforms : validKeyBinding value = true
  reads : KeyBindingSet.ofJson value = some set
  valid : ∀ k ∈ set.keys, k.2.ValidAt env now
  distinct : (set.keys.map (fun k => k.2.thumbprint)).Nodup

theorem keyBindingVerify_eq_ok_iff {value : Json} {set : KeyBindingSet} :
    keyBindingVerify env value now = .ok set ↔ BindsKeys env value now set := by
  simp only [keyBindingVerify, bind_eq_ok, ensure_eq_ok, okOr_eq_ok,
    exists_const]
  constructor
  · rintro ⟨hconforms, set', hreads, _, hkeys, hout⟩
    cases hout
    obtain ⟨hvalid, hdistinct, -⟩ := verifyKeys_eq_ok_iff.1 hkeys
    exact ⟨hconforms, hreads, hvalid, hdistinct⟩
  · rintro ⟨hconforms, hreads, hvalid, hdistinct⟩
    have hkeys := verifyKeys_eq_ok_iff.2 ⟨hvalid, hdistinct, fun _ _ => not_mem_nil⟩
    exact ⟨hconforms, set, hreads, (), hkeys, rfl⟩

end Akson
