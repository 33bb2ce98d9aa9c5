/-
# What a signature binds

The pre-authentication encoding is read in one way only: each length is a numeral that ends at the
first blank, and says where its text ends.
-/
import Akson.Ext.Dsse
import Akson.Lib.HttpRequest

namespace Akson

open List

theorem blank_notMem_numeral (n : ℕ) : 32 ∉ utf8 (toString n) := by
  intro hmem
  rw [utf8, Nat.toString_eq_ofList_toDigits, String.toList_ofList] at hmem
  exact absurd (Http.le_toNat_of_mem hmem) (by decide)

theorem numeral_inj {m n : ℕ} (h : utf8 (toString m) = utf8 (toString n)) : m = n := by
  rw [utf8, utf8, Nat.toString_eq_ofList_toDigits, Nat.toString_eq_ofList_toDigits,
    String.toList_ofList, String.toList_ofList] at h
  rw [← Decimal.valueOf_toDigits m, Json.utf8_inj h, Decimal.valueOf_toDigits]

theorem numeral_blank_inj {m n : ℕ} {x y : Bytes}
    (h : utf8 (toString m) ++ 32 :: x = utf8 (toString n) ++ 32 :: y) : m = n ∧ x = y := by
  have htake : ∀ (n : ℕ) (x : Bytes),
      (utf8 (toString n) ++ 32 :: x).takeWhile (fun b => b ≠ 32) = utf8 (toString n) := by
    intro n x
    rw [takeWhile_append_of_pos, takeWhile_cons_of_neg (by simp), append_nil]
    intro b hb
    exact decide_eq_true (fun hblank => blank_notMem_numeral n (hblank ▸ hb))
  have hmn := numeral_inj ((htake m x).symm.trans ((congrArg _ h).trans (htake n y)))
  subst hmn
  exact ⟨rfl, cons.inj (append_cancel_left h) |>.2⟩

theorem framed_inj {a b x y : Bytes}
    (h : utf8 (toString a.length) ++ 32 :: (a ++ x) = utf8 (toString b.length) ++ 32 :: (b ++ y)) :
    a = b ∧ x = y := by
  obtain ⟨hlength, hrest⟩ := numeral_blank_inj h
  exact append_inj hrest hlength

theorem pae_inj {t₁ t₂ : String} {p₁ p₂ : Bytes} (h : pae t₁ p₁ = pae t₂ p₂) :
    t₁ = t₂ ∧ p₁ = p₂ := by
  have hpae : ∀ (t : String) (p : Bytes), pae t p = utf8 "DSSEv1 " ++
      (utf8 (toString (utf8 t).length) ++ 32 ::
        (utf8 t ++ 32 :: (utf8 (toString p.length) ++ 32 :: (p ++ [])))) := by
    intro t p
    have hblank : utf8 " " = [32] := by decide
    simp only [pae, hblank, append_assoc, cons_append, nil_append, append_nil]
  rw [hpae, hpae] at h
  obtain ⟨htype, hrest⟩ := framed_inj (append_cancel_left h)
  obtain ⟨hpayload, -⟩ := framed_inj (cons.inj hrest).2
  exact ⟨String.toList_inj.1 (Json.utf8_inj htype), hpayload⟩

/-- **What a signature binds.**  The encoding that is signed determines the type and the payload; an
envelope that is signed verifies to its payload; and if nothing verifies under a key but what its
holder has signed, then the holder of exactly the key an envelope verifies under has signed a message
that stands for exactly its type and payload. -/
theorem dsse_binds_type_and_payload (env : Env) :
    (∀ t₁ t₂ p₁ p₂, pae t₁ p₁ = pae t₂ p₂ → t₁ = t₂ ∧ p₁ = p₂) ∧
    (∀ t p secret, env.Signs secret (pae t p) →
      dsseVerify env (dsseSign env t p secret) t (env.publicKey secret) = .ok p) ∧
    ∀ signed : Bytes → Bytes → Prop,
      (∀ key message signature, env.verifyStrict key message signature = true →
        signed key message) →
      ∀ envelope t key p, dsseVerify env envelope t key = .ok p →
        ∃ message, signed key message ∧ ∀ t' p', message = pae t' p' ↔ t' = t ∧ p' = p := by
  refine ⟨fun _ _ _ _ => pae_inj, fun t p secret => dsseVerify_dsseSign,
    fun signed hideal envelope t key p h => ?_⟩
  obtain ⟨-, signature, hsignature⟩ := dsseVerify_eq_ok h
  refine ⟨pae t p, hideal _ _ _ hsignature, fun t' p' => ⟨fun heq => pae_inj heq.symm, ?_⟩⟩
  rintro ⟨rfl, rfl⟩
  rfl

/-! A text that is signed with the first key of the Ed25519 test vectors. -/

def preauthSecret : Bytes :=
  beBytes 32 0x9d61b19deffd5a60ba844af492ec2cc44449c5697b326919703bac031cae7f60

def preauthKey : Bytes :=
  beBytes 32 0xd75a980182b10ab7d54bfed3c964073a0ee172f3daa62325af021a68f707511a

def preauthSignature : Bytes :=
  beBytes 32 0xff64803c2e3a20bd5f8bb32a7973b9af09e9bcf5bc014e868580b9a890284306 ++
  beBytes 32 0xd4362f8da12f7f62526cd201b57264813af5fe3421e8a58f0217b5effd8c9d06

def preauthMessage : Bytes := pae "text/plain" (utf8 "hi")

/-- Ed25519 and SHA-256 at that key and text. -/
def preauthEnv : Env :=
  { Env.inert with
    sha256 := fun _ => beBytes 32 0x90facafea9b1556698540f70c0117a22ea37bd5cf3ed3c47093c1707282b4b89
    publicKey := fun secret => if secret = preauthSecret then preauthKey else []
    signEd25519 := fun secret message =>
      if secret = preauthSecret ∧ message = preauthMessage then preauthSignature else []
    verifyStrict := fun key message signature =>
      key = preauthKey ∧ message = preauthMessage ∧ signature = preauthSignature }

theorem preauthEnv_signs : preauthEnv.Signs preauthSecret preauthMessage :=
  ⟨by simp [preauthEnv], by simp [preauthEnv, preauthSignature]⟩

/-- The envelope verifies, and what verifies under the key is signed as this type and payload. -/
theorem dsse_binds_type_and_payload_preauth :
    ∃ envelope, dsseVerify preauthEnv envelope "text/plain" preauthKey = .ok (utf8 "hi") ∧
      ∃ message, message = preauthMessage ∧
        ∀ t p, message = pae t p ↔ t = "text/plain" ∧ p = utf8 "hi" := by
  obtain ⟨-, hround, hbinds⟩ := dsse_binds_type_and_payload preauthEnv
  have hkey : preauthEnv.publicKey preauthSecret = preauthKey := by simp [preauthEnv]
  have hverify := hround "text/plain" (utf8 "hi") preauthSecret preauthEnv_signs
  rw [hkey] at hverify
  refine ⟨_, hverify, hbinds (fun _ message => message = preauthMessage) ?_ _ _ _ _ hverify⟩
  intro key message signature h
  exact (of_decide_eq_true h).2.1

end Akson
