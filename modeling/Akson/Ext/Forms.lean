/-
# The forms of texts in the extension schemas

The patterns that the JSON schemas of the signed objects share: identifiers, digests, instants,
media types, and the identity of a party.
-/
import Akson.Lib.JsonSchema
import Akson.Lib.Text
import Akson.Env

namespace Akson

/-! ## Characters -/

def isGraph (c : Char) : Bool := 0x21 ≤ c.toNat ∧ c.toNat ≤ 0x7e

def isLowerAlnum (c : Char) : Bool := c.isLower || c.isDigit

def isHexChar (c : Char) : Bool := c.isDigit || (0x61 ≤ c.toNat && c.toNat ≤ 0x66)

def isMediaTypeMark (c : Char) : Bool := "!#$&.+^_-".toList.contains c

/-! ## Texts -/

def isSha256Hex : String → Bool := Text.bounded 64 64 isHexChar

def isA2aId : String → Bool := Text.bounded 1 128 isGraph

def isSlug (s : String) : Bool :=
  Text.bounded 1 64 (fun c => isLowerAlnum c || c = '-') s && s.toList.head?.all isLowerAlnum

def isThumbprint : String → Bool :=
  Text.bounded 43 43 (fun c => c.isAlphanum || c = '_' || c = '-')

def isUuidV4 : String → Bool :=
  Text.ofRuns [(8, isHexChar), (1, (· = '-')), (4, isHexChar), (1, (· = '-')), (1, (· = '4')),
    (3, isHexChar), (1, (· = '-')), (1, ("89ab".toList.contains ·)), (3, isHexChar),
    (1, (· = '-')), (12, isHexChar)]

def isInstantEnd : List Char → Bool
  | ['Z'] => true
  | '.' :: cs =>
    match cs.span Char.isDigit with
    | (digits, ['Z']) => 1 ≤ digits.length ∧ digits.length ≤ 9
    | _ => false
  | _ => false

def isRfc3339Utc (s : String) : Bool :=
  match Text.dropRuns [(4, Char.isDigit), (1, (· = '-')), (2, Char.isDigit), (1, (· = '-')),
      (2, Char.isDigit), (1, (· = 'T')), (2, Char.isDigit), (1, (· = ':')), (2, Char.isDigit),
      (1, (· = ':')), (2, Char.isDigit)] s.toList with
  | some rest => isInstantEnd rest
  | none => false

def isMediaTypeHalf (alnum : Char → Bool) (s : String) : Bool :=
  Text.bounded 1 127 (fun c => alnum c || isMediaTypeMark c) s && s.toList.head?.all alnum

def isMediaType (s : String) : Bool :=
  match Text.splitOnce '/' s with
  | some (kind, subtype) => isMediaTypeHalf isLowerAlnum kind && isMediaTypeHalf Char.isAlphanum subtype
  | none => false

/-! ## Identities -/

/-- A party: its issuer, agent and root key. -/
structure Identity where
  issuer : String
  agent : String
  /-- The thumbprint of the party's identity root key. -/
  root : String
deriving DecidableEq

def Identity.json (i : Identity) : Json :=
  .obj [("agent", .str i.agent), ("issuer", .str i.issuer), ("root", .str i.root)]

def Identity.ofJson (v : Json) : Option Identity := do
  let issuer ← v.getStr? "issuer"
  let agent ← v.getStr? "agent"
  let root ← v.getStr? "root"
  some ⟨issuer, agent, root⟩

def atMost (n : ℕ) (s : String) : Bool := s.toList.length ≤ n

def validIdentity : Json → Bool :=
  Json.record
    [("issuer", Json.strWith (Text.bounded 1 512 (fun _ => true))),
     ("agent", Json.strWith (Text.bounded 1 512 (fun _ => true))),
     ("root", Json.strWith isThumbprint)] []

/-! ## Digests have the form of a digest -/

theorem isHexChar_hexDigit : ∀ n < 16, isHexChar (Json.hexDigit n) = true := by
  decide

theorem isSha256Hex_hex {bytes : Bytes} (h : bytes.length = 32) : isSha256Hex (hex bytes) = true := by
  have hall : (hex bytes).toList.all isHexChar = true := by
    simp only [hex, String.toList_ofList, List.all_eq_true, List.mem_flatMap]
    rintro c ⟨b, -, hc⟩
    have hb := b.toNat_lt
    simp only [List.mem_cons, List.not_mem_nil, or_false] at hc
    rcases hc with rfl | rfl
    · exact isHexChar_hexDigit (b.toNat / 16) (by omega)
    · exact isHexChar_hexDigit (b.toNat % 16) (by omega)
  have hlen : (hex bytes).toList.length = 64 := by rw [length_hex, h]
  simp [isSha256Hex, Text.bounded, hlen, hall]

theorem isThumbprint_base64Encode {bytes : Bytes} (h : bytes.length = 32) :
    isThumbprint (base64Encode .urlSafeNoPad bytes) = true := by
  have hchars : SixBit.urlSafe.chars.all (fun c => c.isAlphanum || c = '_' || c = '-') = true := rfl
  have hlength := SixBit.urlSafe.length_encode bytes
  rw [h] at hlength
  have htext : (base64Encode .urlSafeNoPad bytes).toList = SixBit.urlSafe.encode bytes :=
    String.toList_ofList
  have hall : (SixBit.urlSafe.encode bytes).all (fun c => c.isAlphanum || c = '_' || c = '-') :=
    List.all_eq_true.2 (fun c hc =>
      List.all_eq_true.1 hchars c (SixBit.urlSafe.mem_chars_of_mem_encode hc))
  simp [isThumbprint, Text.bounded, htext, hlength, hall]

end Akson
