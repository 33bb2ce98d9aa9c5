/-
# What the program is built on

The values that cross the boundary to third-party libraries (messages, URLs, problems) and the
functions of those libraries, as the fields of `Env`.
-/
import Akson.Lib.Base64
import Akson.Lib.HashChain
import Akson.Lib.Jcs
import Akson.Lib.IJson

namespace Akson

open List

abbrev Bytes := List UInt8

abbrev Time := Int

/-- The body of an error answer. -/
structure Problem where
  type : String
  title : String
  status : ℕ
  detail : Option String
deriving DecidableEq

def Problem.new (status : ℕ) (kind title : String) : Problem :=
  ⟨"urn:akson:error:" ++ kind, title, status, none⟩

def Problem.json (p : Problem) : Json :=
  .obj ([("type", .str p.type), ("title", .str p.title), ("status", .num p.status)] ++
    (p.detail.map (fun detail => ("detail", Json.str detail))).toList)

def internal : Problem := Problem.new 500 "internal" "the request could not be processed"

/-- What a part of a message holds. -/
inductive Content where
  | text (s : String)
  | raw (bytes : Bytes)
  | url (s : String)
  | data (v : Json)

structure Part where
  filename : String
  mediaType : String
  content : Option Content

/-- A message, as the transport hands it over. -/
structure Message where
  messageId : String
  contextId : String
  parts : List Part

structure Url where
  scheme : String
  host : Option String
  port : Option ℕ
  path : String

inductive Base64 where
  | standard
  | standardNoPad
  | urlSafe
  | urlSafeNoPad

/-- The libraries the program calls, as functions. -/
structure Env where
  sha256 : Bytes → Bytes
  /-- HMAC-SHA256 of a message under a key. -/
  hmacSha256 : Bytes → Bytes → Bytes
  /-- Strict Ed25519 verification: key, message, signature. -/
  verifyStrict : Bytes → Bytes → Bytes → Bool
  /-- The Ed25519 signature of a message under a secret key. -/
  signEd25519 : Bytes → Bytes → Bytes
  /-- The public key of a secret key. -/
  publicKey : Bytes → Bytes
  /-- Are the bytes an Ed25519 public key? -/
  isPublicKey : Bytes → Bool
  /-- The text of a number in canonical JSON. -/
  fmtNum : Rat → List Char
  /-- The text of a double. -/
  fmtFloat : Rat → String
  /-- Unicode's table of what is printed as it is, and extends no grapheme. -/
  printable : Char → Bool
  /-- What a reader finds in a JSON text, and in what is left behind it. -/
  readJson : Bytes → Json.Reading × Option String
  /-- Reads a JSON text. -/
  parseJson : Bytes → Option Json
  /-- Writes a JSON text, members in the order they stand in. -/
  jsonText : Json → Bytes
  /-- The first error of a value that does not conform to the named schema. -/
  schemaError : String → Json → String
  /-- The error of a value that does not have the shape of the type it is read into. -/
  shapeError : Json → String
  /-- The JSON mapping of a `SendMessageRequest` that holds the message. -/
  requestJson : Message → Option Json
  /-- Reads a request body back. -/
  parseRequest : Bytes → Option Message
  parseUrl : String → Option Url
  /-- The unix seconds of an RFC 3339 instant. -/
  parseRfc3339 : String → Option Time
  /-- The RFC 3339 text of a time in UTC. -/
  formatRfc3339 : Time → Option String

def Env.inert : Env where
  sha256 _ := []
  hmacSha256 _ _ := []
  verifyStrict _ _ _ := false
  signEd25519 _ _ := []
  publicKey _ := []
  isPublicKey _ := false
  fmtNum _ := []
  fmtFloat _ := ""
  printable c := 32 ≤ c.toNat ∧ c.toNat < 127
  readJson _ := (.bad "", none)
  parseJson _ := none
  jsonText _ := []
  schemaError _ _ := ""
  shapeError _ := ""
  requestJson _ := none
  parseRequest _ := none
  parseUrl _ := none
  parseRfc3339 _ := none
  formatRfc3339 _ := none

/-! ## Texts -/

def utf8 (s : String) : Bytes := Json.utf8 s.toList

def fromUtf8 (bytes : Bytes) : Option String := String.fromUTF8? bytes.toByteArray

theorem fromUtf8_eq_some_iff {bytes : Bytes} {s : String} :
    fromUtf8 bytes = some s ↔ bytes = utf8 s := by
  have hbytes : s.toByteArray = (utf8 s).toByteArray := by
    have hs := String.toByteArray_ofList (l := s.toList)
    rw [String.ofList_toList] at hs
    rw [hs, List.utf8Encode, utf8, Json.utf8]
  unfold fromUtf8 String.fromUTF8?
  constructor
  · intro h
    split at h
    · cases h
      have hdata := congrArg ByteArray.data hbytes
      rw [data_toByteArray] at hdata
      have hread : bytes.toArray = (utf8 _).toArray := data_toByteArray.symm.trans hdata
      exact toArray_inj hread
    · cases h
  · rintro rfl
    have hvalid : (utf8 s).toByteArray.IsValidUTF8 := hbytes ▸ s.isValidUTF8
    rw [dif_pos hvalid]
    refine congrArg some (String.toByteArray_inj.1 ?_)
    exact hbytes.symm

def Base64.alphabet : Base64 → SixBit.Alphabet
  | .standard | .standardNoPad => SixBit.standard
  | .urlSafe | .urlSafeNoPad => SixBit.urlSafe

def Base64.padded : Base64 → Bool
  | .standard | .urlSafe => true
  | .standardNoPad | .urlSafeNoPad => false

def base64Encode (kind : Base64) (bytes : Bytes) : String :=
  let digits := kind.alphabet.encode bytes
  String.ofList (if kind.padded then SixBit.Alphabet.pad digits else digits)

def base64Decode (kind : Base64) (text : String) : Option Bytes :=
  if kind.padded then kind.alphabet.decodePadded text.toList else kind.alphabet.decode text.toList

@[simp]
theorem base64Decode_base64Encode (kind : Base64) (bytes : Bytes) :
    base64Decode kind (base64Encode kind bytes) = some bytes := by
  rw [base64Decode, base64Encode, String.toList_ofList]
  split
  · exact kind.alphabet.decodePadded_pad_encode bytes
  · exact kind.alphabet.decode_encode bytes

theorem base64Encode_inj {kind : Base64} {a b : Bytes} (h : base64Encode kind a = base64Encode kind b) :
    a = b := by
  have hdecoded := congrArg (base64Decode kind) h
  rwa [base64Decode_base64Encode, base64Decode_base64Encode, Option.some.injEq] at hdecoded

theorem base64Decode_eq_some_iff {kind : Base64} (h : kind.padded = false) {text : String}
    {bytes : Bytes} : base64Decode kind text = some bytes ↔ text = base64Encode kind bytes := by
  rw [base64Decode, base64Encode, h, ← String.toList_inj, String.toList_ofList]
  exact kind.alphabet.decode_eq_some_iff

/-- How many bytes a character has by its first byte; none starts with the others. -/
def utf8Width (first : UInt8) : ℕ :=
  if first < 0x80 then 1 else if first < 0xc2 then 0 else if first < 0xe0 then 2
  else if first < 0xf0 then 3 else if first < 0xf5 then 4 else 0

/-- May the byte stand second, behind this first one? -/
def utf8Second (first second : UInt8) : Bool :=
  (if first = 0xe0 then 0xa0 else if first = 0xf0 then 0x90 else 0x80) ≤ second &&
    second ≤ (if first = 0xed then 0x9f else if first = 0xf4 then 0x8f else 0xbf)

/-- How many of the bytes that follow belong to the character, or to what is left of it. -/
def utf8Rest (first : UInt8) : Bytes → ℕ
  | [] => 0
  | second :: rest =>
    if 2 ≤ utf8Width first ∧ utf8Second first second then
      1 + ((rest.take (utf8Width first - 2)).takeWhile (fun b => 0x80 ≤ b ∧ b < 0xc0)).length
    else 0

/-- The characters of a text, and what stands between them. -/
def utf8Chunks : Bytes → List Bytes
  | [] => []
  | first :: rest =>
    (first :: rest.take (utf8Rest first rest)) :: utf8Chunks (rest.drop (utf8Rest first rest))
termination_by bytes => bytes.length

/-- Reads UTF-8, with one replacement character for what is left of a character. -/
def utf8Lossy (bytes : Bytes) : String :=
  (fromUtf8 bytes).getD
    (String.join ((utf8Chunks bytes).map (fun chunk => (fromUtf8 chunk).getD "\ufffd")))

theorem utf8Lossy_utf8 (s : String) : utf8Lossy (utf8 s) = s := by
  rw [utf8Lossy, fromUtf8_eq_some_iff.2 rfl, Option.getD_some]

/-- A character in the debug form of a text. -/
def Env.escapeDebug (env : Env) (c : Char) : List Char :=
  if c.toNat = 0 then ['\\', '0'] else if c = '\t' then ['\\', 't']
  else if c = '\r' then ['\\', 'r'] else if c = '\n' then ['\\', 'n']
  else if c = '\\' ∨ c = '"' then ['\\', c]
  else if env.printable c then [c]
  else "\\u\x7b".toList ++ Nat.toDigits 16 c.toNat ++ "\x7d".toList

/-- The debug form of a text. -/
def Env.debugStr (env : Env) (s : String) : String :=
  "\"" ++ String.ofList (s.toList.flatMap env.escapeDebug) ++ "\""

/-! ## Digests -/

def hex (bytes : Bytes) : String :=
  String.ofList (bytes.flatMap (fun b => [Json.hexDigit (b.toNat / 16), Json.hexDigit (b.toNat % 16)]))

theorem hexDigit_inj : ∀ m < 16, ∀ n < 16, Json.hexDigit m = Json.hexDigit n → m = n := by
  decide

theorem hex_inj {a b : Bytes} (h : hex a = hex b) : a = b := by
  have hlist := String.ofList_injective h
  clear h
  induction a generalizing b with
  | nil =>
    cases b with
    | nil => rfl
    | cons y b => simp at hlist
  | cons x a ih =>
    cases b with
    | nil => simp at hlist
    | cons y b =>
      simp only [flatMap_cons, cons_append, nil_append, List.cons.injEq] at hlist
      obtain ⟨hhi, hlo, hrest⟩ := hlist
      have hx := x.toNat_lt
      have hy := y.toNat_lt
      have hdiv := hexDigit_inj _ (by omega) _ (by omega) hhi
      have hmod := hexDigit_inj _ (by omega) _ (by omega) hlo
      have hxy : x = y := UInt8.toNat_inj.1 (by omega)
      rw [hxy, ih hrest]

theorem length_hex (bytes : Bytes) : (hex bytes).toList.length = 2 * bytes.length := by
  simp only [hex, String.toList_ofList]
  induction bytes with
  | nil => rfl
  | cons b bytes ih =>
    simp only [flatMap_cons, length_append, length_cons, length_nil, ih]
    omega

end Akson
