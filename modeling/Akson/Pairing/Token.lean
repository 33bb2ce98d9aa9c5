/-
# The identity token

The public commitment to a root key that is carried by hand: a version byte and the key in groups of
five bits, with six more groups as checksum, behind `akson1`.
-/
import Akson.Lib.Bech32
import Akson.Lib.Fallible
import Mathlib.Data.Bool.AllAny
import Mathlib.Data.String.Basic

namespace Akson

open Except Option List

def IdentityToken.tokenVersion : UInt8 := 0x01

def tokenHrp : List Char := "akson".toList

def maxTokenChars : ℕ := 90

def charset : List Char := "qpzry9x8gf2tvdw0s3jn54khce6mua7l".toList

def bech32mConst : ℕ := 0x2bc830a3

/-- A root key as it is handed over. -/
structure IdentityToken where
  version : UInt8
  rootKey : List UInt8

/-- Why a token is refused. -/
inductive TokenError where
  | tooLong
  | mixedCase
  | badHrp
  | badChar (position : ℕ)
  | badChecksum
  | unknownVersion (version : UInt8)
  | badLength
  | weakKey

/-! ## The arithmetic -/

def gen : List ℕ := [0x3b6a57b2, 0x26508e6d, 0x1ea119fa, 0x3d4233dd, 0x2a1462b3]

def polymod (values : List ℕ) : ℕ := Bech32.residue gen values

def hrpExpand (hrp : List Char) : List ℕ :=
  hrp.map (fun c => c.toNat >>> 5) ++ [0] ++ hrp.map (fun c => c.toNat &&& 31)

def checksum (hrp : List Char) (data : List ℕ) : List ℕ :=
  Bech32.groups (polymod (hrpExpand hrp ++ data ++ List.replicate 6 0) ^^^ bech32mConst)

def verifyChecksum (hrp : List Char) (data : List ℕ) : Bool :=
  polymod (hrpExpand hrp ++ data) = bech32mConst

def toFiveBit (bytes : List UInt8) : List ℕ := Regroup.spread 8 5 (bytes.map UInt8.toNat)

def toEightBit (groups : List ℕ) : Option (List UInt8) :=
  (Regroup.gather 5 8 groups).map (List.map UInt8.ofNat)

/-! ## Encoding and decoding -/

def symbol (group : ℕ) : Char := charset.getD group 'q'

def encodeToken (rootKey : List UInt8) : String :=
  let data := toFiveBit (IdentityToken.tokenVersion :: rootKey)
  String.ofList (tokenHrp ++ '1' :: (data ++ checksum tokenHrp data).map symbol)

def lowercased (s : String) : Except TokenError (List Char) := do
  ensure (s.utf8ByteSize ≤ maxTokenChars) .tooLong
  match s.toList.findIdx? (fun c => 128 ≤ c.toNat) with
  | some position => throw (.badChar position)
  | none =>
    ensure (¬ (s.toList.any Char.isLower ∧ s.toList.any Char.isUpper)) .mixedCase
    return s.toList.map Char.toLower

def splitLast : List Char → Option (List Char × List Char)
  | [] => none
  | c :: s =>
    match splitLast s with
    | some (hrp, rest) => some (c :: hrp, rest)
    | none => if c = '1' then some ([], s) else none

def readGroups (position : ℕ) : List Char → Except TokenError (List ℕ)
  | [] => return []
  | c :: rest => do
    let group ← okOr (charset.idxOf? c) (.badChar position)
    return group :: (← readGroups (position + 1) rest)

/-- Read an identity token. -/
def decodeToken (usable : List UInt8 → Bool) (s : String) : Except TokenError IdentityToken := do
  let s ← lowercased s
  let (hrp, rest) ← okOr (splitLast s) .badHrp
  ensure (6 ≤ rest.length) .badChecksum
  let data ← readGroups (hrp.length + 1) rest
  ensure (verifyChecksum hrp data) .badChecksum
  ensure (hrp = tokenHrp) .badHrp
  match ← okOr (toEightBit (data.take (data.length - 6))) .badLength with
  | [] => throw .badLength
  | version :: key =>
    ensure (version = IdentityToken.tokenVersion) (.unknownVersion version)
    ensure (key.length = 32) .badLength
    ensure (usable key) .weakKey
    return ⟨version, key⟩

/-! ## The texts -/

def Plain (c : Char) : Prop :=
  c.toNat < 128 ∧ c.isUpper = false ∧ c.utf8Size = 1 ∧ c.toLower = c

instance (c : Char) : Decidable (Plain c) :=
  inferInstanceAs (Decidable (c.toNat < 128 ∧ c.isUpper = false ∧ c.utf8Size = 1 ∧ c.toLower = c))

theorem symbol_props : ∀ g < 32,
    charset.idxOf? (symbol g) = some g ∧ symbol g ≠ '1' ∧ Plain (symbol g) := by
  decide

theorem splitLast_eq_none_iff {s : List Char} : splitLast s = none ↔ '1' ∉ s := by
  induction s with
  | nil => exact iff_of_true rfl nofun
  | cons c s ih =>
    rw [mem_cons, not_or, ← ih, splitLast]
    cases splitLast s with
    | none => simp [eq_comm]
    | some parts => simp

theorem splitLast_eq_some_iff {s hrp rest : List Char} :
    splitLast s = some (hrp, rest) ↔ s = hrp ++ '1' :: rest ∧ '1' ∉ rest := by
  constructor
  · intro h
    induction s generalizing hrp with
    | nil => cases h
    | cons c s ih =>
      rw [splitLast] at h
      cases hs : splitLast s with
      | some parts =>
        rw [hs] at h
        cases h
        obtain ⟨rfl, hrest⟩ := ih hs
        exact ⟨rfl, hrest⟩
      | none =>
        simp only [hs, ite_none_right_eq_some, Option.some.injEq, Prod.mk.injEq] at h
        obtain ⟨rfl, rfl, rfl⟩ := h
        exact ⟨rfl, splitLast_eq_none_iff.1 hs⟩
  · rintro ⟨rfl, hrest⟩
    induction hrp with
    | nil =>
      rw [nil_append, splitLast, splitLast_eq_none_iff.2 hrest]
      rfl
    | cons c hrp ih => rw [cons_append, splitLast, ih]

theorem idxOf?_eq_some_iff {c : Char} {g : ℕ} :
    charset.idxOf? c = some g ↔ g < 32 ∧ c = symbol g := by
  constructor
  · intro h
    obtain ⟨hlt, hc, -⟩ := List.idxOf?_eq_some_iff.1 h
    exact ⟨hlt, by rw [symbol, List.getD_eq_getElem _ _ hlt, hc]⟩
  · rintro ⟨hlt, rfl⟩
    exact (symbol_props g hlt).1

theorem readGroups_eq_ok_iff {position : ℕ} {rest : List Char} {data : List ℕ} :
    readGroups position rest = .ok data ↔ rest = data.map symbol ∧ ∀ g ∈ data, g < 2 ^ 5 := by
  induction rest generalizing position data with
  | nil =>
    cases data with
    | nil => exact iff_of_true rfl ⟨rfl, nofun⟩
    | cons g data => simp [readGroups, pure, Except.pure]
  | cons c rest ih =>
    rw [readGroups, bind_eq_ok]
    simp only [okOr_eq_ok, idxOf?_eq_some_iff, bind_eq_ok, ih]
    constructor
    · rintro ⟨g, ⟨hg, rfl⟩, data', ⟨rfl, hdata⟩, ⟨⟩⟩
      exact ⟨rfl, List.forall_mem_cons.2 ⟨hg, hdata⟩⟩
    · rintro ⟨h, hdata⟩
      cases data with
      | nil => cases h
      | cons g data =>
        rw [List.forall_mem_cons] at hdata
        obtain ⟨rfl, rfl⟩ := List.cons.inj h
        exact ⟨g, ⟨hdata.1, rfl⟩, data, ⟨rfl, hdata.2⟩, rfl⟩

theorem toNat_lt (bytes : List UInt8) : ∀ g ∈ bytes.map UInt8.toNat, g < 2 ^ 8 := by
  intro g hg
  obtain ⟨byte, -, rfl⟩ := mem_map.1 hg
  exact byte.toNat_lt

theorem toEightBit_eq_some_iff {groups : List ℕ} (h : ∀ g ∈ groups, g < 2 ^ 5)
    {bytes : List UInt8} : toEightBit groups = some bytes ↔ toFiveBit bytes = groups := by
  constructor
  · intro hsome
    obtain ⟨values, hgather, rfl⟩ := map_eq_some_iff.1 hsome
    have hvalues := ((Regroup.gather_eq_some_iff (by decide) (by decide) (by decide) h).1
      hgather).input_lt
    have hmap : (values.map UInt8.ofNat).map UInt8.toNat = values := by
      rw [List.map_map]
      exact (List.map_congr_left fun g hg => UInt8.toNat_ofNat_of_lt (hvalues g hg)).trans
        (List.map_id _)
    rw [toFiveBit, hmap]
    exact Regroup.spread_of_gather (by decide) (by decide) (by decide) h hgather
  · rintro rfl
    rw [toEightBit, toFiveBit, Regroup.gather_spread (by decide) (by decide) (by decide) (toNat_lt bytes)]
    simp only [Option.map_some, List.map_map, Option.some.injEq]
    exact (List.map_congr_left fun b _ => UInt8.ofNat_toNat).trans (List.map_id _)

theorem verifyChecksum_iff {hrp : List Char} {data tail : List ℕ} (htail : ∀ g ∈ tail, g < 2 ^ 5)
    (hlen : tail.length = 6) :
    verifyChecksum hrp (data ++ tail) = true ↔ tail = checksum hrp data := by
  rw [verifyChecksum, decide_eq_true_iff, polymod, ← append_assoc]
  exact Bech32.residue_append_eq_iff (by decide) (by decide) htail hlen

theorem lowercased_eq_ok_iff {s : String} {l : List Char} :
    lowercased s = .ok l ↔ s.utf8ByteSize ≤ maxTokenChars ∧ (∀ c ∈ s.toList, c.toNat < 128) ∧
      ¬ (s.toList.any Char.isLower ∧ s.toList.any Char.isUpper) ∧ l = s.toList.map Char.toLower := by
  simp only [lowercased, bind_eq_ok, ensure_eq_ok, exists_const]
  refine and_congr_right fun _ => ?_
  cases hfind : s.toList.findIdx? (fun c => decide (128 ≤ c.toNat)) with
  | some position =>
    obtain ⟨hlt, hbad, -⟩ := findIdx?_eq_some_iff_getElem.1 hfind
    refine iff_of_false (by simp [throw, throwThe, MonadExceptOf.throw]) fun h => ?_
    exact absurd (h.1 _ (getElem_mem hlt)) (not_lt.2 (of_decide_eq_true hbad))
  | none =>
    have hascii : ∀ c ∈ s.toList, c.toNat < 128 := fun c hc =>
      not_le.1 (of_decide_eq_false (findIdx?_eq_none_iff.1 hfind c hc))
    simp only [bind_eq_ok, ensure_eq_ok, exists_const]
    refine (and_congr_right fun _ => ?_).trans (and_iff_right hascii).symm
    exact ⟨fun h => (ok.inj h).symm, fun h => congrArg _ h.symm⟩

theorem packs_toFiveBit (bytes : List UInt8) :
    Regroup.Packs 8 5 (bytes.map UInt8.toNat) (toFiveBit bytes) :=
  Regroup.packs_spread (by decide) (by decide) (toNat_lt bytes)

theorem groups_encodeToken_lt (data : List UInt8) :
    ∀ g ∈ toFiveBit data ++ checksum tokenHrp (toFiveBit data), g < 2 ^ 5 :=
  List.forall_mem_append.2 ⟨(packs_toFiveBit data).output_lt, Bech32.groups_lt _⟩

theorem decodeToken_eq_ok_iff {usable : List UInt8 → Bool} {s : String} {t : IdentityToken} :
    decodeToken usable s = .ok t ↔ lowercased s = .ok (encodeToken t.rootKey).toList ∧
      t.version = IdentityToken.tokenVersion ∧ t.rootKey.length = 32 ∧ usable t.rootKey = true := by
  rw [decodeToken, bind_eq_ok]
  constructor
  · rintro ⟨l, hl, h⟩
    obtain ⟨⟨hrp, rest⟩, hsplit, h⟩ := bind_eq_ok.1 h
    obtain ⟨_, hsix, h⟩ := bind_eq_ok.1 h
    obtain ⟨data, hdata, h⟩ := bind_eq_ok.1 h
    obtain ⟨_, hverify, h⟩ := bind_eq_ok.1 h
    obtain ⟨_, hhrp, h⟩ := bind_eq_ok.1 h
    obtain ⟨payload, hpayload, h⟩ := bind_eq_ok.1 h
    rw [okOr_eq_ok, splitLast_eq_some_iff] at hsplit
    rw [ensure_eq_ok] at hsix hverify hhrp
    obtain ⟨hrest, hlt⟩ := readGroups_eq_ok_iff.1 hdata
    rw [hrest, length_map] at hsix
    -- The last six groups are the checksum of the others, and those are the payload.
    have hparts := take_append_drop (data.length - 6) data
    have hlast : (data.drop (data.length - 6)).length = 6 := by
      rw [length_drop]
      omega
    have hchecksum := (verifyChecksum_iff (fun g hg => hlt g (mem_of_mem_drop hg)) hlast).1
      (by rwa [hparts])
    have hfive := (toEightBit_eq_some_iff (fun g hg => hlt g (mem_of_mem_take hg))).1
      (okOr_eq_ok.1 hpayload)
    cases payload with
    | nil => cases h
    | cons version key =>
      obtain ⟨_, hversion, h⟩ := bind_eq_ok.1 h
      obtain ⟨_, hlength, h⟩ := bind_eq_ok.1 h
      obtain ⟨_, husable, h⟩ := bind_eq_ok.1 h
      rw [ensure_eq_ok] at hversion hlength husable
      cases h
      refine ⟨hl.trans (congrArg _ ?_), hversion, hlength, husable⟩
      rw [hhrp] at hchecksum hsplit
      rw [hsplit.1, hrest, encodeToken, String.toList_ofList, ← hversion, hfive, ← hchecksum,
        hparts]
  · rintro ⟨hl, hversion, hlength, husable⟩
    obtain ⟨version, key⟩ := t
    obtain rfl : version = IdentityToken.tokenVersion := hversion
    rw [encodeToken, String.toList_ofList] at hl
    dsimp only at hl
    generalize hdata : toFiveBit (IdentityToken.tokenVersion :: key) = data at hl
    have hlt : ∀ g ∈ data ++ checksum tokenHrp data, g < 2 ^ 5 :=
      hdata ▸ groups_encodeToken_lt (IdentityToken.tokenVersion :: key)
    have hone : '1' ∉ (data ++ checksum tokenHrp data).map symbol := by
      intro hmem
      obtain ⟨g, hg, heq⟩ := mem_map.1 hmem
      exact (symbol_props g (hlt g hg)).2.1 heq
    have htail : (checksum tokenHrp data).length = 6 := Bech32.length_groups _
    refine ⟨_, hl, bind_eq_ok.2 ⟨_, okOr_eq_ok.2
      (splitLast_eq_some_iff.2 ⟨rfl, hone⟩), ?_⟩⟩
    dsimp only
    refine bind_eq_ok.2 ⟨(), ensure_of ?_ _, ?_⟩
    · rw [length_map, length_append, htail]
      omega
    refine bind_eq_ok.2 ⟨_, readGroups_eq_ok_iff.2 ⟨rfl, hlt⟩, ?_⟩
    rw [List.forall_mem_append] at hlt
    refine bind_eq_ok.2 ⟨(), ensure_of
      ((verifyChecksum_iff hlt.2 htail).2 rfl) _, ?_⟩
    refine bind_eq_ok.2 ⟨(), ensure_of rfl _, ?_⟩
    rw [length_append, htail, Nat.add_sub_cancel, take_left' rfl]
    refine bind_eq_ok.2 ⟨_, okOr_eq_ok.2
      ((toEightBit_eq_some_iff hlt.1).2 hdata), ?_⟩
    refine bind_eq_ok.2 ⟨(), ensure_of rfl _, ?_⟩
    refine bind_eq_ok.2 ⟨(), ensure_of hlength _, ?_⟩
    exact bind_eq_ok.2 ⟨(), ensure_of husable _, rfl⟩

theorem plain_encodeToken (rootKey : List UInt8) : ∀ c ∈ (encodeToken rootKey).toList, Plain c := by
  rw [encodeToken, String.toList_ofList, List.forall_mem_append, List.forall_mem_cons,
    List.forall_mem_map]
  exact ⟨List.all_iff_forall_prop.1 (by decide), by decide, fun g hg =>
    (symbol_props g (groups_encodeToken_lt (IdentityToken.tokenVersion :: rootKey) g hg)).2.2⟩

theorem lowercased_encodeToken {rootKey : List UInt8} (h : rootKey.length = 32) :
    lowercased (encodeToken rootKey) = .ok (encodeToken rootKey).toList := by
  have hplain := plain_encodeToken rootKey
  refine lowercased_eq_ok_iff.2 ⟨?_, fun c hc => (hplain c hc).1, ?_, ?_⟩
  · have hsize (l : List Char) (hl : ∀ c ∈ l, Plain c) : String.utf8Len l = l.length := by
      induction l with
      | nil => rfl
      | cons c l ih =>
        rw [List.forall_mem_cons] at hl
        rw [String.utf8Len_cons, ih hl.2, hl.1.2.2.1, length_cons]
    obtain ⟨pad, hpad, hlength, -⟩ := (packs_toFiveBit (IdentityToken.tokenVersion :: rootKey)).exists_pad
    rw [length_map, length_cons, h] at hlength
    have hhrp : tokenHrp.length = 5 := rfl
    rw [← String.ofList_toList (s := encodeToken rootKey), String.utf8ByteSize_ofList,
      hsize _ hplain, encodeToken, String.toList_ofList, length_append, length_cons,
      length_map, length_append, checksum, Bech32.length_groups, maxTokenChars]
    omega
  · rintro ⟨-, hupper⟩
    obtain ⟨c, hc, hup⟩ := any_eq_true.1 hupper
    rw [(hplain c hc).2.1] at hup
    cases hup
  · exact ((List.map_congr_left fun c hc => (hplain c hc).2.2.2).trans (List.map_id _)).symm

/-- The token of a usable key is decoded to that key, and whatever is decoded is, up to case, the
token of the key it gives. -/
theorem token_round_trip (usable : List UInt8 → Bool) :
    (∀ rootKey : List UInt8, rootKey.length = 32 → usable rootKey = true →
      decodeToken usable (encodeToken rootKey) = .ok ⟨IdentityToken.tokenVersion, rootKey⟩) ∧
    ∀ s t, decodeToken usable s = .ok t →
      String.ofList (s.toList.map Char.toLower) = encodeToken t.rootKey := by
  constructor
  · intro rootKey hlength husable
    exact decodeToken_eq_ok_iff.2 ⟨lowercased_encodeToken hlength, rfl, hlength, husable⟩
  · intro s t h
    obtain ⟨hl, -⟩ := decodeToken_eq_ok_iff.1 h
    obtain ⟨-, -, -, hlower⟩ := lowercased_eq_ok_iff.1 hl
    rw [← hlower, String.ofList_toList]

set_option maxRecDepth 10000 in
example : encodeToken ((List.range 32).map UInt8.ofNat) =
    "akson1qyqqzqsrqszsvpcgpy9qkrqdpc83qygjzv2p29shrqv35xcur50p7lykl4d" := rfl

end Akson
