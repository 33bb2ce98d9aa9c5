/-
# Where a call may go

Two gates on the destination of a processor call: the origins that the policy allows, and the
addresses that are routed globally.
-/
import Akson.Broker.Processor

namespace Akson

/-! ## The policy -/

/-- Where a processor call may go. -/
structure EgressPolicy where
  originAllowlist : List Origin
  allowNonGlobal : Bool

def ProcessorConfig.egressPolicy (config : ProcessorConfig) : EgressPolicy :=
  ⟨[config.origin], config.isLocal⟩

/-! ## Addresses -/

/-- The four octets of an address. -/
structure Ipv4Addr where
  a : UInt8
  b : UInt8
  c : UInt8
  d : UInt8
deriving DecidableEq, Hashable

/-- The eight segments of an address. -/
structure Ipv6Addr where
  s0 : UInt16
  s1 : UInt16
  s2 : UInt16
  s3 : UInt16
  s4 : UInt16
  s5 : UInt16
  s6 : UInt16
  s7 : UInt16
deriving DecidableEq, Hashable

inductive IpAddr where
  | v4 (addr : Ipv4Addr)
  | v6 (addr : Ipv6Addr)
deriving DecidableEq, Hashable

def highByte (s : UInt16) : UInt8 := (s >>> 8).toUInt8

def lowByte (s : UInt16) : UInt8 := s.toUInt8

namespace Ipv4Addr

def text (v : Ipv4Addr) : String := s!"{v.a}.{v.b}.{v.c}.{v.d}"

def isPrivate (v : Ipv4Addr) : Bool :=
  v.a = 10 ∨ (v.a = 172 ∧ v.b &&& 0xf0 = 16) ∨ (v.a = 192 ∧ v.b = 168)

def isDocumentation (v : Ipv4Addr) : Bool :=
  (v.a = 192 ∧ v.b = 0 ∧ v.c = 2) ∨ (v.a = 198 ∧ v.b = 51 ∧ v.c = 100) ∨
    (v.a = 203 ∧ v.b = 0 ∧ v.c = 113)

def nonGlobalClass (v : Ipv4Addr) : Option String :=
  if v = ⟨0, 0, 0, 0⟩ then some "unspecified"
  else if v.a = 127 then some "loopback"
  else if v.isPrivate then some "private"
  else if v.a = 169 ∧ v.b = 254 then some "link-local"
  else if v = ⟨255, 255, 255, 255⟩ then some "broadcast"
  else if 224 ≤ v.a ∧ v.a ≤ 239 then some "multicast"
  else if v.isDocumentation then some "documentation"
  else if v.a = 100 ∧ v.b &&& 0xc0 = 0x40 then some "shared-cgnat"
  else if v.a = 192 ∧ v.b = 0 ∧ v.c = 0 then some "protocol-assignment"
  else if v.a = 198 ∧ v.b &&& 0xfe = 18 then some "benchmarking"
  else if 240 ≤ v.a then some "reserved"
  else none

end Ipv4Addr

namespace Ipv6Addr

def segments (v : Ipv6Addr) : List UInt16 := [v.s0, v.s1, v.s2, v.s3, v.s4, v.s5, v.s6, v.s7]

def embedded (v : Ipv6Addr) : Ipv4Addr :=
  ⟨highByte v.s6, lowByte v.s6, highByte v.s7, lowByte v.s7⟩

def isMapped (v : Ipv6Addr) : Bool :=
  v.s0 = 0 ∧ v.s1 = 0 ∧ v.s2 = 0 ∧ v.s3 = 0 ∧ v.s4 = 0 ∧ v.s5 = 0xffff

def hexText (segments : List UInt16) : String :=
  ":".intercalate (segments.map (fun s => String.ofList (Nat.toDigits 16 s.toNat)))

/-- The longest run of zeros, the first of several, is left out. -/
def text (v : Ipv6Addr) : String :=
  let zeros := fun start => ((v.segments.drop start).takeWhile (· = 0)).length
  let start := (List.range 8).foldl (fun best i => if zeros best < zeros i then i else best) 0
  if v.isMapped then "::ffff:" ++ v.embedded.text
  else if 1 < zeros start then
    hexText (v.segments.take start) ++ "::" ++ hexText (v.segments.drop (start + zeros start))
  else hexText v.segments

def nonGlobalClass (v : Ipv6Addr) : Option String :=
  if v = ⟨0, 0, 0, 0, 0, 0, 0, 0⟩ then some "unspecified"
  else if v = ⟨0, 0, 0, 0, 0, 0, 0, 1⟩ then some "loopback"
  -- a mapped address is judged by the one it stands for, and so is a translated one
  else if v.isMapped then v.embedded.nonGlobalClass.or (some "ipv4-mapped")
  else if v.s0 = 0x0064 ∧ v.s1 = 0xff9b ∧ v.s2 = 0 ∧ v.s3 = 0 ∧ v.s4 = 0 ∧ v.s5 = 0 then
    v.embedded.nonGlobalClass.or (some "nat64")
  else if v.s0 &&& 0xff00 = 0xff00 then some "multicast"
  else if v.s0 &&& 0xffc0 = 0xfec0 then some "site-local"
  else if v.s0 = 0x0064 ∧ v.s1 = 0xff9b ∧ v.s2 = 1 then some "nat64-local"
  else if v.s0 &&& 0xfe00 = 0xfc00 then some "unique-local"
  else if v.s0 &&& 0xffc0 = 0xfe80 then some "link-local"
  else if v.s0 = 0x2001 ∧ v.s1 = 0x0db8 then some "documentation"
  else if v.s0 = 0 ∧ v.s1 = 0 ∧ v.s2 = 0 ∧ v.s3 = 0 ∧ v.s4 = 0 ∧ v.s5 = 0 then
    some "ipv4-compatible"
  else none

end Ipv6Addr

namespace IpAddr

/-- An address as it is displayed. -/
def text : IpAddr → String
  | .v4 addr => addr.text
  | .v6 addr => addr.text

def nonGlobalClass : IpAddr → Option String
  | .v4 addr => addr.nonGlobalClass
  | .v6 addr => addr.nonGlobalClass

end IpAddr

/-! ## The gates -/

/-- Why a destination is refused. -/
inductive EgressError where
  | notHttps (scheme : String)
  | originNotAllowed (origin : String)
  | nonGlobalAddress (addr : IpAddr) (addrClass : String)
deriving DecidableEq

def EgressError.message (env : Env) : EgressError → String
  | .notHttps scheme => "scheme " ++ env.debugStr scheme ++ " is not permitted; only https"
  | .originNotAllowed origin =>
    "origin " ++ env.debugStr origin ++ " is not in the configured allowlist"
  | .nonGlobalAddress addr addrClass =>
    "address " ++ addr.text ++ " is a " ++ addrClass ++
      " address, not globally routable"

def checkOrigin (origin : Origin) (policy : EgressPolicy) : Except EgressError Unit := do
  Except.ensure (origin.scheme = "https") (.notHttps origin.scheme)
  Except.ensure (origin ∈ policy.originAllowlist)
    (.originNotAllowed (origin.host ++ ":" ++ toString origin.port))

def checkResolvedAddress (addr : IpAddr) (policy : EgressPolicy) : Except EgressError Unit :=
  match addr.nonGlobalClass with
  | some addrClass =>
    Except.ensure (policy.allowNonGlobal = true) (.nonGlobalAddress addr addrClass)
  | none => .ok ()

end Akson
