/-
# Globally routable addresses

What an address is checked for when it is dialed: that it is a unicast address that is routed
globally.  The ranges are stated here as ranges of numbers.
-/
import Akson.Broker.Address
import Akson.Lib.Mask

namespace Akson

/-! ## Ranges -/

namespace Ipv4Addr

/-- An IPv4 address that is routed globally; each field excludes its ranges. -/
structure GlobalUnicast (v : Ipv4Addr) : Prop where
  /-- `0.0.0.0/8` -/
  thisNetwork : v.a ≠ 0
  /-- `10.0.0.0/8`, `172.16.0.0/12` and `192.168.0.0/16` -/
  privateUse : ¬ (v.a = 10 ∨ (v.a = 172 ∧ 16 ≤ v.b.toNat ∧ v.b.toNat < 32) ∨
    (v.a = 192 ∧ v.b = 168))
  /-- `127.0.0.0/8` -/
  loopback : v.a ≠ 127
  /-- `169.254.0.0/16` -/
  linkLocal : ¬ (v.a = 169 ∧ v.b = 254)
  /-- `100.64.0.0/10` -/
  shared : ¬ (v.a = 100 ∧ 64 ≤ v.b.toNat ∧ v.b.toNat < 128)
  /-- `192.0.2.0/24`, `198.51.100.0/24` and `203.0.113.0/24` -/
  documentation : ¬ ((v.a = 192 ∧ v.b = 0 ∧ v.c = 2) ∨ (v.a = 198 ∧ v.b = 51 ∧ v.c = 100) ∨
    (v.a = 203 ∧ v.b = 0 ∧ v.c = 113))
  /-- `192.0.0.0/24` -/
  protocolAssignment : ¬ (v.a = 192 ∧ v.b = 0 ∧ v.c = 0)
  /-- `198.18.0.0/15` -/
  benchmarking : ¬ (v.a = 198 ∧ 18 ≤ v.b.toNat ∧ v.b.toNat < 20)
  /-- `224.0.0.0/4` -/
  multicast : ¬ (224 ≤ v.a.toNat ∧ v.a.toNat < 240)
  /-- `240.0.0.0/4`, with the broadcast address -/
  reserved : v.a.toNat < 240

end Ipv4Addr

namespace Ipv6Addr

def IsCompatible (v : Ipv6Addr) : Prop :=
  v.s0 = 0 ∧ v.s1 = 0 ∧ v.s2 = 0 ∧ v.s3 = 0 ∧ v.s4 = 0 ∧ v.s5 = 0

def IsTranslated (v : Ipv6Addr) : Prop :=
  v.s0 = 0x0064 ∧ v.s1 = 0xff9b ∧ v.s2 = 0 ∧ v.s3 = 0 ∧ v.s4 = 0 ∧ v.s5 = 0

def sixToFour (v : Ipv6Addr) : Ipv4Addr :=
  ⟨highByte v.s1, lowByte v.s1, highByte v.s2, lowByte v.s2⟩

/-- The IPv4 addresses an IPv6 address stands for. -/
inductive Embeds (v : Ipv6Addr) : Ipv4Addr → Prop where
  | mapped : v.isMapped = true → Embeds v v.embedded
  | compatible : v.IsCompatible → Embeds v v.embedded
  | translated : v.IsTranslated → Embeds v v.embedded
  | sixToFour : v.s0 = 0x2002 → Embeds v v.sixToFour

structure GlobalUnicast (v : Ipv6Addr) : Prop where
  /-- `2000::/3` -/
  unicast : 0x2000 ≤ v.s0.toNat ∧ v.s0.toNat < 0x4000
  /-- `2001:db8::/32` -/
  documentation : ¬ (v.s0 = 0x2001 ∧ v.s1 = 0x0db8)
  embedded : ∀ w, v.Embeds w → w.GlobalUnicast

/-- An address in none of the classes the code knows. -/
structure OutsideKnown (v : Ipv6Addr) : Prop where
  compatible : ¬ v.IsCompatible
  mapped : v.isMapped = false
  translated : ¬ v.IsTranslated
  /-- `64:ff9b:1::/48` -/
  translatedLocal : ¬ (v.s0 = 0x0064 ∧ v.s1 = 0xff9b ∧ v.s2 = 1)
  /-- `fc00::/7` -/
  uniqueLocal : ¬ (0xfc00 ≤ v.s0.toNat ∧ v.s0.toNat < 0xfe00)
  /-- `fe80::/10`, `fec0::/10` and `ff00::/8` -/
  linkLocal : v.s0.toNat < 0xfe80

end Ipv6Addr

def IpAddr.GlobalUnicast : IpAddr → Prop
  | .v4 v => v.GlobalUnicast
  | .v6 v => v.GlobalUnicast

/-! ## What the gate lets pass -/

theorem ite_some_eq_none_iff {α : Type*} {p : Prop} [Decidable p] {a : α} {o : Option α} :
    (if p then some a else o) = none ↔ ¬ p ∧ o = none := by
  by_cases h : p
  · simp [h]
  · simp [h]

theorem ite_or_some_eq_none_iff {α : Type*} {p : Prop} [Decidable p] {a : α} {e o : Option α} :
    (if p then e.or (some a) else o) = none ↔ ¬ p ∧ o = none := by
  by_cases h : p
  · simp [h]
  · simp [h]

namespace Ipv4Addr

variable {v : Ipv4Addr}

theorem globalUnicast_of_nonGlobalClass (h : v.nonGlobalClass = none) (ha : v.a ≠ 0) :
    v.GlobalUnicast := by
  have hprivate : v.b &&& 0xf0 = 16 ↔ 16 ≤ v.b.toNat ∧ v.b.toNat < 32 :=
    UInt8.and_mask_eq_iff v.b 0xf0 16 4 1 rfl rfl
  have hshared : v.b &&& 0xc0 = 0x40 ↔ 64 ≤ v.b.toNat ∧ v.b.toNat < 128 :=
    UInt8.and_mask_eq_iff v.b 0xc0 0x40 6 1 rfl rfl
  have hbench : v.b &&& 0xfe = 18 ↔ 18 ≤ v.b.toNat ∧ v.b.toNat < 20 :=
    UInt8.and_mask_eq_iff v.b 0xfe 18 1 9 rfl rfl
  simp only [nonGlobalClass, ite_some_eq_none_iff, isPrivate, isDocumentation, decide_eq_true_eq,
    hprivate, hshared, hbench, UInt8.le_iff_toNat_le, and_true] at h
  obtain ⟨-, hloopback, hprivateUse, hlinkLocal, -, hmulticast, hdocumentation, hsharedUse,
    hprotocol, hbenchmarking, hreserved⟩ := h
  refine ⟨ha, hprivateUse, hloopback, hlinkLocal, hsharedUse, hdocumentation, hprotocol,
    hbenchmarking, ?_, ?_⟩
  · rintro ⟨hlow, hhigh⟩
    exact hmulticast ⟨hlow, Nat.le_of_lt_succ hhigh⟩
  · exact Nat.lt_of_not_le hreserved

theorem nonGlobalClass_of_thisNetwork (ha : v.a = 0) (hv : v ≠ ⟨0, 0, 0, 0⟩) :
    v.nonGlobalClass = none := by
  obtain ⟨a, b, c, d⟩ := v
  obtain rfl : a = 0 := ha
  simp [nonGlobalClass, isPrivate, isDocumentation, hv]

end Ipv4Addr

namespace Ipv6Addr

variable {v : Ipv6Addr}

theorem nonGlobalClass_eq_none_iff :
    v.nonGlobalClass = none ↔ v.OutsideKnown ∧ ¬ (v.s0 = 0x2001 ∧ v.s1 = 0x0db8) := by
  have hmulticast : v.s0 &&& 0xff00 = 0xff00 ↔ 0xff00 ≤ v.s0.toNat ∧ v.s0.toNat < 0x10000 :=
    UInt16.and_mask_eq_iff v.s0 0xff00 0xff00 8 0xff rfl rfl
  have hsiteLocal : v.s0 &&& 0xffc0 = 0xfec0 ↔ 0xfec0 ≤ v.s0.toNat ∧ v.s0.toNat < 0xff00 :=
    UInt16.and_mask_eq_iff v.s0 0xffc0 0xfec0 6 0x3fb rfl rfl
  have huniqueLocal : v.s0 &&& 0xfe00 = 0xfc00 ↔ 0xfc00 ≤ v.s0.toNat ∧ v.s0.toNat < 0xfe00 :=
    UInt16.and_mask_eq_iff v.s0 0xfe00 0xfc00 9 0x7e rfl rfl
  have hlinkLocal : v.s0 &&& 0xffc0 = 0xfe80 ↔ 0xfe80 ≤ v.s0.toNat ∧ v.s0.toNat < 0xfec0 :=
    UInt16.and_mask_eq_iff v.s0 0xffc0 0xfe80 6 0x3fa rfl rfl
  have hword : v.s0.toNat < 0x10000 := v.s0.toNat_lt
  simp only [nonGlobalClass, ite_some_eq_none_iff, ite_or_some_eq_none_iff, hmulticast, hsiteLocal,
    huniqueLocal, hlinkLocal, and_true]
  constructor
  · rintro ⟨-, -, hmapped, htranslated, hmulti, hsite, htranslatedLocal, hunique, hlink,
      hdocumentation, hcompatible⟩
    have hlow : v.s0.toNat < 0xfe80 := by omega
    exact ⟨⟨hcompatible, Bool.eq_false_of_not_eq_true hmapped, htranslated, htranslatedLocal, hunique,
      hlow⟩, hdocumentation⟩
  · rintro ⟨h, hdocumentation⟩
    have hlow := h.linkLocal
    refine ⟨?_, ?_, Bool.not_eq_true _ ▸ h.mapped, h.translated, by omega, by omega,
      h.translatedLocal, h.uniqueLocal, by omega, hdocumentation, h.compatible⟩
    · rintro rfl
      exact h.compatible ⟨rfl, rfl, rfl, rfl, rfl, rfl⟩
    · rintro rfl
      exact h.compatible ⟨rfl, rfl, rfl, rfl, rfl, rfl⟩

theorem outsideKnown_of_unicast (hlow : 0x2000 ≤ v.s0.toNat) (hhigh : v.s0.toNat < 0x4000) :
    v.OutsideKnown := by
  have hzero : v.s0 ≠ 0 := by
    intro h
    rw [h] at hlow
    exact absurd hlow (by decide)
  have htranslated : v.s0 ≠ 0x0064 := by
    intro h
    rw [h] at hlow
    exact absurd hlow (by decide)
  refine ⟨fun h => hzero h.1, ?_, fun h => htranslated h.1, fun h => htranslated h.1, by omega,
    by omega⟩
  exact decide_eq_false (fun h => hzero h.1)

theorem embeds_iff_of_unicast (hlow : 0x2000 ≤ v.s0.toNat) (hhigh : v.s0.toNat < 0x4000)
    {w : Ipv4Addr} : v.Embeds w ↔ v.s0 = 0x2002 ∧ w = v.sixToFour := by
  have hout := outsideKnown_of_unicast hlow hhigh
  constructor
  · rintro (h | h | h | h)
    · exact absurd h (Bool.eq_false_iff.1 hout.mapped)
    · exact absurd h hout.compatible
    · exact absurd h hout.translated
    · exact ⟨h, rfl⟩
  · rintro ⟨h, rfl⟩
    exact .sixToFour h

end Ipv6Addr

/-- The addresses that the gate takes for global and that are not: in `0.0.0.0/8` those but the
first; outside `2000::/3` those in no range the gate knows; and in `2002::/16` those that stand for
an IPv4 address that is not global. -/
def IpAddr.Slips : IpAddr → Prop
  | .v4 v => v.a = 0 ∧ v ≠ ⟨0, 0, 0, 0⟩
  | .v6 v => (¬ (0x2000 ≤ v.s0.toNat ∧ v.s0.toNat < 0x4000) ∧ v.OutsideKnown) ∨
      (v.s0 = 0x2002 ∧ ¬ v.sixToFour.GlobalUnicast)

theorem globalUnicast_v4_iff (v : Ipv4Addr) :
    (v.nonGlobalClass = none → v.GlobalUnicast) ↔ ¬ (IpAddr.v4 v).Slips := by
  constructor
  · rintro h ⟨ha, hv⟩
    exact (h (Ipv4Addr.nonGlobalClass_of_thisNetwork ha hv)).thisNetwork ha
  · intro hslips hnone
    refine Ipv4Addr.globalUnicast_of_nonGlobalClass hnone (fun ha => hslips ⟨ha, ?_⟩)
    rintro rfl
    exact absurd hnone (by decide)

theorem globalUnicast_v6_iff (v : Ipv6Addr) :
    (v.nonGlobalClass = none → v.GlobalUnicast) ↔ ¬ (IpAddr.v6 v).Slips := by
  rw [Ipv6Addr.nonGlobalClass_eq_none_iff]
  constructor
  · rintro h (⟨hrange, hout⟩ | ⟨hsix, hglobal⟩)
    · -- outside `2000::/3` it is not a documentation address either
      refine hrange (h ⟨hout, fun hdoc => hrange ?_⟩).unicast
      rw [hdoc.1]
      decide
    · have hlow : 0x2000 ≤ v.s0.toNat := by rw [hsix]; decide
      have hhigh : v.s0.toNat < 0x4000 := by rw [hsix]; decide
      have hdoc : ¬ (v.s0 = 0x2001 ∧ v.s1 = 0x0db8) := by
        rintro ⟨hdoc, -⟩
        rw [hsix] at hdoc
        exact absurd hdoc (by decide)
      exact hglobal ((h ⟨Ipv6Addr.outsideKnown_of_unicast hlow hhigh, hdoc⟩).embedded _
        (.sixToFour hsix))
  · rintro hslips ⟨hout, hdoc⟩
    have hrange : 0x2000 ≤ v.s0.toNat ∧ v.s0.toNat < 0x4000 := by
      by_contra hrange
      exact hslips (.inl ⟨hrange, hout⟩)
    refine ⟨hrange, hdoc, fun w hw => ?_⟩
    obtain ⟨hsix, rfl⟩ := (Ipv6Addr.embeds_iff_of_unicast hrange.1 hrange.2).1 hw
    by_contra hglobal
    exact hslips (.inr ⟨hsix, hglobal⟩)

theorem checkResolvedAddress_eq_ok_iff {addr : IpAddr} {policy : EgressPolicy}
    (hlocal : policy.allowNonGlobal = false) :
    checkResolvedAddress addr policy = .ok () ↔ addr.nonGlobalClass = none := by
  unfold checkResolvedAddress
  cases addr.nonGlobalClass with
  | none => simp
  | some addrClass => simp [Except.ensure, hlocal]

/-- Without the opt-in for local processors, an address that is accepted is globally routable
exactly if it is none of those that slip through. -/
theorem accepted_address_global_iff (addr : IpAddr) (policy : EgressPolicy)
    (hlocal : policy.allowNonGlobal = false) :
    (checkResolvedAddress addr policy = .ok () → addr.GlobalUnicast) ↔ ¬ addr.Slips := by
  rw [checkResolvedAddress_eq_ok_iff hlocal]
  cases addr with
  | v4 v => exact globalUnicast_v4_iff v
  | v6 v => exact globalUnicast_v6_iff v

/-- An address of a public resolver is accepted, and it is global. -/
theorem accepted_address_global_iff_public : (⟨[], false⟩ : EgressPolicy).allowNonGlobal = false ∧
    checkResolvedAddress (.v4 ⟨8, 8, 8, 8⟩) ⟨[], false⟩ = .ok () ∧
    (IpAddr.v4 ⟨8, 8, 8, 8⟩).GlobalUnicast :=
  ⟨rfl, rfl, (accepted_address_global_iff (.v4 ⟨8, 8, 8, 8⟩) ⟨[], false⟩ rfl).2
    (fun h => absurd h.1 (by decide)) rfl⟩

/-- `2002:7f00:1::` stands for `127.0.0.1`, and it is accepted. -/
theorem loopback_accepted_by_6to4 :
    checkResolvedAddress (.v6 ⟨0x2002, 0x7f00, 1, 0, 0, 0, 0, 0⟩) ⟨[], false⟩ = .ok () ∧
    ¬ (IpAddr.v6 ⟨0x2002, 0x7f00, 1, 0, 0, 0, 0, 0⟩).GlobalUnicast :=
  ⟨rfl, fun h => (h.embedded _ (.sixToFour rfl)).loopback (by decide)⟩

end Akson
