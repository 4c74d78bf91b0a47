import CipherMesh.Rendezvous.Address

/-!
# Which addresses are dialled

What passes `sanitizeDirectAddress` should lead to another machine: it consists of IP
and TCP components, and none of its IP components reaches this machine, its link or a
group.  An IPv4-mapped IPv6 address reaches the IPv4 address that it holds, which the
IPv6 predicates do not look at.
-/

namespace CipherMesh

namespace Ipv4Addr

/-- A destination that is not one other machine. -/
def isReserved (ip : Ipv4Addr) : Bool :=
  ip.isUnspecified || ip.isLoopback || ip.isLinkLocal || ip.isMulticast

end Ipv4Addr

namespace Ipv6Addr

def isReserved (ip : Ipv6Addr) : Bool :=
  ip.isUnspecified || ip.isLoopback || ip.isUnicastLinkLocal || ip.isMulticast

/-- The IPv4 address in an address of the form `::ffff:a.b.c.d`. -/
def toIpv4Mapped (ip : Ipv6Addr) : Option Ipv4Addr :=
  if ip.s0 = 0 ∧ ip.s1 = 0 ∧ ip.s2 = 0 ∧ ip.s3 = 0 ∧ ip.s4 = 0 ∧ ip.s5 = 0xffff then
    some ⟨(ip.s6 >>> 8).toUInt8, ip.s6.toUInt8, (ip.s7 >>> 8).toUInt8, ip.s7.toUInt8⟩
  else none

/-- The IPv4-mapped form of a reserved IPv4 address. -/
def mapsReserved (ip : Ipv6Addr) : Bool := ip.toIpv4Mapped.any Ipv4Addr.isReserved

end Ipv6Addr

/-- The component leads to a reserved destination. -/
def Protocol.reachesReserved : Protocol → Bool
  | .ip4 ip => ip.isReserved
  | .ip6 ip => ip.isReserved || ip.mapsReserved
  | _ => false

/-- The component is an IPv4-mapped form of a reserved address. -/
def Protocol.hidesReserved : Protocol → Bool
  | .ip6 ip => ip.mapsReserved
  | _ => false

/-- An address that leads directly to a machine. -/
structure Dialable (address : Multiaddr) : Prop where
  components : ∀ component ∈ address, component.isIp = true ∨ component.isTcp = true
  hasIp : ∃ component ∈ address, component.isIp = true
  hasTcp : ∃ component ∈ address, component.isTcp = true
  destinations : ∀ component ∈ address, component.reachesReserved = false

/-! ## The components -/

namespace Protocol

theorem isIp_of_isUsableIp {component : Protocol} (usable : component.isUsableIp = true) :
    component.isIp = true := by
  cases component with
  | ip4 | ip6 => rfl
  | tcp | p2pCircuit | other => cases usable

/-- The ranges of an address itself are checked. -/
theorem reachesReserved_of_isUsableIp {component : Protocol}
    (usable : component.isUsableIp = true) :
    component.reachesReserved = component.hidesReserved := by
  cases component with
  | ip4 ip =>
      simp only [isUsableIp, isDialablePeerIp, Bool.and_eq_true, Bool.not_eq_true'] at usable
      simp [reachesReserved, hidesReserved, Ipv4Addr.isReserved, usable]
  | ip6 ip =>
      simp only [isUsableIp, isDialablePeerIp, Bool.and_eq_true, Bool.not_eq_true'] at usable
      simp [reachesReserved, hidesReserved, Ipv6Addr.isReserved, usable]
  | tcp | p2pCircuit | other => cases usable

theorem reachesReserved_eq_false_of_isTcp {component : Protocol}
    (isTcp : component.isTcp = true) : component.reachesReserved = false := by
  cases component with
  | tcp => rfl
  | ip4 | ip6 | p2pCircuit | other => cases isTcp

/-- No mapped form is in one of the IPv6 ranges. -/
theorem isUsableIp_of_hidesReserved {component : Protocol}
    (hides : component.hidesReserved = true) : component.isUsableIp = true := by
  cases component with
  | ip6 ip =>
      simp only [hidesReserved, Ipv6Addr.mapsReserved, Ipv6Addr.toIpv4Mapped] at hides
      split at hides
      · next mapped =>
          cases ip with
          | mk s0 s1 s2 s3 s4 s5 s6 s7 =>
              simp only at mapped
              simp [isUsableIp, isDialablePeerIp, Ipv6Addr.isUnspecified, Ipv6Addr.isLoopback,
                Ipv6Addr.isUnicastLinkLocal, Ipv6Addr.isMulticast, mapped]
      · cases hides
  | ip4 | tcp | p2pCircuit | other => cases hides

theorem reachesReserved_of_hidesReserved {component : Protocol}
    (hides : component.hidesReserved = true) : component.reachesReserved = true := by
  rw [reachesReserved_of_isUsableIp (isUsableIp_of_hidesReserved hides)]
  exact hides

end Protocol

/-! ## What passes -/

theorem sanitizeDirectAddress_eq_some_iff {address sanitized : Multiaddr} :
    sanitizeDirectAddress address = some sanitized ↔
      Protocol.p2pCircuit ∉ address ∧ (∃ component ∈ address, component.isUsableIp = true) ∧
        (∃ component ∈ address, component.isTcp = true) ∧
        sanitized = address.filter fun component => component.isUsableIp || component.isTcp := by
  have hasCircuit : (address.any fun component => component == .p2pCircuit) = true ↔
      Protocol.p2pCircuit ∈ address := by
    simp
  simp only [sanitizeDirectAddress, hasCircuit, Bool.and_eq_true, List.any_eq_true]
  split
  · next circuit => simp [circuit]
  split
  · next circuit complete =>
      rw [Option.some.injEq, eq_comm]
      simp only [circuit, complete.1, complete.2, not_false_eq_true, true_and]
  · next circuit incomplete =>
      constructor
      · exact nofun
      · rintro ⟨-, hasIp, hasTcp, -⟩
        exact absurd ⟨hasIp, hasTcp⟩ incomplete

/-- What passes once passes again, unchanged. -/
theorem sanitizeDirectAddress_of_eq_some {address sanitized : Multiaddr}
    (passed : sanitizeDirectAddress address = some sanitized) :
    sanitizeDirectAddress sanitized = some sanitized := by
  obtain ⟨-, hasIp, hasTcp, rfl⟩ := sanitizeDirectAddress_eq_some_iff.mp passed
  apply sanitizeDirectAddress_eq_some_iff.mpr
  simp only [List.mem_filter, List.filter_filter, Bool.and_self]
  refine ⟨?_, ?_, ?_, trivial⟩
  · intro circuit
    cases circuit.2
  · obtain ⟨component, member, usable⟩ := hasIp
    exact ⟨component, ⟨member, by simp [usable]⟩, usable⟩
  · obtain ⟨component, member, isTcp⟩ := hasTcp
    exact ⟨component, ⟨member, by simp [isTcp]⟩, isTcp⟩

/-- Only hidden destinations are missed. -/
theorem dialable_of_eq_some {address sanitized : Multiaddr}
    (passed : sanitizeDirectAddress address = some sanitized)
    (plain : ∀ component ∈ address, component.hidesReserved = false) : Dialable sanitized := by
  obtain ⟨-, hasIp, hasTcp, rfl⟩ := sanitizeDirectAddress_eq_some_iff.mp passed
  constructor
  case components =>
    intro component member
    have passes := (List.mem_filter.mp member).2
    cases usable : component.isUsableIp with
    | true => exact .inl (Protocol.isIp_of_isUsableIp usable)
    | false => exact .inr (by simpa [usable] using passes)
  case hasIp =>
    obtain ⟨component, member, usable⟩ := hasIp
    exact ⟨component, List.mem_filter.mpr ⟨member, by simp [usable]⟩,
      Protocol.isIp_of_isUsableIp usable⟩
  case hasTcp =>
    obtain ⟨component, member, isTcp⟩ := hasTcp
    exact ⟨component, List.mem_filter.mpr ⟨member, by simp [isTcp]⟩, isTcp⟩
  case destinations =>
    intro component member
    have kept := List.mem_filter.mp member
    cases usable : component.isUsableIp with
    | true =>
        rw [Protocol.reachesReserved_of_isUsableIp usable]
        exact plain component kept.1
    | false =>
        apply Protocol.reachesReserved_eq_false_of_isTcp
        simpa [usable] using kept.2

/-- What passes is dialable and passes again unchanged, exactly if the address is relayed,
names no TCP port, or hides no reserved destination in an IPv4-mapped form. -/
theorem sanitized_dialable_iff (address : Multiaddr) :
    (∀ sanitized, sanitizeDirectAddress address = some sanitized →
        Dialable sanitized ∧ sanitizeDirectAddress sanitized = some sanitized) ↔
      Protocol.p2pCircuit ∈ address ∨ (∀ component ∈ address, component.isTcp = false) ∨
        ∀ component ∈ address, component.hidesReserved = false := by
  constructor
  · intro dialable
    by_cases circuit : Protocol.p2pCircuit ∈ address
    · exact .inl circuit
    by_cases hasTcp : ∃ component ∈ address, component.isTcp = true
    · -- With a port, one hidden destination is enough for the address to pass.
      refine .inr (.inr fun component member => ?_)
      cases hides : component.hidesReserved with
      | false => rfl
      | true =>
          have usable := Protocol.isUsableIp_of_hidesReserved hides
          have passed := dialable _ (sanitizeDirectAddress_eq_some_iff.mpr
            ⟨circuit, ⟨component, member, usable⟩, hasTcp, rfl⟩)
          have reached := passed.1.destinations component
            (List.mem_filter.mpr ⟨member, by simp [usable]⟩)
          rw [Protocol.reachesReserved_of_hidesReserved hides] at reached
          cases reached
    · exact .inr (.inl (by simpa using hasTcp))
  · intro condition sanitized passed
    refine ⟨?_, sanitizeDirectAddress_of_eq_some passed⟩
    obtain ⟨direct, -, hasTcp, -⟩ := sanitizeDirectAddress_eq_some_iff.mp passed
    rcases condition with circuit | noTcp | plain
    · exact absurd circuit direct
    · obtain ⟨component, member, isTcp⟩ := hasTcp
      rw [noTcp component member] at isTcp
      cases isTcp
    · exact dialable_of_eq_some passed plain

namespace Symbolic

/-- `/ip6/::ffff:127.0.0.1/tcp/5000` -/
def mappedLoopback : Multiaddr := [.ip6 ⟨0, 0, 0, 0, 0, 0xffff, 0x7f00, 1⟩, .tcp 5000]

/-- The IPv4-mapped form of the loopback address passes. -/
theorem mappedLoopback_passes :
    ¬∀ (address sanitized : Multiaddr), sanitizeDirectAddress address = some sanitized →
      Dialable sanitized ∧ sanitizeDirectAddress sanitized = some sanitized := by
  intro dialable
  have passed : sanitizeDirectAddress mappedLoopback = some mappedLoopback := by
    decide +kernel
  have reached := (dialable mappedLoopback mappedLoopback passed).1.destinations
    (.ip6 ⟨0, 0, 0, 0, 0, 0xffff, 0x7f00, 1⟩) (by decide +kernel)
  exact absurd reached (by decide +kernel)

end Symbolic

end CipherMesh
