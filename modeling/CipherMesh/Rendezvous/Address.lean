import Mathlib.Logic.Basic
import Mathlib.Tactic.Common

/-!
# Addresses

A multiaddress is a sequence of protocol components; writing it as text and parsing
it are parameters.  Only the components that lead directly to a peer pass.
-/

namespace CipherMesh

structure Ipv4Addr where
  a : UInt8
  b : UInt8
  c : UInt8
  d : UInt8
  deriving DecidableEq, Repr

namespace Ipv4Addr

/-! The documented ranges of the standard library. -/

def isUnspecified (ip : Ipv4Addr) : Bool := ip == ⟨0, 0, 0, 0⟩

def isLoopback (ip : Ipv4Addr) : Bool := ip.a == 127

def isLinkLocal (ip : Ipv4Addr) : Bool := ip.a == 169 && ip.b == 254

def isMulticast (ip : Ipv4Addr) : Bool := 224 ≤ ip.a && ip.a ≤ 239

def isBroadcast (ip : Ipv4Addr) : Bool := ip == ⟨255, 255, 255, 255⟩

def isDocumentation (ip : Ipv4Addr) : Bool :=
  (ip.a == 192 && ip.b == 0 && ip.c == 2) || (ip.a == 198 && ip.b == 51 && ip.c == 100) ||
    (ip.a == 203 && ip.b == 0 && ip.c == 113)

end Ipv4Addr

/-- The eight segments of an address. -/
structure Ipv6Addr where
  s0 : UInt16
  s1 : UInt16
  s2 : UInt16
  s3 : UInt16
  s4 : UInt16
  s5 : UInt16
  s6 : UInt16
  s7 : UInt16
  deriving DecidableEq, Repr

namespace Ipv6Addr

def isUnspecified (ip : Ipv6Addr) : Bool := ip == ⟨0, 0, 0, 0, 0, 0, 0, 0⟩

def isLoopback (ip : Ipv6Addr) : Bool := ip == ⟨0, 0, 0, 0, 0, 0, 0, 1⟩

def isUnicastLinkLocal (ip : Ipv6Addr) : Bool := ip.s0 &&& 0xffc0 == 0xfe80

def isMulticast (ip : Ipv6Addr) : Bool := ip.s0 &&& 0xff00 == 0xff00

end Ipv6Addr

inductive IpAddr where
  | v4 (ip : Ipv4Addr)
  | v6 (ip : Ipv6Addr)
  deriving DecidableEq, Repr

/-- The components that the code tells apart. -/
inductive Protocol where
  | ip4 (ip : Ipv4Addr)
  | ip6 (ip : Ipv6Addr)
  | tcp (port : UInt16)
  | p2pCircuit
  | other (text : String)
  deriving DecidableEq, Repr

abbrev Multiaddr := List Protocol

/-- How an address is written as text and parsed. -/
structure AddressText where
  parse : String → Option Multiaddr
  render : Multiaddr → String

def isDialablePeerIp : IpAddr → Bool
  | .v4 ip => !ip.isUnspecified && !ip.isLoopback && !ip.isLinkLocal && !ip.isMulticast &&
      !ip.isBroadcast && !ip.isDocumentation
  | .v6 ip => !ip.isUnspecified && !ip.isLoopback && !ip.isUnicastLinkLocal && !ip.isMulticast

def isUsableRemoteIp : IpAddr → Bool
  | .v4 ip => !ip.isUnspecified && !ip.isLoopback
  | .v6 ip => !ip.isUnspecified && !ip.isLoopback

/-- A component that is kept because it leads to a peer. -/
def Protocol.isUsableIp : Protocol → Bool
  | .ip4 ip => isDialablePeerIp (.v4 ip)
  | .ip6 ip => isDialablePeerIp (.v6 ip)
  | _ => false

def Protocol.isTcp : Protocol → Bool
  | .tcp _ => true
  | _ => false

def sanitizeDirectAddress (address : Multiaddr) : Option Multiaddr :=
  if address.any (· == .p2pCircuit) then none
  else if address.any Protocol.isUsableIp && address.any Protocol.isTcp then
    some (address.filter fun component => component.isUsableIp || component.isTcp)
  else none

def sanitizeDirectAddressText (text : AddressText) (address : String) : Option String := do
  let parsed ← text.parse address
  let sanitized ← sanitizeDirectAddress parsed
  return text.render sanitized

/-- The loop of `direct_address_from_listener`.  `lanIp` is what `lan_ip_candidate` finds. -/
def directComponents (lanIp : Option IpAddr) : Multiaddr → Option Multiaddr
  | [] => some []
  | .ip4 ip :: rest =>
      if ip.isUnspecified then
        match lanIp with
        | some (.v4 lan) => (directComponents lanIp rest).map (.ip4 lan :: ·)
        | _ => none
      else if isUsableRemoteIp (.v4 ip) then
        (directComponents lanIp rest).map (.ip4 ip :: ·)
      else directComponents lanIp rest
  | .ip6 ip :: rest =>
      if ip.isUnspecified then none
      else if isUsableRemoteIp (.v6 ip) then
        (directComponents lanIp rest).map (.ip6 ip :: ·)
      else directComponents lanIp rest
  | .tcp port :: rest => (directComponents lanIp rest).map (.tcp port :: ·)
  | _ :: rest => directComponents lanIp rest

def Protocol.isIp : Protocol → Bool
  | .ip4 _ | .ip6 _ => true
  | _ => false

def directAddressFromListener (lanIp : Option IpAddr) (address : Multiaddr) :
    Option Multiaddr := do
  let components ← directComponents lanIp address
  if components.any Protocol.isIp && components.any Protocol.isTcp then some components else none

end CipherMesh
