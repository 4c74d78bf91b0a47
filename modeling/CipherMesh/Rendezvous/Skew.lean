import CipherMesh.Rendezvous.Network

/-!
# Two clocks

The inviter computes the expiry of its invite on its own clock, once, and the service
checks it on another.  The greatest lifetime that the service accepts is the one that
the inviter asks for, so the clock of the service must not be behind when a registration
arrives.
-/

namespace CipherMesh

open Foundation

variable {P : Primitives}

namespace PublicService

variable {text : AddressText} {service : PublicService}

theorem registerInvite_eq_invalid_expiry_iff (peer : PeerId) (now expiresAtUnixSecs : UInt64)
    (codeHash : String) (directAddresses : List String) :
    (service.registerInvite text peer now codeHash expiresAtUnixSecs directAddresses).1 =
        .error "invalid invite expiry" ↔
      peer ∈ service.reservedPeers ∧
        (expiresAtUnixSecs ≤ now ∨ expiresAtUnixSecs > now + inviteTtlSecs) := by
  unfold registerInvite
  split
  · next unreserved =>
      simp [unreserved]
  · next reserved =>
      split
      · next outside => simp_all
      · next inside =>
          split <;> simp_all

end PublicService

/-- A lifetime of `inviteTtlSecs` leaves the range that the service accepts exactly if the
clock of the service is behind or close to its end. -/
theorem expiry_outside_iff {computed arrival : UInt64} {delay : Nat} {offset : Int}
    (arrived : (arrival.toNat : Int) = computed.toNat + delay + offset)
    (ahead : -(inviteTtlSecs.toNat : Int) < offset)
    (inTime : delay + offset < inviteTtlSecs.toNat) :
    computed + inviteTtlSecs ≤ arrival ∨ computed + inviteTtlSecs > arrival + inviteTtlSecs ↔
      delay + offset < 0 ∨ UInt64.size ≤ arrival.toNat + inviteTtlSecs.toNat := by
  have ttl : inviteTtlSecs.toNat = 300 := rfl
  have computedBound := computed.toNat_lt
  have arrivalBound := arrival.toNat_lt
  rw [gt_iff_lt, UInt64.le_iff_toNat_le, UInt64.lt_iff_toNat_lt, UInt64.toNat_add,
    UInt64.toNat_add, ttl]
  rw [ttl] at ahead inTime
  simp only [UInt64.size]
  omega

namespace PairingNetwork

variable {text : AddressText} {wire : PairingWire P}

/-- The inviter keeps its expiry, and asks the service only to register it. -/
theorem mem_toService_of_reaches {start network : PairingNetwork P}
    (run : (system text wire).Reaches start network) (fresh : start.inviter.toService = [])
    {request : PairingRequest} (sent : request ∈ network.inviter.toService) :
    ∃ addresses, request =
      .registerInvite network.inviter.codeHash start.inviter.expiresAt addresses := by
  have kept : network.RegistersOwn ∧ network.inviter.expiresAt = start.inviter.expiresAt := by
    apply run.invariant
    · refine ⟨fun request member => ?_, rfl⟩
      rw [fresh] at member
      cases member
    · intro network event kept _
      have advances : Advances text network event (network.next text wire event) :=
        next_advances event
      exact ⟨kept.1.next advances, advances.inviter.expiresAt.trans kept.2⟩
  obtain ⟨addresses, same⟩ := kept.1 request sent
  exact ⟨addresses, kept.2 ▸ same⟩

/-- A registration of an inviter that computed its expiry at `computed` arrives `delay`
seconds later, at a service whose clock is ahead by `offset`.  It is refused for its expiry
exactly if the inviter is reserved and the clock of the service is behind what the inviter
has read, or so late that the range overflows. -/
theorem registration_refused_iff {start network : PairingNetwork P}
    (run : (system text wire).Reaches start network) {servicePeerId : PeerId}
    {computed : UInt64} {directListenerPending : Bool} {listener : ChatListener P}
    (began : start.inviter = .started start.inviter.peerId servicePeerId start.inviter.codeHash
      computed directListenerPending listener)
    {request : PairingRequest} (sent : request ∈ network.inviter.toService)
    {arrival : UInt64} {delay : Nat} {offset : Int}
    (arrived : (arrival.toNat : Int) = computed.toNat + delay + offset)
    (skew : offset.natAbs < inviteTtlSecs.toNat) (inTime : delay + offset < inviteTtlSecs.toNat) :
    network.responseTo text network.inviter.peerId request arrival =
        .error "invalid invite expiry" ↔
      network.inviter.peerId ∈ network.service.service.reservedPeers ∧
        (delay + offset < 0 ∨ UInt64.size ≤ arrival.toNat + inviteTtlSecs.toNat) := by
  have fresh : start.inviter.toService = [] := by rw [began]; rfl
  have expiry : start.inviter.expiresAt = computed + inviteTtlSecs := by rw [began]; rfl
  obtain ⟨addresses, rfl⟩ := mem_toService_of_reaches run fresh sent
  have ahead : -(inviteTtlSecs.toNat : Int) < offset := by omega
  rw [← expiry_outside_iff arrived ahead inTime, ← expiry]
  exact PublicService.registerInvite_eq_invalid_expiry_iff ..

end PairingNetwork

namespace Symbolic

/-- Alice, who has read 100 on her clock, is reserved and sends her registration. -/
def registrationSent : List (PairingEvent primitives) :=
  [.reservationAccepted "alice" false, .serviceMessageArrives]

theorem registrationSent_permits :
    (PairingNetwork.system addressText pairingWire).Permits invited registrationSent := by
  decide +kernel

/-- The registration arrives at once, at a clock that is a second behind. -/
theorem registration_refused_behind : ∃ network,
    (PairingNetwork.system addressText pairingWire).Reachable network ∧
    network.inviter.peerId ∈ network.service.service.reservedPeers ∧
    (∃ request ∈ network.inviter.toService, request = .registerInvite "hash" (100 + 300) [] ∧
      (PairingNetwork.system addressText pairingWire).permitted network
        (.inviterRequestArrives 99) ∧
      network.responseTo addressText network.inviter.peerId request 99 =
        .error "invalid invite expiry") :=
  ⟨_, ⟨invited, invited_begins, registrationSent_permits.reaches⟩, by decide +kernel,
    .registerInvite "hash" (100 + 300) [], by decide +kernel, rfl, by decide +kernel,
    by decide +kernel⟩

theorem registration_refused_behind_iff :
    let network := (PairingNetwork.system addressText pairingWire).run invited registrationSent
    network.responseTo addressText network.inviter.peerId (.registerInvite "hash" 400 []) 99 =
        .error "invalid invite expiry" ↔
      network.inviter.peerId ∈ network.service.service.reservedPeers ∧
        ((0 : Int) + -1 < 0 ∨ UInt64.size ≤ 99 + inviteTtlSecs.toNat) :=
  PairingNetwork.registration_refused_iff registrationSent_permits.reaches rfl
    (by decide +kernel)
    (show ((99 : UInt64).toNat : Int) = (100 : UInt64).toNat + (0 : Nat) + -1 by decide)
    (by decide) (by decide)

end Symbolic

end CipherMesh
