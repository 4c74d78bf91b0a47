import CipherMesh.Rendezvous.Network

/-!
# An invite code is resolved once

The service forgets a code that it has resolved, and an inviter whose relay listener
closes registers its code again.  A code is resolved at most once when the service
accepts no registration of a code that it has already resolved.
-/

namespace CipherMesh

open Foundation

variable {P : Primitives} {text : AddressText} {codeHash : String}

/-- The code has been resolved at most once, and what has been resolved is gone. -/
structure UsedOnce (codeHash : String) (run : ServiceRun) : Prop where
  atMostOnce : (resolvers codeHash run.history).length ≤ 1
  removed : resolvers codeHash run.history ≠ [] → run.service.invitations codeHash = none

namespace PublicService

/-- The peer has a reservation, and the expiry of its invite is neither past nor too far. -/
def Allows (peer : PeerId) (now expiresAtUnixSecs : UInt64) (service : PublicService) : Prop :=
  peer ∈ service.reservedPeers ∧ now < expiresAtUnixSecs ∧
    expiresAtUnixSecs ≤ now + inviteTtlSecs

instance (peer : PeerId) (now expiresAtUnixSecs : UInt64) (service : PublicService) :
    Decidable (service.Allows peer now expiresAtUnixSecs) := inferInstanceAs (Decidable (_ ∧ _))

/-- Any other registration is refused. -/
theorem registerInvite_of_not_allows {service : PublicService} {peer : PeerId}
    {now expiresAtUnixSecs : UInt64} (refused : ¬ service.Allows peer now expiresAtUnixSecs)
    (other : String) (directAddresses : List String) :
    (service.registerInvite text peer now other expiresAtUnixSecs directAddresses).2 =
      service := by
  unfold registerInvite
  split
  · rfl
  · next reserved =>
      split
      · rfl
      · next current =>
          rw [not_or, UInt64.not_le, gt_iff_lt, UInt64.not_lt] at current
          exact absurd ⟨not_not.mp reserved, current⟩ refused

end PublicService

/-- A registration of the code that the service does not refuse arrives only while the code has
not been resolved. -/
def ServiceEvent.RegistersUnused (codeHash : String) (run : ServiceRun) : ServiceEvent → Prop
  | .request peer (.registerInvite other expiresAtUnixSecs _) now =>
      other = codeHash → run.service.Allows peer now expiresAtUnixSecs →
        resolvers codeHash run.history = []
  | _ => True

theorem resolvers_resolveInvite (peer : PeerId) (response : PairingResponse)
    (history : List ServiceEntry) {other : String} (different : other ≠ codeHash) :
    resolvers codeHash (.answered peer (.resolveInvite other) response :: history) =
      resolvers codeHash history := by
  cases response <;> simp only [resolvers, if_neg different]

instance (run : ServiceRun) : ∀ event : ServiceEvent,
    Decidable (event.RegistersUnused codeHash run)
  | .request peer (.registerInvite other expiresAtUnixSecs _) now =>
      inferInstanceAs (Decidable (other = codeHash →
        run.service.Allows peer now expiresAtUnixSecs → resolvers codeHash run.history = []))
  | .request _ (.resolveInvite _) _ | .request _ .preKeyBundle _ | .request _ (.initialMessage _) _
  | .request _ (.chatFrame _) _ | .reservationAccepted _ | .reservationEnded _ => .isTrue trivial

namespace UsedOnce

variable {run : ServiceRun} {service : PublicService} {history : List ServiceEntry}
variable {clock now : UInt64} {peer : PeerId}

theorem registerInvite {other : String} {expiresAtUnixSecs : UInt64}
    {directAddresses : List String} (once : UsedOnce codeHash ⟨service, clock, history⟩)
    (unused : other = codeHash → service.Allows peer now expiresAtUnixSecs →
      resolvers codeHash history = []) :
    UsedOnce codeHash ⟨(service.registerInvite text peer now other expiresAtUnixSecs
      directAddresses).2, now, .answered peer (.registerInvite other expiresAtUnixSecs
        directAddresses) (service.registerInvite text peer now other expiresAtUnixSecs
          directAddresses).1 :: history⟩ where
  atMostOnce := once.atMostOnce
  removed used := by
    by_cases allows : service.Allows peer now expiresAtUnixSecs
    · have different : codeHash ≠ other := fun same => used (unused same.symm allows)
      exact (PublicService.registerInvite_invitations_of_ne different).trans (once.removed used)
    · rw [PublicService.registerInvite_of_not_allows allows]
      exact once.removed used

theorem resolveInvite {other : String} (once : UsedOnce codeHash ⟨service, clock, history⟩) :
    UsedOnce codeHash ⟨(service.resolveInvite other).2, now,
      .answered peer (.resolveInvite other) (service.resolveInvite other).1 :: history⟩ := by
  rw [PublicService.resolveInvite_snd]
  by_cases same : other = codeHash
  · subst same
    refine ⟨?_, fun _ => Function.update_self _ _ _⟩
    match answer : (service.resolveInvite other).1 with
    | .resolved peerId directAddresses =>
        -- The service held the code, so it has not been resolved before.
        obtain ⟨invite, found, _⟩ := PublicService.resolveInvite_eq_resolved answer
        have unused : resolvers other history = [] := by
          by_contra used
          cases found.symm.trans (once.removed used)
        simp only [resolvers, if_true, unused, List.length_cons, List.length_nil, Nat.le_refl]
    | .registered | .preKeyBundle _ | .ack _ | .error _ => exact once.atMostOnce
  · have sameResolvers := resolvers_resolveInvite peer (service.resolveInvite other).1 history same
    refine ⟨sameResolvers ▸ once.atMostOnce, fun used => ?_⟩
    exact (Function.update_of_ne (Ne.symm same) _ _).trans (once.removed (sameResolvers ▸ used))

theorem next {event : ServiceEvent} (once : UsedOnce codeHash run)
    (unused : event.RegistersUnused codeHash run) :
    UsedOnce codeHash (run.next text event) := by
  cases event with
  | reservationAccepted peer => exact ⟨once.atMostOnce, once.removed⟩
  | reservationEnded peer =>
      exact ⟨once.atMostOnce, fun used => PublicService.retain_eq_none (once.removed used)⟩
  | request peer request now =>
      have current : UsedOnce codeHash
          ⟨run.service.retain fun invite => invite.expiresAtUnixSecs > now, now, run.history⟩ :=
        ⟨once.atMostOnce, fun used => PublicService.retain_eq_none (once.removed used)⟩
      cases request with
      | registerInvite => exact current.registerInvite unused
      | resolveInvite => exact current.resolveInvite
      | preKeyBundle | initialMessage | chatFrame => exact ⟨current.atMostOnce, current.removed⟩

end UsedOnce

namespace PairingNetwork

/-- The runs in which the service gets a registration of the inviter's code that it does not
refuse only while it has not resolved the code. -/
def registeringUnused (text : AddressText) (wire : PairingWire P) :
    System (PairingNetwork P) (PairingEvent P) :=
  (system text wire).restrict fun network event => ∀ served ∈ network.serviceEvent event,
    served.RegistersUnused network.inviter.codeHash network.service

theorem resolved_at_most_once {wire : PairingWire P} {network : PairingNetwork P}
    (reachable : (registeringUnused text wire).Reachable network) :
    network.resolvers.length ≤ 1 := by
  have once : UsedOnce network.inviter.codeHash network.service := by
    refine reachable.invariant
      (fun network => UsedOnce network.inviter.codeHash network.service) ?_ ?_
    · intro start begins
      refine ⟨?_, fun used => ?_⟩
      · rw [begins.history]
        exact Nat.zero_le 1
      · rw [begins.history] at used
        exact absurd rfl used
    · rintro network event once ⟨_, unused⟩
      have advances : Advances text network event (network.next text wire event) :=
        next_advances event
      change UsedOnce (network.next text wire event).inviter.codeHash
        (network.next text wire event).service
      rw [advances.inviter.codeHash, advances.service]
      cases takesPart : network.serviceEvent event with
      | none => exact once
      | some served => exact once.next (unused served takesPart)
  exact once.atMostOnce

end PairingNetwork

namespace Symbolic

/-- Alice registers an invite and Bob resolves it. -/
def resolvedOnce : List (PairingEvent primitives) :=
  [.reservationAccepted "alice" false, .serviceMessageArrives, .inviterRequestArrives 100,
    .serviceMessageArrives, .serviceConnected "bob", .joinerRequestArrives "bob" 110]

/-- Her relay listener closes, and she registers the code again: at the time `again` the
registration arrives. -/
def registersAgain (again : UInt64) : List (PairingEvent primitives) :=
  resolvedOnce ++ [.reservationEnded "alice", .relayListenerClosed (.ok ()),
    .reservationAccepted "alice" false, .serviceMessageArrives, .inviterRequestArrives again]

/-- A registration that arrives after its expiry is refused. -/
theorem code_resolved_once :
    let network := (PairingNetwork.system addressText pairingWire).run invited
      (registersAgain 5000)
    network.resolvers = ["bob"] ∧ network.resolvers.length ≤ 1 := by
  intro network
  have permits : (PairingNetwork.registeringUnused addressText pairingWire).Permits invited
      (registersAgain 5000) := by
    unfold PairingNetwork.registeringUnused
    decide +kernel
  exact ⟨by decide +kernel, PairingNetwork.resolved_at_most_once
    (show (PairingNetwork.registeringUnused addressText pairingWire).Reachable network from
      ⟨invited, invited_begins, permits.reaches⟩)⟩

/-- One that arrives in time is accepted, and Carol resolves the code. -/
def resolvedTwice : List (PairingEvent primitives) :=
  registersAgain 120 ++ [.serviceConnected "carol", .joinerRequestArrives "carol" 130]

theorem code_resolved_twice : ∃ network,
    (PairingNetwork.system addressText pairingWire).Reachable network ∧
      network.resolvers = ["carol", "bob"] := by
  have permits : (PairingNetwork.system addressText pairingWire).Permits invited
      resolvedTwice := by decide +kernel
  exact ⟨_, ⟨invited, invited_begins, permits.reaches⟩, by decide +kernel⟩

end Symbolic

end CipherMesh
