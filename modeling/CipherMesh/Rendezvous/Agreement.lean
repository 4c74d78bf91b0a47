import CipherMesh.Rendezvous.SingleUse

/-!
# The inviter and the service agree

An inviter that believes to be registered relies on an invite at the service.  The
service drops the invite when the reservation ends, and a `Registered` of that
reservation may still be on its way when the next one is accepted; the inviter then
does not register again.
-/

namespace CipherMesh

open Foundation

variable {P : Primitives} {text : AddressText} {wire : PairingWire P}

/-- The service holds the invite of the peer with this expiry. -/
def PublicService.Holds (service : PublicService) (codeHash : String) (peer : PeerId)
    (expiresAt : UInt64) : Prop :=
  ∃ directAddresses, service.invitations codeHash = some ⟨peer, directAddresses, expiresAt⟩

/-- The code has been resolved, or its time is over. -/
def ServiceRun.Over (run : ServiceRun) (codeHash : String) (expiresAt : UInt64) : Prop :=
  resolvers codeHash run.history ≠ [] ∨ expiresAt ≤ run.clock

/-- While the peer is reserved, its invite is there unless the code is over. -/
def ServiceRun.Keeps (run : ServiceRun) (codeHash : String) (peer : PeerId)
    (expiresAt : UInt64) : Prop :=
  peer ∈ run.service.reservedPeers →
    run.Over codeHash expiresAt ∨ run.service.Holds codeHash peer expiresAt

/-! ## The service -/

section Service

variable {run : ServiceRun} {service : PublicService} {history : List ServiceEntry}
variable {codeHash : String} {peer : PeerId} {clock now expiresAt : UInt64}

theorem resolvers_cons_ne_nil (entry : ServiceEntry) (used : resolvers codeHash history ≠ []) :
    resolvers codeHash (entry :: history) ≠ [] := by
  unfold resolvers
  split
  · next isNil => cases isNil
  · next isCons =>
      cases isCons
      split
      · exact List.cons_ne_nil _ _
      · exact used
  · next isCons =>
      cases isCons
      exact used

namespace ServiceRun.Keeps

/-- The invite survives a request that neither replaces nor resolves it. -/
theorem answered {after : PublicService} {entry : ServiceEntry}
    (keeps : Keeps ⟨service, clock, history⟩ codeHash peer expiresAt)
    (reserved : after.reservedPeers = service.reservedPeers)
    (same : after.invitations codeHash = service.invitations codeHash) :
    Keeps ⟨after, clock, entry :: history⟩ codeHash peer expiresAt := by
  intro isReserved
  rcases keeps (reserved ▸ isReserved) with (used | overdue) | ⟨directAddresses, found⟩
  · exact .inl (.inl (resolvers_cons_ne_nil entry used))
  · exact .inl (.inr overdue)
  · exact .inr ⟨directAddresses, same.trans found⟩

theorem retain (keeps : Keeps ⟨service, clock, history⟩ codeHash peer expiresAt)
    (order : clock ≤ now) :
    Keeps ⟨service.retain fun invite => invite.expiresAtUnixSecs > now, now, history⟩ codeHash
      peer expiresAt := by
  intro reserved
  rcases keeps reserved with (used | overdue) | ⟨directAddresses, found⟩
  · exact .inl (.inl used)
  · exact .inl (.inr (UInt64.le_trans overdue order))
  · by_cases unexpired : now < expiresAt
    · exact .inr ⟨directAddresses, Option.filter_eq_some_iff.mpr
        ⟨found, decide_eq_true unexpired⟩⟩
    · exact .inl (.inr (UInt64.not_lt.mp unexpired))

theorem registerInvite {asking : PeerId} {other : String} {otherExpiry : UInt64}
    {directAddresses : List String}
    (keeps : Keeps ⟨service, now, history⟩ codeHash peer expiresAt)
    (own : asking = peer → other = codeHash → otherExpiry = expiresAt) :
    Keeps ⟨(service.registerInvite text asking now other otherExpiry directAddresses).2, now,
      .answered asking (.registerInvite other otherExpiry directAddresses)
        (service.registerInvite text asking now other otherExpiry directAddresses).1 :: history⟩
      codeHash peer expiresAt := by
  by_cases registered : (service.registerInvite text asking now other otherExpiry
    directAddresses).1 = .registered
  · obtain ⟨_, samePeer, after⟩ := PublicService.registerInvite_eq_registered registered
    rw [after]
    by_cases same : other = codeHash
    · subst same
      intro reserved
      rcases keeps reserved with (used | overdue) | ⟨_, found⟩
      · exact .inl (.inl (resolvers_cons_ne_nil _ used))
      · exact .inl (.inr overdue)
      · obtain rfl : peer = asking := samePeer _ found
        obtain rfl := own rfl rfl
        exact .inr ⟨_, Function.update_self _ _ _⟩
    · exact keeps.answered rfl (Function.update_of_ne (Ne.symm same) _ _)
  · rw [PublicService.registerInvite_snd_of_ne_registered registered]
    exact keeps.answered rfl rfl

theorem resolveInvite {asking : PeerId} {other : String}
    (keeps : Keeps ⟨service, now, history⟩ codeHash peer expiresAt) :
    Keeps ⟨(service.resolveInvite other).2, now,
      .answered asking (.resolveInvite other) (service.resolveInvite other).1 :: history⟩
      codeHash peer expiresAt := by
  by_cases same : other = codeHash
  · subst same
    intro reserved
    rw [PublicService.resolveInvite_snd] at reserved
    rcases keeps reserved with (used | overdue) | ⟨_, found⟩
    · exact .inl (.inl (resolvers_cons_ne_nil _ used))
    · exact .inl (.inr overdue)
    · refine .inl (.inl ?_)
      rw [PublicService.resolveInvite, found]
      dsimp only
      rw [if_pos reserved, resolvers, if_pos rfl]
      exact List.cons_ne_nil _ _
  · rw [PublicService.resolveInvite_snd]
    exact keeps.answered rfl (Function.update_of_ne (Ne.symm same) _ _)

/-- No event takes the invite from a peer that stays reserved, except a resolution. -/
theorem next {event : ServiceEvent} (keeps : run.Keeps codeHash peer expiresAt)
    (order : ∀ asking request now, event = .request asking request now → run.clock ≤ now)
    (renewed : event = .reservationAccepted peer →
      peer ∈ run.service.reservedPeers ∨ run.Over codeHash expiresAt)
    (own : ∀ otherExpiry directAddresses now,
      event = .request peer (.registerInvite codeHash otherExpiry directAddresses) now →
        otherExpiry = expiresAt) :
    (run.next text event).Keeps codeHash peer expiresAt := by
  cases event with
  | reservationAccepted other =>
      intro reserved
      rcases Finset.mem_insert.mp reserved with rfl | earlier
      · exact (renewed rfl).elim keeps .inl
      · exact keeps earlier
  | reservationEnded other =>
      intro reserved
      obtain ⟨different, earlier⟩ := Finset.mem_erase.mp reserved
      refine (keeps earlier).imp_right ?_
      rintro ⟨directAddresses, found⟩
      exact ⟨directAddresses,
        Option.filter_eq_some_iff.mpr ⟨found, decide_eq_true different⟩⟩
  | request asking request now =>
      have current := keeps.retain (order asking request now rfl)
      cases request with
      | registerInvite other otherExpiry directAddresses =>
          refine current.registerInvite fun samePeer sameCode => ?_
          subst samePeer sameCode
          exact own otherExpiry directAddresses now rfl
      | resolveInvite other => exact current.resolveInvite
      | preKeyBundle | initialMessage | chatFrame => exact current.answered rfl rfl

end ServiceRun.Keeps

/-- An accepted registration leaves the invite at the service. -/
theorem ServiceRun.holds_of_registered {directAddresses : List String}
    (registered : (run.service.handleRequest text peer now
      (.registerInvite codeHash expiresAt directAddresses)).1 = .registered) :
    (run.next text (.request peer (.registerInvite codeHash expiresAt directAddresses)
      now)).service.Holds codeHash peer expiresAt := by
  obtain ⟨_, _, after⟩ := PublicService.registerInvite_eq_registered registered
  refine ⟨directAddresses.filterMap (sanitizeDirectAddressText text), ?_⟩
  rw [ServiceRun.next, PublicService.handleRequest]
  dsimp only
  rw [after]
  exact Function.update_self _ _ _

end Service

/-! ## The composition -/

namespace PairingNetwork

variable {network : PairingNetwork P}

/-- The inviter believes, or is about to hear, that its invite is registered. -/
def ToldRegistered (network : PairingNetwork P) : Prop :=
  network.inviter.registered = true ∨ .response .registered ∈ network.toInviter

/-- Whoever has been told so finds the invite while the reservation lasts. -/
structure Agrees (network : PairingNetwork P) : Prop where
  own : network.RegistersOwn
  kept : network.ToldRegistered → network.service.Keeps network.inviter.codeHash
    network.inviter.peerId network.inviter.expiresAt

/-- The runs in which a reservation of the inviter starts anew only when the inviter has
not been told that it is registered, or the code is over. -/
def renewingUntold (text : AddressText) (wire : PairingWire P) :
    System (PairingNetwork P) (PairingEvent P) :=
  (system text wire).restrict fun network event =>
    network.serviceEvent event = some (.reservationAccepted network.inviter.peerId) →
      network.inviter.peerId ∈ network.service.service.reservedPeers ∨
      ¬ network.ToldRegistered ∨
      network.service.Over network.inviter.codeHash network.inviter.expiresAt

theorem Agrees.next {event : PairingEvent P} (agrees : network.Agrees)
    (permitted : (renewingUntold text wire).permitted network event) :
    (network.next text wire event).Agrees := by
  have advances : Advances text network event (network.next text wire event) :=
    next_advances event
  refine ⟨agrees.own.next advances, fun told => ?_⟩
  rw [advances.inviter.peerId, advances.inviter.codeHash, advances.inviter.expiresAt,
    advances.service]
  have earlier : network.ToldRegistered ∨ ∃ addresses now,
      network.serviceEvent event = some (.request network.inviter.peerId
        (.registerInvite network.inviter.codeHash network.inviter.expiresAt addresses) now) ∧
      network.responseTo text network.inviter.peerId (.registerInvite network.inviter.codeHash
        network.inviter.expiresAt addresses) now = .registered := by
    rcases told with isRegistered | heard
    · exact .inl (advances.inviter.registered isRegistered)
    · rcases advances.toInviter _ heard with old | ⟨request, sent, now, served, answer⟩
      · exact .inl (.inr old)
      · obtain ⟨addresses, rfl⟩ := agrees.own request sent
        exact .inr ⟨addresses, now, served, answer.symm⟩
  rcases earlier with told | ⟨addresses, now, served, answer⟩
  · cases takesPart : network.serviceEvent event with
    | none => exact agrees.kept told
    | some served =>
        refine (agrees.kept told).next ?_ ?_ ?_
        · rintro asking request now rfl
          exact permitted.1.clock_le takesPart
        · rintro rfl
          exact (permitted.2 takesPart).imp_right fun either =>
            either.resolve_left (not_not.mpr told)
        · rintro otherExpiry directAddresses now rfl
          obtain ⟨addresses, same⟩ := agrees.own _ (permitted.1.mem_toService takesPart)
          cases same
          rfl
  · rw [served]
    exact fun _ => .inr (ServiceRun.holds_of_registered answer)

/-- The inviter is registered and its reservation confirmed at both ends, and no
registration is on its way to the service or back. -/
structure Settled (network : PairingNetwork P) : Prop where
  registered : network.inviter.registered = true
  confirmed : network.inviter.reservationConfirmed = true
  reserved : network.inviter.peerId ∈ network.service.service.reservedPeers
  requested : network.inviter.toService = []
  answered : ∀ message ∈ network.toInviter, ∃ renewal, message = .reservationAccepted renewal

/-- When the inviter has settled, the service holds its invite until the code is resolved
or its time is over. -/
theorem invite_held_when_settled (reachable : (renewingUntold text wire).Reachable network)
    (settled : network.Settled) :
    network.service.Over network.inviter.codeHash network.inviter.expiresAt ∨
      network.service.service.Holds network.inviter.codeHash network.inviter.peerId
        network.inviter.expiresAt := by
  have agrees : network.Agrees := by
    refine reachable.invariant Agrees ?_ fun network event agrees permitted =>
      agrees.next permitted
    intro start begins
    obtain ⟨_, _, _, _, started⟩ := begins.inviter
    refine ⟨begins.registersOwn, ?_⟩
    rintro (isRegistered | heard)
    · rw [started] at isRegistered
      cases isRegistered
    · rw [begins.toInviter] at heard
      cases heard
  exact agrees.kept (.inl settled.registered) settled.reserved

end PairingNetwork

namespace Symbolic

/-- Alice's invite is registered and she has heard so. -/
def inviteSettled : List (PairingEvent primitives) :=
  [.reservationAccepted "alice" false, .serviceMessageArrives, .inviterRequestArrives 100,
    .serviceMessageArrives]

theorem inviteSettled_settled :
    ((PairingNetwork.system addressText pairingWire).run invited inviteSettled).Settled where
  registered := by decide +kernel
  confirmed := by decide +kernel
  reserved := by decide +kernel
  requested := by decide +kernel
  answered message member := by cases member

theorem invite_held :
    let network := (PairingNetwork.system addressText pairingWire).run invited inviteSettled
    network.service.Over "hash" 400 ∨ network.service.service.Holds "hash" "alice" 400 := by
  intro network
  have permits : (PairingNetwork.renewingUntold addressText pairingWire).Permits invited
      inviteSettled := by
    refine ⟨⟨trivial, fun _ => .inr (.inl ?_)⟩, ⟨trivial, nofun⟩, ⟨by decide +kernel, nofun⟩,
      ⟨trivial, nofun⟩, trivial⟩
    rintro (registered | heard)
    · cases registered
    · cases heard
  exact PairingNetwork.invite_held_when_settled
    (show (PairingNetwork.renewingUntold addressText pairingWire).Reachable network from
      ⟨invited, invited_begins, permits.reaches⟩) inviteSettled_settled

/-- The registration of Alice arrives after her relay listener has closed, and is answered
before the service notices that the reservation has ended. -/
def registeredTooEarly : List (PairingEvent primitives) :=
  [.reservationAccepted "alice" false, .serviceMessageArrives, .relayListenerClosed (.ok ()),
    .inviterRequestArrives 100, .reservationEnded "alice", .serviceMessageArrives,
    .reservationAccepted "alice" false, .serviceMessageArrives]

theorem invite_missing_when_settled : ∃ network,
    (PairingNetwork.system addressText pairingWire).Reachable network ∧ network.Settled ∧
    ¬ network.service.Over network.inviter.codeHash network.inviter.expiresAt ∧
    network.service.service.invitations network.inviter.codeHash = none := by
  have permits : (PairingNetwork.system addressText pairingWire).Permits invited
      registeredTooEarly := by decide +kernel
  refine ⟨_, ⟨invited, invited_begins, permits.reaches⟩, ⟨by decide +kernel, by decide +kernel,
    by decide +kernel, by decide +kernel, fun _ member => by cases member⟩, ?_, by decide +kernel⟩
  rintro (used | overdue)
  · exact used (by decide +kernel)
  · revert overdue
    decide +kernel

end Symbolic

end CipherMesh
