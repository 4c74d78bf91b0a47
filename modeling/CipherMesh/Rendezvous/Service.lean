import CipherMesh.Foundation.Bytes
import CipherMesh.Rendezvous.Address
import Mathlib.Data.Finset.Basic
import Mathlib.Logic.Function.Basic

/-!
# The rendezvous service

The public service keeps the registered invites and the peers with an active relay
reservation.  An invite is registered by a reserved peer, resolved at most once per
registration and dropped when its expiry has passed or the reservation ends.
-/

namespace CipherMesh

open Foundation

/-- The text of a libp2p peer id. -/
abbrev PeerId := String

inductive PairingRequest where
  | registerInvite (codeHash : String) (expiresAtUnixSecs : UInt64)
      (directAddresses : List String)
  | resolveInvite (codeHash : String)
  | preKeyBundle
  | initialMessage (payload : Bytes)
  | chatFrame (bytes : Bytes)
  deriving DecidableEq

inductive PairingResponse where
  | registered
  | resolved (peerId : PeerId) (directAddresses : List String)
  | preKeyBundle (payload : Bytes)
  | ack (text : String)
  | error (text : String)
  deriving DecidableEq

structure InviteRegistration where
  peerId : PeerId
  directAddresses : List String
  expiresAtUnixSecs : UInt64
  deriving DecidableEq

def inviteTtlSecs : UInt64 := 5 * 60

/-- `invitations` maps the hash of a code to its registration. -/
structure PublicService where
  invitations : String → Option InviteRegistration
  reservedPeers : Finset PeerId

namespace PublicService

/-- The service when it starts. -/
def empty : PublicService := ⟨fun _ => none, ∅⟩

/-- `retain` on the invitations. -/
def retain (keep : InviteRegistration → Bool) (service : PublicService) : PublicService :=
  { service with
    invitations := fun codeHash => (service.invitations codeHash).filter keep }

def reservationAccepted (peer : PeerId) (service : PublicService) : PublicService :=
  { service with reservedPeers := insert peer service.reservedPeers }

/-- `ReservationClosed` and `ReservationTimedOut`. -/
def reservationEnded (peer : PeerId) (service : PublicService) : PublicService :=
  { service with reservedPeers := service.reservedPeers.erase peer }.retain
    fun invite => invite.peerId ≠ peer

def registerInvite (text : AddressText) (peer : PeerId) (now : UInt64) (codeHash : String)
    (expiresAtUnixSecs : UInt64) (directAddresses : List String) (service : PublicService) :
    PairingResponse × PublicService :=
  if peer ∉ service.reservedPeers then
    (.error "relay reservation is not ready; retrying", service)
  else if expiresAtUnixSecs ≤ now ∨ expiresAtUnixSecs > now + inviteTtlSecs then
    (.error "invalid invite expiry", service)
  else if (service.invitations codeHash).any fun existing => existing.peerId ≠ peer then
    (.error "invite code collision; try again", service)
  else
    let invite : InviteRegistration := {
      peerId := peer
      directAddresses := directAddresses.filterMap (sanitizeDirectAddressText text)
      expiresAtUnixSecs }
    (.registered,
      { service with invitations := Function.update service.invitations codeHash (some invite) })

def resolveInvite (codeHash : String) (service : PublicService) :
    PairingResponse × PublicService :=
  let removed := { service with
    invitations := Function.update service.invitations codeHash none }
  let invalid := PairingResponse.error "Invite is invalid, expired, or already used."
  match service.invitations codeHash with
  | some invite =>
      if invite.peerId ∈ service.reservedPeers then
        (.resolved invite.peerId invite.directAddresses, removed)
      else (invalid, removed)
  | none => (invalid, removed)

/-- A request of `peer` at the time `now`: overdue invites are dropped first. -/
def handleRequest (text : AddressText) (peer : PeerId) (now : UInt64)
    (request : PairingRequest) (service : PublicService) : PairingResponse × PublicService :=
  let current := service.retain fun invite => invite.expiresAtUnixSecs > now
  match request with
  | .registerInvite codeHash expiresAtUnixSecs directAddresses =>
      current.registerInvite text peer now codeHash expiresAtUnixSecs directAddresses
  | .resolveInvite codeHash => current.resolveInvite codeHash
  | _ => (.error "unsupported service request", current)

/-! ## What a request changes -/

variable {text : AddressText} {service : PublicService}

theorem retain_eq_none {keep : InviteRegistration → Bool} {codeHash : String}
    (absent : service.invitations codeHash = none) :
    (service.retain keep).invitations codeHash = none :=
  congrArg (Option.filter keep) absent

theorem resolveInvite_snd (codeHash : String) :
    (service.resolveInvite codeHash).2 =
      { service with invitations := Function.update service.invitations codeHash none } := by
  unfold resolveInvite
  split
  · split <;> rfl
  · rfl

/-- A code is resolved by the invite that the service holds for it. -/
theorem resolveInvite_eq_resolved {codeHash : String} {peerId : PeerId}
    {directAddresses : List String}
    (resolved : (service.resolveInvite codeHash).1 = .resolved peerId directAddresses) :
    ∃ invite, service.invitations codeHash = some invite ∧ invite.peerId = peerId ∧
      invite.directAddresses = directAddresses ∧ invite.peerId ∈ service.reservedPeers := by
  unfold resolveInvite at resolved
  split at resolved
  · next invite found =>
      split at resolved
      · next reserved =>
          cases resolved
          exact ⟨invite, found, rfl, rfl, reserved⟩
      · cases resolved
  · cases resolved

/-- An accepted registration comes from a reserved peer and replaces at most an invite of
the same peer. -/
theorem registerInvite_eq_registered {peer : PeerId} {now expiresAtUnixSecs : UInt64}
    {codeHash : String} {directAddresses : List String}
    (registered : (service.registerInvite text peer now codeHash expiresAtUnixSecs
      directAddresses).1 = .registered) :
    peer ∈ service.reservedPeers ∧
    (∀ existing, service.invitations codeHash = some existing → existing.peerId = peer) ∧
    (service.registerInvite text peer now codeHash expiresAtUnixSecs directAddresses).2 =
      { service with
        invitations := Function.update service.invitations codeHash
          (some ⟨peer, directAddresses.filterMap (sanitizeDirectAddressText text),
            expiresAtUnixSecs⟩) } := by
  unfold registerInvite at registered ⊢
  split at registered
  · cases registered
  · next reserved =>
      split at registered
      · cases registered
      · next current =>
          split at registered
          · cases registered
          · next noCollision =>
              refine ⟨not_not.mp reserved, fun existing found => ?_, ?_⟩
              · rw [found, Option.any_some, decide_eq_true_eq, not_not] at noCollision
                exact noCollision
              · rw [if_neg reserved, if_neg current, if_neg noCollision]

/-- A refused registration changes nothing. -/
theorem registerInvite_snd_of_ne_registered {peer : PeerId} {now expiresAtUnixSecs : UInt64}
    {codeHash : String} {directAddresses : List String}
    (refused : (service.registerInvite text peer now codeHash expiresAtUnixSecs
      directAddresses).1 ≠ .registered) :
    (service.registerInvite text peer now codeHash expiresAtUnixSecs directAddresses).2 =
      service := by
  unfold registerInvite at refused ⊢
  split
  · rfl
  · next reserved =>
      split
      · rfl
      · next current =>
          split
          · rfl
          · next noCollision =>
              rw [if_neg reserved, if_neg current, if_neg noCollision] at refused
              exact absurd rfl refused

/-- Only an accepted registration adds an invite. -/
theorem handleRequest_invitations {peer : PeerId} {now : UInt64} {request : PairingRequest}
    {codeHash : String} {invite : InviteRegistration}
    (found : (service.handleRequest text peer now request).2.invitations codeHash = some invite) :
    service.invitations codeHash = some invite ∨ invite.peerId = peer ∧
      ∃ expiresAtUnixSecs directAddresses,
        request = .registerInvite codeHash expiresAtUnixSecs directAddresses := by
  have kept {current : String} {present : InviteRegistration}
      (found : (service.retain fun invite => invite.expiresAtUnixSecs > now).invitations current =
        some present) : service.invitations current = some present :=
    (Option.filter_eq_some_iff.mp found).1
  cases request with
  | registerInvite other expiresAtUnixSecs directAddresses =>
      rw [handleRequest] at found
      by_cases registered : ((service.retain fun invite =>
        invite.expiresAtUnixSecs > now).registerInvite text peer now other expiresAtUnixSecs
          directAddresses).1 = .registered
      · rw [(registerInvite_eq_registered registered).2.2] at found
        dsimp only at found
        by_cases same : codeHash = other
        · subst same
          rw [Function.update_self, Option.some.injEq] at found
          exact .inr ⟨found ▸ rfl, expiresAtUnixSecs, directAddresses, rfl⟩
        · rw [Function.update_of_ne same] at found
          exact .inl (kept found)
      · rw [registerInvite_snd_of_ne_registered registered] at found
        exact .inl (kept found)
  | resolveInvite other =>
      rw [handleRequest, resolveInvite_snd] at found
      dsimp only at found
      by_cases same : codeHash = other
      · subst same
        rw [Function.update_self] at found
        cases found
      · rw [Function.update_of_ne same] at found
        exact .inl (kept found)
  | preKeyBundle | initialMessage | chatFrame => exact .inl (kept found)

/-- An invite is handed out only for its code. -/
theorem handleRequest_eq_resolved {peer peerId : PeerId} {now : UInt64}
    {request : PairingRequest} {directAddresses : List String}
    (resolved : (service.handleRequest text peer now request).1 =
      .resolved peerId directAddresses) :
    ∃ codeHash invite, request = .resolveInvite codeHash ∧
      service.invitations codeHash = some invite ∧ invite.peerId = peerId := by
  cases request with
  | registerInvite codeHash expiresAtUnixSecs directAddresses =>
      rw [handleRequest, registerInvite] at resolved
      split at resolved
      · cases resolved
      split at resolved
      · cases resolved
      split at resolved <;> cases resolved
  | resolveInvite codeHash =>
      obtain ⟨invite, found, samePeer, _⟩ := resolveInvite_eq_resolved resolved
      exact ⟨codeHash, invite, rfl, (Option.filter_eq_some_iff.mp found).1, samePeer⟩
  | preKeyBundle | initialMessage | chatFrame => cases resolved

theorem registerInvite_invitations_of_ne {peer : PeerId} {now expiresAtUnixSecs : UInt64}
    {codeHash other : String} {directAddresses : List String} (different : codeHash ≠ other) :
    (service.registerInvite text peer now other expiresAtUnixSecs directAddresses).2.invitations
      codeHash = service.invitations codeHash := by
  by_cases registered : (service.registerInvite text peer now other expiresAtUnixSecs
    directAddresses).1 = .registered
  · rw [(registerInvite_eq_registered registered).2.2]
    exact Function.update_of_ne different _ _
  · rw [registerInvite_snd_of_ne_registered registered]

end PublicService

end CipherMesh
