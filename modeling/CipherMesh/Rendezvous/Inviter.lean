import CipherMesh.Chat.Listener
import CipherMesh.Chat.PairedChat
import CipherMesh.Rendezvous.Service

/-!
# Creating an invite

The event loop of the process that creates an invite.  Four flags follow the relay
reservation and the registration of the invite at the service.  Once it is registered
the loop answers the requests of other peers, until one of them opens the chat.
-/

namespace CipherMesh

open Foundation
open Foundation.Mutation

variable {P : Primitives}

structure ChatPreKeyBundle (P : Primitives) where
  senderDisplayName : String
  bundle : PreKeyBundle P

/-- The serialization of the types that the pairing writes. -/
structure PairingWire (P : Primitives) extends Wire P where
  chatPreKeyBundle : Format (ChatPreKeyBundle P)
  preKeyBundle : Format (PreKeyBundle P)

/-- `String::contains`. -/
def containsText (text pattern : String) : Bool :=
  text.toList.tails.any fun tail => pattern.toList.isPrefixOf tail

def humanServiceError (error : String) : String :=
  if containsText error "invalid" || containsText error "expired" ||
      containsText error "used" then
    "Invite is invalid, expired, or already used."
  else "Pairing service is temporarily unavailable. Please try again."

/-- The chat is open, or the loop has returned an error. -/
inductive InviterStatus where
  | waiting
  | failed (error : AppError)
  | chatting (peer : PeerId) (conversationId : String)
  deriving DecidableEq

/-- `toService` are the requests that were handed to the network for the service and
have not arrived, the oldest first. -/
structure Inviter (P : Primitives) where
  peerId : PeerId
  servicePeerId : PeerId
  codeHash : String
  expiresAt : UInt64
  directAddresses : List String
  registered : Bool
  registrationSent : Bool
  reservationConfirmed : Bool
  directListenerReady : Bool
  listener : ChatListener P
  status : InviterStatus
  toService : List PairingRequest

namespace ChatListener

def servePrekeyBundle (wire : PairingWire P) (generated : P.PrivateKey) :
    ListenerResult P PairingResponse := do
  let bundle ← offerPrekeyBundle generated
  let localDisplayName := (← get).localDisplayName
  let payload ← okOr .format (wire.chatPreKeyBundle.serialize ⟨localDisplayName, bundle⟩)
  saveIdentity wire.toWire
  return .preKeyBundle payload

/-- The listener when a call begins. -/
def begun (listener : ChatListener P) (moment : Moment) : ChatListener P :=
  { listener with database := listener.database.opened moment.now moment.interruptions }

end ChatListener

namespace Inviter

/-- The loop when it starts. -/
def started (peerId servicePeerId : PeerId) (codeHash : String) (now : UInt64)
    (directListenerPending : Bool) (listener : ChatListener P) : Inviter P where
  peerId
  servicePeerId
  codeHash
  expiresAt := now + inviteTtlSecs
  directAddresses := []
  registered := false
  registrationSent := false
  reservationConfirmed := false
  directListenerReady := !directListenerPending
  listener
  status := .waiting
  toService := []

/-- `send_invite_registration`, after which the loop sets its flag. -/
def sendInviteRegistration (inviter : Inviter P) : Inviter P :=
  { inviter with
    toService := inviter.toService ++
      [.registerInvite inviter.codeHash inviter.expiresAt inviter.directAddresses]
    registrationSent := true }

/-- `NewListenAddr`. -/
def newListenAddr (text : AddressText) (lanIp : Option IpAddr) (address : Multiaddr)
    (inviter : Inviter P) : Inviter P :=
  if address.any (· == .p2pCircuit) then inviter
  else
    match directAddressFromListener lanIp address with
    | none => inviter
    | some address =>
        let rendered := text.render address
        let ready := { inviter with
          directAddresses :=
            if rendered ∈ inviter.directAddresses then inviter.directAddresses
            else inviter.directAddresses ++ [rendered]
          directListenerReady := true }
        if ready.reservationConfirmed && !ready.registrationSent then ready.sendInviteRegistration
        else ready

/-- `ListenerClosed` for the relay listener.  `listening` is the result of `listen_on`. -/
def relayListenerClosed (listening : Except AppError Unit) (inviter : Inviter P) : Inviter P :=
  { inviter with
    reservationConfirmed := false
    registrationSent := false
    registered := false
    status := match listening with
      | .ok () => inviter.status
      | .error error => .failed error }

/-- `ReservationReqAccepted` of the service. -/
def reservationReqAccepted (renewal : Bool) (inviter : Inviter P) : Inviter P :=
  let confirmed := { inviter with reservationConfirmed := true }
  if !confirmed.registered && !confirmed.registrationSent && !renewal &&
      confirmed.directListenerReady then
    confirmed.sendInviteRegistration
  else confirmed

/-- A response of the service. -/
def serviceResponse (response : PairingResponse) (inviter : Inviter P) : Inviter P :=
  match response with
  | .registered => { inviter with registered := true }
  | .error error => { inviter with status := .failed (.message (humanServiceError error)) }
  | _ => inviter

/-- A request of `peer`, with the response to it. -/
def peerRequest (wire : PairingWire P) (peer : PeerId) (request : PairingRequest)
    (moment : Moment) (generated : P.PrivateKey) (inviter : Inviter P) :
    Option PairingResponse × Inviter P :=
  if inviter.registered && peer != inviter.servicePeerId then
    match request with
    | .preKeyBundle =>
        match (ChatListener.servePrekeyBundle wire generated).run
            (inviter.listener.begun moment) with
        | (.ok response, listener) => (some response, { inviter with listener })
        | (.error error, listener) => (none, { inviter with listener, status := .failed error })
    | .initialMessage payload =>
        match (ChatListener.acceptInitialMessage wire.toWire "automatic direct/relay"
            payload).run (inviter.listener.begun moment) with
        | (.ok initial, listener) =>
            (some (.ack "paired"),
              { inviter with listener, status := .chatting peer initial.conversationId })
        | (.error error, listener) => (none, { inviter with listener, status := .failed error })
    | _ => (some (.error "pairing has not completed"), inviter)
  else (none, inviter)

/-- The setup timeout, which is armed until the invite is registered. -/
def setupTimeout (inviter : Inviter P) : Inviter P :=
  if inviter.registered then inviter
  else
    { inviter with
      status := .failed (.message "Pairing service is unavailable. Please try again.") }

/-- The invite timeout, which is armed while the invite is registered. -/
def inviteTimeout (inviter : Inviter P) : Inviter P :=
  if inviter.registered then
    { inviter with
      status := .failed (.message "Invite expired. Please create a new invite.") }
  else inviter

/-! ## Whom the loop serves -/

/-- The request makes the loop hand out the prekey bundle or open the chat: it asks for the
bundle, or it has an initial message that Bob opens. -/
def Serves (wire : PairingWire P) (peer : PeerId) (request : PairingRequest)
    (inviter : Inviter P) : Prop :=
  inviter.registered = true ∧ peer ≠ inviter.servicePeerId ∧
    (request = .preKeyBundle ∨ ∃ payload initial, request = .initialMessage payload ∧
      decodeChatInitialMessage wire.toWire payload = some initial ∧
        inviter.listener.bob.Opens initial.message)

/-- The prekey bundle is handed out to a peer that is served. -/
theorem serves_of_preKeyBundle {wire : PairingWire P} {peer : PeerId} {request : PairingRequest}
    {moment : Moment} {generated : P.PrivateKey} {inviter : Inviter P} {payload : Bytes}
    (answer : (inviter.peerRequest wire peer request moment generated).1 =
      some (.preKeyBundle payload)) :
    inviter.Serves wire peer request := by
  unfold peerRequest at answer
  split at answer
  · next registered =>
      rw [Bool.and_eq_true, bne_iff_ne] at registered
      split at answer
      · exact ⟨registered.1, registered.2, .inl rfl⟩
      · split at answer <;> cases answer
      · cases answer
  · cases answer

/-- The chat is opened with a peer that is served. -/
theorem serves_of_chatting {wire : PairingWire P} {peer other : PeerId}
    {request : PairingRequest} {moment : Moment} {generated : P.PrivateKey}
    {inviter : Inviter P} {conversationId : String} (waiting : inviter.status = .waiting)
    (opened : (inviter.peerRequest wire peer request moment generated).2.status =
      .chatting other conversationId) :
    other = peer ∧ inviter.Serves wire peer request := by
  have notOpen : inviter.status ≠ .chatting other conversationId := by
    rw [waiting]
    exact nofun
  unfold peerRequest at opened
  split at opened
  · next registered =>
      rw [Bool.and_eq_true, bne_iff_ne] at registered
      split at opened
      · split at opened
        · exact absurd opened notOpen
        · cases opened
      · next payload =>
          have opens := ChatListener.acceptInitialMessage_opens wire.toWire
            "automatic direct/relay" payload (inviter.listener.begun moment)
          split at opened
          · next initial _ accepted =>
              cases opened
              obtain ⟨decoded, held⟩ := opens.of_ok accepted
              exact ⟨rfl, registered.1, registered.2, .inr ⟨payload, initial, rfl, decoded, held⟩⟩
          · cases opened
      · exact absurd opened notOpen
  · exact absurd opened notOpen

/-- Only a request of a peer opens the chat. -/
def StaysClosed (handle : Inviter P → Inviter P) : Prop :=
  ∀ inviter peer conversationId, (handle inviter).status = .chatting peer conversationId →
    inviter.status = .chatting peer conversationId

theorem staysClosed_newListenAddr (text : AddressText) (lanIp : Option IpAddr)
    (address : Multiaddr) : StaysClosed (newListenAddr (P := P) text lanIp address) := by
  intro inviter peer conversationId opened
  unfold newListenAddr at opened
  split at opened
  · exact opened
  split at opened
  · exact opened
  dsimp only at opened
  split at opened <;> exact opened

theorem staysClosed_relayListenerClosed (listening : Except AppError Unit) :
    StaysClosed (relayListenerClosed (P := P) listening) := by
  intro inviter peer conversationId opened
  cases listening with
  | ok => exact opened
  | error error => cases opened

theorem staysClosed_reservationReqAccepted (renewal : Bool) :
    StaysClosed (reservationReqAccepted (P := P) renewal) := by
  intro inviter peer conversationId opened
  unfold reservationReqAccepted at opened
  dsimp only at opened
  split at opened <;> exact opened

theorem staysClosed_serviceResponse (response : PairingResponse) :
    StaysClosed (serviceResponse (P := P) response) := by
  intro inviter peer conversationId opened
  cases response with
  | error text => cases opened
  | registered | resolved | preKeyBundle | ack => exact opened

theorem staysClosed_setupTimeout : StaysClosed (setupTimeout (P := P)) := by
  intro inviter peer conversationId opened
  unfold setupTimeout at opened
  split at opened
  · exact opened
  · cases opened

theorem staysClosed_inviteTimeout : StaysClosed (inviteTimeout (P := P)) := by
  intro inviter peer conversationId opened
  unfold inviteTimeout at opened
  split at opened
  · cases opened
  · exact opened

/-! ## What a step of the loop leaves unchanged -/

/-- The inviter keeps its code, sends only registrations of it, and becomes registered
only if it was `confirmed`. -/
structure Continues (confirmed : Prop) (before after : Inviter P) : Prop where
  peerId : after.peerId = before.peerId
  codeHash : after.codeHash = before.codeHash
  expiresAt : after.expiresAt = before.expiresAt
  registered : after.registered = true → before.registered = true ∨ confirmed
  toService : ∀ request ∈ after.toService, request ∈ before.toService ∨
    ∃ addresses, request = .registerInvite before.codeHash before.expiresAt addresses

namespace Continues

variable {confirmed : Prop} {before middle after : Inviter P}

theorem refl (inviter : Inviter P) : Continues confirmed inviter inviter where
  peerId := rfl
  codeHash := rfl
  expiresAt := rfl
  registered := .inl
  toService _ := .inl

theorem trans (first : Continues confirmed before middle)
    (second : Continues confirmed middle after) : Continues confirmed before after where
  peerId := second.peerId.trans first.peerId
  codeHash := second.codeHash.trans first.codeHash
  expiresAt := second.expiresAt.trans first.expiresAt
  registered isRegistered := (second.registered isRegistered).elim first.registered .inr
  toService request member := by
    rcases second.toService request member with old | own
    · exact first.toService request old
    · rw [first.codeHash, first.expiresAt] at own
      exact .inr own

theorem mono {weaker : Prop} (continues : Continues confirmed before after)
    (implies : confirmed → weaker) : Continues weaker before after :=
  { continues with
    registered := fun isRegistered => (continues.registered isRegistered).imp_right implies }

end Continues

variable {confirmed : Prop}

theorem Continues.sendInviteRegistration {before inviter : Inviter P}
    (continues : Continues confirmed before inviter) :
    Continues confirmed before inviter.sendInviteRegistration := by
  refine continues.trans ⟨rfl, rfl, rfl, .inl, fun request member => ?_⟩
  rcases List.mem_append.mp member with old | new
  · exact .inl old
  · exact .inr ⟨_, List.mem_singleton.mp new⟩

/-- The registration is sent when both listeners are ready. -/
theorem Continues.sendInviteRegistration_if {ready : Prop} [Decidable ready]
    {before inviter : Inviter P} (continues : Continues confirmed before inviter) :
    Continues confirmed before (if ready then inviter.sendInviteRegistration else inviter) := by
  split
  · exact continues.sendInviteRegistration
  · exact continues

theorem continues_newListenAddr (text : AddressText) (lanIp : Option IpAddr)
    (address : Multiaddr) (inviter : Inviter P) :
    Continues confirmed inviter (inviter.newListenAddr text lanIp address) := by
  unfold newListenAddr
  split
  · exact .refl inviter
  split
  · exact .refl inviter
  · exact .sendInviteRegistration_if ⟨rfl, rfl, rfl, .inl, fun _ => .inl⟩

theorem continues_relayListenerClosed (listening : Except AppError Unit) (inviter : Inviter P) :
    Continues confirmed inviter (inviter.relayListenerClosed listening) :=
  ⟨rfl, rfl, rfl, nofun, fun _ => .inl⟩

theorem continues_reservationReqAccepted (renewal : Bool) (inviter : Inviter P) :
    Continues confirmed inviter (inviter.reservationReqAccepted renewal) :=
  .sendInviteRegistration_if ⟨rfl, rfl, rfl, .inl, fun _ => .inl⟩

theorem continues_serviceResponse (response : PairingResponse) (inviter : Inviter P) :
    Continues (response = .registered) inviter (inviter.serviceResponse response) := by
  unfold serviceResponse
  split
  · exact ⟨rfl, rfl, rfl, fun _ => .inr rfl, fun _ => .inl⟩
  · exact ⟨rfl, rfl, rfl, .inl, fun _ => .inl⟩
  · exact .refl inviter

theorem continues_peerRequest (wire : PairingWire P) (peer : PeerId) (request : PairingRequest)
    (moment : Moment) (generated : P.PrivateKey) (inviter : Inviter P) :
    Continues confirmed inviter (inviter.peerRequest wire peer request moment generated).2 := by
  unfold peerRequest
  split
  · split
    · split <;> exact ⟨rfl, rfl, rfl, .inl, fun _ => .inl⟩
    · split <;> exact ⟨rfl, rfl, rfl, .inl, fun _ => .inl⟩
    · exact .refl inviter
  · exact .refl inviter

theorem continues_setupTimeout (inviter : Inviter P) :
    Continues confirmed inviter inviter.setupTimeout := by
  unfold setupTimeout
  split
  · exact .refl inviter
  · exact ⟨rfl, rfl, rfl, .inl, fun _ => .inl⟩

theorem continues_inviteTimeout (inviter : Inviter P) :
    Continues confirmed inviter inviter.inviteTimeout := by
  unfold inviteTimeout
  split
  · exact ⟨rfl, rfl, rfl, .inl, fun _ => .inl⟩
  · exact .refl inviter

end Inviter

end CipherMesh
