import CipherMesh.Rendezvous.Inviter

/-!
# Joining by an invite code

The event loop of the process that joins: it asks the service for the code, connects
to the peer that the service names and opens a chat with it.
-/

namespace CipherMesh

open Foundation
open Foundation.Mutation

variable {P : Primitives}

/-- The chat is open, or the loop has returned an error. -/
inductive JoinerStatus where
  | connecting
  | waitingForAck (conversationId : String)
  | failed (error : AppError)
  | chatting (conversationId : String)
  deriving DecidableEq

/-- What the joiner reads and writes when it answers a prekey bundle. -/
structure ChatDialer (P : Primitives) where
  alice : Alice P
  /-- The bytes of Alice's identity key. -/
  identityPublicKey : IdentityPublicKeyBytes
  localDisplayName : String
  database : Database

/-- `toService` and `toTarget` are the requests that were handed to the network and have
not arrived, the oldest first. -/
structure Joiner (P : Primitives) where
  servicePeerId : PeerId
  codeHash : String
  lookupSent : Bool
  targetPeerId : Option PeerId
  requestedBundle : Bool
  dialer : ChatDialer P
  status : JoinerStatus
  toService : List PairingRequest
  toTarget : List PairingRequest

/-- Older peers send the bundle alone. -/
def decodeChatPrekeyBundle (wire : PairingWire P) (bytes : Bytes) :
    Option (String × PreKeyBundle P) :=
  match wire.chatPreKeyBundle.deserialize bytes with
  | some chatBundle =>
      some (displayNameOrAnonymous chatBundle.senderDisplayName, chatBundle.bundle)
  | none => (wire.preKeyBundle.deserialize bytes).map ("Anonymous", ·)

namespace ChatDialer

abbrev Result (P : Primitives) := Mutation (ChatDialer P) AppError

def onStorage {Result : Type} (method : StorageResult Result) : ChatDialer.Result P Result :=
  focus database (fun database dialer => { dialer with database }) (mapError .storage method)

def saveIdentity (wire : Wire P) : ChatDialer.Result P Unit := do
  let alice := (← get).alice
  focus database (fun database dialer => { dialer with database }) (saveAliceIdentity wire alice)

/-- The initial message for the bundle of the target, with the conversation. -/
def answerPrekeyBundle (wire : PairingWire P) (payload : Bytes) (generated : P.PrivateKey) :
    ChatDialer.Result P (String × Bytes) := do
  let (remoteDisplayName, bundle) ← okOr .format (decodeChatPrekeyBundle wire payload)
  let identityPublicKey := P.identityKeyBytes bundle.identityPublicKey
  let conversationId := contactIdForIdentity P identityPublicKey
  onStorage (saveContactForChat P conversationId remoteDisplayName identityPublicKey
    "automatic direct/relay")
  let initial ← mapError .crypto (focus alice (fun alice dialer => { dialer with alice })
    (Alice.encryptInitialMessage bundle "" generated))
  saveIdentity wire.toWire
  let dialer ← get
  let bytes ← okOr .format (wire.chatInitialMessage.serialize
    ⟨dialer.localDisplayName, some dialer.identityPublicKey, initial⟩)
  return (conversationId, bytes)

/-- The dialer when a call begins. -/
def begun (dialer : ChatDialer P) (moment : Moment) : ChatDialer P :=
  { dialer with database := dialer.database.opened moment.now moment.interruptions }

end ChatDialer

namespace Joiner

/-- The loop when it starts. -/
def started (servicePeerId : PeerId) (codeHash : String) (dialer : ChatDialer P) : Joiner P where
  servicePeerId
  codeHash
  lookupSent := false
  targetPeerId := none
  requestedBundle := false
  dialer
  status := .connecting
  toService := []
  toTarget := []

/-- `ConnectionEstablished` directly to the service. -/
def serviceConnected (joiner : Joiner P) : Joiner P :=
  if joiner.lookupSent then joiner
  else
    { joiner with
      toService := joiner.toService ++ [.resolveInvite joiner.codeHash]
      lookupSent := true }

/-- A response of the service.  `dialing` is the result of dialing the target. -/
def serviceResponse (dialing : Except AppError Unit) (response : PairingResponse)
    (joiner : Joiner P) : Joiner P :=
  match response with
  | .resolved peerId _ =>
      { joiner with
        targetPeerId := some peerId
        status := match dialing with
          | .ok () => joiner.status
          | .error error => .failed error }
  | .error error => { joiner with status := .failed (.message (humanServiceError error)) }
  | _ => joiner

/-- `ConnectionEstablished` to the target. -/
def targetConnected (joiner : Joiner P) : Joiner P :=
  if joiner.targetPeerId.isSome && !joiner.requestedBundle then
    { joiner with
      toTarget := joiner.toTarget ++ [.preKeyBundle]
      requestedBundle := true }
  else joiner

/-- A response of the target while the joiner connects. -/
def connectingResponse (wire : PairingWire P) (response : PairingResponse) (moment : Moment)
    (generated : P.PrivateKey) (joiner : Joiner P) : Joiner P :=
  match response with
  | .preKeyBundle payload =>
      match (ChatDialer.answerPrekeyBundle wire payload generated).run
          (joiner.dialer.begun moment) with
      | (.ok (conversationId, bytes), dialer) =>
          { joiner with
            dialer
            status := .waitingForAck conversationId
            toTarget := joiner.toTarget ++ [.initialMessage bytes] }
      | (.error error, dialer) => { joiner with dialer, status := .failed error }
  | .error error => { joiner with status := .failed (.message (humanServiceError error)) }
  | _ => joiner

/-- A response of the target; `wait_for_join_ack_and_chat` waits for the acknowledgement. -/
def targetResponse (wire : PairingWire P) (response : PairingResponse) (moment : Moment)
    (generated : P.PrivateKey) (joiner : Joiner P) : Joiner P :=
  match joiner.status with
  | .connecting => joiner.connectingResponse wire response moment generated
  | .waitingForAck conversationId =>
      match response with
      | .ack _ => { joiner with status := .chatting conversationId }
      | _ => joiner
  | _ => joiner

/-- A timeout or a failed request. -/
def stopped (error : AppError) (joiner : Joiner P) : Joiner P :=
  { joiner with status := .failed error }

/-! ## The target of a joiner -/

variable {joiner : Joiner P}

theorem serviceConnected_targetPeerId :
    joiner.serviceConnected.targetPeerId = joiner.targetPeerId := by
  unfold serviceConnected
  split <;> rfl

theorem targetConnected_targetPeerId :
    joiner.targetConnected.targetPeerId = joiner.targetPeerId := by
  unfold targetConnected
  split <;> rfl

/-- The target is the peer that the service has named. -/
theorem serviceResponse_targetPeerId (dialing : Except AppError Unit)
    (response : PairingResponse) :
    (joiner.serviceResponse dialing response).targetPeerId = joiner.targetPeerId ∨
      ∃ peerId directAddresses, response = .resolved peerId directAddresses ∧
        (joiner.serviceResponse dialing response).targetPeerId = some peerId := by
  cases response with
  | resolved peerId directAddresses => exact .inr ⟨peerId, directAddresses, rfl, rfl⟩
  | registered | preKeyBundle | ack | error => exact .inl rfl

theorem targetResponse_targetPeerId (wire : PairingWire P) (response : PairingResponse)
    (moment : Moment) (generated : P.PrivateKey) :
    (joiner.targetResponse wire response moment generated).targetPeerId =
      joiner.targetPeerId := by
  unfold targetResponse
  split
  · unfold connectingResponse
    split
    · split <;> rfl
    · rfl
    · rfl
  · split <;> rfl
  · rfl

end Joiner

end CipherMesh
