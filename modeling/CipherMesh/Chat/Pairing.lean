import CipherMesh.Chat.History
import CipherMesh.Foundation.Format
import CipherMesh.Foundation.Reachability
import CipherMesh.Handshake.Actors
import Mathlib.Logic.Function.Basic

/-!
# The paired chat

The chat loop of one endpoint: what it does with a typed line, with a frame or an
acknowledgement from the peer, and when the connection comes and goes.  The first
error ends the loop.  `PairedChat` joins two endpoints by a link that may lose,
delay, duplicate and reorder what was sent on it.
-/

namespace CipherMesh

open Foundation
open Foundation.Mutation

variable {P : Primitives}

inductive ChatFrame (P : Primitives) where
  | message (messageId senderDisplayName : String) (message : RatchetMessage P)
  | ack (messageId : String)
  deriving DecidableEq

/-- The bytes of an identity key, which need not be those of a valid one. -/
abbrev IdentityPublicKeyBytes := { bytes : Bytes // bytes.length = 32 }

structure ChatInitialMessage (P : Primitives) where
  senderDisplayName : String
  senderIdentityPublicKey : Option IdentityPublicKeyBytes
  message : InitialMessage P
  deriving DecidableEq

structure LegacyChatInitialMessage (P : Primitives) where
  senderDisplayName : String
  message : InitialMessage P

/-- The serialization of the types that the chat writes. -/
structure Wire (P : Primitives) where
  ratchetMessage : Format (RatchetMessage P)
  chatFrame : Format (ChatFrame P)
  initialMessage : Format (InitialMessage P)
  chatInitialMessage : Format (ChatInitialMessage P)
  legacyChatInitialMessage : Format (LegacyChatInitialMessage P)
  aliceState : Format (AliceState P)
  bobState : Format (BobState P)

/-- The bytes are a frame with this id and message. -/
def IsFrame (wire : Wire P) (bytes : Bytes) (messageId : String) (message : RatchetMessage P) :
    Prop :=
  ∃ senderDisplayName,
    wire.chatFrame.deserialize bytes = some (.message messageId senderDisplayName message)

theorem IsFrame.eq {wire : Wire P} {bytes : Bytes} {messageId otherId : String}
    {message otherMessage : RatchetMessage P} (frame : IsFrame wire bytes messageId message)
    (other : IsFrame wire bytes otherId otherMessage) :
    messageId = otherId ∧ message = otherMessage := by
  obtain ⟨_, parsed⟩ := frame
  obtain ⟨_, otherParsed⟩ := other
  have same := parsed.symm.trans otherParsed
  simp only [Option.some.injEq, ChatFrame.message.injEq] at same
  exact ⟨same.1, same.2.2⟩

/-! ## The two roles -/

inductive PairingChatRole (P : Primitives) where
  | alice (actor : Alice P)
  | bob (actor : Bob P)

namespace PairingChatRole

def session : PairingChatRole P → Option (RatchetSession P)
  | .alice actor => actor.session
  | .bob actor => actor.session

/-- The same actor with another session. -/
def withSession (session : RatchetSession P) : PairingChatRole P → PairingChatRole P
  | .alice actor => .alice { actor with session := some session }
  | .bob actor => .bob { actor with session := some session }

/-- Call the method of the actor that is present. -/
def onActor {Result : Type} (asAlice : Mutation (Alice P) CryptoError Result)
    (asBob : Mutation (Bob P) CryptoError Result) :
    Mutation (PairingChatRole P) CryptoError Result
  | .alice actor =>
      let (result, reached) := asAlice.run actor
      (result, .alice reached)
  | .bob actor =>
      let (result, reached) := asBob.run actor
      (result, .bob reached)

def encrypt (plaintext : String) : Mutation (PairingChatRole P) CryptoError (RatchetMessage P) :=
  onActor (Alice.encryptForBob plaintext) (Bob.encryptForAlice plaintext)

def decrypt (message : RatchetMessage P) : Mutation (PairingChatRole P) CryptoError String :=
  onActor (Alice.decryptFromBob message) (Bob.decryptFromAlice message)

end PairingChatRole

def saveAliceIdentity (wire : Wire P) (alice : Alice P) : Mutation Database AppError Unit := do
  let state ← okOr .format (wire.aliceState.serialize alice.exportState)
  mapError .storage (Database.saveLocalIdentity "alice" "alice" state)

def saveBobIdentity (wire : Wire P) (bob : Bob P) : Mutation Database AppError Unit := do
  let state ← okOr .format (wire.bobState.serialize bob.exportState)
  mapError .storage (Database.saveLocalIdentity "bob" "bob" state)

def PairingChatRole.saveIdentity (wire : Wire P) :
    PairingChatRole P → Mutation Database AppError Unit
  | .alice actor => saveAliceIdentity wire actor
  | .bob actor => saveBobIdentity wire actor

/-! ## One endpoint -/

def isChatBackCommand (line : String) : Bool :=
  let command := (trim line).map Char.toLower
  command == "/back".toList || command == "/exit".toList

structure PairingChatContext where
  localDisplayName : String
  remoteDisplayName : String
  conversationId : String

/-- The chat loop of one process.  `requests` are the chat frames that it has handed to
the network since the last event. -/
structure PairingChat (P : Primitives) where
  role : PairingChatRole P
  context : PairingChatContext
  online : Bool
  database : Database
  requests : List Bytes

abbrev ChatResult (P : Primitives) := Mutation (PairingChat P) AppError

namespace PairingChat

def onRole {Result : Type} (method : Mutation (PairingChatRole P) CryptoError Result) :
    ChatResult P Result :=
  mapError .crypto (focus role (fun role chat => { chat with role }) method)

def onDatabase {Result : Type} (method : Mutation Database AppError Result) :
    ChatResult P Result :=
  focus database (fun database chat => { chat with database }) method

def onStorage {Result : Type} (method : StorageResult Result) : ChatResult P Result :=
  onDatabase (mapError .storage method)

def saveIdentity (wire : Wire P) : ChatResult P Unit := do
  let chat ← get
  onDatabase (chat.role.saveIdentity wire)

def sendRequest (frame : Bytes) : ChatResult P Unit :=
  modify fun chat => { chat with requests := chat.requests ++ [frame] }

def prepareOutgoingFrame (wire : Wire P) (message : RatchetMessage P)
    (remoteDisplayName plaintext : String) (existingMessageId : Option String) :
    ChatResult P (String × Bytes) := do
  let context := (← get).context
  let messageBytes ← okOr .format (wire.ratchetMessage.serialize message)
  let messageId := existingMessageId.getD
    (chatMessageId P context.conversationId .sent (some message.number) messageBytes)
  let bytes ← okOr .format
    (wire.chatFrame.serialize (.message messageId context.localDisplayName message))
  onStorage (persistChatMessage P {
    messageId := some messageId
    conversationId := context.conversationId
    senderDisplayName := context.localDisplayName
    peerDisplayName := remoteDisplayName
    direction := .sent
    status := .sent
    protocolCounter := none
    ciphertext := bytes
    plaintext })
  return (messageId, bytes)

/-- `prepare_alice_frame` and `prepare_bob_frame`. -/
def prepareFrame (wire : Wire P) (remoteDisplayName plaintext : String)
    (existingMessageId : Option String) : ChatResult P (String × Bytes) := do
  let message ← onRole (PairingChatRole.encrypt plaintext)
  saveIdentity wire
  prepareOutgoingFrame wire message remoteDisplayName plaintext existingMessageId

/-- The loop of `send_pending_as_alice` and `send_pending_as_bob`. -/
def resend (wire : Wire P) : List PendingPeerMessage → ChatResult P Unit
  | [] => return ()
  | item :: items => do
      onStorage (Database.recordPendingPeerMessageAttempt item.messageId)
      let (_, bytes) ← prepareFrame wire "peer" item.plaintext (some item.messageId)
      sendRequest bytes
      resend wire items

def sendPending (wire : Wire P) : ChatResult P Unit := do
  let conversationId := (← get).context.conversationId
  let pending ← onStorage (Database.pendingPeerMessagesForPeer conversationId)
  resend wire pending

/-- A typed line.  The result is whether the loop goes on. -/
def submit (wire : Wire P) (line : String) (random : Bytes) : ChatResult P Bool := do
  let chat ← get
  if isChatBackCommand line then return false
  else if line = "" then return true
  else if !chat.online then do
    onStorage (queueMessageAfterPeerDisconnect P chat.context.conversationId line random)
    return true
  else do
    let (messageId, bytes) ← prepareFrame wire chat.context.remoteDisplayName line none
    onStorage (trackPendingChatDelivery P chat.context.conversationId messageId line)
    sendRequest bytes
    return true

/-- Printing can fail like a statement and touches no table. -/
def printMessage : ChatResult P Unit :=
  onStorage (Database.execute id)

/-- What is written of a decrypted message. -/
def recordReceived (wire : Wire P) (bytes : Bytes) (messageId senderDisplayName : String)
    (message : RatchetMessage P) (plaintext : String) : ChatResult P Unit := do
  saveIdentity wire
  let context := (← get).context
  onStorage (persistChatMessage P {
    messageId := some messageId
    conversationId := context.conversationId
    senderDisplayName
    peerDisplayName := context.localDisplayName
    direction := .received
    status := .received
    protocolCounter := some message.number
    ciphertext := bytes
    plaintext })
  onStorage (markIncomingChatMessageAccepted messageId)

/-- A received message that is not in the history yet. -/
def receiveMessage (wire : Wire P) (bytes : Bytes) (messageId senderDisplayName : String)
    (message : RatchetMessage P) : ChatResult P Unit := do
  let plaintext ← onRole (PairingChatRole.decrypt message)
  recordReceived wire bytes messageId senderDisplayName message plaintext
  printMessage

/-- `handle_alice_app_event` and `handle_bob_pairing_app_event` for a chat frame.  The
result is the id that is acknowledged. -/
def handleRequest (wire : Wire P) (bytes : Bytes) : ChatResult P (Option String) := do
  let frame ← okOr .format (wire.chatFrame.deserialize bytes)
  match frame with
  | .ack _ => return none
  | .message messageId senderDisplayName message => do
      let saved ← onStorage (chatMessageAlreadySaved messageId)
      if !saved then
        receiveMessage wire bytes messageId senderDisplayName message
      return some messageId

/-- The same handlers for `PairingResponse::Ack`. -/
def handleResponse (messageId : String) : ChatResult P Unit :=
  onStorage (markDeliveredIfPending messageId)

/-- The connection to the peer was established. -/
def connected (wire : Wire P) : ChatResult P Unit := do
  let chat ← get
  if !chat.online then do
    modify fun chat => { chat with online := true }
    sendPending wire

/-- The last connection to the peer was closed. -/
def disconnected : ChatResult P Unit :=
  modify fun chat => { chat with online := false }

end PairingChat

end CipherMesh
