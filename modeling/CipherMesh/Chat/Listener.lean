import CipherMesh.Chat.Pairing
import CipherMesh.Ratchet.Rejection

/-!
# Waiting for a chat

Bob's side of the chat handshake in its three programs.  Each decrypts the initial
message, files the sender under a conversation, opens that conversation and sends what
is pending for it.  The QUIC programs wait for an acknowledgement after every pending
message; `incoming` are the frames that arrive until the connection ends.
-/

namespace CipherMesh

open Foundation
open Foundation.Mutation

variable {P : Primitives}

/-! ## The initial message -/

/-- Older peers send no identity key, or the initial message alone. -/
def decodeChatInitialMessage (wire : Wire P) (bytes : Bytes) : Option (ChatInitialMessage P) :=
  match wire.chatInitialMessage.deserialize bytes with
  | some initial =>
      some { initial with
        senderDisplayName := displayNameOrAnonymous initial.senderDisplayName }
  | none =>
      match wire.legacyChatInitialMessage.deserialize bytes with
      | some initial =>
          some ⟨displayNameOrAnonymous initial.senderDisplayName, none, initial.message⟩
      | none => (wire.initialMessage.deserialize bytes).map (⟨"Anonymous", none, ·⟩)

namespace ChatInitialMessage

/-- The conversation that the sender is filed under. -/
def conversationId (initial : ChatInitialMessage P) : String :=
  match initial.senderIdentityPublicKey with
  | some key => contactIdForIdentity P key
  | none => contactIdForDisplayName P initial.senderDisplayName

/-- The identity key that is saved with the contact. -/
def contactKey (initial : ChatInitialMessage P) : Bytes :=
  match initial.senderIdentityPublicKey with
  | some key => key
  | none => .ofText "legacy display-name contact"

end ChatInitialMessage

/-! ## The process that waits -/

structure ChatListener (P : Primitives) where
  bob : Bob P
  localDisplayName : String
  database : Database

abbrev ListenerResult (P : Primitives) := Mutation (ChatListener P) AppError

namespace ChatListener

def onBob {Result : Type} (method : Mutation (Bob P) CryptoError Result) :
    ListenerResult P Result :=
  mapError .crypto (focus bob (fun bob listener => { listener with bob }) method)

def onDatabase {Result : Type} (method : Mutation Database AppError Result) :
    ListenerResult P Result :=
  focus database (fun database listener => { listener with database }) method

def onStorage {Result : Type} (method : StorageResult Result) : ListenerResult P Result :=
  onDatabase (mapError .storage method)

def saveIdentity (wire : Wire P) : ListenerResult P Unit := do
  let bob := (← get).bob
  onDatabase (saveBobIdentity wire bob)

/-- Make sure that a one-time prekey is there, and read the bundle. -/
def offerPrekeyBundle (generated : P.PrivateKey) : ListenerResult P (PreKeyBundle P) := do
  modify fun listener =>
    { listener with
      bob := listener.bob.replenishOneTimePrekey listener.database.now.toNat generated }
  let bob := (← get).bob
  mapError .crypto (lift bob.prekeyBundle)

/-- An empty text only opens the conversation. -/
def persistInitialText (initial : ChatInitialMessage P) (payload : Bytes) (plaintext : String) :
    ListenerResult P Unit := do
  let localDisplayName := (← get).localDisplayName
  if plaintext = "" then return ()
  else
    onStorage (persistChatMessage P {
      messageId := none
      conversationId := initial.conversationId
      senderDisplayName := initial.senderDisplayName
      peerDisplayName := localDisplayName
      direction := .received
      status := .received
      protocolCounter := none
      ciphertext := payload
      plaintext })

/-- What the three programs do with the initial message. -/
def acceptInitialMessage (wire : Wire P) (discoveryHint : String) (payload : Bytes) :
    ListenerResult P (ChatInitialMessage P) := do
  let initial ← okOr .format (decodeChatInitialMessage wire payload)
  let plaintext ← onBob (Bob.decryptInitialMessage initial.message)
  saveIdentity wire
  onStorage (saveContactForChat P initial.conversationId initial.senderDisplayName
    initial.contactKey discoveryHint)
  persistInitialText initial payload plaintext
  return initial

def completeBobChatHandshake (wire : Wire P) (generated : P.PrivateKey) (payload : Bytes) :
    ListenerResult P (ChatInitialMessage P) := do
  let _ ← offerPrekeyBundle generated
  acceptInitialMessage wire "direct QUIC" payload

/-- The part of `run_chat_bob_with_endpoint` before the conversation is open. -/
def waitWithEndpoint (wire : Wire P) (generated : P.PrivateKey) (payload : Bytes) :
    ListenerResult P (ChatInitialMessage P) := do
  let _ ← offerPrekeyBundle generated
  saveIdentity wire
  acceptInitialMessage wire "direct QUIC" payload

/-- An initial message that is accepted has been opened. -/
theorem acceptInitialMessage_opens (wire : Wire P) (discoveryHint : String) (payload : Bytes)
    (listener : ChatListener P) :
    (acceptInitialMessage wire discoveryHint payload).Ensures listener
      (fun initial _ => decodeChatInitialMessage wire payload = some initial ∧
        listener.bob.Opens initial.message)
      fun _ _ => True := by
  rw [acceptInitialMessage, ensures_bind, ensures_okOr]
  refine ⟨fun initial decoded => ?_, fun _ => trivial⟩
  simp only [onBob, ensures_bind, ensures_mapError, ensures_focus]
  refine (listener.bob.ensures_opens initial.message).mono (fun text reached opens => ?_)
    fun _ _ _ => trivial
  have rest {Result : Type} {method : ListenerResult P Result} {start : ChatListener P}
      {returned : Result → ChatListener P → Prop} (holds : ∀ result after, returned result after) :
      method.Ensures start returned fun _ _ => True :=
    Ensures.trivial.mono (fun result after _ => holds result after) fun _ _ _ => trivial
  exact rest fun _ _ => rest fun _ _ => rest fun _ _ => ⟨decoded, opens⟩

/-- The chat that is opened for an accepted initial message. -/
def opened (listener : ChatListener P) (initial : ChatInitialMessage P) : PairingChat P where
  role := .bob listener.bob
  context := {
    localDisplayName := listener.localDisplayName
    remoteDisplayName := initial.senderDisplayName
    conversationId := initial.conversationId }
  online := true
  database := listener.database
  requests := []

end ChatListener

/-! ## Pending messages on an open connection -/

namespace PairingChat

def sendChatFrame (wire : Wire P) (frame : ChatFrame P) : ChatResult P Unit := do
  let bytes ← okOr .format (wire.chatFrame.serialize frame)
  sendRequest bytes

/-- A message that was not received while the chat is shown is marked as new. -/
def receiveDuringFlush (wire : Wire P) (bytes : Bytes)
    (messageId senderDisplayName : String) (message : RatchetMessage P) : ChatResult P Unit := do
  let plaintext ← onRole (PairingChatRole.decrypt message)
  recordReceived wire bytes messageId senderDisplayName message plaintext
  let conversationId := (← get).context.conversationId
  onStorage (Database.markMessageNew conversationId messageId)

/-- `handle_incoming_during_alice_flush` and `handle_incoming_during_bob_flush`. -/
def handleIncomingDuringFlush (wire : Wire P) (bytes : Bytes) : ChatFrame P → ChatResult P Unit
  | .ack _ => return ()
  | .message messageId senderDisplayName message => do
      let saved ← onStorage (chatMessageAlreadySaved messageId)
      if saved then sendChatFrame wire (.ack messageId)
      else do
        receiveDuringFlush wire bytes messageId senderDisplayName message
        sendChatFrame wire (.ack messageId)

/-- `wait_for_chat_ack_as_alice` and `wait_for_chat_ack_as_bob`.  The result is whether
the acknowledgement came, with the frames after it. -/
def waitForChatAck (wire : Wire P) (expectedMessageId : String) :
    List Bytes → ChatResult P (Bool × List Bytes)
  | [] => return (false, [])
  | bytes :: incoming => do
      let frame ← okOr .format (wire.chatFrame.deserialize bytes)
      if frame = .ack expectedMessageId then return (true, incoming)
      else do
        handleIncomingDuringFlush wire bytes frame
        waitForChatAck wire expectedMessageId incoming

/-- The loop of `flush_pending_messages_to_alice` and `flush_pending_messages_to_bob`. -/
def flushItems (wire : Wire P) : List PendingPeerMessage → List Bytes → ChatResult P Unit
  | [], _ => return ()
  | item :: items, incoming => do
      onStorage (Database.recordPendingPeerMessageAttempt item.messageId)
      let message ← onRole (PairingChatRole.encrypt item.plaintext)
      saveIdentity wire
      let localDisplayName := (← get).context.localDisplayName
      sendChatFrame wire (.message item.messageId localDisplayName message)
      let (acknowledged, rest) ← waitForChatAck wire item.messageId incoming
      if acknowledged then do
        onStorage (markDeliveredIfPending item.messageId)
        flushItems wire items rest
      else return ()

def flushPendingMessages (wire : Wire P) (incoming : List Bytes) : ChatResult P Unit := do
  let conversationId := (← get).context.conversationId
  let peerId ← onStorage (pendingPeerIdForConversation P conversationId)
  let pending ← onStorage (Database.pendingPeerMessagesForPeer peerId)
  flushItems wire pending incoming

end PairingChat

/-! ## The three programs -/

/-- What came of an initial message: the conversation that was opened, the frames that
were sent into it, and the database. -/
structure HandshakeOutcome where
  conversationId : Option String
  frames : List Bytes
  database : Database

namespace ChatListener

/-- Accept an initial message and do what follows in the open conversation. -/
def openAfter (accept : ListenerResult P (ChatInitialMessage P)) (send : ChatResult P Unit)
    (listener : ChatListener P) : HandshakeOutcome :=
  match accept.run listener with
  | (.error _, after) => ⟨none, [], after.database⟩
  | (.ok initial, after) =>
      let chat := (send.run (after.opened initial)).2
      ⟨some initial.conversationId, chat.requests, chat.database⟩

/-- The `InitialMessage` branch of `run_create_invite_at` with the first step of
`run_pairing_chat`. -/
def runCreateInviteAt (wire : Wire P) (payload : Bytes) : ChatListener P → HandshakeOutcome :=
  openAfter (acceptInitialMessage wire "automatic direct/relay" payload)
    (PairingChat.sendPending wire)

/-- One connection of `run_chat_listener`. -/
def runChatListener (wire : Wire P) (generated : P.PrivateKey) (payload : Bytes)
    (incoming : List Bytes) : ChatListener P → HandshakeOutcome :=
  openAfter (completeBobChatHandshake wire generated payload) do
    PairingChat.flushPendingMessages wire incoming
    PairingChat.saveIdentity wire

def runChatBobWithEndpoint (wire : Wire P) (generated : P.PrivateKey) (payload : Bytes)
    (incoming : List Bytes) : ChatListener P → HandshakeOutcome :=
  openAfter (waitWithEndpoint wire generated payload)
    (PairingChat.flushPendingMessages wire incoming)

end ChatListener

end CipherMesh
