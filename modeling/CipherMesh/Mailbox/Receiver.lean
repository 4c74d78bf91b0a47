import CipherMesh.Chat.Soundness
import CipherMesh.Mailbox.Server
import CipherMesh.Storage.Messages

/-!
# Receiving with acknowledgements

The receivers of the durable outbox and of the mailbox.  Both record the id of an
envelope before they decrypt and store its message, and acknowledge an id that is
recorded already without looking at the message.
-/

namespace CipherMesh

open Foundation
open Foundation.Mutation

variable {P : Primitives}

structure DurableAppEnvelope (P : Primitives) where
  messageId : String
  message : RatchetMessage P
  deriving DecidableEq

structure DurableAck where
  messageId : String
  deriving DecidableEq

/-- The serialization of what a receiver reads and writes. -/
structure ReceiverWire (P : Primitives) extends Wire P where
  appEnvelope : Format (DurableAppEnvelope P)
  sessionState : Format (RatchetSessionState P)

/-- A process that receives as Bob.  `requests` are those that it has sent to the
mailbox. -/
structure Receiver (P : Primitives) where
  bob : Bob P
  database : Database
  requests : List MailboxRequest

abbrev ReceiverResult (P : Primitives) := Mutation (Receiver P) AppError

namespace Receiver

abbrev storage (receiver : Receiver P) : Storage := receiver.database.storage

def onBob {Result : Type} (method : Mutation (Bob P) CryptoError Result) :
    ReceiverResult P Result :=
  mapError .crypto (focus bob (fun bob receiver => { receiver with bob }) method)

def onStorage {Result : Type} (method : StorageResult Result) : ReceiverResult P Result :=
  mapError .storage (focus database (fun database receiver => { receiver with database }) method)

def sendRequest (request : MailboxRequest) : ReceiverResult P Unit :=
  modify fun receiver => { receiver with requests := receiver.requests ++ [request] }

def deliverOutboxItemToBob (wire : ReceiverWire P) (conversationId : String)
    (item : OutboxItem) : ReceiverResult P DurableAck := do
  let envelope ← okOr .format (wire.appEnvelope.deserialize item.payload)
  let accepted ← onStorage (Database.acceptMessageOnce envelope.messageId)
  if !accepted then return ⟨envelope.messageId⟩
  else do
    let plaintext ← onBob (Bob.decryptFromAlice envelope.message)
    let bob := (← get).bob
    let bobState ← okOr .format (wire.bobState.serialize bob.exportState)
    let session ← okOr (.message "Bob session missing after outbox receive") bob.session
    let sessionState ← okOr .format (wire.sessionState.serialize session.state)
    let now ← onStorage Database.nowUnixSecs
    onStorage (Database.saveStateSessionAndInsertMessage "bob" "bob" bobState conversationId
      "alice" "bob" sessionState {
        messageId := "bob-" ++ envelope.messageId
        conversationId
        senderId := "alice"
        recipientId := "bob"
        direction := .received
        status := .received
        protocolCounter := some envelope.message.number
        ciphertext := item.payload
        plaintext := some plaintext
        createdAtUnixSecs := now })
    return ⟨envelope.messageId⟩

def handleAck (ack : DurableAck) : ReceiverResult P Unit :=
  onStorage (Database.markOutboxDelivered ack.messageId)

/-- One envelope of `run_bob_mailbox_fetch`, up to the request that acknowledges it. -/
def receiveOfflineEnvelope (wire : ReceiverWire P) (recipientToken : String)
    (envelope : OfflineEnvelope) : ReceiverResult P Unit := do
  let accepted ← onStorage (Database.acceptMessageOnce envelope.messageId)
  if accepted then do
    let initialMessage ← okOr .format (wire.initialMessage.deserialize envelope.encryptedPayload)
    let plaintext ← onBob (Bob.decryptInitialMessage initialMessage)
    let now ← onStorage Database.nowUnixSecs
    onStorage (Database.insertMessage {
      messageId := envelope.messageId
      conversationId := "mailbox-" ++ recipientToken
      senderId := "alice"
      recipientId := "bob"
      direction := .received
      status := .received
      protocolCounter := some initialMessage.message.number
      ciphertext := envelope.encryptedPayload
      plaintext := some plaintext
      createdAtUnixSecs := now })
    let bob := (← get).bob
    let bobState ← okOr .format (wire.bobState.serialize bob.exportState)
    onStorage (Database.saveLocalIdentity "bob-mailbox" "bob" bobState)
  sendRequest (.acknowledge envelope.messageId)

/-- The loop of `run_bob_mailbox_fetch`.  Every envelope comes with the answer that the
mailbox gives to its acknowledgement. -/
def receiveOfflineEnvelopes (wire : ReceiverWire P) (recipientToken : String) :
    List (OfflineEnvelope × Except AppError MailboxResponse) → ReceiverResult P Unit
  | [] => return ()
  | (envelope, answer) :: rest => do
      receiveOfflineEnvelope wire recipientToken envelope
      let response ← lift answer
      match response with
      | .acknowledged _ => receiveOfflineEnvelopes wire recipientToken rest
      | .error text => fail (.message text)
      | _ => fail (.message "unexpected mailbox retrieval ACK response")

variable {Result : Type} {receiver : Receiver P} {returned : Result → Receiver P → Prop}
variable {failed : AppError → Receiver P → Prop}

@[simp] theorem ensures_onStorage {method : StorageResult Result} :
    (onStorage method).Ensures receiver returned failed ↔
      method.Ensures receiver.database
        (fun value database => returned value { receiver with database })
        (fun error database => failed (.storage error) { receiver with database }) := by
  rw [onStorage, ensures_mapError, ensures_focus]

@[simp] theorem ensures_onBob {method : Mutation (Bob P) CryptoError Result} :
    (onBob method).Ensures receiver returned failed ↔
      method.Ensures receiver.bob (fun value bob => returned value { receiver with bob })
        (fun error bob => failed (.crypto error) { receiver with bob }) := by
  rw [onBob, ensures_mapError, ensures_focus]

/-- A property of the tables. -/
def KeepsTables (property : Storage → Prop) (method : ReceiverResult P Result) : Prop :=
  Keeps (fun receiver => property receiver.storage) method

theorem keepsTables_onStorage {property : Storage → Prop} {method : StorageResult Result}
    (keeps : Keeps (fun database => property database.storage) method) :
    KeepsTables property (onStorage (P := P) method) := by
  intro receiver holds
  rw [ensures_onStorage]
  exact keeps receiver.database holds

theorem keepsTables_onBob {property : Storage → Prop}
    {method : Mutation (Bob P) CryptoError Result} : KeepsTables property (onBob method) := by
  intro receiver holds
  rw [ensures_onBob]
  exact Ensures.trivial.mono (fun _ _ _ => holds) fun _ _ _ => holds

end Receiver

end CipherMesh
