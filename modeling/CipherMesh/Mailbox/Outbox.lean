import CipherMesh.Mailbox.Receiver
import CipherMesh.Storage.Outbox

/-!
# Sending through the durable outbox

The two ends of the outbox in one process: Alice encrypts a message and stores it with her
state, a retry pass hands every pending item to Bob, and a restart restores both from their
stored states.
-/

namespace CipherMesh

open Foundation
open Foundation.Mutation

variable {P : Primitives}

/-- The sender, and the receiver with the tables of both. -/
structure OutboxProcess (P : Primitives) where
  alice : Alice P
  receiver : Receiver P

abbrev OutboxResult (P : Primitives) := Mutation (OutboxProcess P) AppError

/-- `current_unix_secs` is read for the id. -/
def messageIdFor (P : Primitives) (now : UInt64) (encryptedPayload : Bytes) : String :=
  Bytes.hexEncode ((P.sha256 (.bigEndian 8 now.toNat ++ encryptedPayload)).take 16)

namespace OutboxProcess

abbrev storage (process : OutboxProcess P) : Storage := process.receiver.storage

def onAlice {Result : Type} (method : Mutation (Alice P) CryptoError Result) :
    OutboxResult P Result :=
  mapError .crypto (focus alice (fun alice process => { process with alice }) method)

def onReceiver {Result : Type} (method : ReceiverResult P Result) : OutboxResult P Result :=
  focus receiver (fun receiver process => { process with receiver }) method

def onStorage {Result : Type} (method : StorageResult Result) : OutboxResult P Result :=
  onReceiver (Receiver.onStorage method)

/-- The exchange of keys and the states that are saved after it. -/
def setUp (wire : ReceiverWire P) : OutboxResult P Unit := do
  let aliceExchange := (← get).alice.signedKeyExchange
  let bobExchange := (← get).receiver.bob.signedKeyExchange
  onAlice (Alice.deriveSessionKey bobExchange)
  onReceiver (Receiver.onBob (Bob.deriveSessionKey aliceExchange))
  let alice := (← get).alice
  let aliceState ← okOr .format (wire.aliceState.serialize alice.exportState)
  onStorage (Database.saveLocalIdentity "alice" "alice" aliceState)
  let bob := (← get).receiver.bob
  let bobState ← okOr .format (wire.bobState.serialize bob.exportState)
  onStorage (Database.saveLocalIdentity "bob" "bob" bobState)

/-- Encrypt a message and store it for Bob, who is offline. -/
def queueForBob (wire : ReceiverWire P) (conversationId plaintext : String) :
    OutboxResult P OutboxItem := do
  let ciphertext ← onAlice (Alice.encryptForBob plaintext)
  let ciphertextBytes ← okOr .format (wire.ratchetMessage.serialize ciphertext)
  let now ← onStorage Database.nowUnixSecs
  let messageId := "msg-" ++ messageIdFor P now ciphertextBytes
  let payload ← okOr .format (wire.appEnvelope.serialize ⟨messageId, ciphertext⟩)
  let alice := (← get).alice
  let aliceState ← okOr .format (wire.aliceState.serialize alice.exportState)
  let session ← okOr (.message "Alice session missing after outbox encrypt") alice.session
  let sessionState ← okOr .format (wire.sessionState.serialize session.state)
  let item : OutboxItem := {
    messageId
    recipientId := "bob"
    payload
    status := .pending
    retryCount := 0
    createdAtUnixSecs := now
    lastAttemptUnixSecs := none }
  onStorage (Database.saveStateSessionMessageAndOutbox "alice" "alice" aliceState conversationId
    "bob" "alice" sessionState {
      messageId
      conversationId
      senderId := "alice"
      recipientId := "bob"
      direction := .sent
      status := .stored
      protocolCounter := some ciphertext.number
      ciphertext := payload
      plaintext := some plaintext
      createdAtUnixSecs := now } item)
  return item

/-- Hand an item to Bob and handle what he answers. -/
def deliver (wire : ReceiverWire P) (conversationId : String) (item : OutboxItem) :
    OutboxResult P Unit := do
  let ack ← onReceiver (Receiver.deliverOutboxItemToBob wire conversationId item)
  onReceiver (Receiver.handleAck ack)

/-- The loop over the pending items. -/
def retryItems (wire : ReceiverWire P) (conversationId : String) :
    List OutboxItem → OutboxResult P Unit
  | [] => return ()
  | item :: items => do
      onStorage (Database.recordOutboxAttempt item.messageId)
      deliver wire conversationId item
      retryItems wire conversationId items

def retryPending (wire : ReceiverWire P) (conversationId : String) : OutboxResult P Unit := do
  let pending ← onStorage Database.pendingOutboxItems
  retryItems wire conversationId pending

/-- The same encrypted payload once more, as a pending item. -/
def retryDelivered (wire : ReceiverWire P) (conversationId messageId : String) :
    OutboxResult P Unit := do
  let delivered ← onStorage (Database.outboxItem messageId)
  let item ← okOr (.message "outbox row missing after delivery") delivered
  deliver wire conversationId { item with status := .pending }

/-- Start again with the database only. -/
def restart (wire : ReceiverWire P) : OutboxResult P Unit := do
  let aliceBytes ← onStorage (Database.loadLocalIdentity "alice")
  let aliceBytes ← okOr (.message "Alice state missing after outbox restart") aliceBytes
  let aliceState ← okOr .format (wire.aliceState.deserialize aliceBytes)
  modify fun process => { process with alice := .fromState aliceState }
  let bobBytes ← onStorage (Database.loadLocalIdentity "bob")
  let bobBytes ← okOr (.message "Bob state missing after outbox restart") bobBytes
  let bobState ← okOr .format (wire.bobState.deserialize bobBytes)
  modify fun process =>
    { process with receiver := { process.receiver with bob := .fromState bobState } }

end OutboxProcess

end CipherMesh
