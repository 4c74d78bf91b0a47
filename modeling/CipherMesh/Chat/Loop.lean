import CipherMesh.Chat.Listener
import CipherMesh.Chat.PairedChat

/-!
# One process of a chat

A chat over QUIC first flushes the pending messages, one at a time, and then runs a loop
that differs from the paired one in how it sends: a line is recorded after it was written
to the connection, and is queued only when that failed.  `ChatProcess` is a process of
either kind between two events.
-/

namespace CipherMesh

open Foundation
open Foundation.Mutation

variable {P : Primitives}

/-- How writing a frame to a connection ends.  The bytes may have left in any case. -/
inductive SendOutcome where
  | sent
  | peerDisconnected
  | failed
  deriving DecidableEq

namespace PairingChat

/-! ## The loop over QUIC -/

/-- Write a frame; the result is whether the peer is still there. -/
def writeFrame (bytes : Bytes) (outcome : SendOutcome) : ChatResult P Bool := do
  sendRequest bytes
  match outcome with
  | .sent => return true
  | .peerDisconnected => return false
  | .failed => fail (.message "connection")

/-- `send_alice_chat_line_with_id` and `send_bob_chat_line_with_id`. -/
def sendChatLineWithId (wire : Wire P) (line : String) (existingMessageId : Option String)
    (outcome : SendOutcome) : ChatResult P Bool := do
  let message ← onRole (PairingChatRole.encrypt line)
  saveIdentity wire
  let context := (← get).context
  let messageBytes ← okOr .format (wire.ratchetMessage.serialize message)
  let messageId := existingMessageId.getD
    (chatMessageId P context.conversationId .sent (some message.number) messageBytes)
  let bytes ← okOr .format
    (wire.chatFrame.serialize (.message messageId context.localDisplayName message))
  let connected ← writeFrame bytes outcome
  if connected then do
    onStorage (persistChatMessage P {
      messageId := some messageId
      conversationId := context.conversationId
      senderDisplayName := context.localDisplayName
      peerDisplayName := context.remoteDisplayName
      direction := .sent
      status := .sent
      protocolCounter := none
      ciphertext := bytes
      plaintext := line })
    return true
  else return false

/-- `send_alice_chat_line` and `send_bob_chat_line`. -/
def sendChatLine (wire : Wire P) (line : String) (outcome : SendOutcome) : ChatResult P Bool :=
  if line = "" then return true
  else sendChatLineWithId wire line none outcome

/-- A typed line.  The result is whether the loop goes on. -/
def chatLoopLine (wire : Wire P) (line : String) (random : Bytes) (outcome : SendOutcome) :
    ChatResult P Bool := do
  let chat ← get
  if isChatBackCommand line then return false
  else if chat.online then do
    let connected ← sendChatLine wire line outcome
    if connected then return true
    else do
      disconnected
      onStorage (queueMessageAfterPeerDisconnect P chat.context.conversationId line random)
      return true
  else do
    onStorage (queueMessageAfterPeerDisconnect P chat.context.conversationId line random)
    return true

/-- A frame from the peer; acknowledgements are read and dropped. -/
def chatLoopFrame (wire : Wire P) (bytes : Bytes) : ChatResult P Unit := do
  match ← handleRequest wire bytes with
  | none => return ()
  | some messageId => sendChatFrame wire (.ack messageId)

/-- The id under which the chat frames a text, when it can be encrypted and written. -/
def frameId (wire : Wire P) (chat : PairingChat P) (text : String)
    (existingMessageId : Option String) : Option String :=
  match ((PairingChatRole.encrypt text).run chat.role).1 with
  | .error _ => none
  | .ok message => (wire.ratchetMessage.serialize message).map fun bytes =>
      existingMessageId.getD
        (chatMessageId P chat.context.conversationId .sent (some message.number) bytes)

/-! ## The flush, one frame at a time -/

/-- The flush loop before it waits. -/
def sendPendingItem (wire : Wire P) (item : PendingPeerMessage) : ChatResult P Unit := do
  onStorage (Database.recordPendingPeerMessageAttempt item.messageId)
  let message ← onRole (PairingChatRole.encrypt item.plaintext)
  saveIdentity wire
  let localDisplayName := (← get).context.localDisplayName
  sendChatFrame wire (.message item.messageId localDisplayName message)

theorem onStorage_bind {First Second : Type} (method : StorageResult First)
    (next : First → StorageResult Second) :
    onStorage (P := P) (method >>= next) =
      onStorage method >>= fun value => onStorage (next value) := by
  have readBack : ∀ database (chat : PairingChat P),
      ({ chat with database } : PairingChat P).database = database := fun _ _ => rfl
  rw [onStorage, onDatabase, mapError_bind]
  exact focus_bind readBack (fun _ _ _ => rfl) _ _

/-- One message of the flush after the other. -/
theorem flushItems_cons (wire : Wire P) (item : PendingPeerMessage)
    (items : List PendingPeerMessage) (incoming : List Bytes) :
    flushItems wire (item :: items) incoming =
      sendPendingItem wire item >>= fun _ =>
        waitForChatAck wire item.messageId incoming >>= fun waited =>
          if waited.1 then onStorage (markDeliveredIfPending item.messageId) >>= fun _ =>
            flushItems wire items waited.2
          else pure () := by
  rw [flushItems, sendPendingItem]
  simp only [sequence_assoc]

/-- Send the first message.  The result are the messages that are left, of which the
acknowledgement of the first is awaited. -/
def attempt (wire : Wire P) :
    List PendingPeerMessage → ChatResult P (List PendingPeerMessage)
  | [] => return []
  | item :: items => do
      sendPendingItem wire item
      return item :: items

def startFlush (wire : Wire P) : ChatResult P (List PendingPeerMessage) := do
  let conversationId := (← get).context.conversationId
  let peerId ← onStorage (pendingPeerIdForConversation P conversationId)
  let pending ← onStorage (Database.pendingPeerMessagesForPeer peerId)
  attempt wire pending

/-- A frame that arrives while the acknowledgement of `item` is awaited. -/
def flushFrame (wire : Wire P) (item : PendingPeerMessage) (items : List PendingPeerMessage)
    (bytes : Bytes) : ChatResult P (List PendingPeerMessage) := do
  let frame ← okOr .format (wire.chatFrame.deserialize bytes)
  if frame = .ack item.messageId then do
    onStorage (markDeliveredIfPending item.messageId)
    attempt wire items
  else do
    handleIncomingDuringFlush wire bytes frame
    return item :: items

/-- The frames that arrive until the connection ends, one after the other. -/
def flushFrames (wire : Wire P) : List PendingPeerMessage → List Bytes → ChatResult P Unit
  | [], _ | _, [] => return ()
  | item :: items, bytes :: incoming => do
      let waiting ← flushFrame wire item items bytes
      flushFrames wire waiting incoming

variable {wire : Wire P}

/-- Waiting for the first acknowledgement and going on is reading frame after frame. -/
theorem waitForChatAck_flushItems (item : PendingPeerMessage) (items : List PendingPeerMessage)
    (rest : ∀ incoming, flushItems wire items incoming =
      attempt wire items >>= fun waiting => flushFrames wire waiting incoming)
    (incoming : List Bytes) :
    (do
      let (acknowledged, incoming) ← waitForChatAck wire item.messageId incoming
      if acknowledged then do
        onStorage (markDeliveredIfPending item.messageId)
        flushItems wire items incoming
      else return ()) = flushFrames wire (item :: items) incoming := by
  induction incoming with
  | nil => rfl
  | cons bytes incoming incomingIH =>
      rw [flushFrames, flushFrame, waitForChatAck, sequence_assoc, sequence_assoc]
      congr 1
      funext frame
      split
      · next acknowledged =>
          rw [return_bind, sequence_assoc]
          simp only [if_true]
          congr 1
          funext _
          exact rest incoming
      · rw [sequence_assoc, sequence_assoc]
        congr 1
        funext _
        rw [incomingIH, return_bind]

/-- The flush is the run of its steps. -/
theorem flushItems_eq_flushFrames (items : List PendingPeerMessage) (incoming : List Bytes) :
    flushItems wire items incoming =
      attempt wire items >>= fun waiting => flushFrames wire waiting incoming := by
  induction items generalizing incoming with
  | nil => cases incoming <;> rfl
  | cons item items itemsIH =>
      rw [flushItems, attempt, sendPendingItem]
      simp only [sequence_assoc, return_bind]
      congr 1
      funext _
      congr 1
      funext message
      congr 1
      funext _
      congr 1
      funext chat
      congr 1
      funext _
      exact waitForChatAck_flushItems item items itemsIH incoming

end PairingChat

/-! ## The process -/

inductive ChatTransport where
  | pairing
  | quic
  deriving DecidableEq

/-- A chat between two events.  An `opening` chat has not looked at its pending messages
yet; `waiting` are those that a flush has still to deliver. -/
structure ChatProcess (P : Primitives) where
  transport : ChatTransport
  chat : PairingChat P
  opening : Bool
  waiting : List PendingPeerMessage
  running : Bool

inductive ChatEvent where
  | opens
  | line (line : String) (random : Bytes) (outcome : SendOutcome)
  | frame (bytes : Bytes)
  | ack (messageId : String)
  | connected
  | disconnected
  | timeout
  | stop

namespace ChatProcess

/-- What an event does: the result is whether the process goes on, and what its flush
then waits for. -/
def handle (wire : Wire P) (process : ChatProcess P) :
    ChatEvent → ChatResult P (Bool × List PendingPeerMessage)
  | .opens =>
      match process.transport with
      | .pairing => do
          PairingChat.sendPending wire
          return (true, [])
      | .quic => do
          let waiting ← PairingChat.startFlush wire
          return (true, waiting)
  | .line line random outcome =>
      match process.transport with
      | .pairing => do
          let goesOn ← PairingChat.submit wire line random
          return (goesOn, [])
      | .quic => do
          let goesOn ← PairingChat.chatLoopLine wire line random outcome
          return (goesOn, [])
  | .frame bytes =>
      match process.transport, process.waiting with
      | .pairing, _ => do
          let _ ← PairingChat.handleRequest wire bytes
          return (true, [])
      | .quic, [] => do
          PairingChat.chatLoopFrame wire bytes
          return (true, [])
      | .quic, item :: items => do
          let waiting ← PairingChat.flushFrame wire item items bytes
          return (true, waiting)
  | .ack messageId => do
      PairingChat.handleResponse messageId
      return (true, [])
  | .connected => do
      PairingChat.connected wire
      return (true, [])
  | .disconnected => do
      PairingChat.disconnected
      return (true, [])
  | .timeout => return (true, [])
  | .stop => return (false, [])

/-- An error ends the process. -/
def next (wire : Wire P) (process : ChatProcess P) (event : ChatEvent) (moment : Moment) :
    ChatProcess P :=
  match (process.handle wire event).run (process.chat.begun moment) with
  | (.ok (goesOn, waiting), chat) =>
      { process with chat, opening := false, waiting, running := goesOn }
  | (.error _, chat) => { process with chat, opening := false, waiting := [], running := false }

/-- The chat after an event is the one that the call has reached. -/
theorem next_reached {wire : Wire P} {process : ChatProcess P} {event : ChatEvent}
    {moment : Moment} {property : PairingChat P → Prop}
    (ensures : (process.handle wire event).Ensures (process.chat.begun moment)
      (fun _ => property) (fun _ => property)) :
    property (process.next wire event moment).chat := by
  unfold Ensures at ensures
  rw [next]
  split at ensures
  · next run => rwa [run]
  · next run => rwa [run]

/-- When an event happens to a process.  Only the paired chat has responses and comes back
online; over QUIC frames are read as long as the peer is there. -/
def Enabled (process : ChatProcess P) (event : ChatEvent) : Prop :=
  process.running = true ∧
    match event with
    | .opens => process.opening = true
    | .line .. | .disconnected => process.opening = false ∧ process.waiting = []
    | .frame _ => process.opening = false ∧
        (process.transport = .quic → process.chat.online = true)
    | .ack _ | .connected => process.opening = false ∧ process.transport = .pairing
    | .timeout => process.waiting ≠ []
    | .stop => True

instance (process : ChatProcess P) : DecidablePred process.Enabled
  | .opens | .line .. | .disconnected | .frame _ | .ack _ | .connected | .timeout | .stop => by
      unfold Enabled
      infer_instance

end ChatProcess

end CipherMesh
