import CipherMesh.Storage.Database
import Mathlib.Data.Prod.Lex
import Mathlib.Order.WithBot
import Mathlib.Data.String.Basic

/-!
# Messages and queues

The history of messages, the queue of messages a peer has not acknowledged, the
durable outbox, and the ids that were accepted.
-/

namespace CipherMesh

open Foundation
open Foundation.Mutation

namespace Storage

/-- The statement of `insert_message`. -/
def withMessage (message : MessageRecord) (storage : Storage) : Storage :=
  { storage with messages := storage.messages.insertOrIgnore message }

def withLocalIdentity (identity : LocalIdentityRecord) (storage : Storage) : Storage :=
  { storage with localIdentity := storage.localIdentity.upsert identity }

def withSession (session : SessionRecord) (storage : Storage) : Storage :=
  { storage with sessions := storage.sessions.upsert session }

/-- The order of `ORDER BY created_at_unix_secs, message_id`. -/
def pendingOrder (message : PendingPeerMessage) : Int ×ₗ String :=
  toLex (asI64 message.createdAtUnixSecs, message.messageId)

def pendingFor (peerId : String) (storage : Storage) : List PendingPeerMessage :=
  storage.pendingPeerMessages.select (fun message => message.peerId = peerId) pendingOrder

/-- The order of `ORDER BY created_at_unix_secs, protocol_counter, message_id`, in which
`NULL` comes first. -/
def historyOrder (message : MessageRecord) : Int ×ₗ WithBot Int ×ₗ String :=
  let counter : WithBot Int := match message.protocolCounter with
    | none => ⊥
    | some counter => asI64 (.ofNat counter)
  toLex (asI64 message.createdAtUnixSecs, toLex (counter, message.messageId))

def historyOf (conversationId : String) (storage : Storage) : List MessageRecord :=
  storage.messages.select (fun message => message.conversationId = conversationId) historyOrder

end Storage

namespace Database

open Storage

def saveLocalIdentity (id role : String) (state : Bytes) : StorageResult Unit := do
  let now ← nowUnixSecs
  execute (withLocalIdentity ⟨id, role, state, now⟩)

def loadLocalIdentity (id : String) : StorageResult (Option Bytes) :=
  query fun storage => (storage.localIdentity.find id).map LocalIdentityRecord.state

def insertMessage (message : MessageRecord) : StorageResult Unit :=
  execute (withMessage message)

def messagesForConversation (conversationId : String) : StorageResult (List MessageRecord) :=
  query (historyOf conversationId)

def updateMessageStatus (messageId : String) (status : MessageStatus) : StorageResult Unit :=
  execute fun storage =>
    { storage with
      messages := storage.messages.update (fun message => message.messageId = messageId)
        (fun message => { message with status }) fun _ => rfl }

def messageExists (messageId : String) : StorageResult Bool :=
  query fun storage => decide (storage.messages.Contains messageId)

def saveStateSessionAndInsertMessage (localIdentityId localIdentityRole : String)
    (localIdentityState : Bytes) (conversationId peerId sessionRole : String)
    (sessionState : Bytes) (message : MessageRecord) : StorageResult Unit := do
  let now ← nowUnixSecs
  transaction do
    execute (withLocalIdentity ⟨localIdentityId, localIdentityRole, localIdentityState, now⟩)
    execute (withSession ⟨conversationId, peerId, sessionRole, sessionState, now⟩)
    execute (withMessage message)

def queuePendingPeerMessage (message : PendingPeerMessage) : StorageResult Unit :=
  execute fun storage =>
    { storage with pendingPeerMessages := storage.pendingPeerMessages.insertOrIgnore message }

def pendingPeerMessagesForPeer (peerId : String) : StorageResult (List PendingPeerMessage) :=
  query (pendingFor peerId)

def recordPendingPeerMessageAttempt (messageId : String) : StorageResult Unit := do
  let now ← nowUnixSecs
  execute fun storage =>
    { storage with
      pendingPeerMessages := storage.pendingPeerMessages.update
        (fun message => message.messageId = messageId)
        (fun message =>
          { message with
            retryCount := message.retryCount + 1
            lastAttemptUnixSecs := some now }) fun _ => rfl }

def removePendingPeerMessage (messageId : String) : StorageResult Unit :=
  execute fun storage =>
    { storage with
      pendingPeerMessages := storage.pendingPeerMessages.delete
        fun message => message.messageId = messageId }

def markOutboxDelivered (messageId : String) : StorageResult Unit := do
  let now ← nowUnixSecs
  execute fun storage =>
    { storage with
      outbox := storage.outbox.update (fun item => item.messageId = messageId)
        (fun item => { item with status := .delivered, lastAttemptUnixSecs := some now })
        fun _ => rfl }

/-- Record the id and return whether it is new. -/
def acceptMessageOnce (messageId : String) : StorageResult Bool := do
  let now ← nowUnixSecs
  statement fun storage =>
    .ok (decide ¬ storage.acceptedMessages.Contains messageId,
      { storage with
        acceptedMessages := storage.acceptedMessages.insertOrIgnore ⟨messageId, now⟩ })

def markMessageNew (conversationId messageId : String) : StorageResult Unit := do
  let now ← nowUnixSecs
  execute fun storage =>
    { storage with
      newMessages := storage.newMessages.insertOrIgnore ⟨messageId, conversationId, now⟩ }

end Database

end CipherMesh
