import CipherMesh.Storage.Conversations

/-!
# What the application shows of a conversation

The reads that are made with the id of a conversation.
-/

namespace CipherMesh

open Foundation

namespace Storage

/-- The messages that are marked as new, joined on their ids. -/
def unreadOf (conversationId : String) (storage : Storage) : List MessageRecord :=
  (((storage.newMessages.rows.filter fun mark => mark.conversationId = conversationId).filterMap
    fun mark => storage.messages.find mark.messageId).filter
      fun message => message.direction = .received).insertionSort
        fun first second => historyOrder first ≤ historyOrder second

def pendingCountOf (conversationId : String) (storage : Storage) : Nat :=
  storage.pendingPeerMessages.rows.countP fun message => message.conversationId = conversationId

def knownPeerOf (conversationId : String) (storage : Storage) : Option KnownPeerRecord :=
  storage.knownPeers.rows.find? fun peer => peer.conversationId = conversationId

end Storage

namespace Database

open Storage

def newMessagesForConversation (conversationId : String) : StorageResult (List MessageRecord) :=
  query (unreadOf conversationId)

def pendingPeerMessageCount (conversationId : String) : StorageResult Nat :=
  query (pendingCountOf conversationId)

end Database

structure ConversationView where
  messages : List MessageRecord
  unread : List MessageRecord
  pendingCount : Nat
  events : List EventRecord
  vector : VersionVector
  session : Option SessionRecord
  knownPeer : Option KnownPeerRecord
  contact : Option ContactRecord

def Storage.viewOf (conversationId : String) (storage : Storage) : ConversationView where
  messages := storage.historyOf conversationId
  unread := storage.unreadOf conversationId
  pendingCount := storage.pendingCountOf conversationId
  events := storage.eventsOf conversationId
  vector := storage.vectorOf conversationId
  session := storage.sessions.find conversationId
  knownPeer := storage.knownPeerOf conversationId
  contact := storage.contacts.find conversationId

end CipherMesh
