import CipherMesh.Storage.Messages

/-!
# Contacts and known peers

A contact is filed under an id derived from its identity key, or from its display
name as long as no identity is known.  Merging moves the conversation of a display
name to the identity.
-/

namespace CipherMesh

open Foundation
open Foundation.Mutation

namespace Database

def saveContact (contact : ContactRecord) : StorageResult Unit :=
  execute fun storage => { storage with contacts := storage.contacts.upsert contact }

def loadContact (contactId : String) : StorageResult (Option ContactRecord) :=
  query fun storage => storage.contacts.find contactId

/-- The column `conversation_id` is unique. -/
def saveKnownPeer (peer : KnownPeerRecord) : StorageResult Unit :=
  statement fun storage =>
    if ∃ other ∈ storage.knownPeers.rows,
        other.conversationId = peer.conversationId ∧ other.peerId ≠ peer.peerId then
      .error .constraint
    else .ok ((), { storage with knownPeers := storage.knownPeers.upsert peer })

def knownPeerForConversation (conversationId : String) :
    StorageResult (Option KnownPeerRecord) :=
  query fun storage =>
    storage.knownPeers.rows.find? fun peer => peer.conversationId = conversationId

/-- Give the session of one conversation to another that has none. -/
def renameSession (oldContactId newContactId : String) (storage : Storage) : Storage :=
  match storage.sessions.find oldContactId with
  | none => storage
  | some session =>
      { storage with
        sessions := (storage.sessions.delete
          fun session => session.conversationId = oldContactId).upsert
            { session with conversationId := newContactId } }

/-- `INSERT OR IGNORE` of the vector of one conversation as that of another. -/
def copyVector (oldContactId newContactId : String) (storage : Storage) : Storage :=
  { storage with
    versionVectors := (storage.versionVectors.rows.filter fun entry =>
      entry.conversationId = oldContactId).foldl
        (fun table entry => table.insertOrIgnore { entry with conversationId := newContactId })
        storage.versionVectors }

/-- A session that the new contact has wins over that of the old one. -/
def moveSession (oldContactId newContactId : String) : StorageResult Unit := do
  let newSessionExists ← query fun storage => decide (storage.sessions.Contains newContactId)
  if newSessionExists then
    execute fun storage =>
      { storage with
        sessions := storage.sessions.delete
          fun session => session.conversationId = oldContactId }
  else execute (renameSession oldContactId newContactId)

/-- The statements run one after the other, without a transaction. -/
def mergeContactInto (oldContactId newContactId : String) : StorageResult Unit :=
  if oldContactId = newContactId then pure ()
  else do
    execute fun storage =>
      { storage with
        messages := storage.messages.update
          (fun message => message.conversationId = oldContactId)
          (fun message => { message with conversationId := newContactId }) fun _ => rfl }
    execute fun storage =>
      { storage with
        pendingPeerMessages := storage.pendingPeerMessages.update
          (fun message => message.conversationId = oldContactId)
          (fun message => { message with conversationId := newContactId }) fun _ => rfl }
    execute fun storage =>
      { storage with
        eventHistory := storage.eventHistory.update
          (fun event => event.conversationId = oldContactId)
          (fun event => { event with conversationId := newContactId }) fun _ => rfl }
    moveSession oldContactId newContactId
    execute (copyVector oldContactId newContactId)
    execute fun storage =>
      { storage with
        versionVectors := storage.versionVectors.delete
          fun entry => entry.conversationId = oldContactId }
    execute fun storage =>
      { storage with
        knownPeers := storage.knownPeers.delete
          fun peer => peer.conversationId = oldContactId }
    execute fun storage =>
      { storage with
        contacts := storage.contacts.delete fun contact => contact.contactId = oldContactId }

end Database

end CipherMesh
