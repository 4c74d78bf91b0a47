import CipherMesh.Storage.Contacts
import CipherMesh.Storage.Events

/-!
# Clearing and deleting conversations

Clearing removes the history of a conversation, deleting it removes every row that
names it.  The statements run one after the other, and the ids that were accepted stay.
-/

namespace CipherMesh

open Foundation
open Foundation.Mutation

namespace Database

/-- `DELETE FROM table WHERE condition`, with the number of removed rows. -/
def deleteFrom {Key Row : Type} {key : Row → Key} (read : Storage → Table key)
    (write : Table key → Storage → Storage) (condition : Row → Bool) : StorageResult Nat :=
  statement fun storage =>
    .ok ((read storage).rows.countP condition, write ((read storage).delete condition) storage)

theorem keeps_deleteFrom {Key Row : Type} {key : Row → Key} {read : Storage → Table key}
    {write : Table key → Storage → Storage} {condition : Row → Bool} {property : Storage → Prop}
    (keeps : ∀ storage, property storage →
      property (write ((read storage).delete condition) storage)) :
    Keeps (fun database => property database.storage) (deleteFrom read write condition) := by
  refine keeps_statement fun storage value after holds effected => ?_
  cases effected
  exact keeps storage holds

def deleteMessages (conversationId : String) : StorageResult Nat :=
  deleteFrom Storage.messages (fun messages storage => { storage with messages })
    fun message => message.conversationId = conversationId

def deleteNewMessages (conversationId : String) : StorageResult Nat :=
  deleteFrom Storage.newMessages (fun newMessages storage => { storage with newMessages })
    fun message => message.conversationId = conversationId

def clearConversationHistory (conversationId : String) : StorageResult Nat := do
  let removed ← deleteMessages conversationId
  let _ ← deleteNewMessages conversationId
  return removed

def deleteConversation (conversationId : String) : StorageResult Nat := do
  let messages ← deleteMessages conversationId
  let newMessages ← deleteNewMessages conversationId
  let pendingMessages ← deleteFrom Storage.pendingPeerMessages
    (fun pendingPeerMessages storage => { storage with pendingPeerMessages })
    fun message => message.conversationId = conversationId
  let events ← deleteFrom Storage.eventHistory
    (fun eventHistory storage => { storage with eventHistory })
    fun event => event.conversationId = conversationId
  let vectors ← deleteFrom Storage.versionVectors
    (fun versionVectors storage => { storage with versionVectors })
    fun entry => entry.conversationId = conversationId
  let sessions ← deleteFrom Storage.sessions (fun sessions storage => { storage with sessions })
    fun session => session.conversationId = conversationId
  let knownPeers ← deleteFrom Storage.knownPeers
    (fun knownPeers storage => { storage with knownPeers })
    fun peer => peer.conversationId = conversationId
  let contacts ← deleteFrom Storage.contacts (fun contacts storage => { storage with contacts })
    fun contact => contact.contactId = conversationId
  return messages + newMessages + pendingMessages + events + vectors + sessions + knownPeers +
    contacts

end Database

/-! ## Effects -/

/-- The tables without the rows that name a conversation. -/
def Storage.withoutConversation (conversationId : String) (storage : Storage) : Storage :=
  { storage with
    messages := storage.messages.delete fun message => message.conversationId = conversationId
    newMessages :=
      storage.newMessages.delete fun message => message.conversationId = conversationId
    pendingPeerMessages :=
      storage.pendingPeerMessages.delete fun message => message.conversationId = conversationId
    eventHistory := storage.eventHistory.delete fun event => event.conversationId = conversationId
    versionVectors :=
      storage.versionVectors.delete fun entry => entry.conversationId = conversationId
    sessions := storage.sessions.delete fun session => session.conversationId = conversationId
    knownPeers := storage.knownPeers.delete fun peer => peer.conversationId = conversationId
    contacts := storage.contacts.delete fun contact => contact.contactId = conversationId }

namespace Database

variable {database : Database}

/-- What is deleted first is gone in the rest. -/
theorem ensures_deleteFrom_bind {Key Row Result : Type} {key : Row → Key}
    {read : Storage → Table key} {write : Table key → Storage → Storage} {condition : Row → Bool}
    {next : Nat → StorageResult Result} {returned : Result → Database → Prop}
    (rest : ∀ count after, after.storage = write ((read database.storage).delete condition)
      database.storage → (next count).Ensures after returned fun _ _ => True) :
    (deleteFrom read write condition >>= next).Ensures database returned fun _ _ => True := by
  rw [ensures_bind]
  refine ensures_statement trivial (fun count after deleted => ?_) fun _ _ => trivial
  cases deleted
  exact rest _ _ rfl

theorem deleteConversation_ensures (conversationId : String) :
    (deleteConversation conversationId).Ensures database
      (fun _ after => after.storage = database.storage.withoutConversation conversationId)
      (fun _ _ => True) := by
  unfold deleteConversation deleteMessages deleteNewMessages
  refine ensures_deleteFrom_bind fun _ _ messages => ?_
  refine ensures_deleteFrom_bind fun _ _ newMessages => ?_
  refine ensures_deleteFrom_bind fun _ _ pendingMessages => ?_
  refine ensures_deleteFrom_bind fun _ _ events => ?_
  refine ensures_deleteFrom_bind fun _ _ vectors => ?_
  refine ensures_deleteFrom_bind fun _ _ sessions => ?_
  refine ensures_deleteFrom_bind fun _ _ knownPeers => ?_
  refine ensures_deleteFrom_bind fun _ _ contacts => ?_
  rw [ensures_pure]
  simp only [contacts, knownPeers, sessions, vectors, events, pendingMessages, newMessages,
    messages, Storage.withoutConversation]

theorem keeps_clearConversationHistory {property : Storage → Prop} {conversationId : String}
    (messages : ∀ storage, property storage → property { storage with
      messages := storage.messages.delete fun row => row.conversationId = conversationId })
    (others : ∀ storage newMessages, property storage → property { storage with newMessages }) :
    Keeps (fun database => property database.storage)
      (clearConversationHistory conversationId) :=
  .bind (keeps_deleteFrom messages) fun _ =>
    .bind (keeps_deleteFrom fun storage => others storage _) fun _ => .pure _

/-- What each deletion of rows keeps is kept by deleting a conversation.  Four of the tables
are deleted from one by one, and the others are seldom part of a property. -/
theorem keeps_deleteConversation {property : Storage → Prop} {conversationId : String}
    (messages : ∀ storage, property storage → property { storage with
      messages := storage.messages.delete fun row => row.conversationId = conversationId })
    (pending : ∀ storage, property storage → property { storage with
      pendingPeerMessages :=
        storage.pendingPeerMessages.delete fun row => row.conversationId = conversationId })
    (knownPeers : ∀ storage, property storage → property { storage with
      knownPeers := storage.knownPeers.delete fun peer => peer.conversationId = conversationId })
    (contacts : ∀ storage, property storage → property { storage with
      contacts := storage.contacts.delete fun contact => contact.contactId = conversationId })
    (others : ∀ storage newMessages eventHistory versionVectors sessions, property storage →
      property { storage with newMessages, eventHistory, versionVectors, sessions }) :
    Keeps (fun database => property database.storage) (deleteConversation conversationId) := by
  unfold deleteConversation deleteMessages deleteNewMessages
  refine .bind (keeps_deleteFrom messages) fun _ => ?_
  refine .bind (keeps_deleteFrom fun storage => others storage _ _ _ _) fun _ => ?_
  refine .bind (keeps_deleteFrom pending) fun _ => ?_
  refine .bind (keeps_deleteFrom fun storage => others storage _ _ _ _) fun _ => ?_
  refine .bind (keeps_deleteFrom fun storage => others storage _ _ _ _) fun _ => ?_
  refine .bind (keeps_deleteFrom fun storage => others storage _ _ _ _) fun _ => ?_
  refine .bind (keeps_deleteFrom knownPeers) fun _ => ?_
  exact .bind (keeps_deleteFrom contacts) fun _ => .pure _

end Database

end CipherMesh
