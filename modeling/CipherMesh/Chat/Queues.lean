import CipherMesh.Chat.Filing
import CipherMesh.Crypto.Symbolic
import CipherMesh.Foundation.Reachability
import CipherMesh.Storage.Conversations

/-!
# The queue that a flush reads

A waiting message names its conversation and the peer whose queue it is in.  Both are the
id of the contact when the message is queued, and a flush reads the queue of that id.
Merging a contact that was filed under its display name moves its waiting messages to
another conversation and leaves them in the queue of the old id.
-/

namespace CipherMesh

open Foundation
open Foundation.Mutation

variable {P : Primitives}

/-- Contacts are filed under their identity keys, and each waiting message is in the queue
of its conversation. -/
structure Owned (P : Primitives) (storage : Storage) : Prop where
  filed : Filed P (fun _ => False) storage
  rows : ∀ row ∈ storage.pendingPeerMessages, row.peerId = row.conversationId

theorem Owned.empty : Owned P .empty where
  filed := {
    knownPeers := fun _ member => absurd member Table.notMem_empty
    contacts := fun _ member => absurd member Table.notMem_empty
    held := fun _ never => never.elim }
  rows _ member := absurd member Table.notMem_empty

/-- Fewer rows. -/
theorem Owned.of_subset {storage after : Storage} (owned : Owned P storage)
    (knownPeers : ∀ peer ∈ after.knownPeers, peer ∈ storage.knownPeers)
    (contacts : ∀ contact ∈ after.contacts, contact ∈ storage.contacts)
    (pending : ∀ row ∈ after.pendingPeerMessages, row ∈ storage.pendingPeerMessages) :
    Owned P after where
  filed := {
    knownPeers := fun peer member => owned.filed.knownPeers peer (knownPeers peer member)
    contacts := fun contact member => owned.filed.contacts contact (contacts contact member)
    held := fun _ never => never.elim }
  rows row member := owned.rows row (pending row member)

/-! ## The waiting messages -/

section

variable {property : Table PendingPeerMessage.messageId → Prop}

/-- A property of the waiting messages alone. -/
def Waiting (property : Table PendingPeerMessage.messageId → Prop) (storage : Storage) : Prop :=
  property storage.pendingPeerMessages

/-- Statements on other tables. -/
theorem keepsPending_frame {write : Storage → Storage}
    (pending : ∀ storage, (write storage).pendingPeerMessages = storage.pendingPeerMessages) :
    Keeps (fun database : Database => Waiting property database.storage)
      (Database.execute write) :=
  Database.keeps_execute fun storage holds => by rwa [Waiting, pending storage]

theorem messageId_moved (newContactId : String) (message : PendingPeerMessage) :
    ({ message with conversationId := newContactId } : PendingPeerMessage).messageId =
      message.messageId := rfl

/-- The waiting messages of one conversation as those of another. -/
def moveRows (oldContactId newContactId : String)
    (rows : Table PendingPeerMessage.messageId) : Table PendingPeerMessage.messageId :=
  rows.update (fun message => message.conversationId = oldContactId)
    (fun message => { message with conversationId := newContactId })
    (messageId_moved newContactId)

theorem keepsPending_mergeContactInto {oldContactId newContactId : String}
    (moves : ∀ rows, property rows → property (moveRows oldContactId newContactId rows)) :
    Keeps (fun database : Database => Waiting property database.storage)
      (Database.mergeContactInto oldContactId newContactId) := by
  apply Database.keeps_mergeContactInto
  · exact fun _ holds => holds
  · exact fun _ holds => moves _ holds
  · exact fun _ _ _ _ holds => holds
  · exact fun _ holds => holds
  · exact fun _ holds => holds

theorem keepsPending_saveContactForChat {contactId displayName : String}
    {identityPublicKey : Bytes} {discoveryHint : String}
    (moves : identityPublicKey.length = 32 → ∀ rows, property rows →
      property (moveRows (contactIdForDisplayName P (displayNameOrAnonymous displayName))
        contactId rows)) :
    Keeps (fun database : Database => Waiting property database.storage)
      (saveContactForChat P contactId displayName identityPublicKey discoveryHint) := by
  apply saveContactForChat_keeps
  · exact fun _ _ holds => holds
  · exact fun full => keepsPending_mergeContactInto (moves full)
  · exact fun _ _ _ holds => holds

end

/-- No message waits under the display name of a contact that gets another id. -/
def NoneMoved (oldContactId newContactId : String) (storage : Storage) : Prop :=
  ∀ row ∈ storage.pendingPeerMessages, row.conversationId = oldContactId →
    oldContactId = newContactId

/-- Saving a contact keeps the queues unless it moves a waiting message. -/
theorem saveContactForChat_owned {contactId displayName : String} {identityPublicKey : Bytes}
    {discoveryHint : String} {database : Database} (owned : Owned P database.storage)
    (underIdentity : identityPublicKey.length = 32 →
      contactId = contactIdForIdentity P identityPublicKey)
    (noneMoved : identityPublicKey.length = 32 →
      NoneMoved (contactIdForDisplayName P (displayNameOrAnonymous displayName)) contactId
        database.storage) :
    (saveContactForChat P contactId displayName identityPublicKey discoveryHint).Ensures
      database (fun _ after => Owned P after.storage) (fun _ after => Owned P after.storage) := by
  have filed : Keeps (fun database : Database => Filed P (fun _ => False) database.storage)
      (saveContactForChat P contactId displayName identityPublicKey discoveryHint) :=
    keepsFiled_saveContactForChat underIdentity fun _ never => never.elim
  have rows : Keeps (fun database : Database => Waiting (fun rows => ∀ row ∈ rows,
        row.peerId = row.conversationId ∧ (identityPublicKey.length = 32 →
          row.conversationId = contactIdForDisplayName P (displayNameOrAnonymous displayName) →
            contactIdForDisplayName P (displayNameOrAnonymous displayName) = contactId))
        database.storage)
      (saveContactForChat P contactId displayName identityPublicKey discoveryHint) := by
    refine keepsPending_saveContactForChat fun full rows holds row member => ?_
    obtain ⟨old, oldMember, rfl⟩ := Table.mem_update.mp member
    obtain ⟨own, unmoved⟩ := holds old oldMember
    split
    · next legacy =>
        have here := of_decide_eq_true legacy
        have same := unmoved full here
        exact ⟨own.trans (here.trans same), fun _ _ => same⟩
    · exact ⟨own, unmoved⟩
  refine ((filed database owned.filed).and (rows database fun row member =>
    ⟨owned.rows row member, fun full => noneMoved full row member⟩)).mono ?_ ?_
  · exact fun _ after kept => ⟨kept.1, fun row member => (kept.2 row member).1⟩
  · exact fun _ after kept => ⟨kept.1, fun row member => (kept.2 row member).1⟩

/-! ## The other calls -/

/-- The peer of a conversation names the conversation. -/
theorem knownPeerFor_conversationId {storage : Storage} {conversationId : String}
    {peer : KnownPeerRecord} (found : storage.knownPeerFor P conversationId = some peer) :
    peer.conversationId = conversationId := by
  rcases Storage.knownPeerFor_cases found with
    ⟨-, named⟩ | ⟨contact, -, named, -, -, conversation⟩
  · exact named
  · exact conversation.trans named

/-- A message that is queued for its own conversation. -/
theorem queuePendingPeerMessage_owned {row : PendingPeerMessage}
    (own : row.peerId = row.conversationId) :
    Keeps (fun database => Owned P database.storage) (Database.queuePendingPeerMessage row) :=
  Database.keeps_execute fun storage owned => by
    refine ⟨⟨owned.filed.knownPeers, owned.filed.contacts, fun _ never => never.elim⟩, ?_⟩
    intro other member
    rcases Table.mem_insertOrIgnore.mp member with old | ⟨rfl, _⟩
    · exact owned.rows other old
    · exact own

theorem queueOfflinePeerMessage_owned {peer : KnownPeerRecord}
    (own : peer.peerId = peer.conversationId) (plaintext : String) (random : Bytes) :
    Keeps (fun database => Owned P database.storage)
      (queueOfflinePeerMessage P peer plaintext random) := by
  refine .bind Database.keeps_nowUnixSecs fun now => ?_
  refine .bind (queuePendingPeerMessage_owned own) fun _ => ?_
  exact Database.keeps_execute fun storage owned =>
    ⟨owned.filed.congr rfl rfl rfl, owned.rows⟩

/-- The peer of a conversation is found under the id of the conversation. -/
theorem loadKnownPeer_filed {database : Database}
    (filed : Filed P (fun _ => False) database.storage) (conversationId : String) :
    (loadKnownPeerForConversation P conversationId).Ensures database
      (fun found after => after.storage = database.storage ∧ ∀ peer, found = some peer →
        peer.peerId = conversationId ∧ peer.conversationId = conversationId)
      (fun error after => error = .interrupted ∧ after.storage = database.storage) := by
  refine (loadKnownPeer_ensures database conversationId).mono ?_ fun _ _ => id
  rintro _ after ⟨rfl, same, _⟩
  exact ⟨same, fun peer found =>
    ⟨filed.peerId_eq found, knownPeerFor_conversationId found⟩⟩

/-- The key under which the queue of a conversation is read. -/
theorem pendingPeerId_filed {database : Database}
    (filed : Filed P (fun _ => False) database.storage) (conversationId : String) :
    (pendingPeerIdForConversation P conversationId).Ensures database
      (fun peerId after => after.storage = database.storage ∧ peerId = conversationId)
      (fun _ after => after.storage = database.storage) := by
  rw [pendingPeerIdForConversation, ensures_bind]
  refine (loadKnownPeer_filed filed conversationId).mono ?_ fun _ _ => And.right
  rintro found after ⟨same, named⟩
  refine ⟨same, ?_⟩
  cases found with
  | none => rfl
  | some peer => exact (named peer rfl).1

theorem trackPendingChatDelivery_owned (conversationId messageId plaintext : String) :
    Keeps (fun database => Owned P database.storage)
      (trackPendingChatDelivery P conversationId messageId plaintext) := by
  intro database owned
  rw [trackPendingChatDelivery, ensures_bind]
  refine (pendingPeerId_filed owned.filed conversationId).mono ?_ ?_
  · rintro _ after ⟨same, rfl⟩
    have afterOwned : Owned P after.storage := same ▸ owned
    exact (Keeps.bind Database.keeps_nowUnixSecs fun now =>
      queuePendingPeerMessage_owned rfl) after afterOwned
  · intro _ after same
    exact same ▸ owned

theorem recordPendingPeerMessageAttempt_owned (messageId : String) :
    Keeps (fun database => Owned P database.storage)
      (Database.recordPendingPeerMessageAttempt messageId) := by
  refine .bind Database.keeps_nowUnixSecs fun now => Database.keeps_execute fun storage owned => ?_
  refine ⟨⟨owned.filed.knownPeers, owned.filed.contacts, fun _ never => never.elim⟩, ?_⟩
  apply Table.forall_mem_update _ owned.rows
  · exact fun _ own => own
  · exact fun _ => rfl

theorem removePendingPeerMessage_owned (messageId : String) :
    Keeps (fun database => Owned P database.storage)
      (Database.removePendingPeerMessage messageId) :=
  Database.keeps_execute fun _ owned => owned.of_subset (fun _ => id) (fun _ => id)
    fun _ member => (Table.mem_delete.mp member).1

/-- Deleting a conversation only takes rows away. -/
theorem deleteConversation_keeps {property : Storage → Prop}
    (smaller : ∀ {storage after : Storage}, property storage →
      (∀ peer ∈ after.knownPeers, peer ∈ storage.knownPeers) →
      (∀ contact ∈ after.contacts, contact ∈ storage.contacts) →
      (∀ row ∈ after.pendingPeerMessages, row ∈ storage.pendingPeerMessages) → property after)
    (conversationId : String) :
    Keeps (fun database => property database.storage)
      (Database.deleteConversation conversationId) := by
  apply Database.keeps_deleteConversation
  · exact fun _ holds => smaller holds (fun _ => id) (fun _ => id) fun _ => id
  · exact fun _ holds => smaller holds (fun _ => id) (fun _ => id)
      fun _ member => (Table.mem_delete.mp member).1
  · exact fun _ holds => smaller holds (fun _ member => (Table.mem_delete.mp member).1)
      (fun _ => id) fun _ => id
  · exact fun _ holds => smaller holds (fun _ => id)
      (fun _ member => (Table.mem_delete.mp member).1) fun _ => id
  · exact fun _ _ _ _ _ holds => smaller holds (fun _ => id) (fun _ => id) fun _ => id

theorem deleteConversation_owned (conversationId : String) :
    Keeps (fun database => Owned P database.storage)
      (Database.deleteConversation conversationId) :=
  deleteConversation_keeps Owned.of_subset conversationId

/-! ## Runs -/

/-- The calls that write contacts and waiting messages. -/
inductive QueueCall where
  | saveIdentityContact (identityPublicKey : Bytes) (displayName discoveryHint : String)
  | saveLegacyContact (displayName discoveryHint : String)
  | loadKnownPeer (conversationId : String)
  | queueOfflinePeerMessage (peer : KnownPeerRecord) (plaintext : String) (random : Bytes)
  | trackPendingChatDelivery (conversationId messageId plaintext : String)
  | recordPendingPeerMessageAttempt (messageId : String)
  | removePendingPeerMessage (messageId : String)
  | deleteConversation (conversationId : String)

/-- The tables, and the peers that the programs have loaded and may queue messages for. -/
structure QueueStore where
  database : Database
  loaded : List KnownPeerRecord

namespace QueueCall

/-- The call, with the peer that it loads. -/
def perform (P : Primitives) : QueueCall → StorageResult (Option KnownPeerRecord)
  | .saveIdentityContact identityPublicKey displayName discoveryHint => do
      saveContactForChat P (contactIdForIdentity P identityPublicKey) displayName
        identityPublicKey discoveryHint
      return none
  | .saveLegacyContact displayName discoveryHint => do
      saveContactForChat P (contactIdForDisplayName P displayName) displayName
        (.ofText "legacy display-name contact") discoveryHint
      return none
  | .loadKnownPeer conversationId => loadKnownPeerForConversation P conversationId
  | .queueOfflinePeerMessage peer plaintext random => do
      CipherMesh.queueOfflinePeerMessage P peer plaintext random
      return none
  | .trackPendingChatDelivery conversationId messageId plaintext => do
      CipherMesh.trackPendingChatDelivery P conversationId messageId plaintext
      return none
  | .recordPendingPeerMessageAttempt messageId => do
      Database.recordPendingPeerMessageAttempt messageId
      return none
  | .removePendingPeerMessage messageId => do
      Database.removePendingPeerMessage messageId
      return none
  | .deleteConversation conversationId => do
      let _ ← Database.deleteConversation conversationId
      return none

/-- Identity keys have their length, and messages are queued for a loaded peer. -/
def Permitted (loaded : List KnownPeerRecord) : QueueCall → Prop
  | .saveIdentityContact identityPublicKey _ _ => identityPublicKey.length = 32
  | .queueOfflinePeerMessage peer _ _ => peer ∈ loaded
  | _ => True

/-- The runs of calls, from an empty store. -/
def calls (P : Primitives) : System QueueStore (QueueCall × UInt64 × List Bool) where
  initial store := store.database.storage = .empty ∧ store.loaded = []
  permitted store event := event.1.Permitted store.loaded
  next store event :=
    match (event.1.perform P).run (store.database.opened event.2.1 event.2.2) with
    | (.ok (some peer), database) => ⟨database, peer :: store.loaded⟩
    | (_, database) => { store with database }

/-- No call saves an identity for a display name under which a message waits. -/
def MergesNoQueue (P : Primitives) (store : QueueStore)
    (event : QueueCall × UInt64 × List Bool) : Prop :=
  match event.1 with
  | .saveIdentityContact identityPublicKey displayName _ =>
      NoneMoved (contactIdForDisplayName P (displayNameOrAnonymous displayName))
        (contactIdForIdentity P identityPublicKey) store.database.storage
  | _ => True

/-- Peers are loaded under the id of their conversation. -/
def Loaded (loaded : List KnownPeerRecord) : Prop :=
  ∀ peer ∈ loaded, peer.peerId = peer.conversationId

theorem perform_owned {database : Database} (owned : Owned P database.storage)
    {loaded : List KnownPeerRecord} (own : Loaded loaded) {call : QueueCall}
    (permitted : call.Permitted loaded)
    (merges : ∀ identityPublicKey displayName discoveryHint,
      call = .saveIdentityContact identityPublicKey displayName discoveryHint →
        NoneMoved (contactIdForDisplayName P (displayNameOrAnonymous displayName))
          (contactIdForIdentity P identityPublicKey) database.storage) :
    (call.perform P).Ensures database
      (fun found after => Owned P after.storage ∧
        ∀ peer, found = some peer → peer.peerId = peer.conversationId)
      (fun _ after => Owned P after.storage) := by
  have silent : ∀ {Result : Type} {method : StorageResult Result},
      method.Ensures database (fun _ after => Owned P after.storage)
        (fun _ after => Owned P after.storage) →
      (method >>= fun _ => return none).Ensures database
        (fun (found : Option KnownPeerRecord) after => Owned P after.storage ∧
          ∀ peer, found = some peer → peer.peerId = peer.conversationId)
        (fun _ after => Owned P after.storage) := by
    intro Result method ensures
    rw [ensures_bind]
    exact ensures.mono (fun _ after kept => ⟨kept, fun _ => nofun⟩) fun _ _ => id
  cases call with
  | saveIdentityContact identityPublicKey displayName discoveryHint =>
      exact silent (saveContactForChat_owned owned (fun _ => rfl)
        fun _ => merges identityPublicKey displayName discoveryHint rfl)
  | saveLegacyContact displayName discoveryHint =>
      exact silent (saveContactForChat_owned owned (fun full => absurd full (by decide))
        fun full => absurd full (by decide))
  | loadKnownPeer conversationId =>
      refine (loadKnownPeer_filed owned.filed conversationId).mono ?_ ?_
      · rintro found after ⟨same, named⟩
        exact ⟨same ▸ owned,
          fun peer found => (named peer found).1.trans (named peer found).2.symm⟩
      · rintro _ after ⟨-, same⟩
        exact same ▸ owned
  | queueOfflinePeerMessage peer plaintext random =>
      exact silent (queueOfflinePeerMessage_owned (own peer permitted) plaintext random database
        owned)
  | trackPendingChatDelivery conversationId messageId plaintext =>
      exact silent (trackPendingChatDelivery_owned conversationId messageId plaintext database
        owned)
  | recordPendingPeerMessageAttempt messageId =>
      exact silent (recordPendingPeerMessageAttempt_owned messageId database owned)
  | removePendingPeerMessage messageId =>
      exact silent (removePendingPeerMessage_owned messageId database owned)
  | deleteConversation conversationId =>
      exact silent (deleteConversation_owned conversationId database owned)

variable {store : QueueStore}

theorem owned_of_reachable
    (reachable : ((calls P).restrict (MergesNoQueue P)).Reachable store) :
    Owned P store.database.storage ∧ Loaded store.loaded := by
  refine reachable.invariant
    (fun store => Owned P store.database.storage ∧ Loaded store.loaded) ?_ ?_
  · rintro start ⟨empty, none⟩
    rw [empty, none]
    exact ⟨.empty, fun peer member => absurd member List.not_mem_nil⟩
  · rintro state ⟨call, now, interruptions⟩ ⟨owned, own⟩ ⟨permitted, merges⟩
    have performed : (call.perform P).Ensures (state.database.opened now interruptions)
        (fun found after => Owned P after.storage ∧
          ∀ peer, found = some peer → peer.peerId = peer.conversationId)
        (fun _ after => Owned P after.storage) := by
      have opened : Owned P (state.database.opened now interruptions).storage := owned
      refine perform_owned opened own permitted ?_
      rintro identityPublicKey displayName discoveryHint rfl
      exact merges
    dsimp only [System.restrict, calls]
    split
    · next peer database returned =>
        obtain ⟨kept, named⟩ := performed.of_ok returned
        refine ⟨kept, fun other member => ?_⟩
        rcases List.mem_cons.mp member with rfl | old
        · exact named other rfl
        · exact own other old
    · next result database notLoaded outcome =>
        cases result with
        | ok found => exact ⟨(performed.of_ok outcome).1, own⟩
        | error error => exact ⟨performed.of_error outcome, own⟩

/-- The query of a flush over the mailbox. -/
def mailboxFlush (conversationId : String) : StorageResult (List PendingPeerMessage) :=
  Database.pendingPeerMessagesForPeer conversationId

/-- The query of a flush over a connection. -/
def connectionFlush (P : Primitives) (conversationId : String) :
    StorageResult (List PendingPeerMessage) := do
  let peerId ← pendingPeerIdForConversation P conversationId
  Database.pendingPeerMessagesForPeer peerId

theorem flush_returns {database : Database} (owned : Owned P database.storage)
    {row : PendingPeerMessage} (waiting : row ∈ database.storage.pendingPeerMessages) :
    (mailboxFlush row.conversationId).Ensures database (fun rows _ => row ∈ rows)
        (fun error _ => error = .interrupted) ∧
      (connectionFlush P row.conversationId).Ensures database (fun rows _ => row ∈ rows)
        (fun error _ => error = .interrupted) := by
  have queue : ∀ {after : Database}, after.storage = database.storage →
      (mailboxFlush row.conversationId).Ensures after (fun rows _ => row ∈ rows)
        (fun error _ => error = .interrupted) := by
    intro after same
    refine Database.ensures_query rfl ?_
    rw [same]
    exact Table.mem_select.mpr ⟨waiting, decide_eq_true (owned.rows row waiting)⟩
  refine ⟨queue rfl, ?_⟩
  rw [connectionFlush, ensures_bind, pendingPeerIdForConversation, ensures_bind]
  refine (loadKnownPeer_filed owned.filed row.conversationId).mono ?_ fun _ _ => And.left
  rintro found after ⟨same, named⟩
  cases found with
  | none => exact queue same
  | some peer =>
      have key := (named peer rfl).1
      rw [ensures_pure, Option.map_some, Option.getD_some, key]
      exact queue same

/-- As long as no waiting message is moved by a merge, the queue that a flush reads for a
conversation holds all messages that wait in it, under either key. -/
theorem waiting_is_flushed
    (reachable : ((calls P).restrict (MergesNoQueue P)).Reachable store)
    {row : PendingPeerMessage} (waiting : row ∈ store.database.storage.pendingPeerMessages)
    (now : UInt64) (interruptions : List Bool) :
    (mailboxFlush row.conversationId).Ensures (store.database.opened now interruptions)
        (fun rows _ => row ∈ rows) (fun error _ => error = .interrupted) ∧
      (connectionFlush P row.conversationId).Ensures (store.database.opened now interruptions)
        (fun rows _ => row ∈ rows) (fun error _ => error = .interrupted) := by
  have opened : Owned P (store.database.opened now interruptions).storage :=
    (owned_of_reachable reachable).1
  exact flush_returns opened waiting

end QueueCall

/-! ## A contact that gets an identity -/

namespace Symbolic

def bobsIdentity : Bytes := List.replicate 32 7

/-- Bob is saved under his identity, and a message is queued for him. -/
def queueCalls : List (QueueCall × UInt64 × List Bool) :=
  [(.saveIdentityContact bobsIdentity "Bob" "", 1, []),
    (.trackPendingChatDelivery (contactIdForIdentity primitives bobsIdentity) "message-1" "hello",
      2, [])]

/-- A message is queued for Bob under his name, and he is saved under his identity later. -/
def mergedCalls : List (QueueCall × UInt64 × List Bool) :=
  [(.saveLegacyContact "Bob" "", 1, []),
    (.trackPendingChatDelivery (contactIdForDisplayName primitives "Bob") "message-1" "hello",
      2, []),
    (.saveIdentityContact bobsIdentity "Bob" "", 3, [])]

def queueStore (events : List (QueueCall × UInt64 × List Bool)) : QueueStore :=
  (QueueCall.calls primitives).run ⟨⟨.empty, 0, []⟩, []⟩ events

/-- The message that waits for Bob. -/
def waitingMessage (peerId conversationId : String) : PendingPeerMessage :=
  ⟨"message-1", peerId, conversationId, "hello", 2, 0, none⟩

/-- The message for the identity is read under either key. -/
theorem message_for_identity_is_flushed :
    (QueueCall.mailboxFlush (contactIdForIdentity primitives bobsIdentity)).Ensures
        ((queueStore queueCalls).database.opened 3 [])
        (fun rows _ => waitingMessage (contactIdForIdentity primitives bobsIdentity)
          (contactIdForIdentity primitives bobsIdentity) ∈ rows)
          (fun error _ => error = .interrupted) ∧
      (QueueCall.connectionFlush primitives
          (contactIdForIdentity primitives bobsIdentity)).Ensures
        ((queueStore queueCalls).database.opened 3 [])
        (fun rows _ => waitingMessage (contactIdForIdentity primitives bobsIdentity)
          (contactIdForIdentity primitives bobsIdentity) ∈ rows)
          (fun error _ => error = .interrupted) := by
  have member : waitingMessage (contactIdForIdentity primitives bobsIdentity)
      (contactIdForIdentity primitives bobsIdentity) ∈
        (queueStore queueCalls).database.storage.pendingPeerMessages := by
    rw [Table.mem_def]
    decide +kernel
  have permits : ((QueueCall.calls primitives).restrict
      (QueueCall.MergesNoQueue primitives)).Permits ⟨⟨.empty, 0, []⟩, []⟩ queueCalls := by
    refine ⟨⟨List.length_replicate, fun row waiting => ?_⟩, ⟨trivial, trivial⟩, trivial⟩
    exact absurd waiting Table.notMem_empty
  exact QueueCall.waiting_is_flushed ⟨_, ⟨rfl, rfl⟩, permits.reaches⟩ member 3 []

/-- Bob's message waits in his conversation, and no flush reads the queue that it is in. -/
theorem merged_message_is_not_flushed :
    (QueueCall.calls primitives).Reachable (queueStore mergedCalls) ∧
      ((queueStore mergedCalls).database.storage.contacts.find
        (contactIdForIdentity primitives bobsIdentity)).isSome = true ∧
      (queueStore mergedCalls).database.storage.pendingPeerMessages.rows =
        [waitingMessage (contactIdForDisplayName primitives "Bob")
          (contactIdForIdentity primitives bobsIdentity)] ∧
      ¬ (QueueCall.mailboxFlush (contactIdForIdentity primitives bobsIdentity)).Ensures
          ((queueStore mergedCalls).database.opened 4 [])
          (fun rows _ => waitingMessage (contactIdForDisplayName primitives "Bob")
            (contactIdForIdentity primitives bobsIdentity) ∈ rows)
          (fun error _ => error = .interrupted) ∧
      ¬ (QueueCall.connectionFlush primitives
            (contactIdForIdentity primitives bobsIdentity)).Ensures
          ((queueStore mergedCalls).database.opened 4 [])
          (fun rows _ => waitingMessage (contactIdForDisplayName primitives "Bob")
            (contactIdForIdentity primitives bobsIdentity) ∈ rows)
          (fun error _ => error = .interrupted) := by
  have permits : (QueueCall.calls primitives).Permits ⟨⟨.empty, 0, []⟩, []⟩ mergedCalls :=
    ⟨trivial, trivial, List.length_replicate, trivial⟩
  refine ⟨⟨_, ⟨rfl, rfl⟩, permits.reaches⟩, by decide +kernel, by decide +kernel, ?_, ?_⟩
  · intro flushed
    have empty : ((QueueCall.mailboxFlush (contactIdForIdentity primitives bobsIdentity)).run
        ((queueStore mergedCalls).database.opened 4 [])).1 = .ok [] := by
      decide +kernel
    exact absurd (flushed.of_result empty) List.not_mem_nil
  · intro flushed
    have empty : ((QueueCall.connectionFlush primitives
        (contactIdForIdentity primitives bobsIdentity)).run
          ((queueStore mergedCalls).database.opened 4 [])).1 = .ok [] := by
      decide +kernel
    exact absurd (flushed.of_result empty) List.not_mem_nil

end Symbolic

end CipherMesh
