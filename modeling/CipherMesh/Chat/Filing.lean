import CipherMesh.Chat.Listener
import CipherMesh.Chat.Soundness

/-!
# Filing under an identity

A message that names no key of its sender, or another key than `K`, is not filed under
the conversation of `K`, and what is queued for `K` alone is not sent in answer to it.
Nothing checks that the sender holds the key that it names.
-/

namespace CipherMesh

open Foundation
open Foundation.Mutation

variable {P : Primitives}

/-! ## Contacts that are filed under their identity -/

/-- Contacts and known peers are filed under the id of their identity key, and the `held`
rows are pending. -/
structure Filed (P : Primitives) (held : PendingPeerMessage → Prop) (storage : Storage) :
    Prop where
  knownPeers : ∀ peer ∈ storage.knownPeers, peer.peerId = peer.conversationId
  contacts : ∀ contact ∈ storage.contacts, contact.identityPublicKey.length = 32 →
    contact.contactId = contactIdForIdentity P contact.identityPublicKey
  held : ∀ row, held row → row ∈ storage.pendingPeerMessages

section

variable {held : PendingPeerMessage → Prop} {storage : Storage}

theorem Filed.congr (filed : Filed P held storage) {after : Storage}
    (knownPeers : after.knownPeers = storage.knownPeers)
    (contacts : after.contacts = storage.contacts)
    (pending : after.pendingPeerMessages = storage.pendingPeerMessages) :
    Filed P held after where
  knownPeers := knownPeers ▸ filed.knownPeers
  contacts := contacts ▸ filed.contacts
  held := pending ▸ filed.held

theorem Filed.weaken (filed : Filed P held storage) : Filed P (fun _ => False) storage :=
  ⟨filed.knownPeers, filed.contacts, fun _ never => never.elim⟩

/-- The peer id of a conversation is the conversation id. -/
theorem Filed.peerId_eq (filed : Filed P held storage) {conversationId : String}
    {peer : KnownPeerRecord} (found : storage.knownPeerFor P conversationId = some peer) :
    peer.peerId = conversationId := by
  rcases Storage.knownPeerFor_cases found with
    ⟨member, named⟩ | ⟨contact, member, named, full, peerId, -⟩
  · exact (filed.knownPeers peer member).trans named
  · exact peerId.trans ((filed.contacts contact member full).symm.trans named)

/-! ## The storage methods -/

/-- Statements on other tables. -/
theorem keepsFiled_frame {write : Storage → Storage}
    (knownPeers : ∀ storage, (write storage).knownPeers = storage.knownPeers)
    (contacts : ∀ storage, (write storage).contacts = storage.contacts)
    (pending : ∀ storage, (write storage).pendingPeerMessages = storage.pendingPeerMessages) :
    Keeps (fun database : Database => Filed P held database.storage) (Database.execute write) :=
  Database.keeps_execute fun storage filed =>
    filed.congr (knownPeers storage) (contacts storage) (pending storage)

/-- Statements on the pending queue do not change how contacts are filed. -/
theorem keepsFiled_pending {write : Storage → Storage}
    (knownPeers : ∀ storage, (write storage).knownPeers = storage.knownPeers)
    (contacts : ∀ storage, (write storage).contacts = storage.contacts) :
    Keeps (fun database : Database => Filed P (fun _ => False) database.storage)
      (Database.execute write) :=
  Database.keeps_execute fun storage filed =>
    ⟨knownPeers storage ▸ filed.knownPeers, contacts storage ▸ filed.contacts,
      fun _ never => never.elim⟩

theorem keepsFiled_saveLocalIdentity (id role : String) (state : Bytes) :
    Keeps (fun database : Database => Filed P held database.storage)
      (Database.saveLocalIdentity id role state) :=
  .bind Database.keeps_nowUnixSecs fun _ => keepsFiled_frame (fun _ => rfl) (fun _ => rfl)
    fun _ => rfl

theorem keepsFiled_persistChatMessage (entry : ChatHistoryEntry) :
    Keeps (fun database : Database => Filed P held database.storage)
      (persistChatMessage P entry) :=
  .bind Database.keeps_nowUnixSecs fun _ => keepsFiled_frame (fun _ => rfl) (fun _ => rfl)
    fun _ => rfl

/-- Merging moves the pending rows of the old conversation only. -/
theorem keepsFiled_mergeContactInto {oldContactId newContactId : String}
    (others : ∀ row, held row → row.conversationId ≠ oldContactId) :
    Keeps (fun database : Database => Filed P held database.storage)
      (Database.mergeContactInto oldContactId newContactId) := by
  apply Database.keeps_mergeContactInto
  · exact fun _ filed => filed.congr rfl rfl rfl
  · intro storage filed
    refine ⟨filed.knownPeers, filed.contacts, fun row heldRow => ?_⟩
    apply Table.mem_update_of_not ?_ (filed.held row heldRow)
    · exact decide_eq_false (others row heldRow)
    · exact fun _ => rfl
  · exact fun _ _ _ _ filed => filed.congr rfl rfl rfl
  · exact fun storage filed => ⟨fun peer member => filed.knownPeers peer
      (Table.mem_delete.mp member).1, filed.contacts, filed.held⟩
  · exact fun storage filed => ⟨filed.knownPeers, fun contact member => filed.contacts contact
      (Table.mem_delete.mp member).1, filed.held⟩

/-- A contact with an identity key is saved under the id of the key. -/
theorem keepsFiled_saveContactForChat {contactId displayName : String}
    {identityPublicKey : Bytes} {discoveryHint : String}
    (underIdentity : identityPublicKey.length = 32 →
      contactId = contactIdForIdentity P identityPublicKey)
    (others : ∀ row, held row → ∀ name, row.conversationId ≠ contactIdForDisplayName P name) :
    Keeps (fun database : Database => Filed P held database.storage)
      (saveContactForChat P contactId displayName identityPublicKey discoveryHint) := by
  apply saveContactForChat_keeps
  · intro storage savedAtUnixSecs filed
    refine ⟨filed.knownPeers, fun contact member => ?_, filed.held⟩
    rcases Table.mem_upsert.mp member with rfl | ⟨old, _⟩
    · exact underIdentity
    · exact filed.contacts contact old
  · exact fun _ => keepsFiled_mergeContactInto fun row heldRow => others row heldRow _
  · intro full storage lastSeenAtUnixSecs filed
    refine ⟨fun peer member => ?_, filed.contacts, filed.held⟩
    rcases Table.mem_upsert.mp member with rfl | ⟨old, _⟩
    · exact (underIdentity full).symm
    · exact filed.knownPeers peer old

end

/-! ## Accepting an initial message -/

namespace ChatListener

variable {wire : Wire P} {held : PendingPeerMessage → Prop}

/-- The property of a waiting process that its methods keep. -/
def FiledListener (held : PendingPeerMessage → Prop) (listener : ChatListener P) : Prop :=
  Filed P held listener.database.storage

theorem keepsFiled_onDatabase {Result : Type} {method : Mutation Database AppError Result}
    (keeps : Keeps (fun database : Database => Filed P held database.storage) method) :
    Keeps (FiledListener (P := P) held) (onDatabase method) :=
  .focus (fun _ database => Filed P held database.storage) (fun _ => id) (fun _ _ _ => id)
    fun _ _ => keeps

theorem keepsFiled_saveIdentity : Keeps (FiledListener (P := P) held) (saveIdentity wire) :=
  .bind .get fun _ => keepsFiled_onDatabase
    (.bind (.okOr _ _) fun _ => .mapError (keepsFiled_saveLocalIdentity _ _ _))

theorem keepsFiled_persistInitialText (initial : ChatInitialMessage P) (payload : Bytes)
    (plaintext : String) :
    Keeps (FiledListener (P := P) held) (persistInitialText initial payload plaintext) := by
  refine .bind .get fun _ => ?_
  split
  · exact .pure ()
  · exact keepsFiled_onDatabase (.mapError (keepsFiled_persistChatMessage _))

/-- The sender's contact is filed under the key that the message names. -/
theorem keepsFiled_acceptInitialMessage {discoveryHint : String} {payload : Bytes}
    (others : ∀ row, held row → ∀ name, row.conversationId ≠ contactIdForDisplayName P name)
    (listener : ChatListener P) (filed : FiledListener held listener) :
    (acceptInitialMessage wire discoveryHint payload).Ensures listener
      (fun initial after => decodeChatInitialMessage wire payload = some initial ∧
        FiledListener held after)
      (fun _ => FiledListener held) := by
  rw [acceptInitialMessage, ensures_bind, ensures_okOr]
  refine ⟨fun initial decoded => ?_, fun _ => filed⟩
  have underIdentity : initial.contactKey.length = 32 →
      initial.conversationId = contactIdForIdentity P initial.contactKey := by
    rw [ChatInitialMessage.contactKey, ChatInitialMessage.conversationId]
    cases initial.senderIdentityPublicKey with
    | some key => exact fun _ => rfl
    | none => exact fun legacy => absurd legacy (by decide)
  have kept : Keeps (FiledListener (P := P) held) (do
      let plaintext ← onBob (Bob.decryptInitialMessage initial.message)
      saveIdentity wire
      onStorage (saveContactForChat P initial.conversationId initial.senderDisplayName
        initial.contactKey discoveryHint)
      persistInitialText initial payload plaintext) := by
    refine .bind (.mapError (.focus (fun _ _ => True) (fun _ _ => trivial)
      (fun _ _ filed _ => filed) fun _ _ _ _ => .trivial)) fun plaintext => ?_
    refine .bind keepsFiled_saveIdentity fun _ => ?_
    exact .bind (keepsFiled_onDatabase (.mapError
      (keepsFiled_saveContactForChat underIdentity others))) fun _ =>
        keepsFiled_persistInitialText initial payload plaintext
  have result := kept listener filed
  simp only [ensures_bind, ensures_pure] at result ⊢
  exact result.mono (fun _ _ rest => rest.mono (fun _ _ rest => rest.mono (fun _ _ rest =>
    rest.mono (fun _ _ after => ⟨decoded, after⟩) fun _ _ => id) fun _ _ => id) fun _ _ => id)
      fun _ _ => id

end ChatListener

end CipherMesh
