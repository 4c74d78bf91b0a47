import CipherMesh.Chat.Effects
import CipherMesh.Chat.Sending

/-!
# What handling changes

A frame that is handled leaves its row in the history and, if the row is new, the session
that decrypted its message; an acknowledgement takes its message out of the queue.
Nothing else of what decides about later frames is touched.
-/

namespace CipherMesh

open Foundation
open Foundation.Mutation

variable {P : Primitives} {wire : Wire P}

/-- The queue is the given one, and the history has rows for the known ids. -/
structure Storage.HoldsRows (pending : Table PendingPeerMessage.messageId)
    (known : String → Prop) (storage : Storage) : Prop where
  pending_eq : storage.pendingPeerMessages = pending
  saved_iff : ∀ messageId, storage.messages.Contains messageId ↔ known messageId

section

variable {pending : Table PendingPeerMessage.messageId} {known : String → Prop}

theorem Storage.HoldsRows.self (storage : Storage) :
    storage.HoldsRows storage.pendingPeerMessages storage.messages.Contains where
  pending_eq := rfl
  saved_iff _ := Iff.rfl

theorem readsConversations_holdsRows :
    ReadsConversations (Storage.HoldsRows pending known) := by
  intro storage after same holds
  refine ⟨same.pending.trans holds.pending_eq, fun messageId => ?_⟩
  rw [same.messages]
  exact holds.saved_iff messageId

theorem Storage.HoldsRows.withMessage {storage : Storage}
    (holds : storage.HoldsRows pending known) (row : MessageRecord) :
    (storage.withMessage row).HoldsRows pending
      fun messageId => known messageId ∨ messageId = row.messageId where
  pending_eq := holds.pending_eq
  saved_iff messageId := by
    rw [← holds.saved_iff]
    constructor
    · rintro ⟨found, member, rfl⟩
      rcases Table.mem_insertOrIgnore.mp member with old | ⟨rfl, _⟩
      · exact .inl ⟨found, old, rfl⟩
      · exact .inr rfl
    · rintro (old | rfl)
      · exact old.insertOrIgnore _
      · exact Table.contains_insertOrIgnore _ _

end

namespace PairingChat

/-- The chat has this role, this queue and rows for the known ids, and otherwise only its
database has changed. -/
structure ChangedTo (before : PairingChat P) (role : PairingChatRole P)
    (pending : Table PendingPeerMessage.messageId) (known : String → Prop)
    (after : PairingChat P) : Prop where
  role_eq : after.role = role
  context_eq : after.context = before.context
  requests_eq : after.requests = before.requests
  rows : after.database.storage.HoldsRows pending known

variable {before chat : PairingChat P} {role : PairingChatRole P} {known : String → Prop}
variable {pending : Table PendingPeerMessage.messageId}

theorem keepsChangedTo_onDatabase {Result : Type} {method : Mutation Database AppError Result}
    (keeps : KeepsTables (Storage.HoldsRows pending known) method) :
    Keeps (ChangedTo before role pending known) (onDatabase method) :=
  .focus (fun _ database => database.storage.HoldsRows pending known)
    (fun _ changed => changed.rows) (fun _ _ changed rows => { changed with rows })
    fun _ _ => keeps

theorem keepsChangedTo_saveIdentity :
    Keeps (ChangedTo before role pending known) (saveIdentity wire) :=
  .bind .get fun chat =>
    keepsChangedTo_onDatabase (readsConversations_holdsRows.saveIdentity chat.role)

/-- Storing a row makes its id known. -/
theorem persistChatMessage_changes (changed : ChangedTo before role pending known chat)
    {entry : ChatHistoryEntry} {messageId : String} (named : entry.messageId = some messageId) :
    (onStorage (persistChatMessage P entry)).Ensures chat
      (fun _ after => ChangedTo before role pending
        (fun other => known other ∨ other = messageId) after)
      (fun _ after => ChangedTo before role pending known after) := by
  rw [onStorage, onDatabase, ensures_focus, ensures_mapError, persistChatMessage, ensures_bind,
    Database.ensures_nowUnixSecs]
  apply Database.ensures_execute
  · exact { changed with rows := changed.rows }
  · have rows := changed.rows.withMessage (entry.record P chat.database.now)
    have sameId : (entry.record P chat.database.now).messageId = messageId := by
      rw [ChatHistoryEntry.record, named]
      rfl
    rw [sameId] at rows
    exact { changed with rows }

variable {bytes : Bytes} {messageId senderDisplayName : String} {message : RatchetMessage P}

/-- Recording a decrypted message. -/
theorem recordReceived_changes (changed : ChangedTo before role pending known chat)
    (plaintext : String) :
    (recordReceived wire bytes messageId senderDisplayName message plaintext).Ensures chat
      (fun _ after => ChangedTo before role pending
        (fun other => known other ∨ other = messageId) after)
      (fun _ after => ∃ rows, ChangedTo before role pending rows after) := by
  rw [recordReceived, ensures_bind]
  refine (keepsChangedTo_saveIdentity chat changed).mono ?_ fun _ _ saved => ⟨_, saved⟩
  intro _ saved savedChanged
  rw [ensures_bind, ensures_get, ensures_bind]
  refine (persistChatMessage_changes savedChanged rfl).mono ?_ fun _ _ kept => ⟨_, kept⟩
  intro _ stored storedChanged
  refine (keepsChangedTo_onDatabase
    (.mapError (readsConversations_holdsRows.markIncomingChatMessageAccepted messageId)) stored
      storedChanged).mono (fun _ _ => id) fun _ _ kept => ⟨_, kept⟩

/-- A handled frame has its row, and a new row comes with the session that decrypted it. -/
theorem handleRequest_changes
    (parsed : wire.chatFrame.deserialize bytes =
      some (.message messageId senderDisplayName message)) :
    let storage := chat.database.storage
    let decrypted := (PairingChatRole.decrypt message).run chat.role
    (handleRequest wire bytes).Ensures chat
      (fun acknowledged after => acknowledged = some messageId ∧
        ChangedTo chat
          (if storage.messages.Contains messageId then chat.role else decrypted.2)
          storage.pendingPeerMessages
          (fun other => storage.messages.Contains other ∨ other = messageId) after)
      (fun _ after => ∃ role known,
        ChangedTo chat role storage.pendingPeerMessages known after) := by
  intro storage decrypted
  have unchanged : ∀ database : Database, database.storage = storage →
      ∀ role, ChangedTo chat role storage.pendingPeerMessages storage.messages.Contains
        { chat with role, database } := by
    rintro database same role
    refine ⟨rfl, rfl, rfl, ?_⟩
    dsimp only
    rw [same]
    exact .self storage
  simp only [handleRequest, parsed, ensures_bind, ensures_okOr_some, onStorage, onDatabase,
    ensures_focus, ensures_mapError, chatMessageAlreadySaved, Database.messageExists]
  apply Database.ensures_query
  · exact ⟨chat.role, _, unchanged (chat.database.advance storage) rfl _⟩
  rw [ensures_ite]
  constructor
  · intro unsaved
    have absent : ¬ storage.messages.Contains messageId := by simpa using unsaved
    simp only [receiveMessage, ensures_bind, onRole, ensures_mapError, ensures_focus,
      ensures_pure, if_neg absent]
    refine Ensures.run.mono (fun plaintext role run => ?_) fun _ role _ =>
      ⟨role, _, unchanged (chat.database.advance storage) rfl _⟩
    have reached : role = decrypted.2 := congrArg Prod.snd run.symm
    have opened := unchanged (chat.database.advance storage) rfl role
    refine (recordReceived_changes opened plaintext).mono ?_ fun _ _ kept => ⟨role, kept⟩
    intro _ recorded recordedChanged
    rw [← reached]
    exact (keepsChangedTo_onDatabase (.mapError (readsConversations_holdsRows.execute .refl))
      recorded recordedChanged).mono (fun _ _ kept => ⟨trivial, kept⟩) fun _ _ kept => ⟨_, _, kept⟩
  · intro saved
    have present : storage.messages.Contains messageId := by simpa using saved
    rw [ensures_pure, if_pos present]
    have kept := unchanged (chat.database.advance storage) rfl chat.role
    refine ⟨rfl, kept.role_eq, kept.context_eq, kept.requests_eq, kept.rows.pending_eq, ?_⟩
    intro other
    rw [kept.rows.saved_iff, or_iff_left_of_imp]
    rintro rfl
    exact present

/-- An acknowledgement takes its message out of the queue. -/
theorem handleResponse_changes (undisturbed : chat.database.Undisturbed) (messageId : String) :
    let storage := chat.database.storage
    (handleResponse messageId).Ensures chat
      (fun _ after => ChangedTo chat chat.role
        (storage.pendingPeerMessages.delete fun row => row.messageId = messageId)
        storage.messages.Contains after)
      (fun _ _ => False) := by
  intro storage
  have calm : ∀ database : Database, database.Undisturbed →
      database.interruptions.head? ≠ some true := by
    intro database none
    rw [Database.Undisturbed] at none
    rw [none, List.head?_nil]
    exact (Option.some_ne_none true).symm
  simp only [handleResponse, onStorage, onDatabase, ensures_focus, ensures_mapError,
    markDeliveredIfPending, Database.removePendingPeerMessage, Database.updateMessageStatus,
    ensures_bind, Database.ensures_execute_iff]
  refine ⟨fun stop => calm _ undisturbed stop, fun _ => ⟨fun stop => ?_, fun _ => ?_⟩⟩
  · refine calm (chat.database.advance _) ?_ stop
    rw [Database.Undisturbed] at undisturbed ⊢
    simp only [Database.advance, undisturbed, List.tail_nil]
  · refine ⟨rfl, rfl, rfl, rfl, fun other => ?_⟩
    simp only [Database.advance_storage, Table.contains_update, storage]

end PairingChat

end CipherMesh
