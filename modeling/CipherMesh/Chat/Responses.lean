import CipherMesh.Chat.Removal
import CipherMesh.Foundation.Frame

/-!
# What an acknowledgement touches

The id of an acknowledgement comes from the peer and goes into two statements that look at
nothing but the id.  They stay within the outgoing messages of the conversation when the id
is that of one of them, and not for every other id.
-/

namespace CipherMesh

open Foundation
open Foundation.Mutation

variable {P : Primitives}

namespace Storage

/-- A queued message for the peer of the conversation: under the id of the peer's profile, or
under the id of the conversation, which `send_pending_as_alice` reads. -/
def QueuedFor (P : Primitives) (conversationId : String) (storage : Storage)
    (row : PendingPeerMessage) : Prop :=
  row.peerId = storage.pendingPeerIdFor P conversationId ∨ row.peerId = conversationId

/-- Nothing changed but the messages to the peer of the conversation: those in its queue and
the outgoing ones in the history of the conversation. -/
structure TouchesOutgoing (P : Primitives) (conversationId : String) (before after : Storage) :
    Prop where
  queues : Table.Unchanged (fun row => ¬before.QueuedFor P conversationId row)
    before.pendingPeerMessages after.pendingPeerMessages
  conversations : Table.Unchanged
    (fun row : MessageRecord => row.conversationId ≠ conversationId)
    before.messages after.messages
  received : Table.Unchanged (fun row : MessageRecord => row.direction = .received)
    before.messages after.messages

/-- The rows with the id are messages to the peer of the conversation, except that a row of
the history which is `Sent` already may be any. -/
structure NamesOutgoing (P : Primitives) (conversationId messageId : String)
    (storage : Storage) : Prop where
  queued : ∀ row ∈ storage.pendingPeerMessages, row.messageId = messageId →
    storage.QueuedFor P conversationId row
  stored : ∀ row ∈ storage.messages, row.messageId = messageId →
    row.status = .sent ∨ (row.conversationId = conversationId ∧ row.direction = .sent)

variable {conversationId messageId : String} {storage : Storage}

/-- An update of the statuses leaves a class of rows when the one with the id is not in the
class or is `Sent` already. -/
theorem unchanged_withSent_iff {frame : MessageRecord → Prop}
    (keepsFrame : ∀ row : MessageRecord, frame { row with status := .sent } ↔ frame row) :
    Table.Unchanged frame storage.messages (storage.withSent messageId).messages ↔
      ∀ row ∈ storage.messages, row.messageId = messageId → frame row → row.status = .sent := by
  have same : ∀ row : MessageRecord, { row with status := .sent } = row ↔ row.status = .sent := by
    intro row
    cases row
    simp [eq_comm]
  rw [withSent, Table.Unchanged.update_iff _ keepsFrame]
  simp only [decide_eq_true_eq, same]

theorem touchesOutgoing_refl : TouchesOutgoing P conversationId storage storage where
  queues := .refl _ _
  conversations := .refl _ _
  received := .refl _ _

theorem NamesOutgoing.touches_withoutPending
    (names : NamesOutgoing P conversationId messageId storage) :
    TouchesOutgoing P conversationId storage (storage.withoutPending messageId) where
  queues := Table.Unchanged.delete_iff.mpr fun row member named other =>
    other (names.queued row member (of_decide_eq_true named))
  conversations := .refl _ _
  received := .refl _ _

/-- The two statements together. -/
theorem touches_withSent_withoutPending_iff :
    TouchesOutgoing P conversationId storage
        ((storage.withoutPending messageId).withSent messageId) ↔
      NamesOutgoing P conversationId messageId storage := by
  have conversationsIff := @unchanged_withSent_iff messageId (storage.withoutPending messageId)
    (fun row => row.conversationId ≠ conversationId) fun _ => Iff.rfl
  have receivedIff := @unchanged_withSent_iff messageId (storage.withoutPending messageId)
    (fun row => row.direction = .received) fun _ => Iff.rfl
  constructor
  · intro touches
    constructor
    · intro row member named
      by_contra other
      exact Table.Unchanged.delete_iff.mp touches.queues row member (decide_eq_true named) other
    · intro row member named
      by_cases sent : row.status = .sent
      · exact .inl sent
      · refine .inr ⟨?_, ?_⟩
        · by_contra other
          exact sent (conversationsIff.mp touches.conversations row member named other)
        · cases direction : row.direction with
          | sent => rfl
          | received =>
              exact absurd (receivedIff.mp touches.received row member named direction) sent
  · intro names
    refine ⟨names.touches_withoutPending.queues, conversationsIff.mpr ?_, receivedIff.mpr ?_⟩
    · intro row member named other
      exact (names.stored row member named).resolve_right fun outgoing => other outgoing.1
    · intro row member named received
      refine (names.stored row member named).resolve_right fun outgoing => ?_
      rw [received] at outgoing
      cases outgoing.2

end Storage

namespace PairingChat

open Storage

theorem handleResponse_ensures {messageId : String} {chat : PairingChat P}
    (names : NamesOutgoing P chat.context.conversationId messageId chat.database.storage) :
    let touches := fun after : PairingChat P =>
      TouchesOutgoing P chat.context.conversationId chat.database.storage after.database.storage
    (handleResponse messageId).Ensures chat (fun _ => touches) (fun _ => touches) := by
  intro touches
  rw [handleResponse, onStorage, onDatabase, ensures_focus, ensures_mapError,
    markDeliveredIfPending, ensures_bind]
  apply Database.ensures_execute
  · exact touchesOutgoing_refl
  · apply Database.ensures_execute
    · exact names.touches_withoutPending
    · exact touches_withSent_withoutPending_iff.mpr names

/-- For every store and every id, an acknowledgement stays within the outgoing messages of the
conversation, wherever it is interrupted, exactly when the id is that of such messages. -/
theorem handleResponse_touchesOutgoing_iff (chat : PairingChat P) (messageId : String) :
    (∀ now interruptions, TouchesOutgoing P chat.context.conversationId chat.database.storage
      ((handleResponse messageId).run
        { chat with
          database := chat.database.opened now interruptions }).2.database.storage) ↔
      NamesOutgoing P chat.context.conversationId messageId chat.database.storage := by
  constructor
  · intro touches
    exact touches_withSent_withoutPending_iff.mp (touches 0 [])
  · intro names now interruptions
    let opened := { chat with database := chat.database.opened now interruptions }
    have ensures := @handleResponse_ensures P messageId opened names
    exact ensures.reached

end PairingChat

namespace Symbolic

/-- A message of Bob that waits in the queue of Carol. -/
def queuedForCarol : PendingPeerMessage :=
  ⟨"to Carol", "carol", "carol chat", "hello", 1, 0, none⟩

/-- A message that Bob received from Alice. -/
def receivedFromAlice : MessageRecord :=
  ⟨"from Alice", "chat", "Alice", "you", .received, .received, some 0, [], some "hello", 2⟩

/-- Bob talks with Alice and has both messages. -/
def sharedStore : Storage :=
  (({ Storage.empty with
    pendingPeerMessages := Table.empty.upsert queuedForCarol } : Storage).withMessage
    ⟨"to Carol", "carol chat", "you", "Carol", .sent, .stored, none, [], some "hello", 1⟩
    ).withMessage receivedFromAlice

/-- The store of Bob after an acknowledgement of Alice. -/
def acknowledgedStore (messageId : String) : Storage :=
  ((PairingChat.handleResponse messageId).run
    { endpoint .bob with database := ⟨sharedStore, 3, []⟩ }).2.database.storage

/-- Alice acknowledges a message to Carol, and one of her own. -/
theorem acknowledgement_touches_others :
    (endpoint .bob).context.conversationId = "chat" ∧
    (acknowledgedStore "to Carol").pendingPeerMessages.rows = [] ∧
    (acknowledgedStore "to Carol").messages.rows.map (fun row => (row.messageId, row.status)) =
      [("to Carol", .sent), ("from Alice", .received)] ∧
    (acknowledgedStore "from Alice").messages.rows.map
        (fun row => (row.messageId, row.direction, row.status)) =
      [("to Carol", .sent, .stored), ("from Alice", .received, .sent)] ∧
    ¬Storage.TouchesOutgoing primitives "chat" sharedStore (acknowledgedStore "to Carol") ∧
    ¬Storage.TouchesOutgoing primitives "chat" sharedStore
      (acknowledgedStore "from Alice") := by
  refine ⟨rfl, by decide +kernel, by decide +kernel, by decide +kernel, ?_, ?_⟩
  · intro touches
    have other : ¬sharedStore.QueuedFor primitives "chat" queuedForCarol := by
      rw [Storage.QueuedFor]
      decide +kernel
    have kept := (touches.queues queuedForCarol other).mpr List.mem_cons_self
    rw [Table.mem_def] at kept
    revert kept
    decide +kernel
  · intro touches
    have kept := (touches.received receivedFromAlice rfl).mpr
      (List.mem_cons_of_mem _ List.mem_cons_self)
    rw [Table.mem_def] at kept
    revert kept
    decide +kernel

end Symbolic

end CipherMesh
