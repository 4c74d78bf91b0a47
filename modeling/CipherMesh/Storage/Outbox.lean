import CipherMesh.Foundation.Moves
import CipherMesh.Storage.Messages

/-!
# The durable outbox

Encrypted messages that wait for an acknowledgement.  An item is stored in one transaction
with the state that its encryption left, so the state on disk is never behind an item.
-/

namespace CipherMesh

open Foundation
open Foundation.Mutation

/-- The columns that an item with a known id replaces. -/
def OutboxItem.replacedBy (new old : OutboxItem) : OutboxItem :=
  { old with recipientId := new.recipientId, payload := new.payload, status := new.status }

theorem OutboxItem.messageId_replacedBy (new old : OutboxItem) :
    (new.replacedBy old).messageId = old.messageId := rfl

namespace Storage

/-- The last statement of `save_state_session_message_and_outbox`. -/
def withOutboxItem (item : OutboxItem) (storage : Storage) : Storage :=
  { storage with
    outbox :=
      if storage.outbox.Contains item.messageId then
        storage.outbox.update (fun row => row.messageId = item.messageId)
          item.replacedBy fun _ => rfl
      else storage.outbox.insertOrIgnore item }

/-- The order of `ORDER BY created_at_unix_secs, message_id`. -/
def outboxOrder (item : OutboxItem) : Int ×ₗ String :=
  toLex (asI64 item.createdAtUnixSecs, item.messageId)

def outboxWithStatus (status : OutboxStatus) (storage : Storage) : List OutboxItem :=
  storage.outbox.select (fun item => item.status = status) outboxOrder

/-- A row after an item was stored: an old one, or one with the new payload. -/
theorem mem_withOutboxItem {item row : OutboxItem} {storage : Storage}
    (member : row ∈ (storage.withOutboxItem item).outbox) :
    row ∈ storage.outbox ∨
      row.messageId = item.messageId ∧ row.payload = item.payload ∧ row.status = item.status := by
  simp only [withOutboxItem] at member
  split at member
  · obtain ⟨before, beforeMember, rfl⟩ := Table.mem_update.mp member
    split
    · next same => exact .inr ⟨of_decide_eq_true same, rfl, rfl⟩
    · exact .inl beforeMember
  · rcases Table.mem_insertOrIgnore.mp member with old | ⟨rfl, -⟩
    · exact .inl old
    · exact .inr ⟨rfl, rfl, rfl⟩

/-- The recipient and the payload of the item with an id. -/
def queuedAs (messageId : String) (storage : Storage) : Option (String × Bytes) :=
  (storage.outbox.find messageId).map fun item => (item.recipientId, item.payload)

/-- A change of the items of one id. -/
private theorem map_find_update (storage : Storage) {condition : OutboxItem → Bool}
    {change : OutboxItem → OutboxItem} (keepsId : ∀ item, (change item).messageId = item.messageId)
    (messageId : String) {Result : Type} (read : OutboxItem → Result) :
    ((storage.outbox.update condition change keepsId).find messageId).map read =
      (storage.outbox.find messageId).map fun item =>
        read (if condition item then change item else item) := by
  rw [Table.find_update, Option.map_map]
  rfl

theorem queuedAs_withOutboxItem_self (item : OutboxItem) (storage : Storage) :
    (storage.withOutboxItem item).queuedAs item.messageId =
      some (item.recipientId, item.payload) := by
  unfold queuedAs withOutboxItem
  split
  · next present =>
      refine (map_find_update storage item.messageId_replacedBy _ _).trans ?_
      cases found : storage.outbox.find item.messageId with
      | none => exact absurd present (Table.find_eq_none.mp found)
      | some old =>
          have same : old.messageId = item.messageId := (Table.find_eq_some.mp found).2
          simp [same, OutboxItem.replacedBy]
  · next absent =>
      rw [Table.find_insertOrIgnore_self absent, Option.map_some]

theorem queuedAs_withOutboxItem_of_ne {item : OutboxItem} {messageId : String}
    (other : messageId ≠ item.messageId) (storage : Storage) :
    (storage.withOutboxItem item).queuedAs messageId = storage.queuedAs messageId := by
  unfold queuedAs withOutboxItem
  split
  · refine (map_find_update storage item.messageId_replacedBy _ _).trans ?_
    cases found : storage.outbox.find messageId with
    | none => rfl
    | some old =>
        have same : old.messageId = messageId := (Table.find_eq_some.mp found).2
        simp [same, other]
  · rw [Table.find_insertOrIgnore_of_ne _ other]

/-- A change that leaves the recipient and the payload of every item. -/
theorem queuedAs_update (storage : Storage) {condition : OutboxItem → Bool}
    {change : OutboxItem → OutboxItem} (keepsId : ∀ item, (change item).messageId = item.messageId)
    (keeps : ∀ item, (change item).recipientId = item.recipientId ∧
      (change item).payload = item.payload) (messageId : String) :
    queuedAs messageId { storage with outbox := storage.outbox.update condition change keepsId } =
      storage.queuedAs messageId := by
  refine (map_find_update storage keepsId _ _).trans (congrArg (Option.map · _) ?_)
  funext item
  split
  · rw [(keeps item).1, (keeps item).2]
  · rfl

end Storage

namespace Database

open Storage

/-- The encrypted message, the state of the sender after it and its history row. -/
def saveStateSessionMessageAndOutbox (localIdentityId localIdentityRole : String)
    (localIdentityState : Bytes) (conversationId peerId sessionRole : String)
    (sessionState : Bytes) (message : MessageRecord) (outbox : OutboxItem) :
    StorageResult Unit := do
  let now ← nowUnixSecs
  transaction do
    execute (withLocalIdentity ⟨localIdentityId, localIdentityRole, localIdentityState, now⟩)
    execute (withSession ⟨conversationId, peerId, sessionRole, sessionState, now⟩)
    execute (withMessage message)
    execute (withOutboxItem outbox)

def pendingOutboxItems : StorageResult (List OutboxItem) :=
  query (outboxWithStatus .pending)

def outboxItem (messageId : String) : StorageResult (Option OutboxItem) :=
  query fun storage => storage.outbox.find messageId

def recordOutboxAttempt (messageId : String) : StorageResult Unit := do
  let now ← nowUnixSecs
  execute fun storage =>
    { storage with
      outbox := storage.outbox.update (fun item => item.messageId = messageId)
        (fun item =>
          { item with retryCount := item.retryCount + 1, lastAttemptUnixSecs := some now })
        fun _ => rfl }

private theorem messageId_delivered (now : UInt64) (item : OutboxItem) :
    ({ item with status := .delivered, lastAttemptUnixSecs := some now } : OutboxItem).messageId =
      item.messageId := rfl

/-- A delivered item keeps what was queued. -/
theorem ensures_markOutboxDelivered_queuedAs (messageId : String) {database : Database} :
    (markOutboxDelivered messageId).Ensures database
      (fun _ after => ∀ wanted, after.storage.queuedAs wanted = database.storage.queuedAs wanted)
      (fun _ after => after.storage = database.storage) := by
  rw [markOutboxDelivered, ensures_bind, ensures_nowUnixSecs]
  refine ensures_execute rfl fun wanted => ?_
  exact queuedAs_update database.storage (messageId_delivered database.now) (fun _ => ⟨rfl, rfl⟩)
    wanted

end Database

end CipherMesh
