import CipherMesh.Chat.EventEffects
import CipherMesh.Chat.Flush

/-!
# How a flush ends

What a flush has done to the queue and to the statuses of the history when it returns or
fails: an invariant of the wait for one acknowledgement, and from it one of the loop over
the messages.
-/

namespace CipherMesh

open Foundation
open Foundation.Mutation

variable {P : Primitives} {wire : Wire P}

/-- The row after one more attempt to send it. -/
def PendingPeerMessage.attempted (now : UInt64) (row : PendingPeerMessage) : PendingPeerMessage :=
  { row with retryCount := row.retryCount + 1, lastAttemptUnixSecs := some now }

@[simp] theorem PendingPeerMessage.messageId_attempted (now : UInt64) (row : PendingPeerMessage) :
    (row.attempted now).messageId = row.messageId := rfl

/-! ## Statuses of the history -/

namespace Storage

/-- The history has the id with no other status than `Sent`. -/
def Settled (messageId : String) (storage : Storage) : Prop :=
  ∀ row ∈ storage.messages, row.messageId = messageId → row.status = .sent

/-- Rows stay, and only a message that arrives `late` gives an id without row another
status. -/
structure Follows (late : String → Prop) (before after : Storage) : Prop where
  contains : ∀ messageId, before.messages.Contains messageId → after.messages.Contains messageId
  settled : ∀ messageId, before.Settled messageId →
    after.Settled messageId ∨ (¬before.messages.Contains messageId ∧ late messageId)

namespace Follows

variable {late other : String → Prop} {before middle after : Storage}

theorem of_messages_eq (same : after.messages = before.messages) : Follows late before after where
  contains messageId contains := by rwa [same]
  settled messageId settled := .inl (by rwa [Settled, same])

theorem mono (follows : Follows late before after)
    (weaker : ∀ messageId, late messageId → other messageId) : Follows other before after where
  contains := follows.contains
  settled messageId settled := (follows.settled messageId settled).imp id
    fun left => ⟨left.1, weaker _ left.2⟩

theorem trans (first : Follows late before middle) (second : Follows late middle after) :
    Follows late before after where
  contains messageId contains := second.contains messageId (first.contains messageId contains)
  settled messageId settled := by
    rcases first.settled messageId settled with middleSettled | early
    · rcases second.settled messageId middleSettled with afterSettled | ⟨absent, isLate⟩
      · exact .inl afterSettled
      · exact .inr ⟨fun contains => absent (first.contains messageId contains), isLate⟩
    · exact .inr early

/-- A row that is inserted under an id without row is that of a late message. -/
theorem withMessage (follows : Follows late before after) {row : MessageRecord}
    (arrived : late row.messageId) : Follows late before (after.withMessage row) where
  contains messageId contains := (follows.contains messageId contains).insertOrIgnore row
  settled messageId settled := by
    rcases follows.settled messageId settled with still | lost
    · by_cases present : after.messages.Contains row.messageId
      · rw [Storage.withMessage, Table.insertOrIgnore_of_contains present]
        exact .inl still
      by_cases same : row.messageId = messageId
      · rw [same] at present arrived
        exact .inr ⟨fun contains => present (follows.contains messageId contains), arrived⟩
      · refine .inl fun stored member named => ?_
        rcases Table.mem_insertOrIgnore.mp member with old | ⟨rfl, -⟩
        · exact still stored old named
        · exact absurd named same
    · exact .inr lost

end Follows

/-- The statement of `record_pending_peer_message_attempt`. -/
def withAttempt (messageId : String) (now : UInt64) (storage : Storage) : Storage :=
  { storage with
    pendingPeerMessages := storage.pendingPeerMessages.update
      (fun message => message.messageId = messageId) (.attempted now)
      (PendingPeerMessage.messageId_attempted now) }

/-- The statement of `remove_pending_peer_message`. -/
def withoutPending (messageId : String) (storage : Storage) : Storage :=
  { storage with
    pendingPeerMessages := storage.pendingPeerMessages.delete
      fun message => message.messageId = messageId }

/-- The statement of `update_message_status` for an acknowledged message. -/
def withSent (messageId : String) (storage : Storage) : Storage :=
  { storage with
    messages := storage.messages.update (fun message => message.messageId = messageId)
      (fun message => { message with status := .sent }) fun _ => rfl }

theorem follows_withSent (late : String → Prop) (acknowledged : String) (storage : Storage) :
    Follows late storage (storage.withSent acknowledged) := by
  have keepsKey : ∀ row : MessageRecord,
      ({ row with status := .sent } : MessageRecord).messageId = row.messageId := fun _ => rfl
  constructor
  · exact fun messageId contains => (Table.contains_update keepsKey).mpr contains
  · exact fun messageId settled =>
      .inl (Table.forall_mem_update keepsKey settled fun _ _ _ => rfl)

theorem settled_withSent (messageId : String) (storage : Storage) :
    (storage.withSent messageId).Settled messageId := by
  intro row member named
  obtain ⟨old, _, rfl⟩ := List.mem_map.mp member
  split at named
  · next same => rw [if_pos same]
  · next different => exact absurd (decide_eq_true named) different

end Storage

/-! ## Waiting for an acknowledgement -/

namespace FlushConnection

variable {connection before middle after : FlushConnection P}

/-- A message with this id was read while the acknowledgement of `current` was awaited. -/
def ArrivedDuring (current messageId : String) (received : List (String × ChatFrame P)) : Prop :=
  ∃ senderDisplayName message,
    (current, .message messageId senderDisplayName message) ∈ received

/-- What a wait for the acknowledgement of `current` has read and done. -/
structure Waited (current : String) (before after : FlushConnection P) : Prop where
  received : before.received ⊆ after.received
  pending : after.storage.pendingPeerMessages = before.storage.pendingPeerMessages
  follows : Storage.Follows (ArrivedDuring current · after.received) before.storage after.storage

theorem ArrivedDuring.mono {current messageId : String}
    {received more : List (String × ChatFrame P)}
    (arrived : ArrivedDuring current messageId received)
    (subset : received ⊆ more) : ArrivedDuring current messageId more := by
  obtain ⟨senderDisplayName, message, member⟩ := arrived
  exact ⟨senderDisplayName, message, subset member⟩

namespace Waited

variable {current : String}

/-- Nothing is read, and the queue and the history are the same. -/
theorem of_same (received : after.received = before.received)
    (same : SameConversations before.storage after.storage) : Waited current before after where
  received := by rw [received]; exact List.Subset.refl _
  pending := same.pending
  follows := .of_messages_eq same.messages

/-- A row that was added is that of a message which was read. -/
theorem of_row (received : after.received = before.received) {row : MessageRecord}
    (arrived : ArrivedDuring current row.messageId before.received)
    (same : SameConversations (before.storage.withMessage row) after.storage) :
    Waited current before after where
  received := by rw [received]; exact List.Subset.refl _
  pending := same.pending
  follows := by
    rw [received]
    have inserted : Storage.Follows (ArrivedDuring current · before.received) before.storage
        (before.storage.withMessage row) :=
      (Storage.Follows.of_messages_eq rfl).withMessage arrived
    exact inserted.trans (.of_messages_eq same.messages)

theorem trans (first : Waited current before middle) (second : Waited current middle after) :
    Waited current before after where
  received := fun _ member => second.received (first.received member)
  pending := second.pending.trans first.pending
  follows := (first.follows.mono fun _ arrived => arrived.mono second.received).trans
    second.follows

end Waited

/-- A call keeps what the wait is compared with. -/
abbrev WaitsFor (current : String) {Result : Type} (method : FlushResult P Result) : Prop :=
  ∀ before, Keeps (Waited current before) method

theorem sendChatFrame_same (frame : ChatFrame P) (connection : FlushConnection P) :
    (sendChatFrame wire frame).Ensures connection
      (fun _ after => after.received = connection.received ∧ after.storage = connection.storage)
      (fun _ after => after.received = connection.received ∧
        after.storage = connection.storage) := by
  rw [sendChatFrame, ensures_bind, ensures_okOr]
  refine ⟨fun bytes _ => ?_, fun _ => ⟨rfl, rfl⟩⟩
  rw [ensures_bind, ensures_get, ensures_bind, ensures_modify, onChat, ensures_focus]
  cases connection.outcomes.headD .sent with
  | sent => exact ⟨rfl, rfl⟩
  | peerDisconnected => exact ⟨rfl, rfl⟩
  | failed => exact ⟨rfl, rfl⟩

theorem Waited.sendChatFrame {current : String} (frame : ChatFrame P) :
    WaitsFor current (sendChatFrame wire frame) := by
  have waited : ∀ before connection reached : FlushConnection P,
      Waited current before connection → reached.received = connection.received ∧
        reached.storage = connection.storage → Waited current before reached := by
    intro before connection reached earlier same
    refine earlier.trans (.of_same same.1 ?_)
    rw [same.2]
    exact .refl _
  intro before connection earlier
  exact (sendChatFrame_same frame connection).mono (fun _ _ => waited _ _ _ earlier)
    fun _ _ => waited _ _ _ earlier

/-- Receiving adds at most a row under the id of the message. -/
theorem receiveDuringFlush_adds (bytes : Bytes) (messageId senderDisplayName : String)
    (message : RatchetMessage P) (chat : PairingChat P) :
    let adds := fun after : PairingChat P => SameConversations chat.database.storage
        after.database.storage ∨
      ∃ row : MessageRecord, row.messageId = messageId ∧
        SameConversations (chat.database.storage.withMessage row) after.database.storage
    (PairingChat.receiveDuringFlush wire bytes messageId senderDisplayName message).Ensures chat
      (fun _ => adds) (fun _ => adds) := by
  intro adds
  have addsRow : ∀ after : PairingChat P, PairingChat.Received chat.database.storage chat.role
      messageId senderDisplayName message after.database.storage → adds after := by
    rintro after ⟨text, -, row, received, same⟩
    exact .inr ⟨row, received.messageId, same⟩
  refine (PairingChat.decrypt_recordReceived_effect chat (.refl _) ?_).mono
    (fun _ => addsRow) fun _ after effect => effect.elim .inl (addsRow after)
  refine .bind .get fun _ => PairingChat.keepsChat_onStorage ?_
  exact ReadsConversations.markMessageNew (fun _ _ same received => received.mono same) _ _

/-- A frame that was read is handled within the wait. -/
theorem handleIncomingDuringFlush_waited {current : String} {frame : ChatFrame P}
    (arrived : (current, frame) ∈ connection.received) (bytes : Bytes) :
    (handleIncomingDuringFlush wire bytes frame).Ensures connection
      (fun _ => Waited current connection) (fun _ => Waited current connection) := by
  have unchanged : ∀ after : FlushConnection P, after.received = connection.received →
      after.storage = connection.storage → Waited current connection after := by
    intro after received same
    refine .of_same received ?_
    rw [same]
    exact .refl _
  cases frame with
  | ack acknowledged => exact unchanged connection rfl rfl
  | message messageId senderDisplayName message =>
      have acknowledges : Keeps (Waited current connection)
          (sendChatFrame wire (.ack messageId) >>= fun _ => pure ()) :=
        .bind (Waited.sendChatFrame _ _) fun _ => .pure ()
      simp only [handleIncomingDuringFlush, chatMessageAlreadySaved, Database.messageExists,
        ensures_bind, onChat, ensures_focus, PairingChat.onStorage,
        PairingChat.onDatabase, ensures_mapError]
      apply Database.ensures_query
      · exact unchanged _ rfl rfl
      rw [ensures_ite]
      constructor
      · intro _
        rw [ensures_bind, ensures_focus]
        have waits : ∀ chat : PairingChat P,
            (SameConversations connection.storage chat.database.storage ∨
              ∃ row : MessageRecord, row.messageId = messageId ∧
                SameConversations (connection.storage.withMessage row) chat.database.storage) →
            Waited current connection { connection with chat } := by
          rintro chat (same | ⟨row, named, same⟩)
          · exact .of_same rfl same
          · refine .of_row rfl ?_ same
            rw [named]
            exact ⟨senderDisplayName, message, arrived⟩
        exact (receiveDuringFlush_adds bytes messageId senderDisplayName message _).mono
          (fun _ chat adds => acknowledges _ (waits chat adds)) fun _ chat adds => waits chat adds
      · intro _
        exact acknowledges _ (unchanged _ rfl rfl)

/-- A wait that ends with the acknowledgement has read it. -/
theorem waitForChatAck_waited (current : String) (arrivals : List Arrival) :
    (waitForChatAck wire current arrivals).Ensures connection
      (fun result after => Waited current connection after ∧
        (result.1 = true → (current, .ack current) ∈ after.received))
      (fun _ => Waited current connection) := by
  have nothing : Waited current connection connection := .of_same rfl (.refl _)
  induction arrivals generalizing connection with
  | nil => exact ⟨nothing, nofun⟩
  | cons arrival arrivals ih =>
      cases arrival with
      | timedOut => exact ⟨nothing, nofun⟩
      | peerDisconnected => exact ⟨nothing, nofun⟩
      | failed => exact nothing
      | frame bytes =>
          rw [waitForChatAck, ensures_bind, ensures_okOr]
          refine ⟨fun frame _ => ?_, fun _ => nothing⟩
          rw [ensures_bind, ensures_modify]
          let read : FlushConnection P :=
            { connection with received := connection.received ++ [(current, frame)] }
          have hasRead : Waited current connection read := by
            refine ⟨List.subset_append_left _ _, rfl, .of_messages_eq rfl⟩
          have arrived : (current, frame) ∈ read.received :=
            List.mem_append_right _ (List.mem_singleton_self _)
          rw [ensures_ite]
          constructor
          · intro expected
            rw [expected] at arrived
            exact ⟨hasRead, fun _ => arrived⟩
          · intro _
            rw [ensures_bind]
            refine (handleIncomingDuringFlush_waited arrived bytes).mono ?_
              fun _ _ handled => hasRead.trans handled
            intro _ handled waited
            refine (ih (.of_same rfl (.refl _))).mono ?_ fun _ _ more =>
              (hasRead.trans waited).trans more
            exact fun _ _ more => ⟨(hasRead.trans waited).trans more.1, more.2⟩

/-! ## The queue -/

/-- The frames that were read and the tables of the conversations are these. -/
def Stands (received : List (String × ChatFrame P)) (storage : Storage)
    (connection : FlushConnection P) : Prop :=
  connection.received = received ∧ SameConversations storage connection.storage

section

variable {received : List (String × ChatFrame P)} {storage : Storage}

theorem stands_onChat {Result : Type} {method : ChatResult P Result}
    (keeps : PairingChat.KeepsChat (SameConversations storage) method) :
    Keeps (Stands received storage) (onChat method) := by
  intro connection stands
  rw [onChat, ensures_focus]
  exact (keeps connection.chat stands.2).mono (fun _ _ same => ⟨stands.1, same⟩)
    fun _ _ same => ⟨stands.1, same⟩

theorem stands_sendChatFrame (frame : ChatFrame P) :
    Keeps (Stands received storage) (sendChatFrame wire frame) := by
  have stays : ∀ connection reached : FlushConnection P, Stands received storage connection →
      reached.received = connection.received ∧ reached.storage = connection.storage →
      Stands received storage reached := by
    intro connection reached stands same
    rw [Stands, same.1, same.2]
    exact stands
  intro connection stands
  exact (sendChatFrame_same frame connection).mono (fun _ _ => stays _ _ stands)
    fun _ _ => stays _ _ stands

/-- Sending a message counts the attempt and touches nothing else of the conversations. -/
theorem sendPendingItem_attempts (item : PendingPeerMessage) (connection : FlushConnection P) :
    let attempted := Stands connection.received
      (connection.storage.withAttempt item.messageId connection.chat.database.now)
    (sendPendingItem wire item).Ensures connection (fun _ => attempted)
      (fun _ after => Stands connection.received connection.storage after ∨ attempted after) := by
  intro attempted
  have reads := readsConversations_same
    (connection.storage.withAttempt item.messageId connection.chat.database.now)
  have sends : Keeps attempted (onChat (PairingChat.onRole
      (PairingChatRole.encrypt item.plaintext)) >>= fun message =>
        onChat (PairingChat.saveIdentity wire) >>= fun _ => get >>= fun reached =>
          sendChatFrame wire (.message item.messageId
            reached.chat.context.localDisplayName message)) :=
    .bind (stands_onChat (PairingChat.keepsChat_onRole _)) fun message =>
      .bind (stands_onChat (PairingChat.keepsChat_saveIdentity reads)) fun _ =>
        .bind .get fun _ => stands_sendChatFrame _
  rw [sendPendingItem, ensures_bind, onChat, ensures_focus, PairingChat.onStorage,
    PairingChat.onDatabase, ensures_focus, ensures_mapError,
    Database.recordPendingPeerMessageAttempt, ensures_bind, Database.ensures_nowUnixSecs]
  apply Database.ensures_execute
  · exact .inl ⟨rfl, .refl _⟩
  · let counted : Database := connection.chat.database.advance
      (connection.storage.withAttempt item.messageId connection.chat.database.now)
    have started : attempted { connection with
        chat := { connection.chat with database := counted } } := ⟨rfl, .refl _⟩
    exact (sends _ started).mono (fun _ _ => id) fun _ _ => Or.inr

end

/-- The rows are taken out, and the first that is left may have one attempt more. -/
def Removes (removed remaining : List PendingPeerMessage) (before after : Storage) : Prop :=
  let table := before.pendingPeerMessages.delete fun row =>
    row.messageId ∈ removed.map PendingPeerMessage.messageId
  after.pendingPeerMessages = table ∨
    ∃ first later now, remaining = first :: later ∧
      after.pendingPeerMessages = table.update (fun row => row.messageId = first.messageId)
        (.attempted now) (PendingPeerMessage.messageId_attempted now)

/-- What a flush of these messages has done when it ends.  `complete` says that no statement
has failed; otherwise nothing is known of the status of the last message that was removed. -/
structure Flushed (removed remaining : List PendingPeerMessage) (complete : Prop)
    (before after : FlushConnection P) : Prop where
  received : before.received ⊆ after.received
  acknowledged : ∀ row ∈ removed, (row.messageId, .ack row.messageId) ∈ after.received
  pending : Removes removed remaining before.storage after.storage
  follows : Storage.Follows
    (fun messageId => ∃ current ∈ removed ++ remaining,
      ArrivedDuring current.messageId messageId after.received) before.storage after.storage
  settled : ∀ earlier row later, removed = earlier ++ row :: later → complete ∨ later ≠ [] →
    after.storage.Settled row.messageId ∨
      (¬before.storage.messages.Contains row.messageId ∧ ∃ current ∈ later ++ remaining,
        ArrivedDuring current.messageId row.messageId after.received)

namespace Flushed

variable {item : PendingPeerMessage} {removed remaining : List PendingPeerMessage}
variable {complete : Prop}

/-- Nothing is removed. -/
theorem none (received : before.received ⊆ after.received)
    (pending : Removes [] remaining before.storage after.storage)
    (follows : Storage.Follows (fun messageId => ∃ current ∈ remaining,
      ArrivedDuring current.messageId messageId after.received) before.storage after.storage) :
    Flushed [] remaining complete before after where
  received := received
  acknowledged := nofun
  pending := pending
  follows := follows
  settled earlier row later same := absurd same (by simp)

/-- The tables of the conversations are the same. -/
theorem untouched (stands : Stands before.received before.storage after) :
    Flushed [] remaining complete before after := by
  refine .none ?_ (.inl ?_) (.of_messages_eq stands.2.messages)
  · rw [stands.1]
    exact List.Subset.refl _
  · rw [stands.2.pending]
    exact (Table.delete_eq_self fun _ _ => rfl).symm

/-- The first message is acknowledged and taken out, and the flush goes on. -/
theorem cons (waited : before.received ⊆ middle.received)
    (acknowledged : (item.messageId, .ack item.messageId) ∈ middle.received)
    (pending : middle.storage.pendingPeerMessages = before.storage.pendingPeerMessages.delete
      fun row => row.messageId = item.messageId)
    (follows : Storage.Follows (ArrivedDuring item.messageId · middle.received)
      before.storage middle.storage)
    (settled : middle.storage.Settled item.messageId)
    (rest : Flushed removed remaining complete middle after) :
    Flushed (item :: removed) remaining complete before after where
  received := fun _ member => rest.received (waited member)
  acknowledged := List.forall_mem_cons.mpr ⟨rest.received acknowledged, rest.acknowledged⟩
  pending := by
    have deleted : (middle.storage.pendingPeerMessages.delete fun row =>
        row.messageId ∈ removed.map PendingPeerMessage.messageId) =
          before.storage.pendingPeerMessages.delete fun row =>
            row.messageId ∈ (item :: removed).map PendingPeerMessage.messageId := by
      rw [pending, Table.delete_delete_or]
      simp only [List.map_cons, List.mem_cons, Bool.decide_or]
    have removes := rest.pending
    rw [Removes, deleted] at removes
    exact removes
  follows := by
    refine (follows.mono fun messageId arrived => ?_).trans (rest.follows.mono ?_)
    · exact ⟨item, List.mem_cons_self, arrived.mono rest.received⟩
    · exact fun messageId ⟨current, member, arrived⟩ =>
        ⟨current, List.mem_cons_of_mem item member, arrived⟩
  settled := by
    intro earlier row later same known
    cases earlier with
    | nil =>
        cases same
        exact (rest.follows.settled item.messageId settled).imp id fun lost =>
          ⟨fun contains => lost.1 (follows.contains item.messageId contains), lost.2⟩
    | cons first earlier =>
        cases same
        exact (rest.settled earlier row later rfl known).imp id fun lost =>
          ⟨fun contains => lost.1 (follows.contains row.messageId contains), lost.2⟩

end Flushed

theorem Flushed.of_incomplete {removed remaining : List PendingPeerMessage} {complete : Prop}
    (flushed : Flushed removed remaining False before after) (incomplete : ¬complete) :
    Flushed removed remaining complete before after where
  received := flushed.received
  acknowledged := flushed.acknowledged
  pending := flushed.pending
  follows := flushed.follows
  settled earlier row later same known :=
    flushed.settled earlier row later same (.inr (known.resolve_left incomplete))

/-- A statement takes effect or is interrupted. -/
theorem ensures_statement (write : Storage → Storage)
    {returned : Unit → FlushConnection P → Prop} {failed : AppError → FlushConnection P → Prop}
    (interrupted : ∀ after, after.received = connection.received →
      after.storage = connection.storage → failed (.storage .interrupted) after)
    (completed : ∀ after, after.received = connection.received →
      after.storage = write connection.storage → returned () after) :
    (onChat (PairingChat.onStorage (Database.execute write))).Ensures connection returned
      failed := by
  rw [onChat, ensures_focus, PairingChat.onStorage, PairingChat.onDatabase, ensures_focus,
    ensures_mapError]
  exact Database.ensures_execute (interrupted _ rfl rfl) (completed _ rfl rfl)

/-- The message was sent once more and its acknowledgement was awaited. -/
structure Tried (item : PendingPeerMessage) (before after : FlushConnection P) : Prop where
  received : before.received ⊆ after.received
  pending : ∃ now, after.storage.pendingPeerMessages =
    (before.storage.withAttempt item.messageId now).pendingPeerMessages
  follows : Storage.Follows (ArrivedDuring item.messageId · after.received)
    before.storage after.storage

namespace Tried

variable {item : PendingPeerMessage} {items : List PendingPeerMessage} {complete : Prop}

theorem of_waited {now : UInt64}
    (stands : Stands before.received (before.storage.withAttempt item.messageId now) middle)
    (waited : Waited item.messageId middle after) : Tried item before after where
  received := by
    rw [← stands.1]
    exact waited.received
  pending := ⟨now, waited.pending.trans stands.2.pending⟩
  follows := by
    have attempted : Storage.Follows (ArrivedDuring item.messageId · after.received)
        before.storage middle.storage := .of_messages_eq stands.2.messages
    exact attempted.trans waited.follows

/-- A flush that stops at the message has removed nothing. -/
theorem stops (tried : Tried item before after) :
    Flushed [] (item :: items) complete before after := by
  obtain ⟨now, pending⟩ := tried.pending
  refine .none tried.received (.inr ⟨item, items, now, rfl, ?_⟩) (tried.follows.mono ?_)
  · rw [pending, Table.delete_eq_self]
    · rfl
    · exact fun _ _ => rfl
  · exact fun messageId arrived => ⟨item, List.mem_cons_self, arrived⟩

theorem congr (tried : Tried item before middle) (received : after.received = middle.received)
    (storage : after.storage = middle.storage) : Tried item before after where
  received := by
    rw [received]
    exact tried.received
  pending := by
    rw [storage]
    exact tried.pending
  follows := by
    rw [received, storage]
    exact tried.follows

/-- Removing the row undoes the attempt. -/
theorem pending_removed (tried : Tried item before middle) :
    (middle.storage.withoutPending item.messageId).pendingPeerMessages =
      before.storage.pendingPeerMessages.delete fun row => row.messageId = item.messageId := by
  obtain ⟨now, pending⟩ := tried.pending
  rw [Storage.withoutPending, pending]
  exact Table.delete_update _ (PendingPeerMessage.messageId_attempted now) fun _ => rfl

/-- Removing the row touches no message. -/
theorem follows_removed (tried : Tried item before middle) :
    Storage.Follows (ArrivedDuring item.messageId · middle.received) before.storage
      (middle.storage.withoutPending item.messageId) := by
  have removed : Storage.Follows (ArrivedDuring item.messageId · middle.received)
      middle.storage (middle.storage.withoutPending item.messageId) := .of_messages_eq rfl
  exact tried.follows.trans removed

/-- The status is not updated if that statement fails. -/
theorem interrupted (tried : Tried item before middle)
    (arrived : (item.messageId, .ack item.messageId) ∈ middle.received)
    (received : after.received = middle.received)
    (statement : after.storage = middle.storage.withoutPending item.messageId) :
    Flushed [item] items False before after where
  received := by
    rw [received]
    exact tried.received
  acknowledged := by
    rw [received]
    exact List.forall_mem_cons.mpr ⟨arrived, nofun⟩
  pending := by
    left
    rw [statement, tried.pending_removed]
    simp only [List.map_cons, List.map_nil, List.mem_singleton]
  follows := by
    rw [received, statement]
    exact tried.follows_removed.mono fun messageId arrived =>
      ⟨item, List.mem_cons_self, arrived⟩
  settled earlier row later same known := by
    cases earlier with
    | nil => exact absurd (List.cons.inj same).2.symm (known.resolve_left id)
    | cons first earlier => exact absurd (List.cons.inj same).2 (by simp)

/-- After the two statements for an acknowledged message the flush goes on. -/
theorem acknowledged (tried : Tried item before middle)
    (arrived : (item.messageId, .ack item.messageId) ∈ middle.received)
    (received : after.received = middle.received)
    (statements : after.storage =
      (middle.storage.withoutPending item.messageId).withSent item.messageId)
    {last : FlushConnection P} {removed remaining : List PendingPeerMessage}
    (rest : Flushed removed remaining complete after last) :
    Flushed (item :: removed) remaining complete before last := by
  refine .cons ?_ ?_ ?_ ?_ ?_ rest
  · rw [received]
    exact tried.received
  · rwa [received]
  · rw [statements]
    exact tried.pending_removed
  · rw [received, statements]
    exact tried.follows_removed.trans (Storage.follows_withSent _ _ _)
  · rw [statements]
    exact Storage.settled_withSent _ _

end Tried

/-- A flush ends with some of its messages removed, from the first on. -/
def Ends (items : List PendingPeerMessage) (complete : Prop)
    (before after : FlushConnection P) : Prop :=
  ∃ removed remaining, items = removed ++ remaining ∧
    Flushed removed remaining complete before after

theorem flushItems_ends (items : List PendingPeerMessage) (arrivals : List Arrival)
    (connection : FlushConnection P) :
    (flushItems wire items arrivals).Ensures connection
      (fun _ => Ends items True connection)
      (fun error => Ends items (∀ failure, error ≠ .storage failure) connection) := by
  induction items generalizing connection arrivals with
  | nil =>
      exact ⟨[], [], rfl, .untouched ⟨rfl, .refl _⟩⟩
  | cons item items ih =>
      have stops : ∀ complete after, Tried item connection after →
          Ends (item :: items) complete connection after :=
        fun complete after tried => ⟨[], item :: items, rfl, tried.stops⟩
      have unwaited : ∀ after now, Stands connection.received
          (connection.storage.withAttempt item.messageId now) after →
          Tried item connection after :=
        fun after now stands => .of_waited stands (.of_same rfl (.refl _))
      rw [flushItems, ensures_bind]
      refine (sendPendingItem_attempts item connection).mono ?_ ?_
      · intro connected sent stands
        rw [ensures_ite]
        refine ⟨fun _ => ?_, fun _ => stops _ _ (unwaited sent _ stands)⟩
        rw [ensures_bind]
        refine (waitForChatAck_waited item.messageId arrivals).mono ?_ fun _ _ waited =>
          stops _ _ (.of_waited stands waited)
        rintro ⟨acknowledged, rest⟩ waiting ⟨waited, arrived⟩
        have tried := Tried.of_waited stands waited
        dsimp only
        rw [ensures_ite]
        refine ⟨fun confirmed => ?_, fun _ => stops _ _ tried⟩
        rw [ensures_bind]
        refine ensures_statement (Storage.withoutPending item.messageId) ?_ ?_
        · exact fun after received storage => stops _ _ (tried.congr received storage)
        intro without withoutReceived withoutStorage
        rw [ensures_bind]
        refine ensures_statement (Storage.withSent item.messageId) ?_ ?_
        · intro after received storage
          have flushed : Flushed [item] items False connection after :=
            tried.interrupted (arrived confirmed) (received.trans withoutReceived)
              (storage.trans withoutStorage)
          exact ⟨[item], items, rfl, flushed.of_incomplete fun complete => complete _ rfl⟩
        intro settled settledReceived settledStorage
        have goesOn : ∀ complete after, Ends items complete settled after →
            Ends (item :: items) complete connection after := by
          rintro complete after ⟨removed, remaining, split, flushed⟩
          refine ⟨item :: removed, remaining, by rw [split]; rfl, ?_⟩
          refine tried.acknowledged (arrived confirmed)
            (settledReceived.trans withoutReceived) ?_ flushed
          rw [settledStorage, withoutStorage]
        exact (ih rest settled).mono (fun _ => goesOn _) fun _ => goesOn _
      · rintro error after (stands | stands)
        · exact ⟨[], item :: items, rfl, .untouched stands⟩
        · exact stops _ _ (unwaited after _ stands)

end FlushConnection

end CipherMesh
