import CipherMesh.Chat.EventEffects
import CipherMesh.Chat.Retry
import CipherMesh.Storage.Conversations

/-!
# Accepted messages

A received message is recorded in the history and in the accepted messages.  The handlers
look the id of a frame up in the history, which the user can clear, and never in the
accepted messages, which nothing clears.
-/

namespace CipherMesh

open Foundation
open Foundation.Mutation
open PairingChat

variable {P : Primitives} {wire : Wire P}

/-- The ids stay accepted, and every accepted message has its row. -/
structure Remembered (earlier : String → Prop) (storage : Storage) : Prop where
  accepted : ∀ messageId, earlier messageId → storage.acceptedMessages.Contains messageId
  saved : ∀ messageId, storage.acceptedMessages.Contains messageId →
    storage.messages.Contains messageId

/-! ## Statements -/

section

variable {earlier : String → Prop} {storage after : Storage}

/-- No row leaves the history. -/
theorem Remembered.mono (remembered : Remembered earlier storage)
    (messages : ∀ messageId, storage.messages.Contains messageId →
      after.messages.Contains messageId)
    (accepted : after.acceptedMessages = storage.acceptedMessages) :
    Remembered earlier after := by
  constructor
  · rw [accepted]
    exact remembered.accepted
  · rw [accepted]
    exact fun messageId present => messages messageId (remembered.saved messageId present)

theorem Remembered.withMessage (remembered : Remembered earlier storage) (row : MessageRecord) :
    Remembered earlier (storage.withMessage row) :=
  remembered.mono (fun _ present => present.insertOrIgnore row) rfl

/-- Statements on other tables. -/
theorem remembers_frame {write : Storage → Storage}
    (messages : ∀ storage, (write storage).messages = storage.messages)
    (accepted : ∀ storage, (write storage).acceptedMessages = storage.acceptedMessages) :
    KeepsTables (Remembered earlier) (Database.execute write) :=
  Database.keeps_execute fun storage remembered =>
    remembered.mono (fun _ present => by rwa [messages storage]) (accepted storage)

theorem remembers_update {condition : MessageRecord → Bool} {change : MessageRecord → MessageRecord}
    (keepsKey : ∀ row, (change row).messageId = row.messageId) :
    KeepsTables (Remembered earlier) (Database.execute fun storage =>
      { storage with messages := storage.messages.update condition change keepsKey }) :=
  Database.keeps_execute fun _ remembered =>
    remembered.mono (fun _ => (Table.contains_update keepsKey).mpr) rfl

theorem remembers_saveIdentity (role : PairingChatRole P) :
    KeepsTables (Remembered earlier) (role.saveIdentity wire) := by
  have saves : ∀ id role state,
      KeepsTables (Remembered earlier) (Database.saveLocalIdentity id role state) := fun _ _ _ =>
    .bind Database.keeps_nowUnixSecs fun _ => remembers_frame (fun _ => rfl) fun _ => rfl
  cases role with
  | alice actor => exact .bind (.okOr _ _) fun _ => .mapError (saves _ _ _)
  | bob actor => exact .bind (.okOr _ _) fun _ => .mapError (saves _ _ _)

theorem remembers_persistChatMessage (entry : ChatHistoryEntry) :
    KeepsTables (Remembered earlier) (persistChatMessage P entry) :=
  .bind Database.keeps_nowUnixSecs fun _ => Database.keeps_execute fun _ remembered =>
    remembered.withMessage _

theorem remembers_markDeliveredIfPending (messageId : String) :
    KeepsTables (Remembered earlier) (markDeliveredIfPending messageId) :=
  .bind (remembers_frame (fun _ => rfl) fun _ => rfl) fun _ =>
    remembers_update _

theorem remembers_recordAttempt (messageId : String) :
    KeepsTables (Remembered earlier) (Database.recordPendingPeerMessageAttempt messageId) :=
  .bind Database.keeps_nowUnixSecs fun _ => remembers_frame (fun _ => rfl) fun _ => rfl

theorem remembers_trackPendingChatDelivery (conversationId messageId plaintext : String) :
    KeepsTables (Remembered earlier)
      (trackPendingChatDelivery P conversationId messageId plaintext) :=
  .bind (keepsTables_pendingPeerId conversationId) fun _ =>
    .bind Database.keeps_nowUnixSecs fun _ => remembers_frame (fun _ => rfl) fun _ => rfl

theorem remembers_queueMessage (conversationId line : String) (random : Bytes) :
    KeepsTables (Remembered earlier)
      (queueMessageAfterPeerDisconnect P conversationId line random) := by
  refine .bind (keepsTables_loadKnownPeer conversationId) fun peer => ?_
  cases peer with
  | none => exact .pure ()
  | some peer =>
      refine .bind Database.keeps_nowUnixSecs fun _ => ?_
      refine .bind (remembers_frame (fun _ => rfl) fun _ => rfl) fun _ => ?_
      exact Database.keeps_execute fun _ remembered => remembered.withMessage _

theorem remembers_saveContactForChat (contactId displayName : String) (identityPublicKey : Bytes)
    (discoveryHint : String) :
    KeepsTables (Remembered earlier)
      (saveContactForChat P contactId displayName identityPublicKey discoveryHint) := by
  have same : ∀ {storage after : Storage}, after.messages = storage.messages →
      after.acceptedMessages = storage.acceptedMessages → Remembered earlier storage →
      Remembered earlier after := fun messages accepted remembered =>
    remembered.mono (fun _ present => messages ▸ present) accepted
  apply saveContactForChat_keeps
  · exact fun _ _ => same rfl rfl
  · intro _
    apply Database.keeps_mergeContactInto
    · exact fun _ remembered => remembered.mono
        (fun _ => (Storage.contains_movedMessages _ _).mpr) rfl
    · exact fun _ => same rfl rfl
    · exact fun _ _ _ _ => same rfl rfl
    · exact fun _ => same rfl rfl
    · exact fun _ => same rfl rfl
  · exact fun _ _ _ => same rfl rfl

theorem remembers_alreadySaved (messageId : String) :
    KeepsTables (Remembered earlier) (chatMessageAlreadySaved messageId) := by
  unfold chatMessageAlreadySaved Database.messageExists
  exact Database.keeps_query _

/-- The id has its row when it is accepted. -/
theorem remembers_accept {messageId : String} {database : Database}
    (remembered : Remembered earlier database.storage)
    (present : database.storage.messages.Contains messageId) :
    (markIncomingChatMessageAccepted messageId).Ensures database
      (fun _ after => Remembered earlier after.storage)
      (fun _ after => Remembered earlier after.storage) := by
  simp only [markIncomingChatMessageAccepted, Database.acceptMessageOnce, ensures_bind,
    Database.ensures_nowUnixSecs]
  refine Database.ensures_statement (by exact remembered) ?_ ?_
  · rintro accepted storage ⟨⟩
    refine ⟨fun other known => (remembered.accepted other known).insertOrIgnore _, ?_⟩
    rintro other ⟨row, member, rfl⟩
    rcases Table.mem_insertOrIgnore.mp member with old | ⟨rfl, _⟩
    · exact remembered.saved _ ⟨row, old, rfl⟩
    · exact present
  · rintro error ⟨⟩

/-- No accepted message has its row in the conversation. -/
def Storage.HoldsNoAccepted (storage : Storage) (conversationId : String) : Prop :=
  ∀ row ∈ storage.messages, row.conversationId = conversationId →
    ¬ storage.acceptedMessages.Contains row.messageId

instance (storage : Storage) (conversationId : String) :
    Decidable (storage.HoldsNoAccepted conversationId) :=
  inferInstanceAs (Decidable (∀ row ∈ storage.messages.rows, row.conversationId = conversationId →
    ¬ storage.acceptedMessages.Contains row.messageId))

theorem Remembered.withoutMessages {conversationId : String}
    (remembered : Remembered earlier storage) (none : storage.HoldsNoAccepted conversationId) :
    let after := { storage with
      messages := storage.messages.delete fun row => row.conversationId = conversationId }
    Remembered earlier after ∧ after.HoldsNoAccepted conversationId := by
  refine ⟨⟨remembered.accepted, fun messageId accepted => ?_⟩, fun row member =>
    none row (Table.mem_delete.mp member).1⟩
  obtain ⟨row, member, rfl⟩ := remembered.saved messageId accepted
  refine ⟨row, Table.mem_delete.mpr ⟨member, decide_eq_false fun here => ?_⟩, rfl⟩
  exact none row member here accepted

theorem remembers_clear {conversationId : String} {database : Database}
    (remembered : Remembered earlier database.storage)
    (none : database.storage.HoldsNoAccepted conversationId) :
    (Database.clearConversationHistory conversationId).Ensures database
      (fun _ after => Remembered earlier after.storage)
      (fun _ after => Remembered earlier after.storage) := by
  have keeps := @Database.keeps_clearConversationHistory
    (fun storage => Remembered earlier storage ∧ storage.HoldsNoAccepted conversationId) _
    (fun _ kept => kept.1.withoutMessages kept.2)
    fun _ _ kept => ⟨kept.1.mono (fun _ => id) rfl, kept.2⟩
  exact (keeps database ⟨remembered, none⟩).mono (fun _ _ => And.left) fun _ _ => And.left

theorem remembers_deleteConversation {conversationId : String} {database : Database}
    (remembered : Remembered earlier database.storage)
    (none : database.storage.HoldsNoAccepted conversationId) :
    (Database.deleteConversation conversationId).Ensures database
      (fun _ after => Remembered earlier after.storage)
      (fun _ after => Remembered earlier after.storage) := by
  have keeps := @Database.keeps_deleteConversation
    (fun storage => Remembered earlier storage ∧ storage.HoldsNoAccepted conversationId) _
    (fun _ kept => kept.1.withoutMessages kept.2)
    (fun _ kept => ⟨kept.1.mono (fun _ => id) rfl, kept.2⟩)
    (fun _ kept => ⟨kept.1.mono (fun _ => id) rfl, kept.2⟩)
    (fun _ kept => ⟨kept.1.mono (fun _ => id) rfl, kept.2⟩)
    fun _ _ _ _ _ kept => ⟨kept.1.mono (fun _ => id) rfl, kept.2⟩
  exact (keeps database ⟨remembered, none⟩).mono (fun _ _ => And.left) fun _ _ => And.left

end

/-! ## Calls of a chat -/

namespace PairingChat

variable {earlier : String → Prop}

theorem remembers_chatIdentity : KeepsChat (Remembered earlier) (saveIdentity wire) :=
  .bind .get fun chat => keepsChat_onDatabase (remembers_saveIdentity chat.role)

theorem remembers_prepareFrame (remoteDisplayName plaintext : String)
    (existingMessageId : Option String) :
    KeepsChat (Remembered earlier)
      (prepareFrame wire remoteDisplayName plaintext existingMessageId) := by
  refine .bind (keepsChat_onRole _) fun message => .bind remembers_chatIdentity fun _ => ?_
  refine .bind .get fun _ => .bind (.okOr _ _) fun _ => .bind (.okOr _ _) fun _ => ?_
  exact .bind (keepsChat_onStorage (remembers_persistChatMessage _)) fun _ => .pure _

theorem remembers_resend :
    (items : List PendingPeerMessage) → KeepsChat (Remembered earlier) (resend wire items)
  | [] => .pure ()
  | _ :: items =>
      .bind (keepsChat_onStorage (remembers_recordAttempt _)) fun _ =>
        .bind (remembers_prepareFrame _ _ _) fun _ => .bind (keepsChat_sendRequest _) fun _ =>
          remembers_resend items

theorem remembers_sendPending : KeepsChat (Remembered earlier) (sendPending wire) :=
  .bind .get fun _ => .bind (keepsChat_onStorage (Database.keeps_query _)) remembers_resend

theorem remembers_connected : KeepsChat (Remembered earlier) (connected wire) := by
  refine .bind .get fun chat => ?_
  split
  · exact .bind (.modify fun _ => id) fun _ => remembers_sendPending
  · exact .pure ()

theorem remembers_submit (line : String) (random : Bytes) :
    KeepsChat (Remembered earlier) (submit wire line random) := by
  refine .bind .get fun chat => ?_
  split
  · exact .pure _
  split
  · exact .pure _
  split
  · exact .bind (keepsChat_onStorage (remembers_queueMessage _ _ _)) fun _ => .pure _
  · refine .bind (remembers_prepareFrame _ _ _) fun _ => ?_
    refine .bind (keepsChat_onStorage (remembers_trackPendingChatDelivery _ _ _)) fun _ => ?_
    exact .bind (keepsChat_sendRequest _) fun _ => .pure _

theorem remembers_sendChatLine (line : String) (outcome : SendOutcome) :
    KeepsChat (Remembered earlier) (sendChatLine wire line outcome) := by
  unfold sendChatLine
  split
  · exact .pure _
  · refine .bind (keepsChat_onRole _) fun message => .bind remembers_chatIdentity fun _ => ?_
    refine .bind .get fun _ => .bind (.okOr _ _) fun _ => .bind (.okOr _ _) fun _ => ?_
    refine .bind (.bind (keepsChat_sendRequest _) fun _ => ?_) fun connected => ?_
    · cases outcome with
      | sent => exact .pure _
      | peerDisconnected => exact .pure _
      | failed => exact fun _ remembered => remembered
    · split
      · exact .bind (keepsChat_onStorage (remembers_persistChatMessage _)) fun _ => .pure _
      · exact .pure _

theorem remembers_chatLoopLine (line : String) (random : Bytes) (outcome : SendOutcome) :
    KeepsChat (Remembered earlier) (chatLoopLine wire line random outcome) := by
  have queues : ∀ conversationId, KeepsChat (Remembered earlier)
      (onStorage (P := P) (queueMessageAfterPeerDisconnect P conversationId line random) >>=
        fun _ => pure true) := fun _ =>
    .bind (keepsChat_onStorage (remembers_queueMessage _ _ _)) fun _ => .pure _
  refine .bind .get fun chat => ?_
  split
  · exact .pure _
  split
  · refine .bind (remembers_sendChatLine line outcome) fun connected => ?_
    split
    · exact .pure _
    · exact .bind (.modify fun _ => id) fun _ => queues _
  · exact queues _

theorem remembers_attempt :
    (items : List PendingPeerMessage) → KeepsChat (Remembered earlier) (attempt wire items)
  | [] => .pure []
  | item :: _ => by
      refine .bind ?_ fun _ => .pure _
      refine .bind (keepsChat_onStorage (remembers_recordAttempt _)) fun _ => ?_
      refine .bind (keepsChat_onRole _) fun message => .bind remembers_chatIdentity fun _ => ?_
      exact .bind .get fun _ => keepsChat_sendChatFrame _

theorem remembers_startFlush : KeepsChat (Remembered earlier) (startFlush wire) :=
  .bind .get fun _ => .bind (keepsChat_onStorage (keepsTables_pendingPeerId _)) fun _ =>
    .bind (keepsChat_onStorage (Database.keeps_query _)) remembers_attempt

/-! ### Receiving -/

variable {bytes : Bytes} {messageId senderDisplayName : String} {message : RatchetMessage P}

/-- The row is written before the message is accepted. -/
theorem remembers_recordReceived (plaintext : String) :
    KeepsChat (Remembered earlier)
      (recordReceived wire bytes messageId senderDisplayName message plaintext) := by
  refine .bind remembers_chatIdentity fun _ => .bind .get fun chat => ?_
  intro saved remembered
  rw [ensures_bind, onStorage, onDatabase, ensures_focus, ensures_mapError]
  simp only [persistChatMessage, ensures_bind, Database.ensures_nowUnixSecs]
  refine Database.ensures_execute (by exact remembered) ?_
  rw [onStorage, onDatabase, ensures_focus, ensures_mapError]
  refine remembers_accept (remembered.withMessage _) ?_
  exact Table.contains_insertOrIgnore _ _

theorem remembers_handleRequest : KeepsChat (Remembered earlier) (handleRequest wire bytes) := by
  refine .bind (.okOr _ _) fun frame => ?_
  cases frame with
  | ack messageId => exact .pure _
  | message messageId senderDisplayName message =>
      refine .bind (keepsChat_onStorage (remembers_alreadySaved messageId)) fun saved => ?_
      have receives : KeepsChat (Remembered earlier)
          (receiveMessage wire bytes messageId senderDisplayName message) :=
        .bind (keepsChat_onRole _) fun _ => .bind (remembers_recordReceived _) fun _ =>
          keepsChat_onStorage (remembers_frame (fun _ => rfl) fun _ => rfl)
      split
      · exact .bind receives fun _ => .pure _
      · exact .pure _

theorem remembers_chatLoopFrame : KeepsChat (Remembered earlier) (chatLoopFrame wire bytes) := by
  refine .bind remembers_handleRequest fun acknowledged => ?_
  cases acknowledged with
  | none => exact .pure ()
  | some messageId => exact keepsChat_sendChatFrame _

theorem remembers_duringFlush (frame : ChatFrame P) :
    KeepsChat (Remembered earlier) (handleIncomingDuringFlush wire bytes frame) := by
  cases frame with
  | ack messageId => exact .pure ()
  | message messageId senderDisplayName message =>
      refine .bind (keepsChat_onStorage (remembers_alreadySaved messageId)) fun saved => ?_
      split
      · exact keepsChat_sendChatFrame _
      · refine .bind ?_ fun _ => keepsChat_sendChatFrame _
        refine .bind (keepsChat_onRole _) fun _ => .bind (remembers_recordReceived _) fun _ => ?_
        refine .bind .get fun _ => keepsChat_onStorage ?_
        exact .bind Database.keeps_nowUnixSecs fun _ =>
          remembers_frame (fun _ => rfl) fun _ => rfl

theorem remembers_flushFrame (item : PendingPeerMessage) (items : List PendingPeerMessage) :
    KeepsChat (Remembered earlier) (flushFrame wire item items bytes) := by
  refine .bind (.okOr _ _) fun frame => ?_
  split
  · exact .bind (keepsChat_onStorage (remembers_markDeliveredIfPending _)) fun _ =>
      remembers_attempt items
  · exact .bind (remembers_duringFlush frame) fun _ => .pure _

end PairingChat

namespace ChatProcess

variable {earlier : String → Prop}

theorem remembers_handle (process : ChatProcess P) (event : ChatEvent) :
    KeepsChat (Remembered earlier) (process.handle wire event) := by
  obtain ⟨transport, chat, opening, waiting, running⟩ := process
  cases event with
  | opens =>
      cases transport with
      | pairing => exact .bind remembers_sendPending fun _ => .pure _
      | quic => exact .bind remembers_startFlush fun _ => .pure _
  | line line random outcome =>
      cases transport with
      | pairing => exact .bind (remembers_submit line random) fun _ => .pure _
      | quic => exact .bind (remembers_chatLoopLine line random outcome) fun _ => .pure _
  | frame bytes =>
      cases transport with
      | pairing => exact .bind remembers_handleRequest fun _ => .pure _
      | quic =>
          cases waiting with
          | nil => exact .bind remembers_chatLoopFrame fun _ => .pure _
          | cons item items => exact .bind (remembers_flushFrame item items) fun _ => .pure _
  | ack messageId =>
      exact .bind (keepsChat_onStorage (remembers_markDeliveredIfPending messageId)) fun _ =>
        .pure _
  | connected => exact .bind remembers_connected fun _ => .pure _
  | disconnected => exact .bind (.modify fun _ => id) fun _ => .pure _
  | timeout => exact .pure _
  | stop => exact .pure _

theorem remembered_next {process : ChatProcess P} {event : ChatEvent} {moment : Moment}
    (remembered : Remembered earlier process.chat.database.storage) :
    Remembered earlier (process.next wire event moment).chat.database.storage :=
  next_reached (remembers_handle process event (process.chat.begun moment) remembered)

end ChatProcess

/-! ## Frames of saved messages -/

namespace PairingChat

/-- Nothing was decrypted and nothing was written. -/
structure Untouched (chat after : PairingChat P) : Prop where
  role : after.role = chat.role
  storage : after.database.storage = chat.database.storage

/-- The acknowledgement is what was sent. -/
def SendsAck (wire : Wire P) (messageId : String) (chat after : PairingChat P) : Prop :=
  ∃ bytes, wire.chatFrame.serialize (.ack messageId) = some bytes ∧
    after.requests = chat.requests ++ [bytes]

/-- The acknowledgement cannot be sent: the lookup was interrupted, or no bytes stand for
the acknowledgement. -/
def CannotAck (wire : Wire P) (messageId : String) (error : AppError) : Prop :=
  error = .storage .interrupted ∨
    (error = .format ∧ wire.chatFrame.serialize (.ack messageId) = none)

/-- The three handlers acknowledge the id of the frame and do nothing else: the one of the
paired chat returns what it acknowledges, those over QUIC send it. -/
structure OnlyAcknowledges (wire : Wire P) (chat : PairingChat P) (bytes : Bytes)
    (messageId : String) : Prop where
  request : (handleRequest wire bytes).Ensures chat
    (fun acknowledged after => acknowledged = some messageId ∧ Untouched chat after)
    (fun error after => error = .storage .interrupted ∧ Untouched chat after)
  loop : (chatLoopFrame wire bytes).Ensures chat
    (fun _ after => SendsAck wire messageId chat after ∧ Untouched chat after)
    (fun error after => CannotAck wire messageId error ∧ Untouched chat after)
  flush : ∀ item items, (flushFrame wire item items bytes).Ensures chat
    (fun _ after => SendsAck wire messageId chat after ∧ Untouched chat after)
    (fun error after => CannotAck wire messageId error ∧ Untouched chat after)

variable {chat : PairingChat P} {bytes : Bytes} {messageId senderDisplayName : String}
variable {message : RatchetMessage P}

/-- The lookup finds the row. -/
theorem alreadySaved_saved (saved : chat.database.storage.messages.Contains messageId) :
    (onStorage (chatMessageAlreadySaved messageId)).Ensures chat
      (fun found after => found = true ∧ Untouched chat after ∧ after.requests = chat.requests)
      (fun error after => error = .storage .interrupted ∧ Untouched chat after) := by
  rw [onStorage, onDatabase, ensures_focus, ensures_mapError, chatMessageAlreadySaved,
    Database.messageExists]
  refine Database.ensures_query ?_ ?_
  · exact ⟨rfl, rfl, rfl⟩
  · exact ⟨decide_eq_true saved, ⟨rfl, rfl⟩, rfl⟩

theorem sendAck_acknowledges {start : PairingChat P} (untouched : Untouched start chat)
    (requests : chat.requests = start.requests) :
    (sendChatFrame wire (.ack messageId)).Ensures chat
      (fun _ after => SendsAck wire messageId start after ∧ Untouched start after)
      (fun error after => CannotAck wire messageId error ∧ Untouched start after) := by
  simp only [sendChatFrame, sendRequest, ensures_bind, ensures_okOr, ensures_modify]
  refine ⟨fun bytes framed => ⟨⟨bytes, framed, ?_⟩, untouched.role, untouched.storage⟩,
    fun unframed => ⟨.inr ⟨rfl, unframed⟩, untouched⟩⟩
  rw [requests]

theorem handleRequest_saved
    (parsed : wire.chatFrame.deserialize bytes =
      some (.message messageId senderDisplayName message))
    (saved : chat.database.storage.messages.Contains messageId) :
    (handleRequest wire bytes).Ensures chat
      (fun acknowledged after => acknowledged = some messageId ∧ Untouched chat after ∧
        after.requests = chat.requests)
      (fun error after => error = .storage .interrupted ∧ Untouched chat after) := by
  simp only [handleRequest, parsed, ensures_bind, ensures_okOr_some]
  refine (alreadySaved_saved saved).mono ?_ fun _ _ => id
  rintro _ queried ⟨rfl, untouched⟩
  exact ⟨rfl, untouched⟩

/-- A frame whose message has its row is only acknowledged. -/
theorem onlyAcknowledges_of_saved
    (parsed : wire.chatFrame.deserialize bytes =
      some (.message messageId senderDisplayName message))
    (saved : chat.database.storage.messages.Contains messageId) :
    OnlyAcknowledges wire chat bytes messageId where
  request := (handleRequest_saved parsed saved).mono
    (fun _ _ found => ⟨found.1, found.2.1⟩) fun _ _ => id
  loop := by
    rw [chatLoopFrame, ensures_bind]
    refine (handleRequest_saved parsed saved).mono ?_ fun _ _ failed => ⟨.inl failed.1, failed.2⟩
    rintro _ queried ⟨rfl, untouched, requests⟩
    exact sendAck_acknowledges untouched requests
  flush item items := by
    simp only [flushFrame, parsed, ensures_bind, ensures_okOr_some, reduceCtorEq, if_false,
      handleIncomingDuringFlush, ensures_pure]
    refine (alreadySaved_saved saved).mono ?_ fun _ _ failed => ⟨.inl failed.1, failed.2⟩
    rintro _ queried ⟨rfl, untouched, requests⟩
    exact sendAck_acknowledges untouched requests

end PairingChat

/-! ## Runs -/

/-- What happens to a chat and its database: the chat goes on or starts again, a contact is
saved, or the user clears or deletes a conversation. -/
inductive ClearedChatEvent (P : Primitives) where
  | chat (event : ChatEvent)
  | start (transport : ChatTransport) (role : PairingChatRole P) (context : PairingChatContext)
      (opening : Bool)
  | saveContact (contactId displayName : String) (identityPublicKey : Bytes)
      (discoveryHint : String)
  | clearConversationHistory (conversationId : String)
  | deleteConversation (conversationId : String)

namespace ClearedChatEvent

/-- Another connection to the database of the process. -/
def onStorage {Result : Type} (method : StorageResult Result) (process : ChatProcess P)
    (moment : Moment) : ChatProcess P :=
  { process with
    chat := { process.chat with
      database :=
        (method.run (process.chat.database.opened moment.now moment.interruptions)).2 } }

def next (wire : Wire P) (process : ChatProcess P) :
    ClearedChatEvent P × Moment → ChatProcess P
  | (.chat event, moment) => process.next wire event moment
  | (.start transport role context opening, _) => {
      transport
      chat := { process.chat with role, context, online := true }
      opening
      waiting := []
      running := true }
  | (.saveContact contactId displayName identityPublicKey discoveryHint, moment) =>
      onStorage (saveContactForChat P contactId displayName identityPublicKey discoveryHint)
        process moment
  | (.clearConversationHistory conversationId, moment) =>
      onStorage (Database.clearConversationHistory conversationId) process moment
  | (.deleteConversation conversationId, moment) =>
      onStorage (Database.deleteConversation conversationId) process moment

/-- The runs of the chat programs from a database in which no message is accepted yet. -/
def system (wire : Wire P) : System (ChatProcess P) (ClearedChatEvent P × Moment) where
  initial process := ∀ messageId,
    ¬ process.chat.database.storage.acceptedMessages.Contains messageId
  permitted process event :=
    match event.1 with
    | .chat event => process.Enabled event
    | _ => True
  next := next wire

instance (process : ChatProcess P) (event : ClearedChatEvent P × Moment) :
    Decidable ((system wire).permitted process event) :=
  match event with
  | (.chat event, _) => inferInstanceAs (Decidable (process.Enabled event))
  | (.start .., _) | (.saveContact .., _) | (.clearConversationHistory _, _)
  | (.deleteConversation _, _) => .isTrue trivial

/-- A cleared or deleted conversation has no row of an accepted message. -/
def ClearsNoAccepted (process : ChatProcess P) (event : ClearedChatEvent P × Moment) : Prop :=
  match event.1 with
  | .clearConversationHistory conversationId | .deleteConversation conversationId =>
      process.chat.database.storage.HoldsNoAccepted conversationId
  | _ => True

instance (process : ChatProcess P) (event : ClearedChatEvent P × Moment) :
    Decidable (ClearsNoAccepted process event) :=
  match event with
  | (.clearConversationHistory conversationId, _) | (.deleteConversation conversationId, _) =>
      inferInstanceAs
        (Decidable (process.chat.database.storage.HoldsNoAccepted conversationId))
  | (.chat _, _) | (.start .., _) | (.saveContact .., _) => .isTrue trivial

variable {process later : ChatProcess P}

theorem remembered_next {earlier : String → Prop}
    (remembered : Remembered earlier process.chat.database.storage)
    {event : ClearedChatEvent P × Moment} (clears : ClearsNoAccepted process event) :
    Remembered earlier (next wire process event).chat.database.storage := by
  obtain ⟨event, moment⟩ := event
  have opened : Remembered earlier
      (process.chat.database.opened moment.now moment.interruptions).storage := remembered
  cases event with
  | chat event => exact ChatProcess.remembered_next remembered
  | start transport role context opening => exact remembered
  | saveContact contactId displayName identityPublicKey discoveryHint =>
      exact (remembers_saveContactForChat contactId displayName identityPublicKey discoveryHint _
        opened).reached
  | clearConversationHistory conversationId => exact (remembers_clear opened clears).reached
  | deleteConversation conversationId =>
      exact (remembers_deleteConversation opened clears).reached

/-- As long as no row of an accepted message is cleared, every later frame with its id is only
acknowledged. -/
theorem accepted_only_acknowledged
    (reachable : ((system wire).restrict ClearsNoAccepted).Reachable process)
    {messageId : String}
    (accepted : process.chat.database.storage.acceptedMessages.Contains messageId)
    (reaches : ((system wire).restrict ClearsNoAccepted).Reaches process later)
    {bytes : Bytes} {senderDisplayName : String} {message : RatchetMessage P}
    (parsed : wire.chatFrame.deserialize bytes =
      some (.message messageId senderDisplayName message))
    (moment : Moment) :
    OnlyAcknowledges wire (later.chat.begun moment) bytes messageId := by
  have remembered : Remembered (fun _ => False) process.chat.database.storage := by
    refine reachable.invariant (fun state => Remembered _ state.chat.database.storage) ?_ ?_
    · intro start none
      exact ⟨fun _ => False.elim, fun other present => absurd present (none other)⟩
    · exact fun _ _ before permitted => remembered_next before permitted.2
  have since : Remembered (fun other => other = messageId) later.chat.database.storage := by
    refine reaches.invariant ?_ fun _ _ before permitted => remembered_next before permitted.2
    refine ⟨?_, remembered.saved⟩
    rintro _ rfl
    exact accepted
  have saved : later.chat.database.storage.messages.Contains messageId :=
    since.saved messageId (since.accepted messageId rfl)
  have begun : (later.chat.begun moment).database.storage.messages.Contains messageId := saved
  exact onlyAcknowledges_of_saved parsed begun

end ClearedChatEvent

/-! ## A retry after clearing -/

namespace Symbolic

/-- Bob's chat, which has received nothing. -/
def listeningChat : ChatProcess primitives where
  transport := .pairing
  chat := endpoint .bob
  opening := false
  waiting := []
  running := true

/-- Alice's message, encrypted twice. -/
def resentWire : Wire primitives := wireOf (encryptions ["hello", "hello"] (sessions .alice))

/-- The first frame arrives, and Bob clears a conversation. -/
def receivedAndCleared (conversationId : String) :
    List (ClearedChatEvent primitives × Moment) :=
  [(.chat (.frame []), undisturbed), (.clearConversationHistory conversationId, undisturbed)]

def clearedChat (conversationId : String) : ChatProcess primitives :=
  (ClearedChatEvent.system resentWire).run listeningChat (receivedAndCleared conversationId)

theorem resent_parsed : ∃ message,
    resentWire.chatFrame.deserialize [0] = some (.message greetingId "Alice" message) :=
  ⟨(encryptions ["hello", "hello"] (sessions .alice)).get ⟨1, by decide +kernel⟩, by decide +kernel⟩

theorem listeningChat_initial :
    (ClearedChatEvent.system resentWire).initial listeningChat :=
  fun _ => fun ⟨_, member, _⟩ => Table.notMem_empty member

/-- Bob clears another conversation, and the second frame is only acknowledged. -/
theorem resent_only_acknowledged :
    PairingChat.OnlyAcknowledges resentWire ((clearedChat "other").chat.begun undisturbed) [0]
      greetingId := by
  have permits : ((ClearedChatEvent.system resentWire).restrict
      ClearedChatEvent.ClearsNoAccepted).Permits listeningChat (receivedAndCleared "other") := by
    decide +kernel
  obtain ⟨message, parsed⟩ := resent_parsed
  exact ClearedChatEvent.accepted_only_acknowledged
    ⟨listeningChat, listeningChat_initial, permits.reaches⟩ (by decide +kernel) .refl parsed
    undisturbed

/-- Bob clears the conversation of the message, and the second frame brings it back. -/
theorem cleared_message_comes_back :
    (ClearedChatEvent.system resentWire).Reachable (clearedChat "chat") ∧
      (clearedChat "chat").chat.database.storage.acceptedMessages.Contains greetingId ∧
      (clearedChat "chat").chat.database.storage.messages.rows = [] ∧
      (∃ message, resentWire.chatFrame.deserialize [0] =
        some (.message greetingId "Alice" message)) ∧
      ((clearedChat "chat").next resentWire (.frame [0])
          undisturbed).chat.database.storage.messages.rows.map
        (fun row => (row.messageId, row.plaintext)) = [(greetingId, some "hello")] ∧
      ¬ PairingChat.OnlyAcknowledges resentWire ((clearedChat "chat").chat.begun undisturbed) [0]
          greetingId := by
  have permits : (ClearedChatEvent.system resentWire).Permits listeningChat
      (receivedAndCleared "chat") := by
    decide +kernel
  refine ⟨⟨listeningChat, listeningChat_initial, permits.reaches⟩, by decide +kernel,
    by decide +kernel, resent_parsed, by decide +kernel, fun only => ?_⟩
  have stored : ((PairingChat.handleRequest resentWire [0]).run ((clearedChat "chat").chat.begun
      undisturbed)).2.database.storage.messages.rows.length = 1 := by
    decide +kernel
  have answered : ((PairingChat.handleRequest resentWire [0]).run
      ((clearedChat "chat").chat.begun undisturbed)).1 = .ok (some greetingId) := by
    decide +kernel
  have untouched := (only.request.of_result answered).2
  rw [untouched.storage] at stored
  exact absurd stored (by decide +kernel)

end Symbolic

end CipherMesh
