import CipherMesh.Chat.Effects

/-!
# Effects of an event

What a received frame leaves in the tables of the conversations, and from it and the effects
of sending what one event of a process leaves there: a property that admits the rows of the
event is kept by it.
-/

namespace CipherMesh

open Foundation
open Foundation.Mutation

variable {P : Primitives} {wire : Wire P}

namespace PairingChat

/-! ## Receiving -/

section

variable {chat : PairingChat P} {storage : Storage} {bytes : Bytes}
variable {messageId senderDisplayName : String} {message : RatchetMessage P}

/-- The tables are those of the storage with a row of the message. -/
def Recorded (storage : Storage) (messageId senderDisplayName text : String) (after : Storage) :
    Prop :=
  ∃ row : MessageRecord, row.IsReceived messageId senderDisplayName text ∧
    SameConversations (storage.withMessage row) after

theorem readsConversations_recorded (storage : Storage)
    (messageId senderDisplayName text : String) :
    ReadsConversations (Recorded storage messageId senderDisplayName text) := by
  rintro before after same ⟨row, received, recorded⟩
  exact ⟨row, received, recorded.trans same⟩

theorem recorded_withMessage {before : Storage} (same : SameConversations storage before)
    {text : String} {row : MessageRecord}
    (received : row.IsReceived messageId senderDisplayName text) :
    Recorded storage messageId senderDisplayName text (before.withMessage row) :=
  ⟨row, received, same.withMessage row⟩

theorem Recorded.contains {text : String} {after : Storage}
    (recorded : Recorded storage messageId senderDisplayName text after) :
    after.messages.Contains messageId := by
  obtain ⟨row, received, same⟩ := recorded
  rw [same.messages, ← received.messageId]
  exact Table.contains_insertOrIgnore _ row

/-- What a frame leaves in the tables: the same rows, or one more for a message that had
none and that decrypts. -/
def FrameStored (wire : Wire P) (chat : PairingChat P) (bytes : Bytes) (after : Storage) : Prop :=
  SameConversations chat.database.storage after ∨
    ∃ messageId senderDisplayName message text,
      wire.chatFrame.deserialize bytes = some (.message messageId senderDisplayName message) ∧
      ¬ chat.database.storage.messages.Contains messageId ∧
      ((PairingChatRole.decrypt message).run chat.role).1 = .ok text ∧
      Recorded chat.database.storage messageId senderDisplayName text after

theorem FrameStored.contains {after : Storage} (stored : FrameStored wire chat bytes after)
    {saved : String} (present : chat.database.storage.messages.Contains saved) :
    after.messages.Contains saved := by
  rcases stored with same | ⟨_, _, _, _, _, _, _, row, _, same⟩
  · rwa [same.messages]
  · rw [same.messages]
    exact present.insertOrIgnore row

/-- The received row of a decrypted text is written, unless an error came first. -/
theorem recordReceived_effect (chat : PairingChat P)
    (same : SameConversations storage chat.database.storage) {plaintext : String} :
    (recordReceived wire bytes messageId senderDisplayName message plaintext).Ensures chat
      (fun _ after => Recorded storage messageId senderDisplayName plaintext
        after.database.storage)
      (fun _ after => SameConversations storage after.database.storage ∨
        Recorded storage messageId senderDisplayName plaintext after.database.storage) := by
  have saves : KeepsChat (SameConversations storage) (saveIdentity wire) :=
    keepsChat_saveIdentity (readsConversations_same storage)
  have accepts := keepsChat_onStorage (P := P)
    ((readsConversations_recorded storage messageId senderDisplayName
      plaintext).markIncomingChatMessageAccepted messageId)
  rw [recordReceived, ensures_bind]
  refine (saves chat same).mono ?_ fun _ _ => .inl
  intro _ saved savedSame
  rw [ensures_bind, ensures_get, ensures_bind, onStorage, onDatabase, ensures_focus,
    ensures_mapError]
  simp only [persistChatMessage, ensures_bind, Database.ensures_nowUnixSecs]
  apply Database.ensures_execute
  · exact .inl savedSame
  · refine (accepts _ ?_).mono (fun _ _ => id) fun _ _ => .inr
    apply recorded_withMessage savedSame
    exact ⟨rfl, rfl, rfl, rfl⟩

/-- The message decrypts for the role, and its row is written. -/
def Received (storage : Storage) (role : PairingChatRole P) (messageId senderDisplayName : String)
    (message : RatchetMessage P) (after : Storage) : Prop :=
  ∃ text, ((PairingChatRole.decrypt message).run role).1 = .ok text ∧
    Recorded storage messageId senderDisplayName text after

theorem Received.mono {role : PairingChatRole P} {before after : Storage}
    (received : Received storage role messageId senderDisplayName message before)
    (same : SameConversations before after) :
    Received storage role messageId senderDisplayName message after := by
  obtain ⟨text, opens, recorded⟩ := received
  exact ⟨text, opens, readsConversations_recorded _ _ _ _ same recorded⟩

/-- Decrypting and recording a message, and one more step that leaves the tables. -/
theorem decrypt_recordReceived_effect (chat : PairingChat P)
    (same : SameConversations storage chat.database.storage)
    {Result : Type} {last : ChatResult P Result}
    (keeps : KeepsChat (Received storage chat.role messageId senderDisplayName message) last) :
    (onRole (PairingChatRole.decrypt message) >>= fun plaintext =>
      recordReceived wire bytes messageId senderDisplayName message plaintext >>= fun _ =>
        last).Ensures chat
      (fun _ after => Received storage chat.role messageId senderDisplayName message
        after.database.storage)
      (fun _ after => SameConversations storage after.database.storage ∨
        Received storage chat.role messageId senderDisplayName message after.database.storage) := by
  rw [ensures_bind, onRole, ensures_mapError, ensures_focus]
  refine Ensures.run.mono (fun text role run => ?_) fun _ _ _ => .inl same
  have opens := congrArg Prod.fst run
  rw [ensures_bind]
  refine (recordReceived_effect { chat with role } same).mono (fun _ recorded holds => ?_)
    fun _ _ failed =>
    failed.imp_right fun holds => ⟨text, opens, holds⟩
  exact (keeps recorded ⟨text, opens, holds⟩).mono (fun _ _ => id) fun _ _ => .inr

/-- The message of the frame, when it carries one, has its row. -/
def FrameSaved (wire : Wire P) (bytes : Bytes) (after : Storage) : Prop :=
  ∀ messageId senderDisplayName message,
    wire.chatFrame.deserialize bytes = some (.message messageId senderDisplayName message) →
      after.messages.Contains messageId

theorem frameSaved_of_contains
    (parsed : wire.chatFrame.deserialize bytes =
      some (.message messageId senderDisplayName message))
    {after : Storage} (contains : after.messages.Contains messageId) :
    FrameSaved wire bytes after := by
  intro other name carried otherParsed
  obtain ⟨rfl, _⟩ := IsFrame.eq ⟨_, parsed⟩ ⟨_, otherParsed⟩
  exact contains

theorem frameSaved_of_ack {acknowledged : String}
    (parsed : wire.chatFrame.deserialize bytes = some (.ack acknowledged)) (after : Storage) :
    FrameSaved wire bytes after := by
  intro other name carried otherParsed
  rw [parsed] at otherParsed
  cases otherParsed

/-- A handled frame is stored, and when the handler returns, its message has its row. -/
abbrev HandlesFrame (wire : Wire P) (chat : PairingChat P) (bytes : Bytes) {Result : Type}
    (method : ChatResult P Result) : Prop :=
  method.Ensures chat
    (fun _ after => FrameStored wire chat bytes after.database.storage ∧
      FrameSaved wire bytes after.database.storage)
    (fun _ after => FrameStored wire chat bytes after.database.storage)

/-- Receiving a message that has no row. -/
theorem handlesFrame_new
    (parsed : wire.chatFrame.deserialize bytes =
      some (.message messageId senderDisplayName message))
    (absent : ¬ chat.database.storage.messages.Contains messageId)
    {before : PairingChat P} (role : before.role = chat.role)
    (same : SameConversations chat.database.storage before.database.storage)
    {Result : Type} {last : ChatResult P Result}
    (keeps : ∀ {property : Storage → Prop}, ReadsConversations property →
      KeepsChat property last) :
    (onRole (PairingChatRole.decrypt message) >>= fun plaintext =>
      recordReceived wire bytes messageId senderDisplayName message plaintext >>= fun _ =>
        last).Ensures before
      (fun _ after => FrameStored wire chat bytes after.database.storage ∧
        FrameSaved wire bytes after.database.storage)
      (fun _ after => FrameStored wire chat bytes after.database.storage) := by
  refine (decrypt_recordReceived_effect before same
    (keeps fun _ _ same received => received.mono same)).mono ?_ ?_
  · rintro _ after ⟨text, opens, recorded⟩
    exact ⟨.inr ⟨_, _, _, text, parsed, absent, role ▸ opens, recorded⟩,
      frameSaved_of_contains parsed recorded.contains⟩
  · rintro _ after (unchanged | ⟨text, opens, recorded⟩)
    · exact .inl unchanged
    · exact .inr ⟨_, _, _, text, parsed, absent, role ▸ opens, recorded⟩

theorem handlesFrame_handleRequest : HandlesFrame wire chat bytes (handleRequest wire bytes) := by
  rw [HandlesFrame, handleRequest, ensures_bind, ensures_okOr]
  refine ⟨fun frame parsed => ?_, fun _ => .inl (.refl _)⟩
  cases frame with
  | ack acknowledged => exact ⟨.inl (.refl _), frameSaved_of_ack parsed _⟩
  | message messageId senderDisplayName message =>
      simp only [ensures_bind, onStorage, onDatabase, ensures_focus, ensures_mapError,
        chatMessageAlreadySaved, Database.messageExists]
      apply Database.ensures_query
      · exact .inl (.refl _)
      · rw [ensures_ite, ensures_bind]
        constructor
        · intro unsaved
          exact handlesFrame_new parsed (by simpa using unsaved) rfl (.refl _)
            keepsChat_printMessage
        · intro saved
          exact ⟨.inl (.refl _), frameSaved_of_contains parsed (by simpa using saved)⟩

/-- The same during a flush. -/
theorem handlesFrame_duringFlush {frame : ChatFrame P}
    (parsed : wire.chatFrame.deserialize bytes = some frame) :
    HandlesFrame wire chat bytes (handleIncomingDuringFlush wire bytes frame) := by
  cases frame with
  | ack acknowledged => exact ⟨.inl (.refl _), frameSaved_of_ack parsed _⟩
  | message messageId senderDisplayName message =>
      have sends : KeepsChat (fun after =>
          FrameStored wire chat bytes after ∧ FrameSaved wire bytes after)
          (sendChatFrame wire (.ack messageId)) := keepsChat_sendChatFrame _
      simp only [HandlesFrame, handleIncomingDuringFlush, ensures_bind, onStorage, onDatabase,
        ensures_focus, ensures_mapError, chatMessageAlreadySaved, Database.messageExists]
      apply Database.ensures_query
      · exact .inl (.refl _)
      rw [ensures_ite]
      constructor
      · intro saved
        exact (sends { chat with database := chat.database.advance chat.database.storage }
          ⟨.inl (.refl _), frameSaved_of_contains parsed (by simpa using saved)⟩).mono
            (fun _ _ => id) fun _ _ => And.left
      · intro unsaved
        rw [ensures_bind, receiveDuringFlush]
        refine (handlesFrame_new parsed (by simpa using unsaved) rfl (.refl _) fun reads =>
          .bind .get fun _ => keepsChat_onStorage (reads.markMessageNew _ _)).mono ?_
            fun _ _ => id
        exact fun _ received holds => (sends received holds).mono (fun _ _ => id)
          fun _ _ => And.left

theorem handlesFrame_chatLoop : HandlesFrame wire chat bytes (chatLoopFrame wire bytes) := by
  rw [HandlesFrame, chatLoopFrame, ensures_bind]
  refine handlesFrame_handleRequest.mono ?_ fun _ _ => id
  intro acknowledged after holds
  cases acknowledged with
  | none => exact holds
  | some messageId =>
      have sends : KeepsChat (fun after =>
          FrameStored wire chat bytes after ∧ FrameSaved wire bytes after)
          (sendChatFrame wire (.ack messageId)) := keepsChat_sendChatFrame _
      exact (sends after holds).mono (fun _ _ => id) fun _ _ => And.left

end

end PairingChat

/-! ## Events of a process -/

namespace ChatProcess

open PairingChat

/-- The line is sent at once. -/
def SendsNow (process : ChatProcess P) (line : String) (outcome : SendOutcome) : Prop :=
  isChatBackCommand line = false ∧ process.chat.online = true ∧ line ≠ "" ∧
    (process.transport = .quic → outcome = .sent)

/-- The line is queued because the peer is offline. -/
def QueuesLine (process : ChatProcess P) (line : String) (outcome : SendOutcome) : Prop :=
  isChatBackCommand line = false ∧
    match process.transport with
    | .pairing => process.chat.online = false ∧ line ≠ ""
    | .quic => process.chat.online = true → line ≠ "" ∧ outcome = .peerDisconnected

/-- The pending message that the event acknowledges. -/
def confirmed (wire : Wire P) (process : ChatProcess P) : ChatEvent → Option String
  | .ack messageId => some messageId
  | .frame bytes =>
      match process.transport, process.waiting with
      | .quic, item :: _ =>
          if wire.chatFrame.deserialize bytes = some (.ack item.messageId) then
            some item.messageId
          else none
      | _, _ => none
  | _ => none

/-- The rows that an event may write or remove keep the property. -/
structure Admits (wire : Wire P) (property : Storage → Prop) (process : ChatProcess P)
    (event : ChatEvent) (moment : Moment) : Prop where
  sends : ∀ line random outcome, event = .line line random outcome →
    process.SendsNow line outcome → ∀ messageId,
      frameId wire process.chat line none = some messageId →
        (∀ storage row, property storage → row.IsSent messageId line →
          property (storage.withMessage row)) ∧
        ∀ storage pending, property storage → pending.messageId = messageId →
          pending.plaintext = line → property (storage.withPending pending)
  queues : ∀ line random outcome, event = .line line random outcome →
    process.QueuesLine line outcome → ∀ after,
      LineQueued P process.chat.database.storage moment.now process.chat.context.conversationId
        line random after → property after
  stores : ∀ bytes, event = .frame bytes → ∀ after,
    FrameStored wire process.chat bytes after → property after
  confirms : ∀ messageId, process.confirmed wire event = some messageId →
    KeepsTables property (markDeliveredIfPending messageId)

variable {property : Storage → Prop} {process : ChatProcess P} {event : ChatEvent}
variable {moment : Moment}

/-- A frame that acknowledges no pending message is only stored. -/
theorem handlesFrame {bytes : Bytes} (unconfirmed : process.confirmed wire (.frame bytes) = none) :
    HandlesFrame wire (process.chat.begun moment) bytes (process.handle wire (.frame bytes)) := by
  obtain ⟨transport, chat, opening, waiting, running⟩ := process
  cases transport with
  | pairing =>
      simp only [HandlesFrame, handle, ensures_bind, ensures_pure]
      exact handlesFrame_handleRequest
  | quic =>
      cases waiting with
      | nil =>
          simp only [HandlesFrame, handle, ensures_bind, ensures_pure]
          exact handlesFrame_chatLoop
      | cons item items =>
          simp only [HandlesFrame, handle, flushFrame, ensures_bind, ensures_pure, ensures_okOr]
          refine ⟨fun frame parsed => ?_, fun _ => .inl (.refl _)⟩
          simp only [confirmed, ite_eq_right_iff, reduceCtorEq, imp_false] at unconfirmed
          have other : frame ≠ .ack item.messageId := by
            rintro rfl
            exact unconfirmed parsed
          rw [if_neg other]
          simp only [ensures_bind, ensures_pure]
          exact handlesFrame_duringFlush parsed

theorem handle_line_keeps (kept : KeptByRetries property)
    (holds : property process.chat.database.storage) {line : String} {random : Bytes}
    {outcome : SendOutcome}
    (admits : process.Admits wire property (.line line random outcome) moment) :
    (process.handle wire (.line line random outcome)).Ensures (process.chat.begun moment)
      (fun _ after => property after.database.storage)
      (fun _ after => property after.database.storage) := by
  have begun : property (process.chat.begun moment).database.storage := holds
  cases transport : process.transport <;>
    simp only [handle, transport, ensures_bind, ensures_pure]
  · refine submit_effect kept.reads begun (fun typed online nonempty => ?_)
      fun typed offline nonempty => ?_
    · exact admits.sends _ _ _ rfl ⟨typed, online, nonempty, fun quic => by
        rw [transport] at quic; cases quic⟩
    · apply admits.queues _ _ _ rfl
      rw [QueuesLine, transport]
      exact ⟨typed, offline, nonempty⟩
  · refine chatLoopLine_effect kept.reads begun (fun typed online nonempty sent messageId
      named => ?_) fun typed offline => ?_
    · exact (admits.sends _ _ _ rfl ⟨typed, online, nonempty, fun _ => sent⟩ messageId named).1
    · apply admits.queues _ _ _ rfl
      rw [QueuesLine, transport]
      exact ⟨typed, offline⟩

theorem handle_frame_keeps (kept : KeptByRetries property)
    (holds : property process.chat.database.storage) {bytes : Bytes}
    (admits : process.Admits wire property (.frame bytes) moment) :
    (process.handle wire (.frame bytes)).Ensures (process.chat.begun moment)
      (fun _ after => property after.database.storage)
      (fun _ after => property after.database.storage) := by
  have begun : property (process.chat.begun moment).database.storage := holds
  cases confirms : process.confirmed wire (.frame bytes) with
  | none =>
      exact (handlesFrame confirms).mono (fun _ _ stored => admits.stores bytes rfl _ stored.1)
        fun _ _ => admits.stores bytes rfl _
  | some messageId =>
      have removes := admits.confirms messageId confirms
      obtain ⟨transport, chat, opening, waiting, running⟩ := process
      cases transport with
      | pairing => cases confirms
      | quic =>
          cases waiting with
          | nil => cases confirms
          | cons item items =>
              simp only [confirmed, Option.ite_none_right_eq_some,
                Option.some.injEq] at confirms
              obtain ⟨parsed, rfl⟩ := confirms
              simp only [handle, flushFrame, parsed, ensures_bind, ensures_okOr_some, if_true]
              refine (keepsChat_onStorage removes _ begun).mono ?_ fun _ _ => id
              exact fun _ removed removedHolds =>
                (keepsChat_attempt kept items removed removedHolds).mono (fun _ _ => id)
                  fun _ _ => id

/-- What the event admits is all that happens to the tables. -/
theorem handle_keeps (kept : KeptByRetries property)
    (holds : property process.chat.database.storage)
    (admits : process.Admits wire property event moment) :
    (process.handle wire event).Ensures (process.chat.begun moment)
      (fun _ after => property after.database.storage)
      (fun _ after => property after.database.storage) := by
  have begun : property (process.chat.begun moment).database.storage := holds
  have finishes : ∀ {Result : Type} {method : ChatResult P Result}
      {result : Result → Bool × List PendingPeerMessage}, KeepsChat property method →
      (method >>= fun value => pure (result value)).Ensures (process.chat.begun moment)
        (fun _ after => property after.database.storage)
        (fun _ after => property after.database.storage) := fun keeps =>
    Keeps.bind keeps (fun _ => .pure _) (process.chat.begun moment) begun
  cases event with
  | opens =>
      cases transport : process.transport <;> simp only [handle, transport]
      · exact finishes (keepsChat_sendPending kept)
      · exact finishes (keepsChat_startFlush kept)
  | line => exact handle_line_keeps kept holds admits
  | frame => exact handle_frame_keeps kept holds admits
  | ack messageId => exact finishes (keepsChat_onStorage (admits.confirms messageId rfl))
  | connected => exact finishes (keepsChat_connected kept)
  | disconnected => exact holds
  | timeout => exact holds
  | stop => exact holds

/-- A property that sent rows and pending rows cannot break. -/
structure KeptByLines (property : Storage → Prop) : Prop where
  reads : ReadsConversations property
  attempt : ∀ {storage condition change}
    (keepsKey : ∀ row : PendingPeerMessage, (change row).messageId = row.messageId),
    (∀ row, (change row).plaintext = row.plaintext) → property storage → property
      { storage with
        pendingPeerMessages := storage.pendingPeerMessages.update condition change keepsKey }
  sent : ∀ {storage row messageId text}, row.IsSent messageId text → property storage →
    property (storage.withMessage row)
  queued : ∀ {storage} (pending : PendingPeerMessage), property storage →
    property (storage.withPending pending)

namespace KeptByLines

theorem retries (kept : KeptByLines property) : KeptByRetries property where
  reads := kept.reads
  attempt := kept.attempt
  resent _ := kept.sent

theorem lineQueued (kept : KeptByLines property) {storage after : Storage} {now : UInt64}
    {conversationId line : String} {random : Bytes} (holds : property storage)
    (queued : LineQueued P storage now conversationId line random after) : property after := by
  rcases queued with same | ⟨_, pending, _, _, _, same | ⟨row, sent, same⟩⟩
  · exact kept.reads same holds
  · exact kept.reads same (kept.queued pending holds)
  · exact kept.reads same (kept.sent sent (kept.queued pending holds))

/-- Only received rows and acknowledgements can break the property. -/
theorem admits (kept : KeptByLines property) (holds : property process.chat.database.storage)
    (stores : ∀ bytes, event = .frame bytes → ∀ after,
      FrameStored wire process.chat bytes after → property after)
    (confirms : ∀ messageId, process.confirmed wire event = some messageId →
      KeepsTables property (markDeliveredIfPending messageId)) :
    process.Admits wire property event moment where
  sends _ _ _ _ _ _ _ := ⟨fun _ _ before sent => kept.sent sent before,
    fun _ pending before _ _ => kept.queued pending before⟩
  queues _ _ _ _ _ _ queued := kept.lineQueued holds queued
  stores := stores
  confirms := confirms

end KeptByLines

/-- One event of a process keeps the property that admits it. -/
theorem next_keeps (kept : KeptByRetries property)
    (holds : property process.chat.database.storage)
    (admits : process.Admits wire property event moment) :
    property (process.next wire event moment).chat.database.storage :=
  next_reached (handle_keeps kept holds admits)

end ChatProcess

end CipherMesh
