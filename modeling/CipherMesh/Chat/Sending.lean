import CipherMesh.Chat.Loop

/-!
# Sessions and sent frames

What the calls of a chat do to the session of its role and to the frames that it sends.
A property of the two that survives encrypting a text and sending what came out is kept
by every call that sends; handling a frame also needs that it survives decrypting the
message of the frame.
-/

namespace CipherMesh

open Foundation
open Foundation.Mutation

variable {P : Primitives} {wire : Wire P}

/-- A property of the role and the sent frames that encrypting keeps, whether the frame of
the message is sent or not. -/
structure KeptBySending (wire : Wire P) (property : PairingChatRole P → List Bytes → Prop) :
    Prop where
  encrypt : ∀ {role requests} (text : String), property role requests →
    (PairingChatRole.encrypt text).Ensures role
      (fun message after => property after requests ∧ ∀ messageId senderDisplayName bytes,
        wire.chatFrame.serialize (.message messageId senderDisplayName message) = some bytes →
          property after (requests ++ [bytes]))
      (fun _ after => property after requests)

/-- Sending an acknowledgement keeps the property. -/
def KeptByAcks (wire : Wire P) (property : PairingChatRole P → List Bytes → Prop) : Prop :=
  ∀ ⦃role requests messageId bytes⦄, property role requests →
    wire.chatFrame.serialize (.ack messageId) = some bytes → property role (requests ++ [bytes])

/-- Decrypting the message of a frame keeps the property. -/
def KeptByDecrypting (wire : Wire P) (bytes : Bytes)
    (property : PairingChatRole P → List Bytes → Prop) : Prop :=
  ∀ ⦃messageId senderDisplayName message role requests⦄,
    wire.chatFrame.deserialize bytes = some (.message messageId senderDisplayName message) →
      property role requests →
        (PairingChatRole.decrypt message).Ensures role (fun _ after => property after requests)
          (fun _ after => property after requests)

namespace PairingChat

variable {property : PairingChatRole P → List Bytes → Prop} {chat : PairingChat P}

/-- A call keeps the property of the role and the frames. -/
abbrev KeepsSession (property : PairingChatRole P → List Bytes → Prop) {Result : Type}
    (method : ChatResult P Result) : Prop :=
  Keeps (fun chat => property chat.role chat.requests) method

/-- The methods of the database touch neither. -/
theorem keepsSession_onDatabase {Result : Type} (property : PairingChatRole P → List Bytes → Prop)
    {method : Mutation Database AppError Result} : KeepsSession property (onDatabase method) :=
  .focus (fun _ _ => True) (fun _ _ => trivial) (fun _ _ holds _ => holds)
    fun _ _ _ _ => .trivial

theorem keepsSession_onStorage {Result : Type} {method : StorageResult Result} :
    KeepsSession property (onStorage method) :=
  keepsSession_onDatabase property

theorem keepsSession_saveIdentity : KeepsSession property (saveIdentity wire) :=
  .bind .get fun _ => keepsSession_onDatabase property

theorem keepsSession_disconnected : KeepsSession property (disconnected (P := P)) :=
  .modify fun _ => id

/-! ## Sending -/

/-- The property holds, and also with the frame of the message sent. -/
abbrev ReadyToSend (wire : Wire P) (property : PairingChatRole P → List Bytes → Prop)
    (message : RatchetMessage P) (role : PairingChatRole P) (requests : List Bytes) : Prop :=
  property role requests ∧ ∀ messageId senderDisplayName bytes,
    wire.chatFrame.serialize (.message messageId senderDisplayName message) = some bytes →
      property role (requests ++ [bytes])

/-- Encrypting and saving the identity. -/
theorem encrypt_saveIdentity_session (kept : KeptBySending wire property)
    (holds : property chat.role chat.requests) (text : String) :
    (onRole (PairingChatRole.encrypt text)).Ensures chat
      (fun message encrypted => (saveIdentity wire).Ensures encrypted
        (fun _ saved => ReadyToSend wire property message saved.role saved.requests)
        (fun _ saved => property saved.role saved.requests))
      (fun _ after => property after.role after.requests) := by
  rw [onRole, ensures_mapError, ensures_focus]
  refine (kept.encrypt text holds).mono (fun message role ready => ?_) fun _ _ => id
  have saves : KeepsSession (ReadyToSend wire property message) (saveIdentity wire) :=
    keepsSession_saveIdentity
  exact (saves { chat with role } ready).mono (fun _ _ => id) fun _ _ => And.left

theorem prepareFrame_session (kept : KeptBySending wire property)
    (holds : property chat.role chat.requests) {remoteDisplayName text : String}
    {existing : Option String} :
    (prepareFrame wire remoteDisplayName text existing).Ensures chat
      (fun prepared after => property after.role after.requests ∧
        property after.role (after.requests ++ [prepared.2]))
      (fun _ after => property after.role after.requests) := by
  rw [prepareFrame, ensures_bind]
  refine (encrypt_saveIdentity_session kept holds text).mono ?_ fun _ _ => id
  intro message encrypted saves
  rw [ensures_bind]
  refine saves.mono ?_ fun _ _ => id
  intro _ saved ready
  simp only [prepareOutgoingFrame, ensures_bind, ensures_get, ensures_okOr, ensures_pure]
  refine ⟨fun messageBytes _ => ⟨fun bytes framed => ?_, fun _ => ready.1⟩, fun _ => ready.1⟩
  have persists : ∀ {entry : ChatHistoryEntry}, KeepsSession (fun role requests =>
      property role requests ∧ property role (requests ++ [bytes]))
      (onStorage (persistChatMessage P entry)) := keepsSession_onStorage
  exact (persists saved ⟨ready.1, ready.2 _ _ _ framed⟩).mono (fun _ _ => id) fun _ _ => And.left

theorem keepsSession_resend (kept : KeptBySending wire property)
    (items : List PendingPeerMessage) : KeepsSession property (resend wire items) := by
  induction items with
  | nil => exact .pure ()
  | cons item items itemsIH =>
      refine .bind keepsSession_onStorage fun _ => ?_
      intro chat holds
      rw [ensures_bind]
      refine (prepareFrame_session kept holds).mono ?_ fun _ _ => id
      exact fun prepared reached ready => itemsIH
        { reached with requests := reached.requests ++ [prepared.2] } ready.2

theorem keepsSession_sendPending (kept : KeptBySending wire property) :
    KeepsSession property (sendPending wire) :=
  .bind .get fun _ => .bind keepsSession_onStorage (keepsSession_resend kept)

theorem keepsSession_connected (kept : KeptBySending wire property) :
    KeepsSession property (connected wire) := by
  refine .bind .get fun chat => ?_
  split
  · exact .bind (.modify fun _ => id) fun _ => keepsSession_sendPending kept
  · exact .pure ()

theorem keepsSession_submit (kept : KeptBySending wire property) (line : String)
    (random : Bytes) : KeepsSession property (submit wire line random) := by
  refine .bind .get fun before => ?_
  split
  · exact .pure false
  · split
    · exact .pure true
    · split
      · exact .bind keepsSession_onStorage fun _ => .pure true
      · intro chat holds
        rw [ensures_bind]
        refine (prepareFrame_session kept holds).mono ?_ fun _ _ => id
        intro prepared reached ready
        have tracks : ∀ {method : StorageResult Unit}, KeepsSession (fun role requests =>
            property role requests ∧ property role (requests ++ [prepared.2]))
            (onStorage method) := keepsSession_onStorage
        rw [ensures_bind]
        exact (tracks reached ready).mono (fun _ _ => And.right) fun _ _ => And.left

theorem keepsSession_sendChatLineWithId (kept : KeptBySending wire property) (line : String)
    (existing : Option String) (outcome : SendOutcome) :
    KeepsSession property (sendChatLineWithId wire line existing outcome) := by
  intro chat holds
  rw [sendChatLineWithId, ensures_bind]
  refine (encrypt_saveIdentity_session kept holds line).mono ?_ fun _ _ => id
  intro message encrypted saves
  rw [ensures_bind]
  refine saves.mono ?_ fun _ _ => id
  intro _ saved ready
  simp only [ensures_bind, ensures_get, ensures_okOr, writeFrame, sendRequest, ensures_modify]
  refine ⟨fun messageBytes _ => ⟨fun bytes framed => ?_, fun _ => ready.1⟩, fun _ => ready.1⟩
  have sent := ready.2 _ _ _ framed
  cases outcome with
  | sent =>
      have persists : ∀ {entry : ChatHistoryEntry}, KeepsSession property
          (onStorage (persistChatMessage P entry) >>= fun _ => pure true) :=
        .bind keepsSession_onStorage fun _ => .pure true
      exact persists { saved with requests := saved.requests ++ [bytes] } sent
  | peerDisconnected => exact sent
  | failed => exact sent

theorem keepsSession_chatLoopLine (kept : KeptBySending wire property) (line : String)
    (random : Bytes) (outcome : SendOutcome) :
    KeepsSession property (chatLoopLine wire line random outcome) := by
  have queues : ∀ {conversationId : String}, KeepsSession property
      (onStorage (queueMessageAfterPeerDisconnect P conversationId line random) >>= fun _ =>
        pure true) := .bind keepsSession_onStorage fun _ => .pure true
  refine .bind .get fun chat => ?_
  split
  · exact .pure false
  · split
    · refine .bind ?_ fun connected => ?_
      · rw [sendChatLine]
        split
        · exact .pure true
        · exact keepsSession_sendChatLineWithId kept line none outcome
      · split
        · exact .pure true
        · exact .bind keepsSession_disconnected fun _ => queues
    · exact queues

theorem keepsSession_attempt (kept : KeptBySending wire property) :
    (items : List PendingPeerMessage) → KeepsSession property (attempt wire items)
  | [] => .pure []
  | item :: _ => by
      refine .bind (.bind keepsSession_onStorage fun _ => ?_) fun _ => .pure _
      intro chat holds
      rw [ensures_bind]
      refine (encrypt_saveIdentity_session kept holds item.plaintext).mono ?_ fun _ _ => id
      intro message encrypted saves
      rw [ensures_bind]
      refine saves.mono ?_ fun _ _ => id
      intro _ saved ready
      simp only [sendChatFrame, sendRequest, ensures_bind, ensures_get, ensures_okOr,
        ensures_modify]
      exact ⟨fun bytes framed => ready.2 _ _ _ framed, fun _ => ready.1⟩

theorem keepsSession_startFlush (kept : KeptBySending wire property) :
    KeepsSession property (startFlush wire) :=
  .bind .get fun _ => .bind keepsSession_onStorage fun _ => .bind keepsSession_onStorage
    (keepsSession_attempt kept)

/-! ## Receiving -/

variable {bytes : Bytes}

/-- Decrypting and recording a message, and one more step. -/
theorem keepsSession_receive (decrypts : KeptByDecrypting wire bytes property)
    {messageId senderDisplayName : String} {message : RatchetMessage P}
    (parsed : wire.chatFrame.deserialize bytes =
      some (.message messageId senderDisplayName message))
    {Result : Type} {last : ChatResult P Result} (keeps : KeepsSession property last) :
    KeepsSession property (onRole (PairingChatRole.decrypt message) >>= fun plaintext =>
      recordReceived wire bytes messageId senderDisplayName message plaintext >>= fun _ =>
        last) := by
  refine .bind (fun chat holds => ?_) fun plaintext => .bind ?_ fun _ => keeps
  · rw [onRole, ensures_mapError, ensures_focus]
    exact decrypts parsed holds
  · exact .bind keepsSession_saveIdentity fun _ => .bind .get fun _ =>
      .bind keepsSession_onStorage fun _ => keepsSession_onStorage

theorem keepsSession_handleRequest (decrypts : KeptByDecrypting wire bytes property) :
    KeepsSession property (handleRequest wire bytes) := by
  intro chat holds
  rw [handleRequest, ensures_bind, ensures_okOr]
  refine ⟨fun frame parsed => ?_, fun _ => holds⟩
  cases frame with
  | ack messageId => exact holds
  | message messageId senderDisplayName message =>
      have prints : KeepsSession property (printMessage (P := P)) := keepsSession_onStorage
      have queries : KeepsSession property (onStorage (chatMessageAlreadySaved messageId)) :=
        keepsSession_onStorage
      rw [ensures_bind]
      refine (queries chat holds).mono (fun saved queried queriedHolds => ?_) fun _ _ => id
      rw [ensures_ite, ensures_bind]
      have receives : KeepsSession property
          (receiveMessage wire bytes messageId senderDisplayName message) :=
        keepsSession_receive decrypts parsed prints
      exact ⟨fun _ => receives queried queriedHolds, fun _ => queriedHolds⟩

theorem keepsSession_sendAck (acks : KeptByAcks wire property) (messageId : String) :
    KeepsSession property (sendChatFrame wire (.ack messageId)) := by
  intro chat holds
  simp only [sendChatFrame, sendRequest, ensures_bind, ensures_okOr, ensures_modify]
  exact ⟨fun bytes framed => acks holds framed, fun _ => holds⟩

theorem keepsSession_chatLoopFrame (acks : KeptByAcks wire property)
    (decrypts : KeptByDecrypting wire bytes property) :
    KeepsSession property (chatLoopFrame wire bytes) := by
  refine .bind (keepsSession_handleRequest decrypts) fun acknowledged => ?_
  cases acknowledged with
  | none => exact .pure ()
  | some messageId => exact keepsSession_sendAck acks messageId

theorem keepsSession_duringFlush (acks : KeptByAcks wire property)
    (decrypts : KeptByDecrypting wire bytes property) {frame : ChatFrame P}
    (parsed : wire.chatFrame.deserialize bytes = some frame) :
    KeepsSession property (handleIncomingDuringFlush wire bytes frame) := by
  cases frame with
  | ack messageId => exact .pure ()
  | message messageId senderDisplayName message =>
      refine .bind keepsSession_onStorage fun saved => ?_
      split
      · exact keepsSession_sendAck acks messageId
      · have marks : KeepsSession property (get >>= fun current : PairingChat P =>
            onStorage (Database.markMessageNew current.context.conversationId messageId)) :=
          .bind .get fun _ => keepsSession_onStorage
        have receives : KeepsSession property _ := keepsSession_receive decrypts parsed marks
        exact .bind receives fun _ => keepsSession_sendAck acks messageId

theorem keepsSession_flushFrame (kept : KeptBySending wire property)
    (acks : KeptByAcks wire property) (decrypts : KeptByDecrypting wire bytes property)
    (item : PendingPeerMessage) (items : List PendingPeerMessage) :
    KeepsSession property (flushFrame wire item items bytes) := by
  intro chat holds
  rw [flushFrame, ensures_bind, ensures_okOr]
  refine ⟨fun frame parsed => ?_, fun _ => holds⟩
  have removes : KeepsSession property (onStorage (markDeliveredIfPending item.messageId) >>=
      fun _ => attempt wire items) :=
    .bind keepsSession_onStorage fun _ => keepsSession_attempt kept items
  have handles : KeepsSession property (handleIncomingDuringFlush wire bytes frame) :=
    keepsSession_duringFlush acks decrypts parsed
  have receives : KeepsSession property (handleIncomingDuringFlush wire bytes frame >>=
      fun _ => pure (item :: items)) := .bind handles fun _ => .pure _
  split
  · exact removes chat holds
  · exact receives chat holds

end PairingChat

namespace ChatProcess

open PairingChat

/-- Every event of a process keeps the property. -/
theorem handle_keepsSession {property : PairingChatRole P → List Bytes → Prop}
    (kept : KeptBySending wire property) (acks : KeptByAcks wire property)
    (process : ChatProcess P) {event : ChatEvent}
    (decrypts : ∀ bytes, event = .frame bytes → KeptByDecrypting wire bytes property) :
    KeepsSession property (process.handle wire event) := by
  cases event with
  | opens =>
      cases transport : process.transport <;> simp only [handle, transport]
      · exact .bind (keepsSession_sendPending kept) fun _ => .pure _
      · exact .bind (keepsSession_startFlush kept) fun _ => .pure _
  | line line random outcome =>
      cases transport : process.transport <;> simp only [handle, transport]
      · exact .bind (keepsSession_submit kept line random) fun _ => .pure _
      · exact .bind (keepsSession_chatLoopLine kept line random outcome) fun _ => .pure _
  | frame bytes =>
      have decrypts := decrypts bytes rfl
      simp only [handle]
      split
      · exact .bind (keepsSession_handleRequest decrypts) fun _ => .pure _
      · exact .bind (keepsSession_chatLoopFrame acks decrypts) fun _ => .pure _
      · next item items _ _ =>
          exact .bind (keepsSession_flushFrame kept acks decrypts item items) fun _ => .pure _
  | ack messageId => exact .bind keepsSession_onStorage fun _ => .pure _
  | connected => exact .bind (keepsSession_connected kept) fun _ => .pure _
  | disconnected => exact .bind keepsSession_disconnected fun _ => .pure _
  | timeout => exact .pure _
  | stop => exact .pure _

/-- The property of the role and the sent frames after an event. -/
theorem next_keepsSession {property : PairingChatRole P → List Bytes → Prop}
    (kept : KeptBySending wire property) (acks : KeptByAcks wire property)
    {process : ChatProcess P} (holds : property process.chat.role []) {event : ChatEvent}
    (decrypts : ∀ bytes, event = .frame bytes → KeptByDecrypting wire bytes property)
    (moment : Moment) :
    property (process.next wire event moment).chat.role
      (process.next wire event moment).chat.requests :=
  next_reached (handle_keepsSession kept acks process decrypts (process.chat.begun moment) holds)

end ChatProcess

end CipherMesh
