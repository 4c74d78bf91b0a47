import CipherMesh.Chat.Delivery
import CipherMesh.Chat.EventEffects
import CipherMesh.Chat.Queues
import CipherMesh.Chat.Sending

/-!
# Claimed identities

The initial message of a chat names the identity key of its sender, and nothing in it
proves that the sender holds the key.  Bob opens the conversation that the message selects
and sends what waits in its queue.  So a message that claims the identity `K` receives what
is queued for `K`; one that selects another conversation does not, unless a message of the
conversation of `K` waits in the queue of the other one.
-/

namespace CipherMesh

open Foundation
open Foundation.Mutation

variable {P : Primitives} {wire : Wire P}

/-- Contacts are filed under their keys, and the `held` messages wait in other queues than
that of the conversation. -/
structure WaitsElsewhere (P : Primitives) (held : String → Prop) (conversationId : String)
    (storage : Storage) : Prop where
  filed : Filed P (fun _ => False) storage
  rows : ∀ row ∈ storage.pendingPeerMessages, held row.messageId → row.peerId ≠ conversationId

/-! ## Accepting -/

namespace ChatListener

section

variable {property : Table PendingPeerMessage.messageId → Prop}

/-- A call keeps a property of the waiting messages. -/
abbrev KeepsWaiting (property : Table PendingPeerMessage.messageId → Prop) {Result : Type}
    (method : ListenerResult P Result) : Prop :=
  Keeps (fun listener => Waiting property listener.database.storage) method

theorem keepsWaiting_onDatabase {Result : Type} {method : Mutation Database AppError Result}
    (keeps : Keeps (fun database : Database => Waiting property database.storage) method) :
    KeepsWaiting property (onDatabase (P := P) method) :=
  .focus (fun _ database => Waiting property database.storage) (fun _ => id) (fun _ _ _ => id)
    fun _ _ => keeps

theorem keepsWaiting_saveIdentity : KeepsWaiting property (saveIdentity wire) :=
  .bind .get fun _ => keepsWaiting_onDatabase (.bind (.okOr _ _) fun _ => .mapError
    (.bind Database.keeps_nowUnixSecs fun _ => keepsPending_frame fun _ => rfl))

theorem keepsWaiting_acceptInitialMessage
    (moves : ∀ oldContactId newContactId rows, property rows →
      property (moveRows oldContactId newContactId rows)) (discoveryHint : String)
    (payload : Bytes) :
    KeepsWaiting property (acceptInitialMessage wire discoveryHint payload) := by
  refine .bind (.okOr _ _) fun initial => ?_
  refine .bind (.mapError (.focus (fun _ _ => True) (fun _ _ => trivial) (fun _ _ holds _ => holds)
    fun _ _ _ _ => .trivial)) fun plaintext => ?_
  refine .bind keepsWaiting_saveIdentity fun _ => ?_
  refine .bind (keepsWaiting_onDatabase (.mapError
    (keepsPending_saveContactForChat fun _ => moves _ _))) fun _ => ?_
  refine .bind (.bind .get fun _ => ?_) fun _ => .pure _
  split
  · exact .pure ()
  · exact keepsWaiting_onDatabase (.mapError
      (.bind Database.keeps_nowUnixSecs fun _ => keepsPending_frame fun _ => rfl))

end

/-- The messages that wait elsewhere than in the conversation that the payload selects. -/
def SelectsOther (wire : Wire P) (payload : Bytes) (held : String → Prop)
    (rows : Table PendingPeerMessage.messageId) : Prop :=
  ∀ initial ∈ decodeChatInitialMessage wire payload, ∀ row ∈ rows,
    held row.messageId → row.peerId ≠ initial.conversationId

theorem SelectsOther.moveRows {payload : Bytes} {held : String → Prop}
    {rows : Table PendingPeerMessage.messageId} (selects : SelectsOther wire payload held rows)
    (oldContactId newContactId : String) :
    SelectsOther wire payload held (moveRows oldContactId newContactId rows) := by
  intro initial decoded row member
  obtain ⟨old, oldMember, rfl⟩ := Table.mem_update.mp member
  have before := selects initial decoded old oldMember
  split
  · exact before
  · exact before

/-- What accepting an initial message does to the filing and the queues. -/
def Accepts (wire : Wire P) (payload : Bytes)
    (accept : ListenerResult P (ChatInitialMessage P)) : Prop :=
  ∀ (held : String → Prop) (listener : ChatListener P),
    Filed P (fun _ => False) listener.database.storage →
    Waiting (SelectsOther wire payload held) listener.database.storage →
      accept.Ensures listener
        (fun initial after => decodeChatInitialMessage wire payload = some initial ∧
          WaitsElsewhere P held initial.conversationId after.database.storage)
        (fun _ after => Filed P (fun _ => False) after.database.storage)

theorem acceptInitialMessage_accepts (discoveryHint : String) (payload : Bytes) :
    Accepts wire payload (acceptInitialMessage wire discoveryHint payload) := by
  intro held listener filed selects
  have files : (acceptInitialMessage wire discoveryHint payload).Ensures listener
      (fun initial after => decodeChatInitialMessage wire payload = some initial ∧
        FiledListener (fun _ => False) after)
      (fun _ => FiledListener fun _ => False) :=
    keepsFiled_acceptInitialMessage (fun _ never => never.elim) listener filed
  have waits : KeepsWaiting (SelectsOther wire payload held)
      (acceptInitialMessage wire discoveryHint payload) :=
    keepsWaiting_acceptInitialMessage (fun old new _ kept => kept.moveRows old new) _ _
  refine (files.and (waits listener selects)).mono ?_ fun _ _ => And.left
  rintro initial after ⟨⟨decoded, afterFiled⟩, afterSelects⟩
  exact ⟨decoded, afterFiled, afterSelects initial decoded⟩

/-- What comes before may touch other tables. -/
theorem Accepts.after {payload : Bytes} {accept : ListenerResult P (ChatInitialMessage P)}
    (accepts : Accepts wire payload accept) {Result : Type} {before : ListenerResult P Result}
    (files : Keeps (FiledListener (P := P) fun _ => False) before)
    (waits : ∀ property, KeepsWaiting property before) :
    Accepts wire payload (before >>= fun _ => accept) := by
  intro held listener filed selects
  rw [ensures_bind]
  refine ((files listener filed).and (waits _ listener selects)).mono ?_ fun _ _ => And.left
  exact fun _ reached kept => accepts held reached kept.1 kept.2

/-- Making a prekey touches no table. -/
theorem Accepts.afterOffer {payload : Bytes} {accept : ListenerResult P (ChatInitialMessage P)}
    (accepts : Accepts wire payload accept) (generated : P.PrivateKey) :
    Accepts wire payload (offerPrekeyBundle generated >>= fun _ => accept) := by
  have keeps : ∀ property : Database → Prop,
      Keeps (fun listener : ChatListener P => property listener.database)
        (offerPrekeyBundle generated) := fun _ =>
    .bind (.modify fun _ => id) fun _ => .bind .get fun _ => .mapError (.lift _)
  exact accepts.after (keeps fun database => Filed P _ database.storage) fun property =>
    keeps fun database => Waiting property database.storage

theorem completeBobChatHandshake_accepts (generated : P.PrivateKey) (payload : Bytes) :
    Accepts wire payload (completeBobChatHandshake wire generated payload) :=
  (acceptInitialMessage_accepts _ payload).afterOffer generated

theorem waitWithEndpoint_accepts (generated : P.PrivateKey) (payload : Bytes) :
    Accepts wire payload (waitWithEndpoint wire generated payload) :=
  ((acceptInitialMessage_accepts _ payload).after keepsFiled_saveIdentity
    fun _ => keepsWaiting_saveIdentity).afterOffer generated

end ChatListener

/-! ## What an open conversation sends -/

/-- The messages among the frames have ids that are allowed. -/
def SendsOnly (wire : Wire P) (allowed : String → Prop) (requests : List Bytes) : Prop :=
  ∀ bytes ∈ requests, ∀ messageId message, IsFrame wire bytes messageId message →
    allowed messageId

theorem SendsOnly.append {allowed : String → Prop} {requests : List Bytes}
    (sends : SendsOnly wire allowed requests) {bytes : Bytes}
    (permitted : ∀ messageId message, IsFrame wire bytes messageId message → allowed messageId) :
    SendsOnly wire allowed (requests ++ [bytes]) := by
  intro other member messageId message frame
  rcases List.mem_append.mp member with old | new
  · exact sends other old messageId message frame
  · rw [List.mem_singleton.mp new] at frame
    exact permitted messageId message frame

namespace PairingChat

variable {allowed : String → Prop} {chat : PairingChat P}

/-- A call sends allowed messages only. -/
abbrev KeepsAllowed (wire : Wire P) (allowed : String → Prop) {Result : Type}
    (method : ChatResult P Result) : Prop :=
  KeepsSession (fun _ => SendsOnly wire allowed) method

theorem keepsAllowed_onRole {Result : Type}
    (method : Mutation (PairingChatRole P) CryptoError Result) :
    KeepsAllowed wire allowed (onRole method) :=
  .mapError (.focus (fun _ _ => True) (fun _ _ => trivial) (fun _ _ holds _ => holds)
    fun _ _ _ _ => .trivial)

theorem keepsAllowed_onStorage {Result : Type} {method : StorageResult Result} :
    KeepsAllowed wire allowed (onStorage method) :=
  keepsSession_onStorage

theorem keepsAllowed_saveIdentity : KeepsAllowed wire allowed (saveIdentity wire) :=
  keepsSession_saveIdentity

theorem keptByDecrypting_allowed (bytes : Bytes) :
    KeptByDecrypting wire bytes fun _ => SendsOnly wire allowed :=
  fun _ _ _ _ _ _ sends => Ensures.trivial.mono (fun _ _ _ => sends) fun _ _ _ => sends

variable (roundTrip : wire.chatFrame.RoundTrip)
include roundTrip

theorem allowed_of_serialized {messageId senderDisplayName : String} {message : RatchetMessage P}
    {bytes : Bytes}
    (framed : wire.chatFrame.serialize (.message messageId senderDisplayName message) = some bytes)
    (permitted : allowed messageId) :
    ∀ other carried, IsFrame wire bytes other carried → allowed other := by
  intro other carried frame
  obtain ⟨rfl, _⟩ := IsFrame.eq ⟨_, roundTrip framed⟩ frame
  exact permitted

theorem keptByAcks_allowed : KeptByAcks wire fun _ => SendsOnly wire allowed := by
  intro role requests messageId bytes sends framed
  refine sends.append ?_
  rintro other message ⟨_, parsed⟩
  rw [roundTrip framed] at parsed
  cases parsed

/-- The frame of a message that is sent again has the id of the message. -/
theorem prepareFrame_allowed (sends : SendsOnly wire allowed chat.requests)
    {remoteDisplayName text messageId : String} (permitted : allowed messageId) :
    (prepareFrame wire remoteDisplayName text (some messageId)).Ensures chat
      (fun prepared after => SendsOnly wire allowed (after.requests ++ [prepared.2]))
      (fun _ after => SendsOnly wire allowed after.requests) := by
  rw [prepareFrame, ensures_bind]
  refine (keepsAllowed_onRole _ chat sends).mono ?_ fun _ _ => id
  intro message encrypted encryptedSends
  rw [ensures_bind]
  refine (keepsAllowed_saveIdentity encrypted encryptedSends).mono ?_ fun _ _ => id
  intro _ saved savedSends
  simp only [prepareOutgoingFrame, ensures_bind, ensures_get, ensures_okOr, ensures_pure]
  refine ⟨fun messageBytes _ => ⟨fun bytes framed => ?_, fun _ => savedSends⟩, fun _ => savedSends⟩
  exact (keepsAllowed_onStorage saved savedSends).mono (fun _ _ persisted =>
    persisted.append (allowed_of_serialized roundTrip framed permitted)) fun _ _ => id

theorem resend_allowed {items : List PendingPeerMessage}
    (permitted : ∀ item ∈ items, allowed item.messageId) :
    KeepsAllowed wire allowed (resend wire items) := by
  induction items with
  | nil => exact .pure ()
  | cons item items itemsIH =>
      obtain ⟨first, rest⟩ := List.forall_mem_cons.mp permitted
      refine .bind keepsAllowed_onStorage fun _ => fun chat sends => ?_
      rw [ensures_bind]
      refine (prepareFrame_allowed roundTrip sends first).mono ?_ fun _ _ => id
      exact fun prepared reached preparedSends => itemsIH rest
        { reached with requests := reached.requests ++ [prepared.2] } preparedSends

theorem sendPendingItem_allowed {item : PendingPeerMessage} (permitted : allowed item.messageId) :
    KeepsAllowed wire allowed (sendPendingItem wire item) := by
  refine .bind keepsAllowed_onStorage fun _ => .bind (keepsAllowed_onRole _) fun message => ?_
  refine .bind keepsAllowed_saveIdentity fun _ => .bind .get fun current => ?_
  intro chat sends
  simp only [sendChatFrame, sendRequest, ensures_bind, ensures_okOr, ensures_modify]
  exact ⟨fun bytes framed => sends.append (allowed_of_serialized roundTrip framed permitted),
    fun _ => sends⟩

/-- The pending messages of the paired chat. -/
theorem sendPending_allowed {held : String → Prop}
    (waits : WaitsElsewhere P held chat.context.conversationId chat.database.storage)
    (sends : SendsOnly wire (fun messageId => ¬ held messageId) chat.requests) :
    (sendPending wire).Ensures chat
      (fun _ after => SendsOnly wire (fun messageId => ¬ held messageId) after.requests)
      (fun _ after => SendsOnly wire (fun messageId => ¬ held messageId) after.requests) := by
  simp only [sendPending, onStorage, onDatabase, ensures_bind, ensures_get, ensures_focus,
    ensures_mapError]
  apply Database.ensures_query
  · exact sends
  · refine resend_allowed roundTrip (fun item member isHeld => ?_)
      { chat with database := chat.database.advance chat.database.storage } sends
    obtain ⟨row, selected⟩ := Table.mem_select.mp member
    exact waits.rows item row isHeld (of_decide_eq_true selected)

end PairingChat

/-! ### A flush -/

theorem keptByLines_filed : ChatProcess.KeptByLines (Filed P fun _ => False) where
  reads _ _ same filed :=
    ⟨same.knownPeers ▸ filed.knownPeers, same.contacts ▸ filed.contacts, fun _ never => never.elim⟩
  attempt _ _ filed := ⟨filed.knownPeers, filed.contacts, fun _ never => never.elim⟩
  sent _ filed := filed.congr rfl rfl rfl
  queued _ filed := ⟨filed.knownPeers, filed.contacts, fun _ never => never.elim⟩

theorem keepsFiled_markDeliveredIfPending (messageId : String) :
    KeepsTables (Filed P fun _ => False) (markDeliveredIfPending messageId) :=
  .bind (keepsFiled_pending (fun _ => rfl) fun _ => rfl) fun _ =>
    keepsFiled_frame (fun _ => rfl) (fun _ => rfl) fun _ => rfl

namespace PairingChat

section

variable {property : PairingChat P → Prop}

/-- Frames other than the acknowledgement are handled. -/
theorem keeps_waitForChatAck
    (handles : ∀ bytes frame, wire.chatFrame.deserialize bytes = some frame →
      Keeps property (handleIncomingDuringFlush wire bytes frame))
    (expectedMessageId : String) (incoming : List Bytes) :
    Keeps property (waitForChatAck wire expectedMessageId incoming) := by
  induction incoming with
  | nil => exact .pure _
  | cons bytes incoming incomingIH =>
      intro chat holds
      rw [waitForChatAck, ensures_bind, ensures_okOr]
      refine ⟨fun frame parsed => ?_, fun _ => holds⟩
      split
      · exact holds
      · exact Keeps.bind (handles bytes frame parsed) (fun _ => incomingIH) chat holds

/-- A flush sends its items, handles frames and removes what is acknowledged. -/
theorem keeps_flushItems
    (handles : ∀ bytes frame, wire.chatFrame.deserialize bytes = some frame →
      Keeps property (handleIncomingDuringFlush wire bytes frame))
    (removes : ∀ messageId, Keeps property (onStorage (markDeliveredIfPending messageId)))
    {items : List PendingPeerMessage}
    (sends : ∀ item ∈ items, Keeps property (sendPendingItem wire item))
    (incoming : List Bytes) : Keeps property (flushItems wire items incoming) := by
  induction items generalizing incoming with
  | nil => exact .pure ()
  | cons item items itemsIH =>
      obtain ⟨first, rest⟩ := List.forall_mem_cons.mp sends
      rw [flushItems_cons]
      refine .bind first fun _ => .bind (keeps_waitForChatAck handles _ _) fun waited => ?_
      split
      · exact .bind (removes _) fun _ => itemsIH rest waited.2
      · exact .pure ()

end

theorem keepsFiled_duringFlush {bytes : Bytes} {frame : ChatFrame P}
    (parsed : wire.chatFrame.deserialize bytes = some frame) :
    KeepsChat (Filed P fun _ => False) (handleIncomingDuringFlush wire bytes frame) := by
  intro chat filed
  have stored : ∀ after, FrameStored wire chat bytes after → Filed P (fun _ => False) after := by
    rintro after (same | ⟨_, _, _, _, _, _, _, row, _, same⟩)
    · exact keptByLines_filed.reads same filed
    · exact keptByLines_filed.reads same (filed.congr rfl rfl rfl)
  exact (handlesFrame_duringFlush parsed).mono (fun _ after handled => stored _ handled.1)
    fun _ after => stored _

theorem keepsFiled_sendPendingItem (item : PendingPeerMessage) :
    KeepsChat (Filed P fun _ => False) (sendPendingItem wire item) := by
  have kept := (keptByLines_filed (P := P)).retries
  refine .bind (keepsChat_onStorage (kept.recordAttempt _)) fun _ => ?_
  refine .bind (keepsChat_onRole _) fun message => .bind (keepsChat_saveIdentity kept.reads) ?_
  exact fun _ => .bind .get fun _ => keepsChat_sendChatFrame _

/-- A flush files nothing, and sends messages of the queue of the conversation. -/
theorem flushPendingMessages_allowed (roundTrip : wire.chatFrame.RoundTrip)
    {held : String → Prop}
    (waits : WaitsElsewhere P held chat.context.conversationId chat.database.storage)
    (sends : SendsOnly wire (fun messageId => ¬ held messageId) chat.requests)
    (incoming : List Bytes) :
    (flushPendingMessages wire incoming).Ensures chat
      (fun _ after => Filed P (fun _ => False) after.database.storage ∧
        SendsOnly wire (fun messageId => ¬ held messageId) after.requests)
      (fun _ after => Filed P (fun _ => False) after.database.storage ∧
        SendsOnly wire (fun messageId => ¬ held messageId) after.requests) := by
  simp only [flushPendingMessages, onStorage, onDatabase, ensures_bind, ensures_get, ensures_focus,
    ensures_mapError]
  refine (pendingPeerId_filed waits.filed _).mono ?_ fun _ after same =>
    ⟨same ▸ waits.filed, sends⟩
  rintro peerId queried ⟨same, rfl⟩
  have queriedFiled : Filed P (fun _ => False) queried.storage := same ▸ waits.filed
  apply Database.ensures_query
  · exact ⟨queriedFiled, sends⟩
  · have permitted : ∀ item ∈ Storage.pendingFor chat.context.conversationId queried.storage,
        ¬ held item.messageId := by
      intro item member isHeld
      obtain ⟨row, selected⟩ := Table.mem_select.mp member
      exact waits.rows item (same ▸ row) isHeld (of_decide_eq_true selected)
    refine keeps_flushItems (fun bytes frame parsed => ?_) (fun messageId => ?_)
      (fun item member => ?_) incoming
      { chat with database := queried.advance queried.storage } ⟨queriedFiled, sends⟩
    · exact .and (keepsFiled_duringFlush parsed) (keepsSession_duringFlush
        (keptByAcks_allowed roundTrip) (keptByDecrypting_allowed bytes) parsed)
    · exact .and (keepsChat_onStorage (keepsFiled_markDeliveredIfPending messageId))
        keepsAllowed_onStorage
    · exact .and (keepsFiled_sendPendingItem item)
        (sendPendingItem_allowed roundTrip (permitted item member))

end PairingChat

/-! ## Answers -/

/-- The programs in which Bob answers an initial message. -/
inductive BobProgram where
  | createInvite
  | chatListener
  | chatWithEndpoint
  deriving DecidableEq

/-- A program of Bob that waits for a chat, and what comes over the connection. -/
structure BobConnection (P : Primitives) where
  program : BobProgram
  bob : Bob P
  localDisplayName : String
  generated : P.PrivateKey
  payload : Bytes
  incoming : List Bytes

namespace BobConnection

/-- How the program accepts the initial message. -/
def accept (wire : Wire P) (connection : BobConnection P) :
    ListenerResult P (ChatInitialMessage P) :=
  match connection.program with
  | .createInvite =>
      ChatListener.acceptInitialMessage wire "automatic direct/relay" connection.payload
  | .chatListener =>
      ChatListener.completeBobChatHandshake wire connection.generated connection.payload
  | .chatWithEndpoint =>
      ChatListener.waitWithEndpoint wire connection.generated connection.payload

/-- What the program does in the open conversation. -/
def send (wire : Wire P) (connection : BobConnection P) : ChatResult P Unit :=
  match connection.program with
  | .createInvite => PairingChat.sendPending wire
  | .chatListener => do
      PairingChat.flushPendingMessages wire connection.incoming
      PairingChat.saveIdentity wire
  | .chatWithEndpoint => PairingChat.flushPendingMessages wire connection.incoming

/-- Bob when the initial message arrives: the QUIC programs have made sure of a prekey. -/
def offering (connection : BobConnection P) (now : UInt64) : Bob P :=
  match connection.program with
  | .createInvite => connection.bob
  | _ => connection.bob.replenishOneTimePrekey now.toNat connection.generated

/-- What comes of the connection over the tables of the device. -/
def answer (wire : Wire P) (connection : BobConnection P) (database : Database) :
    HandshakeOutcome :=
  let listener : ChatListener P := ⟨connection.bob, connection.localDisplayName, database⟩
  match connection.program with
  | .createInvite => listener.runCreateInviteAt wire connection.payload
  | .chatListener =>
      listener.runChatListener wire connection.generated connection.payload connection.incoming
  | .chatWithEndpoint =>
      listener.runChatBobWithEndpoint wire connection.generated connection.payload
        connection.incoming

theorem answer_eq (connection : BobConnection P) (database : Database) :
    connection.answer wire database =
      ChatListener.openAfter (connection.accept wire) (connection.send wire)
        ⟨connection.bob, connection.localDisplayName, database⟩ := by
  obtain ⟨program, _⟩ := connection
  cases program <;> rfl

theorem accept_accepts (connection : BobConnection P) :
    ChatListener.Accepts wire connection.payload (connection.accept wire) := by
  obtain ⟨program, _⟩ := connection
  cases program with
  | createInvite => exact ChatListener.acceptInitialMessage_accepts _ _
  | chatListener => exact ChatListener.completeBobChatHandshake_accepts _ _
  | chatWithEndpoint => exact ChatListener.waitWithEndpoint_accepts _ _

/-- Only an initial message that Bob opens is accepted. -/
theorem accept_opens (connection : BobConnection P) (database : Database) :
    (connection.accept wire).Ensures ⟨connection.bob, connection.localDisplayName, database⟩
      (fun initial _ => decodeChatInitialMessage wire connection.payload = some initial ∧
        (connection.offering database.now).Opens initial.message)
      fun _ _ => True := by
  obtain ⟨program, bob, localDisplayName, generated, payload, _⟩ := connection
  have offered {Result : Type} {next : ListenerResult P Result}
      {returned : Result → ChatListener P → Prop}
      (ensures : next.Ensures
        ⟨bob.replenishOneTimePrekey database.now.toNat generated, localDisplayName, database⟩
        returned fun _ _ => True) :
      (ChatListener.offerPrekeyBundle generated >>= fun _ => next).Ensures
        ⟨bob, localDisplayName, database⟩ returned fun _ _ => True := by
    simp only [ChatListener.offerPrekeyBundle, ensures_bind, ensures_modify, ensures_get,
      ensures_mapError, ensures_lift]
    exact ⟨fun _ _ => ensures, fun _ _ => trivial⟩
  cases program with
  | createInvite => exact ChatListener.acceptInitialMessage_opens wire _ payload _
  | chatListener => exact offered (ChatListener.acceptInitialMessage_opens wire _ payload _)
  | chatWithEndpoint =>
      refine offered ?_
      rw [ensures_bind]
      have keeps : Keeps (fun listener : ChatListener P => listener.bob =
          bob.replenishOneTimePrekey database.now.toNat generated)
          (ChatListener.saveIdentity wire) :=
        .bind .get fun _ => .focus (fun _ _ => True) (fun _ _ => trivial)
          (fun _ _ same _ => same) fun _ _ _ _ => .trivial
      refine (keeps _ rfl).mono (fun _ after same => ?_) fun _ _ _ => trivial
      have opens := ChatListener.acceptInitialMessage_opens wire "direct QUIC" payload after
      rwa [same] at opens

/-- An open conversation files nothing, and sends messages of its own queue. -/
theorem send_allowed (roundTrip : wire.chatFrame.RoundTrip) (connection : BobConnection P)
    {held : String → Prop} {chat : PairingChat P}
    (waits : WaitsElsewhere P held chat.context.conversationId chat.database.storage)
    (sends : SendsOnly wire (fun messageId => ¬ held messageId) chat.requests) :
    (connection.send wire).Ensures chat
      (fun _ after => Filed P (fun _ => False) after.database.storage ∧
        SendsOnly wire (fun messageId => ¬ held messageId) after.requests)
      (fun _ after => Filed P (fun _ => False) after.database.storage ∧
        SendsOnly wire (fun messageId => ¬ held messageId) after.requests) := by
  have flushed := fun incoming =>
    PairingChat.flushPendingMessages_allowed roundTrip waits sends incoming
  obtain ⟨program, _, _, _, _, incoming⟩ := connection
  cases program with
  | createInvite =>
      have filed : PairingChat.KeepsChat (Filed P fun _ => False) (PairingChat.sendPending wire) :=
        PairingChat.keepsChat_sendPending keptByLines_filed.retries
      exact (filed chat waits.filed).and (PairingChat.sendPending_allowed roundTrip waits sends)
  | chatListener =>
      simp only [send, ensures_bind]
      refine (flushed incoming).mono (fun _ reached kept => ?_) fun _ _ => id
      have saves : PairingChat.KeepsChat (Filed P fun _ => False) (PairingChat.saveIdentity wire) :=
        PairingChat.keepsChat_saveIdentity keptByLines_filed.reads
      exact (saves reached kept.1).and (PairingChat.keepsAllowed_saveIdentity reached kept.2)
  | chatWithEndpoint => exact flushed incoming

/-- The initial message of the connection, when Bob opens it. -/
def Delivers (wire : Wire P) (connection : BobConnection P) (now : UInt64)
    (initial : ChatInitialMessage P) : Prop :=
  decodeChatInitialMessage wire connection.payload = some initial ∧
    (connection.offering now).Opens initial.message

/-- What the answer over a connection has to do with the messages that are held. -/
structure Answered (wire : Wire P) (held : String → Prop) (connection : BobConnection P)
    (now : UInt64) (outcome : HandshakeOutcome) : Prop where
  filed : Filed P (fun _ => False) outcome.database.storage
  sends : SendsOnly wire (fun messageId => ¬ held messageId) outcome.frames
  conversationId : ∀ conversationId, outcome.conversationId = some conversationId →
    ∃ initial, connection.Delivers wire now initial ∧ initial.conversationId = conversationId

theorem answered (roundTrip : wire.chatFrame.RoundTrip) (connection : BobConnection P)
    {held : String → Prop} (database : Database)
    (filed : Filed P (fun _ => False) database.storage)
    (selects : ∀ initial, connection.Delivers wire database.now initial →
      ∀ row ∈ database.storage.pendingPeerMessages, held row.messageId →
        row.peerId ≠ initial.conversationId) :
    Answered wire held connection database.now (connection.answer wire database) := by
  -- Of a message that Bob does not open, no held message has to wait elsewhere.
  let opened : Prop := ∃ initial, connection.Delivers wire database.now initial
  have selectsOpened : ChatListener.SelectsOther wire connection.payload
      (fun messageId => held messageId ∧ opened) database.storage.pendingPeerMessages := by
    rintro initial decoded row member ⟨isHeld, other, delivers⟩
    obtain rfl := Option.some.inj (delivers.1.symm.trans decoded)
    exact selects other delivers row member isHeld
  have accepts := (connection.accept_accepts _
    ⟨connection.bob, connection.localDisplayName, database⟩ filed selectsOpened).and
      (connection.accept_opens database)
  rw [answer_eq, ChatListener.openAfter]
  unfold Ensures at accepts
  split
  · next failed =>
      rw [failed] at accepts
      exact ⟨accepts.1, fun _ member => absurd member List.not_mem_nil, nofun⟩
  · next initial after accepted =>
      rw [accepted] at accepts
      obtain ⟨⟨_, waits⟩, delivers⟩ := accepts
      have opens : WaitsElsewhere P held (after.opened initial).context.conversationId
          (after.opened initial).database.storage :=
        ⟨waits.filed, fun row member isHeld =>
          waits.rows row member ⟨isHeld, initial, delivers⟩⟩
      have sent := connection.send_allowed roundTrip opens
        fun _ member => absurd member List.not_mem_nil
      obtain ⟨afterFiled, sends⟩ := sent.reached
      refine ⟨afterFiled, sends, ?_⟩
      rintro _ ⟨⟩
      exact ⟨initial, delivers, rfl⟩

end BobConnection

/-! ## Runs -/

/-- The calls keep the filing of the contacts. -/
theorem QueueCall.keepsFiled_perform (call : QueueCall) :
    KeepsTables (Filed P fun _ => False) (call.perform P) := by
  have silent : ∀ {method : StorageResult Unit}, KeepsTables (Filed P fun _ => False) method →
      KeepsTables (Filed P fun _ => False)
        (method >>= fun _ => return (none : Option KnownPeerRecord)) := fun keeps =>
    .bind keeps fun _ => .pure _
  cases call with
  | saveIdentityContact identityPublicKey displayName discoveryHint =>
      exact silent (keepsFiled_saveContactForChat (fun _ => rfl) fun _ never => never.elim)
  | saveLegacyContact displayName discoveryHint =>
      exact silent (keepsFiled_saveContactForChat (fun full => absurd full (by decide))
        fun _ never => never.elim)
  | loadKnownPeer conversationId => exact keepsTables_loadKnownPeer conversationId
  | queueOfflinePeerMessage peer plaintext random =>
      refine silent (.bind Database.keeps_nowUnixSecs fun _ => ?_)
      exact .bind (keepsFiled_pending (fun _ => rfl) fun _ => rfl) fun _ =>
        keepsFiled_frame (fun _ => rfl) (fun _ => rfl) fun _ => rfl
  | trackPendingChatDelivery conversationId messageId plaintext =>
      refine silent (.bind (keepsTables_pendingPeerId _) fun _ => ?_)
      exact .bind Database.keeps_nowUnixSecs fun _ =>
        keepsFiled_pending (fun _ => rfl) fun _ => rfl
  | recordPendingPeerMessageAttempt messageId =>
      exact silent (keptByLines_filed.retries.recordAttempt messageId)
  | removePendingPeerMessage messageId =>
      exact silent (keepsFiled_pending (fun _ => rfl) fun _ => rfl)
  | deleteConversation conversationId =>
      refine .bind (deleteConversation_keeps (fun filed knownPeers contacts _ => ?_) _) fun _ =>
        .pure _
      exact ⟨fun peer member => filed.knownPeers peer (knownPeers peer member),
        fun contact member => filed.contacts contact (contacts contact member),
        fun _ never => never.elim⟩

/-- What happens on the device of Bob: a connection of the attacker, one of somebody else,
or a call of another program. -/
inductive BobEvent (P : Primitives) where
  | attacker (connection : BobConnection P)
  | peer (connection : BobConnection P)
  | call (call : QueueCall)

/-- An answer to the attacker, with the messages that waited before. -/
structure BobAnswer where
  waiting : Table PendingPeerMessage.messageId
  conversationId : Option String
  frames : List Bytes

/-- A message of the conversation that waited was sent in the answer. -/
def BobAnswer.SendsQueued (wire : Wire P) (conversationId : String) (answer : BobAnswer) : Prop :=
  ∃ row ∈ answer.waiting, row.conversationId = conversationId ∧
    ∃ bytes ∈ answer.frames, ∃ message, IsFrame wire bytes row.messageId message

/-- The tables of the device, and the answers that the attacker has got. -/
structure BobDevice where
  database : Database
  answers : List BobAnswer

namespace BobDevice

def next (wire : Wire P) (device : BobDevice) (event : BobEvent P × Moment) : BobDevice :=
  let database := device.database.opened event.2.now event.2.interruptions
  match event.1 with
  | .attacker connection =>
      let outcome := connection.answer wire database
      { database := outcome.database
        answers := ⟨database.storage.pendingPeerMessages, outcome.conversationId,
          outcome.frames⟩ :: device.answers }
  | .peer connection => { device with database := (connection.answer wire database).database }
  | .call call => { device with database := ((call.perform P).run database).2 }

/-- The runs of a device whose tables were empty. -/
def system (wire : Wire P) : System BobDevice (BobEvent P × Moment) where
  initial device := device.database.storage = .empty ∧ device.answers = []
  permitted _ _ := True
  next := next wire

end BobDevice

/-- The sender says that it is the contact: by its identity key, or, when it sends none, by
its display name. -/
def ChatInitialMessage.ClaimsContact (initial : ChatInitialMessage P) (contactId : String) :
    Prop :=
  match initial.senderIdentityPublicKey with
  | some key => contactIdForIdentity P key = contactId
  | none => contactIdForDisplayName P initial.senderDisplayName = contactId

instance (initial : ChatInitialMessage P) (contactId : String) :
    Decidable (initial.ClaimsContact contactId) := by
  unfold ChatInitialMessage.ClaimsContact
  split <;> infer_instance

theorem ChatInitialMessage.claimsContact_iff {initial : ChatInitialMessage P}
    {contactId : String} :
    initial.ClaimsContact contactId ↔ initial.conversationId = contactId := by
  rw [ClaimsContact, ChatInitialMessage.conversationId]
  cases initial.senderIdentityPublicKey <;> rfl

namespace BobDevice

/-- With a message that Bob opens, the attacker neither claims to be the contact, nor to be
another one in whose queue messages of the contact wait. -/
def ClaimsNeither (wire : Wire P) (contactId : String) (device : BobDevice)
    (event : BobEvent P × Moment) : Prop :=
  match event.1 with
  | .attacker connection => ∀ initial, connection.Delivers wire event.2.now initial →
      ¬ initial.ClaimsContact contactId ∧
        ∀ row ∈ device.database.storage.pendingPeerMessages.rows,
          row.conversationId = contactId → ¬ initial.ClaimsContact row.peerId
  | _ => True

/-- The answer has nothing of the conversation. -/
def Silent (wire : Wire P) (conversationId : String) (answer : BobAnswer) : Prop :=
  answer.conversationId ≠ some conversationId ∧ ¬ answer.SendsQueued wire conversationId

variable {contactId : String} {device : BobDevice}

/-- An answer to a message that claims another contact or is not opened. -/
theorem silent_of_claimsNeither (roundTrip : wire.chatFrame.RoundTrip)
    (filed : Filed P (fun _ => False) device.database.storage) {connection : BobConnection P}
    {moment : Moment}
    (claims : ClaimsNeither wire contactId device (.attacker connection, moment)) :
    let database := device.database.opened moment.now moment.interruptions
    let outcome := connection.answer wire database
    Filed P (fun _ => False) outcome.database.storage ∧
      Silent wire contactId ⟨database.storage.pendingPeerMessages, outcome.conversationId,
        outcome.frames⟩ := by
  intro database outcome
  let held : String → Prop := fun messageId =>
    ∃ row ∈ device.database.storage.pendingPeerMessages, row.messageId = messageId ∧
      row.conversationId = contactId
  have selects : ∀ initial, connection.Delivers wire moment.now initial →
      ∀ row ∈ database.storage.pendingPeerMessages, held row.messageId →
        row.peerId ≠ initial.conversationId := by
    rintro initial delivers row member ⟨waiting, waitingMember, sameId, ofContact⟩
    obtain rfl := Table.eq_of_key_eq waitingMember member sameId
    exact fun sameQueue => (claims initial delivers).2 waiting waitingMember ofContact
      (ChatInitialMessage.claimsContact_iff.mpr sameQueue.symm)
  have answered : BobConnection.Answered wire held connection moment.now outcome :=
    connection.answered roundTrip database filed selects
  refine ⟨answered.filed, ?_, ?_⟩
  · intro opens
    obtain ⟨initial, delivers, same⟩ := answered.conversationId contactId opens
    exact (claims initial delivers).1 (ChatInitialMessage.claimsContact_iff.mpr same)
  · rintro ⟨row, member, ofContact, bytes, sent, message, frame⟩
    exact answered.sends bytes sent row.messageId message frame ⟨row, member, rfl, ofContact⟩

/-- Unless Bob opens a message of the attacker that claims the contact, or one in whose queue
its messages wait, no answer opens the conversation of the contact or sends its messages. -/
theorem answers_silent (roundTrip : wire.chatFrame.RoundTrip)
    {identity : IdentityPublicKeyBytes}
    (reachable : ((system wire).restrict
      (ClaimsNeither wire (contactIdForIdentity P identity))).Reachable device) :
    ∀ answer ∈ device.answers, Silent wire (contactIdForIdentity P identity) answer := by
  have invariant : Filed P (fun _ => False) device.database.storage ∧
      ∀ answer ∈ device.answers, Silent wire (contactIdForIdentity P identity) answer := by
    refine reachable.invariant (fun device => Filed P (fun _ => False) device.database.storage ∧
      ∀ answer ∈ device.answers, Silent wire (contactIdForIdentity P identity) answer) ?_ ?_
    · rintro start ⟨empty, none⟩
      rw [empty, none]
      exact ⟨Owned.empty.filed, fun _ member => absurd member List.not_mem_nil⟩
    · rintro state ⟨event, moment⟩ ⟨filed, silent⟩ ⟨_, claims⟩
      cases event with
      | attacker connection =>
          obtain ⟨afterFiled, answer⟩ := silent_of_claimsNeither roundTrip filed claims
          exact ⟨afterFiled, List.forall_mem_cons.mpr ⟨answer, silent⟩⟩
      | peer connection =>
          have answered : BobConnection.Answered wire (fun _ => False) connection moment.now
              (connection.answer wire (state.database.opened moment.now moment.interruptions)) :=
            connection.answered roundTrip
              (state.database.opened moment.now moment.interruptions) filed
              fun _ _ _ _ => False.elim
          exact ⟨answered.filed, silent⟩
      | call call =>
          exact ⟨(call.keepsFiled_perform
            (state.database.opened moment.now moment.interruptions) filed).reached, silent⟩
  exact invariant.2

end BobDevice

/-! ## A message that claims the identity of Alice -/

namespace Symbolic

/-- Mallory has keys of her own. -/
def mallory : Alice primitives := ⟨⟨.ofText "mallory"⟩, .generate (.ofText "mallory"), none⟩

def alicesIdentity : IdentityPublicKeyBytes := ⟨List.replicate 32 9, List.length_replicate⟩

def mallorysIdentity : IdentityPublicKeyBytes := ⟨List.replicate 32 5, List.length_replicate⟩

def alicesContact : String := contactIdForIdentity primitives alicesIdentity

/-- The initial message that Mallory makes for the prekey bundle of Bob, and her session. -/
def malloryOpens : Except CryptoError (InitialMessage primitives) × Alice primitives :=
  match receivingBob.prekeyBundle with
  | .ok bundle => (Alice.encryptInitialMessage bundle "" (.ofText "opening")).run mallory
  | .error error => (.error error, mallory)

/-- She sends it under the identity of Alice or under her own, or under the one of Alice with a
prekey that Bob does not hold. -/
def claimedMessages : List (ChatInitialMessage primitives) :=
  malloryOpens.1.toOption.toList.flatMap fun message =>
    [⟨"Alice", some alicesIdentity, message⟩, ⟨"Mallory", some mallorysIdentity, message⟩,
      ⟨"Alice", some alicesIdentity, { message with oneTimePrekeyId := 2 }⟩]

/-- What Bob encrypts in the session with Mallory. -/
def repliesToMallory : List (RatchetMessage primitives) :=
  (malloryOpens.1.toOption.bind fun message =>
    ((Bob.decryptInitialMessage message >>= fun _ =>
      Bob.encryptForAlice "hello").run receivingBob).1.toOption).toList

def claimWire : Wire primitives where
  ratchetMessage := .listed repliesToMallory
  chatFrame := .listed (repliesToMallory.map (.message "message-1" "Bob"))
  initialMessage := stateless
  chatInitialMessage := .listed claimedMessages
  legacyChatInitialMessage := stateless
  aliceState := stateless
  bobState := stateless

/-- A message is queued for Alice, and then Mallory connects. -/
def claimRun (program : BobProgram) (payload : Bytes) : List (BobEvent primitives × Moment) :=
  [(.call (.saveIdentityContact alicesIdentity "Alice" ""), undisturbed),
    (.call (.trackPendingChatDelivery alicesContact "message-1" "hello"), undisturbed),
    (.attacker ⟨program, receivingBob, "Bob", .ofText "generated", payload, []⟩, undisturbed)]

def claimedDevice (program : BobProgram) (payload : Bytes) : BobDevice :=
  (BobDevice.system claimWire).run ⟨⟨.empty, 0, []⟩, []⟩ (claimRun program payload)

/-- Mallory connects under her own identity, and then with a message that Bob refuses. -/
def silentRun : List (BobEvent primitives × Moment) :=
  claimRun .createInvite [0] ++
    [(.attacker ⟨.createInvite, receivingBob, "Bob", .ofText "generated", [0, 0], []⟩,
      undisturbed)]

/-- Neither gets her anything of what waits for Alice. -/
theorem own_identity_answered_silently :
    let device := (BobDevice.system claimWire).run ⟨⟨.empty, 0, []⟩, []⟩ silentRun
    device.answers.length = 2 ∧
      ∀ answer ∈ device.answers, BobDevice.Silent claimWire alicesContact answer := by
  have own : BobDevice.ClaimsNeither claimWire alicesContact
      ((BobDevice.system claimWire).run ⟨⟨.empty, 0, []⟩, []⟩ (silentRun.take 2))
      (.attacker ⟨.createInvite, receivingBob, "Bob", .ofText "generated", [0], []⟩,
        undisturbed) := by
    have neither : ∀ initial ∈ decodeChatInitialMessage claimWire [0],
        ¬ initial.ClaimsContact alicesContact ∧
          ∀ row ∈ ((BobDevice.system claimWire).run ⟨⟨.empty, 0, []⟩, []⟩
              (silentRun.take 2)).database.storage.pendingPeerMessages.rows,
            row.conversationId = alicesContact → ¬ initial.ClaimsContact row.peerId := by
      decide +kernel
    exact fun initial delivers => neither initial delivers.1
  have refused : BobDevice.ClaimsNeither claimWire alicesContact
      ((BobDevice.system claimWire).run ⟨⟨.empty, 0, []⟩, []⟩ (silentRun.take 3))
      (.attacker ⟨.createInvite, receivingBob, "Bob", .ofText "generated", [0, 0], []⟩,
        undisturbed) := by
    have unnamed : ∀ initial ∈ decodeChatInitialMessage claimWire [0, 0],
        ∀ oneTimePrekey ∈ receivingBob.oneTimePrekey,
          oneTimePrekey.id ≠ initial.message.oneTimePrekeyId := by decide +kernel
    rintro initial ⟨decoded, oneTimePrekey, present, named, -⟩
    exact absurd named (unnamed initial decoded oneTimePrekey present)
  have permits : ((BobDevice.system claimWire).restrict
      (BobDevice.ClaimsNeither claimWire alicesContact)).Permits ⟨⟨.empty, 0, []⟩, []⟩
        silentRun :=
    ⟨⟨trivial, trivial⟩, ⟨trivial, trivial⟩, ⟨trivial, own⟩, ⟨trivial, refused⟩, trivial⟩
  exact ⟨rfl, BobDevice.answers_silent (Format.roundTrip_listed _)
    ⟨_, ⟨rfl, rfl⟩, permits.reaches⟩⟩

/-- Under the identity of Alice she gets the conversation and the message that waits for
Alice, and she can read it. -/
def MalloryAnswered (program : BobProgram) : Prop :=
  (BobDevice.system claimWire).Reachable (claimedDevice program []) ∧
    ∃ answer ∈ (claimedDevice program []).answers,
      answer.conversationId = some alicesContact ∧
        answer.SendsQueued claimWire alicesContact ∧
        ∃ bytes ∈ answer.frames, ∃ message, IsFrame claimWire bytes "message-1" message ∧
          ((Alice.decryptFromBob message).run malloryOpens.2).1 = .ok "hello"

theorem malloryAnswered (program : BobProgram) : MalloryAnswered program := by
  have permits : (BobDevice.system claimWire).Permits ⟨⟨.empty, 0, []⟩, []⟩
      (claimRun program []) := ⟨trivial, trivial, trivial, trivial⟩
  obtain ⟨reply, framed, reads⟩ : ∃ message, IsFrame claimWire [] "message-1" message ∧
      ((Alice.decryptFromBob message).run malloryOpens.2).1 = .ok "hello" :=
    ⟨repliesToMallory.head (by decide +kernel), ⟨"Bob", by decide +kernel⟩, by decide +kernel⟩
  refine ⟨⟨_, ⟨rfl, rfl⟩, permits.reaches⟩, _, List.mem_cons_self, ?_⟩
  have opens : (claimedDevice program []).answers.map BobAnswer.conversationId =
      [some alicesContact] := by
    cases program <;> decide +kernel
  have sends : (claimedDevice program []).answers.map BobAnswer.frames = [[[]]] := by
    cases program <;> decide +kernel
  have sent := List.mem_of_mem_head? (congrArg List.head? (List.cons.inj sends).1)
  refine ⟨(List.cons.inj opens).1, ?_, [], sent, reply, framed, reads⟩
  refine ⟨⟨"message-1", alicesContact, alicesContact, "hello", 0, 0, none⟩, ?_, rfl, [], sent,
    reply, framed⟩
  rw [Table.mem_def]
  cases program <;> decide +kernel

theorem claimed_identity_is_answered :
    (alicesIdentity : Bytes) ≠ primitives.identityKeyBytes mallory.identity.publicKey ∧
      MalloryAnswered .createInvite ∧ MalloryAnswered .chatListener ∧
        MalloryAnswered .chatWithEndpoint :=
  ⟨by decide +kernel, malloryAnswered _, malloryAnswered _, malloryAnswered _⟩

end Symbolic

end CipherMesh
