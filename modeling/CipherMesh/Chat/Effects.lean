import CipherMesh.Chat.Loop
import CipherMesh.Chat.Soundness

/-!
# Effects on the conversations

Most of what a chat writes goes to other tables than the history, the pending queue and
the contacts.  A property that reads these only is kept by every call whose rows it
admits: the received row of a frame, the sent rows of typed and of resent lines, and the
rows of the queue.
-/

namespace CipherMesh

open Foundation
open Foundation.Mutation

variable {P : Primitives} {wire : Wire P}

/-! ## The tables of the conversations -/

/-- The history, the queue and the contacts are the same. -/
structure SameConversations (storage after : Storage) : Prop where
  messages : after.messages = storage.messages
  pending : after.pendingPeerMessages = storage.pendingPeerMessages
  knownPeers : after.knownPeers = storage.knownPeers
  contacts : after.contacts = storage.contacts

/-- Only the history, the queue and the contacts decide about the property. -/
def ReadsConversations (property : Storage → Prop) : Prop :=
  ∀ ⦃storage after⦄, SameConversations storage after → property storage → property after

theorem SameConversations.refl (storage : Storage) : SameConversations storage storage :=
  ⟨rfl, rfl, rfl, rfl⟩

theorem SameConversations.trans {first second third : Storage}
    (before : SameConversations first second) (after : SameConversations second third) :
    SameConversations first third :=
  ⟨after.messages.trans before.messages, after.pending.trans before.pending,
    after.knownPeers.trans before.knownPeers, after.contacts.trans before.contacts⟩

theorem SameConversations.withMessage {storage after : Storage}
    (same : SameConversations storage after) (row : MessageRecord) :
    SameConversations (storage.withMessage row) (after.withMessage row) :=
  ⟨congrArg (fun table => table.insertOrIgnore row) same.messages, same.pending,
    same.knownPeers, same.contacts⟩

theorem readsConversations_same (storage : Storage) :
    ReadsConversations (SameConversations storage) :=
  fun _ _ same before => before.trans same

theorem ReadsConversations.and {first second : Storage → Prop} (reads : ReadsConversations first)
    (secondReads : ReadsConversations second) :
    ReadsConversations fun storage => first storage ∧ second storage :=
  fun _ _ same holds => ⟨reads same holds.1, secondReads same holds.2⟩

namespace Storage

/-- The statement of `queue_pending_peer_message`. -/
def withPending (pending : PendingPeerMessage) (storage : Storage) : Storage :=
  { storage with pendingPeerMessages := storage.pendingPeerMessages.insertOrIgnore pending }

/-- The text waits in the queue under the id. -/
def Queued (storage : Storage) (messageId text : String) : Prop :=
  ∃ row ∈ storage.pendingPeerMessages, row.messageId = messageId ∧ row.plaintext = text

end Storage

theorem SameConversations.knownPeerFor {storage after : Storage}
    (same : SameConversations storage after) (conversationId : String) :
    after.knownPeerFor P conversationId = storage.knownPeerFor P conversationId := by
  rw [Storage.knownPeerFor, Storage.knownPeerFor, same.knownPeers, same.contacts]

theorem SameConversations.withPending {storage after : Storage}
    (same : SameConversations storage after) (pending : PendingPeerMessage) :
    SameConversations (storage.withPending pending) (after.withPending pending) :=
  ⟨same.messages, congrArg (fun table => table.insertOrIgnore pending) same.pending,
    same.knownPeers, same.contacts⟩

/-- Updates of the queue keep what is queued as long as they keep ids and texts. -/
theorem Storage.Queued.update {storage : Storage} {messageId text : String}
    (queued : storage.Queued messageId text) {condition : PendingPeerMessage → Bool}
    {change : PendingPeerMessage → PendingPeerMessage}
    (keepsKey : ∀ row, (change row).messageId = row.messageId)
    (keepsText : ∀ row, (change row).plaintext = row.plaintext) :
    Storage.Queued
      { storage with
        pendingPeerMessages := storage.pendingPeerMessages.update condition change keepsKey }
      messageId text := by
  refine Table.exists_mem_update keepsKey queued fun row holds => ?_
  rw [keepsKey, keepsText]
  exact holds

theorem readsConversations_queued (messageId text : String) :
    ReadsConversations fun storage => storage.Queued messageId text := by
  intro storage after same queued
  rwa [Storage.Queued, same.pending]

theorem readsConversations_saved (messageId : String) :
    ReadsConversations fun storage => storage.messages.Contains messageId := by
  intro storage after same saved
  rwa [same.messages]

/-- The row of a sent message. -/
structure MessageRecord.IsSent (row : MessageRecord) (messageId text : String) : Prop where
  messageId : row.messageId = messageId
  direction : row.direction = .sent
  plaintext : row.plaintext = some text

/-- The row of a received message. -/
structure MessageRecord.IsReceived (row : MessageRecord)
    (messageId senderDisplayName text : String) : Prop where
  messageId : row.messageId = messageId
  direction : row.direction = .received
  plaintext : row.plaintext = some text
  senderId : row.senderId = displayNameOrAnonymous senderDisplayName

/-! ## Statements -/

section

variable {property : Storage → Prop}

/-- A call keeps the property of the tables. -/
abbrev KeepsTables (property : Storage → Prop) {ε Result : Type}
    (method : Mutation Database ε Result) : Prop :=
  Keeps (fun database : Database => property database.storage) method

namespace ReadsConversations

variable (reads : ReadsConversations property)
include reads

/-- Statements on other tables. -/
theorem execute {write : Storage → Storage}
    (same : ∀ storage, SameConversations storage (write storage)) :
    KeepsTables property (Database.execute write) :=
  Database.keeps_execute fun storage holds => reads (same storage) holds

theorem saveLocalIdentity (id role : String) (state : Bytes) :
    KeepsTables property (Database.saveLocalIdentity id role state) :=
  .bind Database.keeps_nowUnixSecs fun _ => reads.execute fun _ => ⟨rfl, rfl, rfl, rfl⟩

theorem markIncomingChatMessageAccepted (messageId : String) :
    KeepsTables property (markIncomingChatMessageAccepted messageId) := by
  refine .bind (.bind Database.keeps_nowUnixSecs fun _ => Database.keeps_statement ?_) fun _ =>
    .pure ()
  rintro storage accepted after holds ⟨⟩
  refine reads (?_ : SameConversations storage _) holds
  exact ⟨rfl, rfl, rfl, rfl⟩

theorem markMessageNew (conversationId messageId : String) :
    KeepsTables property (Database.markMessageNew conversationId messageId) :=
  .bind Database.keeps_nowUnixSecs fun _ => reads.execute fun _ => ⟨rfl, rfl, rfl, rfl⟩

theorem saveIdentity (role : PairingChatRole P) :
    KeepsTables property (role.saveIdentity wire) := by
  cases role with
  | alice actor => exact .bind (.okOr _ _) fun _ => .mapError (reads.saveLocalIdentity _ _ _)
  | bob actor => exact .bind (.okOr _ _) fun _ => .mapError (reads.saveLocalIdentity _ _ _)

end ReadsConversations

theorem keepsTables_loadKnownPeer (conversationId : String) :
    KeepsTables property (loadKnownPeerForConversation P conversationId) :=
  keeps_loadKnownPeer conversationId

theorem keepsTables_pendingPeerId (conversationId : String) :
    KeepsTables property (pendingPeerIdForConversation P conversationId) :=
  .bind (keepsTables_loadKnownPeer conversationId) fun _ => .pure _

theorem keepsTables_persistSent {entry : ChatHistoryEntry} {messageId text : String}
    (named : entry.messageId = some messageId) (direction : entry.direction = .sent)
    (plaintext : entry.plaintext = text)
    (admits : ∀ storage row, property storage → row.IsSent messageId text →
      property (storage.withMessage row)) :
    KeepsTables property (persistChatMessage P entry) :=
  .bind Database.keeps_nowUnixSecs fun _ => Database.keeps_execute fun storage holds =>
    admits storage _ holds ⟨by rw [ChatHistoryEntry.record, named]; rfl, direction,
      congrArg some plaintext⟩

/-! ## Resending -/

/-- Every message is in the queue. -/
def Storage.Holds (storage : Storage) (items : List PendingPeerMessage) : Prop :=
  ∀ item ∈ items, storage.Queued item.messageId item.plaintext

/-- A property that sending the messages of the queue again keeps. -/
structure KeptByRetries (property : Storage → Prop) : Prop where
  reads : ReadsConversations property
  attempt : ∀ {storage condition change}
    (keepsKey : ∀ row : PendingPeerMessage, (change row).messageId = row.messageId),
    (∀ row, (change row).plaintext = row.plaintext) → property storage → property
      { storage with
        pendingPeerMessages := storage.pendingPeerMessages.update condition change keepsKey }
  resent : ∀ {storage row messageId text}, storage.Queued messageId text →
    row.IsSent messageId text → property storage → property (storage.withMessage row)

theorem keptByRetries_holds (items : List PendingPeerMessage) :
    KeptByRetries fun storage => storage.Holds items where
  reads _ _ same holds item member := readsConversations_queued _ _ same (holds item member)
  attempt keepsKey keepsText holds item member := (holds item member).update keepsKey keepsText
  resent _ _ holds := holds

theorem KeptByRetries.and {first second : Storage → Prop} (kept : KeptByRetries first)
    (secondKept : KeptByRetries second) :
    KeptByRetries fun storage => first storage ∧ second storage where
  reads := kept.reads.and secondKept.reads
  attempt keepsKey keepsText holds :=
    ⟨kept.attempt keepsKey keepsText holds.1, secondKept.attempt keepsKey keepsText holds.2⟩
  resent queued sent holds :=
    ⟨kept.resent queued sent holds.1, secondKept.resent queued sent holds.2⟩

theorem KeptByRetries.recordAttempt (kept : KeptByRetries property) (messageId : String) :
    KeepsTables property (Database.recordPendingPeerMessageAttempt messageId) :=
  .bind Database.keeps_nowUnixSecs fun _ => Database.keeps_execute fun _ holds =>
    kept.attempt _ (fun _ => rfl) holds

end

/-! ## Calls of a chat -/

namespace PairingChat

section

variable {property : Storage → Prop} {chat : PairingChat P}

/-- A call keeps the property of the tables of the chat. -/
abbrev KeepsChat (property : Storage → Prop) {Result : Type} (method : ChatResult P Result) :
    Prop :=
  Keeps (fun chat => property chat.database.storage) method

theorem keepsChat_onDatabase {Result : Type} {method : Mutation Database AppError Result}
    (keeps : KeepsTables property method) : KeepsChat property (onDatabase (P := P) method) :=
  .focus (fun _ database => property database.storage) (fun _ => id) (fun _ _ _ => id)
    fun _ _ => keeps

theorem keepsChat_onStorage {Result : Type} {method : StorageResult Result}
    (keeps : KeepsTables property method) : KeepsChat property (onStorage (P := P) method) :=
  keepsChat_onDatabase (.mapError keeps)

theorem keepsChat_onRole {Result : Type}
    (method : Mutation (PairingChatRole P) CryptoError Result) :
    KeepsChat property (onRole method) :=
  .mapError (.focus (fun _ _ => True) (fun _ _ => trivial) (fun _ _ holds _ => holds)
    fun _ _ _ _ => .trivial)

theorem keepsChat_saveIdentity (reads : ReadsConversations property) :
    KeepsChat property (saveIdentity wire) :=
  .bind .get fun chat => keepsChat_onDatabase (reads.saveIdentity chat.role)

theorem keepsChat_sendRequest (frame : Bytes) : KeepsChat property (sendRequest (P := P) frame) :=
  .modify fun _ => id

theorem keepsChat_sendChatFrame (frame : ChatFrame P) :
    KeepsChat property (sendChatFrame wire frame) :=
  .bind (.okOr _ _) keepsChat_sendRequest

theorem keepsChat_printMessage (reads : ReadsConversations property) :
    KeepsChat property (printMessage (P := P)) :=
  keepsChat_onStorage (reads.execute .refl)

/-! ### Sending -/

theorem keeps_now (now : UInt64) :
    Keeps (fun chat => chat.database.now = now) (saveIdentity wire) := by
  have saves : ∀ id role state, Keeps (fun database : Database => database.now = now)
      (Database.saveLocalIdentity id role state) := fun _ _ _ =>
    .bind (fun _ same => same) fun _ _ same => Database.ensures_execute same same
  refine .bind .get fun chat => .focus (fun _ database => database.now = now) (fun _ => id)
    (fun _ _ _ => id) fun _ _ => ?_
  cases chat.role with
  | alice actor => exact .bind (.okOr _ _) fun _ => .mapError (saves _ _ _)
  | bob actor => exact .bind (.okOr _ _) fun _ => .mapError (saves _ _ _)

/-- Encrypting and saving the identity touch no table that the property reads. -/
theorem encrypt_saveIdentity_effect (wire : Wire P) (reads : ReadsConversations property)
    (holds : property chat.database.storage) (text : String) :
    (onRole (PairingChatRole.encrypt text)).Ensures chat
      (fun message encrypted => ((PairingChatRole.encrypt text).run chat.role).1 = .ok message ∧
        (saveIdentity wire).Ensures encrypted
          (fun _ saved => property saved.database.storage ∧ saved.context = chat.context ∧
            saved.database.now = chat.database.now)
          (fun _ saved => property saved.database.storage))
      (fun _ after => property after.database.storage) := by
  rw [onRole, ensures_mapError, ensures_focus]
  refine Ensures.run.mono (fun message role run => ⟨congrArg Prod.fst run, ?_⟩) fun _ _ _ => holds
  have keeps : KeepsChat property (saveIdentity wire) := keepsChat_saveIdentity reads
  have saves := (keeps { chat with role } holds).and
    ((keeps_context chat.context { chat with role } rfl).and
      (keeps_now chat.database.now { chat with role } rfl))
  exact saves.mono (fun _ _ => id) fun _ _ => And.left

theorem frameId_eq (existing : Option String) {text : String} {message : RatchetMessage P}
    {messageBytes : Bytes} (run : ((PairingChatRole.encrypt text).run chat.role).1 = .ok message)
    (serialized : wire.ratchetMessage.serialize message = some messageBytes) :
    frameId wire chat text existing = some (existing.getD (chatMessageId P
      chat.context.conversationId .sent (some message.number) messageBytes)) := by
  simp only [frameId, run, serialized, Option.map_some]

/-- A frame is recorded under its id. -/
theorem prepareFrame_effect (reads : ReadsConversations property)
    (holds : property chat.database.storage) {remoteDisplayName text : String}
    {existing : Option String}
    (admits : ∀ messageId, frameId wire chat text existing = some messageId →
      ∀ storage row, property storage → row.IsSent messageId text →
        property (storage.withMessage row)) :
    (prepareFrame wire remoteDisplayName text existing).Ensures chat
      (fun prepared after => property after.database.storage ∧ after.context = chat.context ∧
        frameId wire chat text existing = some prepared.1)
      (fun _ after => property after.database.storage) := by
  rw [prepareFrame, ensures_bind]
  refine (encrypt_saveIdentity_effect wire reads holds text).mono ?_ fun _ _ => id
  rintro message encrypted ⟨run, saves⟩
  rw [ensures_bind]
  refine saves.mono ?_ fun _ _ => id
  rintro _ saved ⟨savedHolds, sameContext, _⟩
  simp only [prepareOutgoingFrame, ensures_bind, ensures_get, ensures_okOr, ensures_pure]
  refine ⟨fun messageBytes serialized => ⟨fun bytes _ => ?_, fun _ => savedHolds⟩,
    fun _ => savedHolds⟩
  rw [sameContext]
  have named := frameId_eq existing run serialized
  rw [onStorage, onDatabase, ensures_focus, ensures_mapError]
  refine (keepsTables_persistSent (by rfl) (by rfl) (by rfl) (admits _ named) saved.database
    savedHolds).mono ?_ fun _ _ => id
  exact fun _ database persisted => ⟨persisted, sameContext, named⟩

/-- Over QUIC a line is recorded when it was written to the connection. -/
theorem sendChatLineWithId_effect (reads : ReadsConversations property)
    (holds : property chat.database.storage) {text : String} {existing : Option String}
    {outcome : SendOutcome}
    (admits : outcome = .sent → ∀ messageId, frameId wire chat text existing = some messageId →
      ∀ storage row, property storage → row.IsSent messageId text →
        property (storage.withMessage row)) :
    (sendChatLineWithId wire text existing outcome).Ensures chat
      (fun connected after => property after.database.storage ∧
        (connected = false → outcome = .peerDisconnected ∧
          after.database.now = chat.database.now))
      (fun _ after => property after.database.storage) := by
  rw [sendChatLineWithId, ensures_bind]
  refine (encrypt_saveIdentity_effect wire reads holds text).mono ?_ fun _ _ => id
  rintro message encrypted ⟨run, saves⟩
  rw [ensures_bind]
  refine saves.mono ?_ fun _ _ => id
  rintro _ saved ⟨savedHolds, sameContext, sameNow⟩
  simp only [ensures_bind, ensures_get, ensures_okOr, writeFrame, sendRequest, ensures_modify]
  refine ⟨fun messageBytes serialized => ⟨fun bytes _ => ?_, fun _ => savedHolds⟩,
    fun _ => savedHolds⟩
  cases outcome with
  | sent =>
      rw [sameContext]
      have named := frameId_eq existing run serialized
      rw [ensures_pure, if_pos rfl, ensures_bind, onStorage, onDatabase, ensures_focus,
        ensures_mapError]
      refine (keepsTables_persistSent (by rfl) (by rfl) (by rfl) (admits rfl _ named)
        saved.database savedHolds).mono ?_ fun _ _ => id
      exact fun _ database persisted => ⟨persisted, fun gone => absurd gone (by decide)⟩
  | peerDisconnected => exact ⟨savedHolds, fun _ => ⟨rfl, sameNow⟩⟩
  | failed => exact savedHolds

/-- A given id names the frame. -/
theorem eq_of_frameId_some {text existing messageId : String}
    (named : frameId wire chat text (some existing) = some messageId) : existing = messageId := by
  rw [frameId] at named
  split at named
  · cases named
  · obtain ⟨_, _, same⟩ := Option.map_eq_some_iff.mp named
    exact same

/-- Messages of the queue are recorded again under their ids. -/
theorem keepsChat_resend (kept : KeptByRetries property) {held : List PendingPeerMessage}
    (items : List PendingPeerMessage) (subset : items ⊆ held) :
    KeepsChat (fun storage => storage.Holds held ∧ property storage) (resend wire items) := by
  have both := (keptByRetries_holds held).and kept
  induction items with
  | nil => exact .pure ()
  | cons item items itemsIH =>
      obtain ⟨member, rest⟩ := List.cons_subset.mp subset
      refine .bind (keepsChat_onStorage (both.recordAttempt _)) fun _ => ?_
      intro chat holds
      rw [ensures_bind]
      refine (prepareFrame_effect both.reads holds fun messageId named storage row before sent =>
        ?_).mono ?_ fun _ _ => id
      · obtain rfl := eq_of_frameId_some named
        exact both.resent (before.1 item member) sent before
      · rintro ⟨_, bytes⟩ prepared ⟨preparedHolds, _⟩
        have sends : KeepsChat (fun storage => storage.Holds held ∧ property storage)
            (sendRequest bytes >>= fun _ => resend wire items) :=
          .bind (.modify fun _ => id) fun _ => itemsIH rest
        exact sends prepared preparedHolds

theorem keepsChat_sendPending (kept : KeptByRetries property) :
    KeepsChat property (sendPending wire) := by
  intro chat holds
  simp only [sendPending, onStorage, onDatabase, ensures_bind, ensures_get, ensures_focus,
    ensures_mapError]
  apply Database.ensures_query
  · exact holds
  · have queued : chat.database.storage.Holds
        (Storage.pendingFor chat.context.conversationId chat.database.storage) :=
      fun item member => ⟨item, (Table.mem_select.mp member).1, rfl, rfl⟩
    exact (keepsChat_resend kept _ (List.Subset.refl _)
      { chat with database := chat.database.advance chat.database.storage } ⟨queued, holds⟩).mono
        (fun _ _ => And.right) fun _ _ => And.right

theorem keepsChat_connected (kept : KeptByRetries property) :
    KeepsChat property (connected wire) := by
  refine .bind .get fun chat => ?_
  split
  · exact .bind (.modify fun _ => id) fun _ => keepsChat_sendPending kept
  · exact .pure ()

/-- Sending the pending messages of a flush records nothing. -/
theorem keepsChat_attempt (kept : KeptByRetries property) :
    (items : List PendingPeerMessage) → KeepsChat property (attempt wire items)
  | [] => .pure []
  | item :: _ => by
      refine .bind ?_ fun _ => .pure _
      refine .bind (keepsChat_onStorage (kept.recordAttempt _)) fun _ => ?_
      refine .bind (keepsChat_onRole _) fun message => ?_
      exact .bind (keepsChat_saveIdentity kept.reads) fun _ => .bind .get fun _ =>
        keepsChat_sendChatFrame _

theorem keepsChat_startFlush (kept : KeptByRetries property) :
    KeepsChat property (startFlush wire) :=
  .bind .get fun _ => .bind (keepsChat_onStorage (keepsTables_pendingPeerId _)) fun _ =>
    .bind (keepsChat_onStorage (Database.keeps_query _)) fun pending =>
      keepsChat_attempt kept pending

/-! ### Typed lines -/

/-- The tables after a line was queued for the known peer of the conversation, as far as
that went. -/
def LineQueued (P : Primitives) (storage : Storage) (now : UInt64)
    (conversationId line : String) (random : Bytes) (after : Storage) : Prop :=
  SameConversations storage after ∨
    ∃ peer pending, storage.knownPeerFor P conversationId = some peer ∧
      pending.messageId = pendingPeerMessageId P peer.peerId line now random ∧
      pending.plaintext = line ∧
      (SameConversations (storage.withPending pending) after ∨
        ∃ row : MessageRecord, row.IsSent pending.messageId line ∧
          SameConversations ((storage.withPending pending).withMessage row) after)

theorem LineQueued.contains {storage after : Storage} {now : UInt64}
    {conversationId line messageId : String} {random : Bytes}
    (queued : LineQueued P storage now conversationId line random after)
    (present : storage.messages.Contains messageId) : after.messages.Contains messageId := by
  rcases queued with same | ⟨_, _, _, _, _, same | ⟨row, _, same⟩⟩
  · rwa [same.messages]
  · rw [same.messages]
    exact present
  · rw [same.messages]
    exact present.insertOrIgnore row

theorem queueMessage_effect {storage : Storage} {database : Database}
    (same : SameConversations storage database.storage) (conversationId line : String)
    (random : Bytes) :
    (queueMessageAfterPeerDisconnect P conversationId line random).Ensures database
      (fun _ after => LineQueued P storage database.now conversationId line random after.storage)
      (fun _ after =>
        LineQueued P storage database.now conversationId line random after.storage) := by
  rw [queueMessageAfterPeerDisconnect, ensures_bind]
  refine (loadKnownPeer_ensures database conversationId).mono ?_ fun _ after unchanged =>
    .inl (by rwa [unchanged.2])
  rintro peer loaded ⟨rfl, unchanged, sameNow⟩
  have found := same.knownPeerFor (P := P) conversationId
  cases known : database.storage.knownPeerFor P conversationId with
  | none => exact .inl (by rwa [unchanged])
  | some peer =>
      rw [known] at found
      simp only [queueOfflinePeerMessage, ensures_bind, Database.ensures_nowUnixSecs, sameNow]
      rw [← unchanged] at same
      apply Database.ensures_execute
      · exact .inl same
      · have queued := same.withPending
          ⟨pendingPeerMessageId P peer.peerId line database.now random, peer.peerId,
            peer.conversationId, line, database.now, 0, none⟩
        apply Database.ensures_execute
        · exact .inr ⟨peer, _, found.symm, rfl, rfl, .inl queued⟩
        · exact .inr ⟨peer, _, found.symm, rfl, rfl,
            .inr ⟨_, ⟨rfl, rfl, rfl⟩, queued.withMessage _⟩⟩

/-- A line typed into the paired chat. -/
theorem submit_effect (reads : ReadsConversations property)
    (holds : property chat.database.storage) {line : String} {random : Bytes}
    (sends : isChatBackCommand line = false → chat.online = true → line ≠ "" → ∀ messageId,
      frameId wire chat line none = some messageId →
        (∀ storage row, property storage → row.IsSent messageId line →
          property (storage.withMessage row)) ∧
        ∀ storage pending, property storage → pending.messageId = messageId →
          pending.plaintext = line → property (storage.withPending pending))
    (queues : isChatBackCommand line = false → chat.online = false → line ≠ "" → ∀ after,
      LineQueued P chat.database.storage chat.database.now chat.context.conversationId line
        random after → property after) :
    (submit wire line random).Ensures chat (fun _ after => property after.database.storage)
      (fun _ after => property after.database.storage) := by
  simp only [submit, ensures_bind, ensures_get, ensures_ite, ensures_pure]
  refine ⟨fun _ => holds, fun typed => ⟨fun _ => holds, fun nonempty => ⟨?_, ?_⟩⟩⟩
  · intro offline
    simp only [Bool.not_eq_true', Bool.not_eq_true] at offline typed
    rw [onStorage, onDatabase, ensures_focus, ensures_mapError]
    exact (queueMessage_effect (.refl _) _ line random).mono
      (fun _ _ => queues typed offline nonempty _) fun _ _ => queues typed offline nonempty _
  · intro online
    simp only [Bool.not_eq_true', Bool.not_eq_false, Bool.not_eq_true] at online typed
    have admits := sends typed online nonempty
    refine (prepareFrame_effect reads holds fun messageId named =>
      (admits messageId named).1).mono ?_ fun _ _ => id
    rintro ⟨messageId, bytes⟩ prepared ⟨preparedHolds, _, named⟩
    have tracks : KeepsTables property
        (trackPendingChatDelivery P chat.context.conversationId messageId line) :=
      .bind (keepsTables_pendingPeerId _) fun peerId => .bind Database.keeps_nowUnixSecs fun now =>
        Database.keeps_execute fun storage before =>
          (admits messageId named).2 storage _ before rfl rfl
    exact (keepsChat_onStorage tracks prepared preparedHolds).mono
      (fun _ tracked trackedHolds => trackedHolds) fun _ _ => id

/-- A line typed into the loop over QUIC. -/
theorem chatLoopLine_effect (reads : ReadsConversations property)
    (holds : property chat.database.storage) {line : String} {random : Bytes}
    {outcome : SendOutcome}
    (sends : isChatBackCommand line = false → chat.online = true → line ≠ "" →
      outcome = .sent → ∀ messageId, frameId wire chat line none = some messageId →
        ∀ storage row, property storage → row.IsSent messageId line →
          property (storage.withMessage row))
    (queues : isChatBackCommand line = false →
      (chat.online = true → line ≠ "" ∧ outcome = .peerDisconnected) → ∀ after,
        LineQueued P chat.database.storage chat.database.now chat.context.conversationId line
          random after → property after) :
    (chatLoopLine wire line random outcome).Ensures chat
      (fun _ after => property after.database.storage)
      (fun _ after => property after.database.storage) := by
  have queueing : ∀ before : PairingChat P,
      SameConversations chat.database.storage before.database.storage →
      before.database.now = chat.database.now → isChatBackCommand line = false →
      (chat.online = true → line ≠ "" ∧ outcome = .peerDisconnected) →
      (onStorage (queueMessageAfterPeerDisconnect P chat.context.conversationId line random) >>=
        fun _ => pure true).Ensures before (fun _ after => property after.database.storage)
          (fun _ after => property after.database.storage) := by
    intro before same sameNow typed offline
    rw [ensures_bind, onStorage, onDatabase, ensures_focus, ensures_mapError]
    have queued := queueMessage_effect (P := P) same chat.context.conversationId line random
    rw [sameNow] at queued
    exact queued.mono (fun _ _ => queues typed offline _) fun _ _ => queues typed offline _
  rw [chatLoopLine, ensures_bind, ensures_get]
  simp only [ensures_ite, ensures_pure]
  refine ⟨fun _ => holds, fun typed => ⟨fun online => ?_, fun offline => ?_⟩⟩
  · rw [Bool.not_eq_true] at typed
    rw [sendChatLine, ensures_bind, ensures_ite]
    refine ⟨fun _ => holds, fun nonempty => ?_⟩
    by_cases delivered : outcome = .sent
    · refine (sendChatLineWithId_effect reads holds fun sent messageId named =>
        sends typed online nonempty sent messageId named).mono ?_ fun _ _ => id
      rintro connected after ⟨afterHolds, disconnection⟩
      cases connected with
      | true => exact afterHolds
      | false => rw [delivered] at disconnection; cases (disconnection rfl).1
    · refine (sendChatLineWithId_effect (readsConversations_same chat.database.storage)
        (.refl _) fun sent => absurd sent delivered).mono ?_ fun _ after same => reads same holds
      rintro connected after ⟨same, disconnection⟩
      cases connected with
      | true => exact reads same holds
      | false =>
          obtain ⟨lost, sameNow⟩ := disconnection rfl
          exact queueing { after with online := false } same sameNow typed fun _ =>
            ⟨nonempty, lost⟩
  · rw [Bool.not_eq_true] at typed
    exact queueing chat (.refl _) rfl typed fun online => absurd online offline

end

end PairingChat

end CipherMesh
