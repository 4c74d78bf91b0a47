import CipherMesh.Chat.PairedChat

/-!
# Sound histories

What every call of one endpoint keeps: the pending queue holds lines that were typed
here, and a row with an id of the peer holds the line that was typed there.  An ideal
AEAD opens a ciphertext to what was sealed in it, whichever session opens it, so the
property survives restarts with other sessions.
-/

namespace CipherMesh

open Foundation
open Foundation.Mutation

variable {P : Primitives}

/-! ## Sealed texts -/

/-- The ciphertext was sealed from the text. -/
def SealedFrom (ciphertext : P.Ciphertext) (text : String) : Prop :=
  ∃ key nonce aad, P.aeadSeal key nonce aad (.ofText text) = some ciphertext

/-- The ciphertext can be opened to the text. -/
def OpensTo (ciphertext : P.Ciphertext) (text : String) : Prop :=
  ∃ key nonce aad, P.aeadOpen key nonce aad ciphertext = some (.ofText text)

theorem SealedFrom.text_eq (ideal : P.AeadIdeal) {ciphertext : P.Ciphertext}
    {text opened : String} (sealed : SealedFrom ciphertext text)
    (opens : OpensTo ciphertext opened) : opened = text := by
  obtain ⟨_, _, _, sealed⟩ := sealed
  obtain ⟨_, _, _, opens⟩ := opens
  obtain ⟨_, _, _, same⟩ := ideal.seal_injective (ideal.seal_of_opened opens) sealed
  exact Bytes.ofText_injective same

namespace RatchetSession

theorem encrypt_sealed (session : RatchetSession P) (text : String) :
    (encrypt text).Ensures session (fun message _ => SealedFrom message.ciphertext text)
      (fun _ _ => True) := by
  simp only [Ensures, run_encrypt]
  cases sealed : session.sealNext text with
  | none => trivial
  | some ciphertext => exact ⟨_, _, _, sealed⟩

/-- Whatever `decrypt` returns it opened from the ciphertext. -/
theorem decrypt_opens (session : RatchetSession P) (message : RatchetMessage P) :
    (decrypt message).Ensures session
      (fun text _ => OpensTo message.ciphertext text)
      (fun _ _ => True) := by
  have body : (decryptBody message).Ensures (session.entered message.ratchetPublicKey)
      (fun text _ => OpensTo message.ciphertext text)
      (fun _ _ => True) := by
    simp only [decryptBody, openMessage, ensures_bind, ensures_get, ensures_ite, ensures_fail,
      ensures_okOr, ensures_modify]
    refine ⟨fun _ => trivial, fun _ => ?_⟩
    refine Ensures.trivial.mono (fun key _ _ => ?_) fun _ _ _ => trivial
    refine ⟨fun plaintext opened => ?_, fun _ => trivial⟩
    refine ⟨fun text decoded => ?_, fun _ => trivial⟩
    rw [← Bytes.ofText_of_toText decoded] at opened
    exact ⟨_, _, _, opened⟩
  unfold Ensures at body ⊢
  rwa [run_decrypt]

end RatchetSession

theorem Bob.decryptFromAlice_opens (bob : Bob P) (message : RatchetMessage P) :
    (decryptFromAlice message).Ensures bob (fun text _ => OpensTo message.ciphertext text)
      (fun _ _ => True) := by
  rw [decryptFromAlice, onSession]
  exact ensures_focusSome fun session => session.decrypt_opens message

namespace PairingChatRole

variable {role : PairingChatRole P}

/-- What both actors ensure of their session call the role ensures. -/
theorem onActor_ensures {Result : Type} {asAlice : Mutation (Alice P) CryptoError Result}
    {asBob : Mutation (Bob P) CryptoError Result} {returned : Result → Prop}
    (alice : ∀ actor, asAlice.Ensures actor (fun result _ => returned result) fun _ _ => True)
    (bob : ∀ actor, asBob.Ensures actor (fun result _ => returned result) fun _ _ => True) :
    (onActor asAlice asBob).Ensures role (fun result _ => returned result)
      (fun _ _ => True) := by
  cases role with
  | alice actor =>
      have ensures := alice actor
      unfold Ensures at ensures ⊢
      simp only [Mutation.run, onActor] at ensures ⊢
      rcases outcome : asAlice actor with ⟨error | value, reached⟩ <;> simp_all
  | bob actor =>
      have ensures := bob actor
      unfold Ensures at ensures ⊢
      simp only [Mutation.run, onActor] at ensures ⊢
      rcases outcome : asBob actor with ⟨error | value, reached⟩ <;> simp_all

theorem encrypt_sealed (role : PairingChatRole P) (text : String) :
    (encrypt text).Ensures role (fun message _ => SealedFrom message.ciphertext text)
      (fun _ _ => True) := by
  apply onActor_ensures
  · intro actor
    rw [Alice.encryptForBob, Alice.onSession]
    exact ensures_focusSome fun session => RatchetSession.encrypt_sealed session text
  · intro actor
    rw [Bob.encryptForAlice, Bob.onSession]
    exact ensures_focusSome fun session => RatchetSession.encrypt_sealed session text

theorem decrypt_opens (role : PairingChatRole P) (message : RatchetMessage P) :
    (decrypt message).Ensures role
      (fun text _ => OpensTo message.ciphertext text)
      (fun _ _ => True) := by
  apply onActor_ensures
  · intro actor
    rw [Alice.decryptFromBob, Alice.onSession]
    exact ensures_focusSome fun session => RatchetSession.decrypt_opens session message
  · exact fun actor => actor.decryptFromAlice_opens message

end PairingChatRole

/-! ## Stored messages -/

/-- The tables of an endpoint where `mine` was typed and at whose peer `theirs` was
typed: pending rows hold lines of `mine`, a row with an id of `theirs` is a received one
with the typed text, and the ids in `known` have a row. -/
structure StoredSoundly (mine theirs : String → String → Prop) (known : String → Prop)
    (storage : Storage) : Prop where
  pending : ∀ row ∈ storage.pendingPeerMessages, mine row.messageId row.plaintext
  messages : ∀ row ∈ storage.messages, ∀ text, theirs row.messageId text →
    row.direction = .received ∧ row.plaintext = some text
  known : ∀ messageId, known messageId → storage.messages.Contains messageId

/-- No id was typed on both sides. -/
def Apart (mine theirs : String → String → Prop) : Prop :=
  ∀ ⦃messageId text other⦄, mine messageId text → ¬ theirs messageId other

namespace StoredSoundly

variable {mine theirs : String → String → Prop} {known : String → Prop} {storage : Storage}

theorem weaken (sound : StoredSoundly mine theirs known storage) {fewer : String → Prop}
    (weaker : ∀ messageId, fewer messageId → known messageId) :
    StoredSoundly mine theirs fewer storage :=
  ⟨sound.pending, sound.messages, fun messageId holds => sound.known messageId (weaker _ holds)⟩

/-- Statements that only touch other tables. -/
theorem congr (sound : StoredSoundly mine theirs known storage) {after : Storage}
    (messages : after.messages = storage.messages)
    (pending : after.pendingPeerMessages = storage.pendingPeerMessages) :
    StoredSoundly mine theirs known after where
  pending := pending ▸ sound.pending
  messages := messages ▸ sound.messages
  known := messages ▸ sound.known

theorem withMessage (sound : StoredSoundly mine theirs known storage) {row : MessageRecord}
    (valid : ∀ text, theirs row.messageId text →
      row.direction = .received ∧ row.plaintext = some text) :
    StoredSoundly mine theirs known (storage.withMessage row) where
  pending := sound.pending
  messages := by
    intro other member
    rcases Table.mem_insertOrIgnore.mp member with old | ⟨rfl, _⟩
    · exact sound.messages other old
    · exact valid
  known messageId present := (sound.known messageId present).insertOrIgnore row

/-- Updates of the history that keep the direction and the text. -/
theorem updateMessages (sound : StoredSoundly mine theirs known storage)
    {condition : MessageRecord → Bool} {change : MessageRecord → MessageRecord}
    (keepsKey : ∀ row, (change row).messageId = row.messageId)
    (keeps : ∀ row, (change row).direction = row.direction ∧
      (change row).plaintext = row.plaintext) :
    StoredSoundly mine theirs known
      { storage with messages := storage.messages.update condition change keepsKey } where
  pending := sound.pending
  messages := by
    apply Table.forall_mem_update keepsKey sound.messages
    intro row holds text typed
    rw [keepsKey] at typed
    rw [(keeps row).1, (keeps row).2]
    exact holds text typed
  known messageId present := (Table.contains_update keepsKey).mpr (sound.known messageId present)

/-- Updates of the queue that keep the text. -/
theorem updatePending (sound : StoredSoundly mine theirs known storage)
    {condition : PendingPeerMessage → Bool} {change : PendingPeerMessage → PendingPeerMessage}
    (keepsKey : ∀ row, (change row).messageId = row.messageId)
    (keeps : ∀ row, (change row).plaintext = row.plaintext) :
    StoredSoundly mine theirs known
      { storage with
        pendingPeerMessages :=
          storage.pendingPeerMessages.update condition change keepsKey } where
  pending := by
    apply Table.forall_mem_update keepsKey sound.pending
    intro row holds
    rwa [keepsKey, keeps]
  messages := sound.messages
  known := sound.known

end StoredSoundly

/-! ## The storage methods -/

section

variable {mine theirs : String → String → Prop} {known : String → Prop}

/-- The property of a connection that the calls of an endpoint keep. -/
def SoundDatabase (mine theirs : String → String → Prop) (known : String → Prop)
    (database : Database) : Prop :=
  StoredSoundly mine theirs known database.storage

/-- Statements on other tables. -/
theorem keeps_frame {write : Storage → Storage}
    (messages : ∀ storage, (write storage).messages = storage.messages)
    (pending : ∀ storage, (write storage).pendingPeerMessages = storage.pendingPeerMessages) :
    Keeps (SoundDatabase mine theirs known) (Database.execute write) :=
  Database.keeps_execute fun storage sound => sound.congr (messages storage) (pending storage)

theorem keeps_saveLocalIdentity (id role : String) (state : Bytes) :
    Keeps (SoundDatabase mine theirs known) (Database.saveLocalIdentity id role state) :=
  .bind Database.keeps_nowUnixSecs fun _ => keeps_frame (fun _ => rfl) fun _ => rfl

/-- Afterwards the row of the message is known. -/
theorem persistChatMessage_ensures {database : Database}
    (sound : SoundDatabase mine theirs known database) {entry : ChatHistoryEntry}
    {messageId : String} (named : entry.messageId = some messageId)
    (valid : ∀ text, theirs messageId text → entry.direction = .received ∧ entry.plaintext = text) :
    (persistChatMessage P entry).Ensures database
      (fun _ => SoundDatabase mine theirs fun other => known other ∨ other = messageId)
      (fun _ => SoundDatabase mine theirs known) := by
  simp only [persistChatMessage, ensures_bind, Database.ensures_nowUnixSecs]
  have sameId : (entry.record P database.now).messageId = messageId := by
    simp [ChatHistoryEntry.record, named]
  have stored : StoredSoundly mine theirs known
      (database.storage.withMessage (entry.record P database.now)) := by
    refine StoredSoundly.withMessage sound fun text typed => ?_
    rw [sameId] at typed
    obtain ⟨direction, rfl⟩ := valid text typed
    exact ⟨direction, rfl⟩
  apply Database.ensures_execute sound
  refine ⟨stored.pending, stored.messages, ?_⟩
  rintro other (before | rfl)
  · exact stored.known other before
  · exact sameId ▸ Table.contains_insertOrIgnore _ _

theorem keeps_persistChatMessage {entry : ChatHistoryEntry} {messageId : String}
    (named : entry.messageId = some messageId)
    (valid : ∀ text, theirs messageId text → entry.direction = .received ∧ entry.plaintext = text) :
    Keeps (SoundDatabase mine theirs known) (persistChatMessage P entry) :=
  fun _ sound => (persistChatMessage_ensures sound named valid).mono
    (fun _ _ after => StoredSoundly.weaken after fun _ => .inl) fun _ _ => id

theorem keeps_queuePendingPeerMessage {row : PendingPeerMessage}
    (typed : mine row.messageId row.plaintext) :
    Keeps (SoundDatabase mine theirs known) (Database.queuePendingPeerMessage row) := by
  refine Database.keeps_execute fun storage sound => ⟨?_, sound.messages, sound.known⟩
  intro other member
  rcases Table.mem_insertOrIgnore.mp member with old | ⟨rfl, _⟩
  · exact sound.pending other old
  · exact typed

theorem keeps_recordPendingPeerMessageAttempt (messageId : String) :
    Keeps (SoundDatabase mine theirs known)
      (Database.recordPendingPeerMessageAttempt messageId) :=
  .bind Database.keeps_nowUnixSecs fun _ => Database.keeps_execute fun _ sound =>
    sound.updatePending _ fun _ => rfl

theorem keeps_acceptMessageOnce (messageId : String) :
    Keeps (SoundDatabase mine theirs known) (Database.acceptMessageOnce messageId) := by
  refine .bind Database.keeps_nowUnixSecs fun _ => Database.keeps_statement ?_
  rintro storage accepted after sound ⟨⟩
  exact sound.congr rfl rfl

theorem keeps_markDeliveredIfPending (messageId : String) :
    Keeps (SoundDatabase mine theirs known) (markDeliveredIfPending messageId) := by
  refine .bind (Database.keeps_execute fun storage sound => ?_) fun _ =>
    Database.keeps_execute fun storage sound => sound.updateMessages _ fun _ => ⟨rfl, rfl⟩
  exact ⟨fun row member => sound.pending row (Table.mem_delete.mp member).1, sound.messages,
    sound.known⟩

theorem keeps_saveContactForChat (contactId displayName : String) (identityPublicKey : Bytes)
    (discoveryHint : String) :
    Keeps (SoundDatabase mine theirs known)
      (saveContactForChat P contactId displayName identityPublicKey discoveryHint) := by
  have merges : ∀ oldContactId newContactId, Keeps (SoundDatabase mine theirs known)
      (Database.mergeContactInto oldContactId newContactId) := by
    intro oldContactId newContactId
    apply Database.keeps_mergeContactInto
    · exact fun _ sound => sound.updateMessages _ fun _ => ⟨rfl, rfl⟩
    · exact fun _ sound => sound.updatePending _ fun _ => rfl
    · exact fun _ _ _ _ sound => sound.congr rfl rfl
    · exact fun _ sound => sound.congr rfl rfl
    · exact fun _ sound => sound.congr rfl rfl
  apply saveContactForChat_keeps
  · exact fun _ _ sound => sound.congr rfl rfl
  · exact fun _ => merges _ _
  · exact fun _ _ _ sound => sound.congr rfl rfl

/-- Looking up the peer changes nothing, and fails only with its statements. -/
theorem loadKnownPeer_ensures (database : Database) (conversationId : String) :
    (loadKnownPeerForConversation P conversationId).Ensures database
      (fun peer after => peer = database.storage.knownPeerFor P conversationId ∧
        after.storage = database.storage ∧ after.now = database.now)
      (fun error after => error = .interrupted ∧ after.storage = database.storage) := by
  simp only [loadKnownPeerForConversation, Database.knownPeerForConversation, ensures_bind]
  apply Database.ensures_query
  · exact ⟨rfl, rfl⟩
  · rw [Storage.knownPeerFor]
    cases database.storage.knownPeers.rows.find? fun peer =>
        peer.conversationId = conversationId with
    | some peer => exact ⟨rfl, rfl, rfl⟩
    | none =>
        simp only [Database.loadContact, ensures_bind]
        apply Database.ensures_query
        · exact ⟨rfl, rfl⟩
        · rw [Database.advance_storage]
          cases database.storage.contacts.find conversationId with
          | none => exact ⟨rfl, rfl, rfl⟩
          | some contact =>
              dsimp only
              split
              · exact ⟨rfl, rfl, rfl⟩
              · exact ⟨rfl, rfl, rfl⟩

theorem keeps_loadKnownPeer {property : Storage → Prop} (conversationId : String) :
    Keeps (fun database : Database => property database.storage)
      (loadKnownPeerForConversation P conversationId) := by
  intro database holds
  refine (loadKnownPeer_ensures database conversationId).mono ?_ ?_
  · rintro _ after ⟨_, same, _⟩
    rwa [same]
  · rintro _ after ⟨_, same⟩
    rwa [same]

theorem keeps_trackPendingChatDelivery {conversationId messageId plaintext : String}
    (typed : mine messageId plaintext) :
    Keeps (SoundDatabase mine theirs known)
      (trackPendingChatDelivery P conversationId messageId plaintext) :=
  .bind (.bind (keeps_loadKnownPeer conversationId) fun _ => .pure _) fun _ =>
    .bind Database.keeps_nowUnixSecs fun _ => keeps_queuePendingPeerMessage typed

/-- A line typed while the peer is offline is queued under its assigned id. -/
theorem queueMessage_ensures {database : Database} {conversationId line : String}
    {random : Bytes} (sound : SoundDatabase mine theirs known database)
    (apart : Apart mine theirs)
    (typed : ∀ peer, database.storage.knownPeerFor P conversationId = some peer →
      mine (pendingPeerMessageId P peer.peerId line database.now random) line) :
    (queueMessageAfterPeerDisconnect P conversationId line random).Ensures database
      (fun _ => SoundDatabase mine theirs known) (fun _ => SoundDatabase mine theirs known) := by
  simp only [queueMessageAfterPeerDisconnect, ensures_bind]
  refine (loadKnownPeer_ensures database conversationId).mono ?_ ?_
  · rintro peer after ⟨rfl, same, sameClock⟩
    have afterSound : SoundDatabase mine theirs known after := by rwa [SoundDatabase, same]
    cases found : database.storage.knownPeerFor P conversationId with
    | none => exact afterSound
    | some peer =>
        simp only [queueOfflinePeerMessage, ensures_bind, Database.ensures_nowUnixSecs, sameClock]
        refine (keeps_queuePendingPeerMessage (typed peer found) after afterSound).mono ?_
          fun _ _ => id
        intro _ queued queuedSound
        refine Database.keeps_execute (fun storage sound => ?_) queued queuedSound
        exact sound.withMessage fun text typedThere => absurd typedThere (apart (typed peer found))
  · rintro _ after ⟨_, same⟩
    rwa [SoundDatabase, same]

/-! ## The calls of an endpoint -/

/-- The frame carries a line of `mine` under its id. -/
def Carries (wire : Wire P) (mine : String → String → Prop) (bytes : Bytes) : Prop :=
  ∃ messageId senderDisplayName message text,
    wire.chatFrame.deserialize bytes = some (.message messageId senderDisplayName message) ∧
      mine messageId text ∧ SealedFrom message.ciphertext text

theorem Carries.mono {wire : Wire P} {more : String → String → Prop} {bytes : Bytes}
    (carries : Carries wire mine bytes)
    (weaker : ∀ messageId text, mine messageId text → more messageId text) :
    Carries wire more bytes := by
  obtain ⟨messageId, senderDisplayName, message, text, parsed, typed, sealed⟩ := carries
  exact ⟨messageId, senderDisplayName, message, text, parsed, weaker _ _ typed, sealed⟩

structure SoundChat (wire : Wire P) (mine theirs : String → String → Prop)
    (known : String → Prop) (chat : PairingChat P) : Prop where
  database : SoundDatabase mine theirs known chat.database
  requests : ∀ bytes ∈ chat.requests, Carries wire mine bytes

theorem SoundChat.weaken {wire : Wire P} {chat : PairingChat P} {added : String → Prop}
    (sound : SoundChat wire mine theirs (fun other => known other ∨ added other) chat) :
    SoundChat wire mine theirs known chat :=
  ⟨StoredSoundly.weaken sound.database fun _ => .inl, sound.requests⟩

namespace PairingChat

variable {wire : Wire P} {chat : PairingChat P}

theorem keeps_onDatabase {Result : Type} {method : Mutation Database AppError Result}
    (keeps : Keeps (SoundDatabase mine theirs known) method) :
    Keeps (SoundChat wire mine theirs known) (onDatabase method) :=
  .focus (fun _ => SoundDatabase mine theirs known) (fun _ sound => sound.database)
    (fun _ _ sound database => ⟨database, sound.requests⟩) fun _ _ => keeps

theorem keeps_onStorage {Result : Type} {method : StorageResult Result}
    (keeps : Keeps (SoundDatabase mine theirs known) method) :
    Keeps (SoundChat wire mine theirs known) (onStorage method) :=
  keeps_onDatabase (.mapError keeps)

theorem keeps_saveIdentity : Keeps (SoundChat wire mine theirs known) (saveIdentity wire) := by
  refine .bind .get fun chat => keeps_onDatabase ?_
  cases chat.role with
  | alice actor => exact .bind (.okOr _ _) fun _ => .mapError (keeps_saveLocalIdentity _ _ _)
  | bob actor => exact .bind (.okOr _ _) fun _ => .mapError (keeps_saveLocalIdentity _ _ _)

/-- Encrypting seals the text and leaves the context. -/
theorem onRole_encrypt_ensures (sound : SoundChat wire mine theirs known chat) (text : String) :
    (onRole (PairingChatRole.encrypt text)).Ensures chat
      (fun message after => SoundChat wire mine theirs known after ∧
        after.context = chat.context ∧ SealedFrom message.ciphertext text ∧
        ((PairingChatRole.encrypt text).run chat.role).1 = .ok message)
      (fun _ => SoundChat wire mine theirs known) := by
  rw [onRole, ensures_mapError, ensures_focus]
  refine ((PairingChatRole.encrypt_sealed chat.role text).and .run).mono ?_ ?_
  · rintro message _ ⟨sealed, run⟩
    exact ⟨⟨sound.database, sound.requests⟩, rfl, sealed, congrArg Prod.fst run⟩
  · exact fun _ _ _ => ⟨sound.database, sound.requests⟩

theorem onRole_decrypt_ensures (sound : SoundChat wire mine theirs known chat)
    (message : RatchetMessage P) :
    (onRole (PairingChatRole.decrypt message)).Ensures chat
      (fun text after => SoundChat wire mine theirs known after ∧
        OpensTo message.ciphertext text)
      (fun _ => SoundChat wire mine theirs known) := by
  rw [onRole, ensures_mapError, ensures_focus]
  refine (PairingChatRole.decrypt_opens chat.role message).mono ?_ ?_
  · exact fun text _ opens => ⟨⟨sound.database, sound.requests⟩, opens⟩
  · exact fun _ _ _ => ⟨sound.database, sound.requests⟩

theorem keeps_context (context : PairingChatContext) :
    Keeps (fun chat => chat.context = context) (saveIdentity wire) :=
  .bind .get fun _ => .focus (fun _ _ => True) (fun _ _ => trivial) (fun _ _ same _ => same)
    fun _ _ _ _ => .trivial

/-- A frame is recorded under the given id or else under its hash. -/
theorem prepareOutgoingFrame_ensures (frames : wire.chatFrame.RoundTrip)
    (apart : Apart mine theirs)
    (sound : SoundChat wire mine theirs known chat) {message : RatchetMessage P}
    {remoteDisplayName text : String} {existing : Option String}
    (sealed : SealedFrom message.ciphertext text)
    (typed : ∀ bytes, wire.ratchetMessage.serialize message = some bytes →
      mine (existing.getD (chatMessageId P chat.context.conversationId .sent
        (some message.number) bytes)) text) :
    (prepareOutgoingFrame wire message remoteDisplayName text existing).Ensures chat
      (fun prepared after => SoundChat wire mine theirs known after ∧
        mine prepared.1 text ∧ Carries wire mine prepared.2)
      (fun _ => SoundChat wire mine theirs known) := by
  simp only [prepareOutgoingFrame, ensures_bind, ensures_get, ensures_okOr, ensures_pure]
  refine ⟨fun messageBytes serialized => ⟨fun bytes framed => ?_, fun _ => sound⟩, fun _ => sound⟩
  have typedHere := typed messageBytes serialized
  refine (keeps_onStorage (keeps_persistChatMessage (by rfl) fun other there =>
    absurd there (apart typedHere)) chat sound).mono ?_ fun _ _ => id
  exact fun _ after afterSound =>
    ⟨afterSound, typedHere, _, _, _, _, frames framed, typedHere, sealed⟩

theorem prepareFrame_ensures (frames : wire.chatFrame.RoundTrip)
    (apart : Apart mine theirs)
    (sound : SoundChat wire mine theirs known chat) {remoteDisplayName text : String}
    {existing : Option String}
    (typed : ∀ message bytes, ((PairingChatRole.encrypt text).run chat.role).1 = .ok message →
      wire.ratchetMessage.serialize message = some bytes →
      mine (existing.getD (chatMessageId P chat.context.conversationId .sent
        (some message.number) bytes)) text) :
    (prepareFrame wire remoteDisplayName text existing).Ensures chat
      (fun prepared after => SoundChat wire mine theirs known after ∧
        mine prepared.1 text ∧ Carries wire mine prepared.2)
      (fun _ => SoundChat wire mine theirs known) := by
  simp only [prepareFrame, ensures_bind]
  refine (onRole_encrypt_ensures sound text).mono ?_ fun _ _ => id
  rintro message encrypted ⟨encryptedSound, sameContext, sealed, run⟩
  refine ((keeps_saveIdentity encrypted encryptedSound).and
    (keeps_context chat.context encrypted sameContext)).mono ?_ fun _ _ => And.left
  rintro _ saved ⟨savedSound, sameContext⟩
  apply prepareOutgoingFrame_ensures frames apart savedSound sealed
  rw [sameContext]
  exact fun bytes => typed message bytes run

theorem sendRequest_ensures {frame : Bytes} (sound : SoundChat wire mine theirs known chat)
    (carries : Carries wire mine frame) :
    (sendRequest frame).Ensures chat (fun _ => SoundChat wire mine theirs known)
      (fun _ => SoundChat wire mine theirs known) := by
  refine ⟨sound.database, fun bytes member => ?_⟩
  rcases List.mem_append.mp member with old | new
  · exact sound.requests bytes old
  · rwa [List.mem_singleton.mp new]

/-- Every pending row is sent again under its id. -/
theorem keeps_resend (frames : wire.chatFrame.RoundTrip)
    (apart : Apart mine theirs)
    {items : List PendingPeerMessage} (typed : ∀ item ∈ items, mine item.messageId item.plaintext) :
    Keeps (SoundChat wire mine theirs known) (resend wire items) := by
  induction items with
  | nil => exact .pure ()
  | cons item items ih =>
      refine .bind (keeps_onStorage (keeps_recordPendingPeerMessageAttempt _)) fun _ => ?_
      intro chat sound
      rw [ensures_bind]
      refine (prepareFrame_ensures frames apart sound ?_).mono ?_ fun _ _ => id
      · exact fun _ _ _ _ => typed item List.mem_cons_self
      · rintro ⟨_, bytes⟩ prepared ⟨preparedSound, _, carries⟩
        rw [ensures_bind]
        refine (sendRequest_ensures preparedSound carries).mono ?_ fun _ _ => id
        exact fun _ => ih fun other member => typed other (List.mem_cons_of_mem item member)

theorem keeps_sendPending (frames : wire.chatFrame.RoundTrip)
    (apart : Apart mine theirs) :
    Keeps (SoundChat wire mine theirs known) (sendPending wire) := by
  intro chat sound
  simp only [sendPending, onStorage, onDatabase, ensures_bind, ensures_get, ensures_focus,
    ensures_mapError]
  apply Database.ensures_query
  · exact ⟨sound.database, sound.requests⟩
  · apply keeps_resend frames apart
    · intro item member
      exact sound.database.pending item (Table.mem_select.mp member).1
    · exact ⟨sound.database, sound.requests⟩

/-- A line is handled under its assigned id. -/
theorem submit_ensures (frames : wire.chatFrame.RoundTrip) (apart : Apart mine theirs)
    (sound : SoundChat wire mine theirs known chat) {line : String} {random : Bytes}
    (typed : ∀ messageId, chat.assignedId wire line random = some messageId →
      mine messageId line) :
    (submit wire line random).Ensures chat (fun _ => SoundChat wire mine theirs known)
      (fun _ => SoundChat wire mine theirs known) := by
  simp only [submit, ensures_bind, ensures_get, ensures_ite, ensures_pure]
  refine ⟨fun _ => sound, fun noCommand => ⟨fun _ => sound, fun nonempty => ⟨?_, ?_⟩⟩⟩
  · intro offline
    simp only [Bool.not_eq_true', Bool.not_eq_true] at offline noCommand
    rw [onStorage, onDatabase, ensures_focus, ensures_mapError]
    refine (queueMessage_ensures sound.database apart fun peer found => ?_).mono ?_ ?_
    · apply typed
      simp [assignedId, noCommand, nonempty, offline, found]
    · exact fun _ _ database => ⟨database, sound.requests⟩
    · exact fun _ _ database => ⟨database, sound.requests⟩
  · intro online
    simp only [Bool.not_eq_true', Bool.not_eq_false, Bool.not_eq_true] at online noCommand
    refine (prepareFrame_ensures frames apart sound
      fun message bytes encrypted serialized => ?_).mono ?_ fun _ _ => id
    · apply typed
      simp [assignedId, noCommand, nonempty, online, encrypted, serialized]
    · rintro ⟨messageId, bytes⟩ prepared ⟨preparedSound, typedHere, carries⟩
      refine (keeps_onStorage (keeps_trackPendingChatDelivery typedHere) prepared
        preparedSound).mono ?_ fun _ _ => id
      exact fun _ tracked trackedSound => sendRequest_ensures trackedSound carries

/-- What the message opens to is recorded under the id, and then its row is known. -/
theorem receiveMessage_ensures (sound : SoundChat wire mine theirs known chat) {bytes : Bytes}
    {messageId senderDisplayName : String} {message : RatchetMessage P}
    (reads : ∀ opened, OpensTo message.ciphertext opened →
      ∀ text, theirs messageId text → opened = text) :
    (receiveMessage wire bytes messageId senderDisplayName message).Ensures chat
      (fun _ => SoundChat wire mine theirs fun other => known other ∨ other = messageId)
      (fun _ => SoundChat wire mine theirs known) := by
  simp only [receiveMessage, recordReceived, ensures_bind]
  refine (onRole_decrypt_ensures sound message).mono ?_ fun _ _ => id
  rintro opened decrypted ⟨decryptedSound, opens⟩
  refine (keeps_saveIdentity decrypted decryptedSound).mono ?_ fun _ _ => id
  intro _ saved savedSound
  rw [ensures_get, onStorage, onDatabase, ensures_focus, ensures_mapError]
  refine (persistChatMessage_ensures savedSound.database rfl fun text typed =>
    ⟨rfl, reads opened opens text typed⟩).mono ?_ ?_
  · intro _ persisted persistedSound
    have stored : SoundChat wire mine theirs (fun other => known other ∨ other = messageId)
        { saved with database := persisted } := ⟨persistedSound, savedSound.requests⟩
    refine (keeps_onStorage (.bind (keeps_acceptMessageOnce _) fun _ => .pure ()) _ stored).mono
      ?_ fun _ _ => SoundChat.weaken
    exact fun _ accepted acceptedSound => (keeps_onStorage (keeps_frame (fun _ => rfl) fun _ => rfl)
      accepted acceptedSound).mono (fun _ _ => id) fun _ _ => SoundChat.weaken
  · exact fun _ _ database => ⟨database, savedSound.requests⟩

/-- The handler acknowledges the id of the frame, which then has its row. -/
theorem handleRequest_ensures (sound : SoundChat wire mine theirs known chat) {bytes : Bytes}
    {messageId senderDisplayName : String} {message : RatchetMessage P}
    (parsed : wire.chatFrame.deserialize bytes =
      some (.message messageId senderDisplayName message))
    (reads : ∀ opened, OpensTo message.ciphertext opened →
      ∀ text, theirs messageId text → opened = text) :
    (handleRequest wire bytes).Ensures chat
      (fun acknowledged after => acknowledged = some messageId ∧
        SoundChat wire mine theirs (fun other => known other ∨ other = messageId) after)
      (fun _ => SoundChat wire mine theirs known) := by
  simp only [handleRequest, parsed, ensures_bind, ensures_okOr_some, onStorage, onDatabase,
    ensures_focus, ensures_mapError, chatMessageAlreadySaved, Database.messageExists]
  have queried : SoundChat wire mine theirs known
      { chat with database := chat.database.advance chat.database.storage } :=
    ⟨sound.database, sound.requests⟩
  apply Database.ensures_query
  · exact queried
  · rw [ensures_ite]
    constructor
    · intro _
      rw [ensures_bind]
      exact (receiveMessage_ensures queried reads).mono (fun _ _ received => ⟨rfl, received⟩)
        fun _ _ => id
    · intro saved
      have present : chat.database.storage.messages.Contains messageId := by simpa using saved
      refine ⟨rfl, ⟨sound.database.pending, sound.database.messages, ?_⟩, sound.requests⟩
      rintro other (before | rfl)
      · exact sound.database.known other before
      · exact present

/-- A message that has its row is not stored again. -/
theorem handleRequest_duplicate {bytes : Bytes} {messageId senderDisplayName : String}
    {message : RatchetMessage P}
    (parsed : wire.chatFrame.deserialize bytes =
      some (.message messageId senderDisplayName message))
    (saved : chat.database.storage.messages.Contains messageId) :
    (handleRequest wire bytes).Ensures chat
      (fun _ after => after.database.storage = chat.database.storage)
      (fun _ after => after.database.storage = chat.database.storage) := by
  simp only [handleRequest, parsed, ensures_bind, ensures_okOr_some, onStorage, onDatabase,
    ensures_focus, ensures_mapError, chatMessageAlreadySaved, Database.messageExists]
  apply Database.ensures_query
  · rfl
  · simp only [saved, decide_true, Bool.not_true, Bool.false_eq_true, if_false, ensures_pure]
    rfl

theorem keeps_handleResponse (messageId : String) :
    Keeps (SoundChat wire mine theirs known) (handleResponse messageId) :=
  keeps_onStorage (keeps_markDeliveredIfPending messageId)

theorem keeps_connected (frames : wire.chatFrame.RoundTrip) (apart : Apart mine theirs) :
    Keeps (SoundChat wire mine theirs known) (connected wire) := by
  refine .bind .get fun chat => ?_
  split
  · exact .bind (.modify fun _ sound => ⟨sound.database, sound.requests⟩) fun _ =>
      keeps_sendPending frames apart
  · exact .pure ()

theorem keeps_disconnected : Keeps (SoundChat wire mine theirs known) disconnected :=
  .modify fun _ sound => ⟨sound.database, sound.requests⟩

end PairingChat

end

end CipherMesh
