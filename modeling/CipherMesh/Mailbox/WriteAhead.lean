import CipherMesh.Foundation.Moves
import CipherMesh.Link.Basic
import CipherMesh.Mailbox.Outbox

/-!
# The outbox is written ahead

Whatever statement fails and however often the process starts again: the state of Alice on
disk is past the number of every message that was queued, so no number is used for two of
them, and what Bob files is what was queued.
-/

namespace CipherMesh

open Foundation
open Foundation.Mutation

variable {P : Primitives}

/-- An item that was queued, with its text. -/
structure QueuedMessage where
  item : OutboxItem
  plaintext : String

/-- The item carries an envelope with its id, sealed for a number of the epoch. -/
structure QueuedMessage.Carries (wire : ReceiverWire P) (epoch : Epoch P)
    (queued : QueuedMessage) (envelope : DurableAppEnvelope P) : Prop where
  decoded : wire.appEnvelope.deserialize queued.item.payload = some envelope
  named : envelope.messageId = queued.item.messageId
  sealed : SealedIn epoch .alice envelope.message (.ofText queued.plaintext)

/-- Alice's next number is greater than that of every queued message. -/
def Alice.Ahead (wire : ReceiverWire P) (epoch : Epoch P) (queued : List QueuedMessage)
    (alice : Alice P) : Prop :=
  ∃ session, alice.session = some session ∧ session.role = .alice ∧ session.AtEpoch epoch ∧
    ∀ entry ∈ queued, ∀ envelope, wire.appEnvelope.deserialize entry.item.payload = some envelope →
      envelope.message.number < session.sendCount

/-- The queued messages have envelopes with different numbers. -/
structure Numbers (wire : ReceiverWire P) (epoch : Epoch P) (queued : List QueuedMessage) :
    Prop where
  carried : ∀ entry ∈ queued, ∃ envelope, entry.Carries wire epoch envelope
  different : queued.Pairwise fun first second => ∀ envelope other,
    first.Carries wire epoch envelope → second.Carries wire epoch other →
      envelope.message.number ≠ other.message.number

/-- The tables of both ends after the messages were queued. -/
structure Storage.HoldsQueued (wire : ReceiverWire P) (epoch : Epoch P)
    (queued : List QueuedMessage) (storage : Storage) : Prop where
  sender : ∃ row, storage.localIdentity.find "alice" = some row ∧
    ∃ state, wire.aliceState.deserialize row.state = some state ∧
      (Alice.fromState state).Ahead wire epoch queued
  outbox : ∀ row ∈ storage.outbox, ∃ entry ∈ queued,
    row.messageId = entry.item.messageId ∧ row.payload = entry.item.payload
  received : ∀ row ∈ storage.messages, row.direction = .received → ∃ entry ∈ queued,
    row.messageId = "bob-" ++ entry.item.messageId ∧ row.ciphertext = entry.item.payload ∧
      row.plaintext = some entry.plaintext
  delivered : ∀ row ∈ storage.outbox, row.status = .delivered →
    storage.acceptedMessages.Contains row.messageId

/-- Every pending item has one of the ids. -/
def Storage.PendingWithin (ids : List String) (storage : Storage) : Prop :=
  ∀ row ∈ storage.outbox, row.status = .pending → row.messageId ∈ ids

variable {wire : ReceiverWire P} {epoch : Epoch P} {queued : List QueuedMessage}

/-! ## Queueing -/

/-- What Alice encrypts has her next number and is sealed in her epoch. -/
theorem Alice.encryptForBob_ensures {alice : Alice P} (ahead : alice.Ahead wire epoch queued)
    (text : String) :
    (encryptForBob text).Ensures alice
      (fun message reached => SealedIn epoch .alice message (.ofText text) ∧
        (∀ entry ∈ queued, ∀ envelope,
          wire.appEnvelope.deserialize entry.item.payload = some envelope →
            envelope.message.number < message.number) ∧
        ∃ session, reached.session = some session ∧ session.role = .alice ∧
          session.AtEpoch epoch ∧ session.sendCount = message.number + 1)
      (fun _ reached => reached.Ahead wire epoch queued) := by
  obtain ⟨session, present, role, current, past⟩ := ahead
  rw [Ensures, encryptForBob, onSession, run_focusSome _ _ _ present]
  have encrypts := RatchetSession.run_encrypt session text
  cases sealed : session.sealNext text with
  | none =>
      rw [sealed] at encrypts
      rw [encrypts]
      exact ⟨session.sent, rfl, role, current.sent, fun entry member envelope decoded =>
        Nat.lt_succ_of_lt (past entry member envelope decoded)⟩
  | some ciphertext =>
      rw [sealed] at encrypts
      rw [encrypts]
      refine ⟨?_, past, session.sent, rfl, role, current.sent, rfl⟩
      rw [RatchetSession.sealNext, current.sendChainKey, role] at sealed
      exact sealed

theorem Alice.Ahead.queue {alice : Alice P} {session : RatchetSession P} {entry : QueuedMessage}
    {envelope : DurableAppEnvelope P} (present : alice.session = some session)
    (role : session.role = .alice) (current : session.AtEpoch epoch)
    (past : ∀ entry ∈ queued, ∀ envelope,
      wire.appEnvelope.deserialize entry.item.payload = some envelope →
        envelope.message.number < session.sendCount)
    (decoded : wire.appEnvelope.deserialize entry.item.payload = some envelope)
    (last : envelope.message.number < session.sendCount) :
    alice.Ahead wire epoch (queued ++ [entry]) := by
  refine ⟨session, present, role, current, fun other member otherEnvelope otherDecoded => ?_⟩
  rcases List.mem_append.mp member with old | new
  · exact past other old otherEnvelope otherDecoded
  · rw [List.mem_singleton.mp new, decoded] at otherDecoded
    exact Option.some.inj otherDecoded ▸ last

theorem Numbers.queue (numbers : Numbers wire epoch queued) {entry : QueuedMessage}
    {envelope : DurableAppEnvelope P} (carries : entry.Carries wire epoch envelope)
    (past : ∀ entry ∈ queued, ∀ other,
      wire.appEnvelope.deserialize entry.item.payload = some other →
        other.message.number < envelope.message.number) :
    Numbers wire epoch (queued ++ [entry]) where
  carried other member := by
    rcases List.mem_append.mp member with old | new
    · exact numbers.carried other old
    · exact List.mem_singleton.mp new ▸ ⟨envelope, carries⟩
  different := by
    refine List.pairwise_append.mpr ⟨numbers.different, List.pairwise_singleton _ _, ?_⟩
    intro first firstMember second secondMember firstEnvelope secondEnvelope firstCarries
      secondCarries
    rw [List.mem_singleton] at secondMember
    subst secondMember
    have same := Option.some.inj (secondCarries.decoded.symm.trans carries.decoded)
    rw [same]
    exact Nat.ne_of_lt (past first firstMember firstEnvelope firstCarries.decoded)

namespace Database

variable {database : Database}

theorem ensures_saveStateSessionMessageAndOutbox (localIdentityId localIdentityRole : String)
    (localIdentityState : Bytes) (conversationId peerId sessionRole : String)
    (sessionState : Bytes) (message : MessageRecord) (outbox : OutboxItem) :
    (saveStateSessionMessageAndOutbox localIdentityId localIdentityRole localIdentityState
        conversationId peerId sessionRole sessionState message outbox).Ensures database
      (fun _ after => after.storage =
        (((database.storage.withLocalIdentity ⟨localIdentityId, localIdentityRole,
          localIdentityState, database.now⟩).withSession ⟨conversationId, peerId, sessionRole,
            sessionState, database.now⟩).withMessage message).withOutboxItem outbox)
      (fun _ after => after.storage = database.storage) := by
  rw [saveStateSessionMessageAndOutbox, ensures_bind, ensures_nowUnixSecs, ensures_transaction]
  simp only [ensures_bind, ensures_pure]
  exact ensures_execute trivial <| ensures_execute trivial <| ensures_execute trivial <|
    ensures_execute trivial <| ensures_execute trivial rfl

end Database

namespace Storage.HoldsQueued

variable {storage : Storage}

/-- The transaction that stores a queued message. -/
theorem queue (holds : storage.HoldsQueued wire epoch queued) {entry : QueuedMessage}
    {aliceState : Bytes} {state : AliceState P} {now : UInt64} {session : SessionRecord}
    {message : MessageRecord} (decoded : wire.aliceState.deserialize aliceState = some state)
    (ahead : (Alice.fromState state).Ahead wire epoch (queued ++ [entry]))
    (sent : message.direction = .sent) (pending : entry.item.status = .pending) :
    ((((storage.withLocalIdentity ⟨"alice", "alice", aliceState, now⟩).withSession
      session).withMessage message).withOutboxItem entry.item).HoldsQueued wire epoch
        (queued ++ [entry]) where
  sender := by
    have found := Table.find_upsert_self storage.localIdentity ⟨"alice", "alice", aliceState, now⟩
    exact ⟨_, found, state, decoded, ahead⟩
  outbox row member := by
    rcases mem_withOutboxItem member with old | ⟨sameId, samePayload, -⟩
    · obtain ⟨other, otherMember, same⟩ := holds.outbox row old
      exact ⟨other, List.mem_append_left _ otherMember, same⟩
    · exact ⟨entry, List.mem_append_right _ (List.mem_singleton_self _), sameId, samePayload⟩
  received row member direction := by
    rcases Table.mem_insertOrIgnore.mp member with old | ⟨rfl, -⟩
    · obtain ⟨other, otherMember, same⟩ := holds.received row old direction
      exact ⟨other, List.mem_append_left _ otherMember, same⟩
    · cases sent.symm.trans direction
  delivered row member status := by
    rcases mem_withOutboxItem member with old | ⟨-, -, sameStatus⟩
    · exact holds.delivered row old status
    · cases (sameStatus.trans pending).symm.trans status

/-- What leaves the four tables leaves the property. -/
theorem congr (holds : storage.HoldsQueued wire epoch queued) {after : Storage}
    (identities : after.localIdentity.find "alice" = storage.localIdentity.find "alice")
    (outbox : after.outbox = storage.outbox) (messages : after.messages = storage.messages)
    (accepted : ∀ messageId, storage.acceptedMessages.Contains messageId →
      after.acceptedMessages.Contains messageId) : after.HoldsQueued wire epoch queued where
  sender := identities ▸ holds.sender
  outbox := outbox ▸ holds.outbox
  received := messages ▸ holds.received
  delivered row member status := by
    rw [outbox] at member
    exact accepted row.messageId (holds.delivered row member status)

/-- What changes an item but not its payload, and delivers only what was accepted. -/
theorem update (holds : storage.HoldsQueued wire epoch queued) {change : OutboxItem → OutboxItem}
    {condition : OutboxItem → Bool} (keepsId : ∀ row, (change row).messageId = row.messageId)
    (keepsPayload : ∀ row, (change row).payload = row.payload)
    (accepted : ∀ row, condition row = true → (change row).status = .delivered →
      row.status = .delivered ∨ storage.acceptedMessages.Contains row.messageId) :
    Storage.HoldsQueued wire epoch queued
      { storage with outbox := storage.outbox.update condition change keepsId } where
  sender := holds.sender
  outbox := by
    refine Table.forall_mem_update keepsId holds.outbox fun row => ?_
    rintro ⟨entry, member, sameId, samePayload⟩
    exact ⟨entry, member, (keepsId row).trans sameId, (keepsPayload row).trans samePayload⟩
  received := holds.received
  delivered row member status := by
    change row ∈ storage.outbox.update condition change keepsId at member
    obtain ⟨before, beforeMember, rfl⟩ := Table.mem_update.mp member
    split at status
    · next chosen =>
        rw [if_pos chosen, keepsId]
        rcases accepted before chosen status with old | new
        · exact holds.delivered before beforeMember old
        · exact new
    · next other =>
        rw [if_neg other]
        exact holds.delivered before beforeMember status

theorem markDelivered (holds : storage.HoldsQueued wire epoch queued) {messageId : String}
    (accepted : storage.acceptedMessages.Contains messageId) (now : UInt64)
    (keepsId : ∀ row : OutboxItem,
      ({ row with status := .delivered, lastAttemptUnixSecs := some now } : OutboxItem).messageId =
        row.messageId) :
    Storage.HoldsQueued wire epoch queued
      { storage with
        outbox := storage.outbox.update (fun item => item.messageId = messageId)
          (fun item => { item with status := .delivered, lastAttemptUnixSecs := some now })
          keepsId } := by
  refine holds.update keepsId (fun _ => rfl) fun row chosen _ => .inr ?_
  rw [of_decide_eq_true chosen]
  exact accepted

theorem recordAttempt (holds : storage.HoldsQueued wire epoch queued) {messageId : String}
    (now : UInt64)
    (keepsId : ∀ row : OutboxItem,
      ({ row with retryCount := row.retryCount + 1, lastAttemptUnixSecs := some now } :
        OutboxItem).messageId = row.messageId) :
    Storage.HoldsQueued wire epoch queued
      { storage with
        outbox := storage.outbox.update (fun item => item.messageId = messageId)
          (fun item =>
            { item with retryCount := item.retryCount + 1, lastAttemptUnixSecs := some now })
          keepsId } :=
  holds.update keepsId (fun _ => rfl) fun _ _ => .inl

/-- The message that Bob files is the queued one. -/
theorem file (holds : storage.HoldsQueued wire epoch queued) {entry : QueuedMessage}
    (queuedEntry : entry ∈ queued) {identity : LocalIdentityRecord} (other : identity.id ≠ "alice")
    {session : SessionRecord} {message : MessageRecord}
    (named : message.messageId = "bob-" ++ entry.item.messageId)
    (carried : message.ciphertext = entry.item.payload)
    (opened : message.plaintext = some entry.plaintext) :
    (((storage.withLocalIdentity identity).withSession session).withMessage message).HoldsQueued
      wire epoch queued where
  sender := by
    obtain ⟨row, found, decodes⟩ := holds.sender
    exact ⟨row, (Table.find_upsert_of_ne _ other.symm).trans found, decodes⟩
  outbox := holds.outbox
  received row member direction := by
    rcases Table.mem_insertOrIgnore.mp member with old | ⟨rfl, -⟩
    · exact holds.received row old direction
    · exact ⟨entry, queuedEntry, named, carried, opened⟩
  delivered := holds.delivered

end Storage.HoldsQueued

namespace Storage.PendingWithin

variable {storage : Storage} {ids : List String} {messageId : String}

theorem recordAttempt (within : storage.PendingWithin ids) (now : UInt64)
    (keepsId : ∀ row : OutboxItem,
      ({ row with retryCount := row.retryCount + 1, lastAttemptUnixSecs := some now } :
        OutboxItem).messageId = row.messageId) :
    Storage.PendingWithin ids
      { storage with
        outbox := storage.outbox.update (fun item => item.messageId = messageId)
          (fun item =>
            { item with retryCount := item.retryCount + 1, lastAttemptUnixSecs := some now })
          keepsId } :=
  Table.forall_mem_update keepsId within fun _ pending => pending

theorem markDelivered (within : storage.PendingWithin (messageId :: ids)) (now : UInt64)
    (keepsId : ∀ row : OutboxItem,
      ({ row with status := .delivered, lastAttemptUnixSecs := some now } : OutboxItem).messageId =
        row.messageId) :
    Storage.PendingWithin ids
      { storage with
        outbox := storage.outbox.update (fun item => item.messageId = messageId)
          (fun item => { item with status := .delivered, lastAttemptUnixSecs := some now })
          keepsId } := by
  intro row member pending
  change row ∈ storage.outbox.update _ _ keepsId at member
  obtain ⟨before, beforeMember, rfl⟩ := Table.mem_update.mp member
  split at pending
  · cases pending
  · next different =>
      rw [if_neg different]
      rw [decide_eq_true_iff] at different
      exact (List.mem_cons.mp (within before beforeMember pending)).resolve_left different

end Storage.PendingWithin

/-! ## Delivering -/

/-- Bob answers with the id of the item once it is recorded, and files what was queued. -/
theorem Receiver.deliverOutboxItemToBob_ensures (ideal : P.AeadIdeal) {receiver : Receiver P}
    (numbers : Numbers wire epoch queued) (tables : receiver.storage.HoldsQueued wire epoch queued)
    (conversationId : String) {entry : QueuedMessage} (member : entry ∈ queued) {item : OutboxItem}
    (payload : item.payload = entry.item.payload) :
    (deliverOutboxItemToBob wire conversationId item).Ensures receiver
      (fun ack after => after.storage.HoldsQueued wire epoch queued ∧
        after.storage.outbox = receiver.storage.outbox ∧ ack.messageId = entry.item.messageId ∧
        after.storage.acceptedMessages.Contains ack.messageId)
      (fun _ after => after.storage.HoldsQueued wire epoch queued) := by
  obtain ⟨envelope, carries⟩ := numbers.carried entry member
  have decoded : wire.appEnvelope.deserialize item.payload = some envelope :=
    payload ▸ carries.decoded
  simp only [deliverOutboxItemToBob, ensures_bind, decoded, ensures_okOr_some, ensures_onStorage,
    Database.acceptMessageOnce, Database.ensures_nowUnixSecs]
  refine Database.ensures_statement tables ?_ fun error refused => by cases refused
  rintro accepted storage ⟨⟩
  have recorded := Table.contains_insertOrIgnore receiver.storage.acceptedMessages
    ⟨envelope.messageId, receiver.database.now⟩
  have acceptedTables : Storage.HoldsQueued wire epoch queued { receiver.storage with
      acceptedMessages := receiver.storage.acceptedMessages.insertOrIgnore
        ⟨envelope.messageId, receiver.database.now⟩ } :=
    tables.congr rfl rfl rfl fun _ present => present.insertOrIgnore _
  rw [ensures_ite]
  refine ⟨fun _ => ⟨acceptedTables, rfl, carries.named, recorded⟩, fun _ => ?_⟩
  simp only [ensures_bind, ensures_onBob, ensures_get, ensures_pure, ensures_onStorage,
    Database.ensures_nowUnixSecs]
  refine (receiver.bob.decryptFromAlice_opens envelope.message).mono ?_
    fun _ _ _ => acceptedTables
  intro text bob opens
  obtain rfl := SealedFrom.text_eq ideal ⟨_, _, _, carries.sealed⟩ opens
  refine ensures_okOr.mpr ⟨fun bobState _ => ?_, fun _ => acceptedTables⟩
  refine ensures_okOr.mpr ⟨fun session _ => ?_, fun _ => acceptedTables⟩
  refine ensures_okOr.mpr ⟨fun sessionState _ => ?_, fun _ => acceptedTables⟩
  simp only [Database.saveStateSessionAndInsertMessage, ensures_bind,
    Database.ensures_nowUnixSecs, Database.ensures_transaction, ensures_pure]
  refine Database.ensures_execute acceptedTables <| Database.ensures_execute acceptedTables <|
    Database.ensures_execute acceptedTables <| Database.ensures_execute acceptedTables ?_
  refine ⟨?_, rfl, carries.named, recorded⟩
  exact acceptedTables.file member (show "bob" ≠ "alice" by decide)
    (congrArg ("bob-" ++ ·) carries.named) payload rfl

/-! ## Both ends -/

namespace OutboxProcess

variable {process : OutboxProcess P}

section

variable {Result : Type} {returned : Result → OutboxProcess P → Prop}
  {failed : AppError → OutboxProcess P → Prop}

@[simp] theorem ensures_onAlice {method : Mutation (Alice P) CryptoError Result} :
    (onAlice method).Ensures process returned failed ↔
      method.Ensures process.alice (fun value alice => returned value { process with alice })
        (fun error alice => failed (.crypto error) { process with alice }) := by
  rw [onAlice, ensures_mapError, ensures_focus]

@[simp] theorem ensures_onReceiver {method : ReceiverResult P Result} :
    (onReceiver method).Ensures process returned failed ↔
      method.Ensures process.receiver
        (fun value receiver => returned value { process with receiver })
        (fun error receiver => failed error { process with receiver }) := by
  rw [onReceiver, ensures_focus]

@[simp] theorem ensures_onStorage {method : StorageResult Result} :
    (onStorage method).Ensures process returned failed ↔
      method.Ensures process.receiver.database
        (fun value database =>
          returned value { process with receiver := { process.receiver with database } })
        (fun error database =>
          failed (.storage error) { process with receiver := { process.receiver with database } })
        := by
  rw [onStorage, ensures_onReceiver, Receiver.ensures_onStorage]

end

/-- The queued messages are numbered, Alice is past their numbers, and the tables hold them. -/
structure Sound (wire : ReceiverWire P) (epoch : Epoch P) (queued : List QueuedMessage)
    (process : OutboxProcess P) : Prop where
  numbers : Numbers wire epoch queued
  ahead : process.alice.Ahead wire epoch queued
  tables : process.storage.HoldsQueued wire epoch queued

theorem Sound.congr (sound : process.Sound wire epoch queued) {after : OutboxProcess P}
    (sameAlice : after.alice = process.alice) (sameStorage : after.storage = process.storage) :
    after.Sound wire epoch queued :=
  ⟨sound.numbers, sameAlice ▸ sound.ahead, sameStorage ▸ sound.tables⟩

/-- The formats read back what they wrote. -/
structure RoundTrips (wire : ReceiverWire P) : Prop where
  appEnvelope : wire.appEnvelope.RoundTrip
  aliceState : wire.aliceState.RoundTrip

/-- A message that is queued goes to the tables with the state after it, or not at all. -/
theorem queueForBob_ensures (roundTrips : RoundTrips wire)
    (sound : process.Sound wire epoch queued) (conversationId plaintext : String) :
    (queueForBob wire conversationId plaintext).Ensures process
      (fun item after => after.Sound wire epoch (queued ++ [⟨item, plaintext⟩]))
      (fun _ after => after.Sound wire epoch queued) := by
  simp only [queueForBob, ensures_bind, ensures_onAlice, ensures_get, ensures_pure,
    ensures_onStorage, Database.ensures_nowUnixSecs]
  refine (Alice.encryptForBob_ensures sound.ahead plaintext).mono ?_
    fun _ _ ahead => ⟨sound.numbers, ahead, sound.tables⟩
  rintro ciphertext alice ⟨sealed, past, session, present, role, current, count⟩
  have last : ciphertext.number < session.sendCount := count ▸ Nat.lt_succ_self _
  have pastAll : ∀ entry ∈ queued, ∀ envelope,
      wire.appEnvelope.deserialize entry.item.payload = some envelope →
        envelope.message.number < session.sendCount := fun entry member envelope decoded =>
    (past entry member envelope decoded).trans last
  have unchanged : ∀ after : OutboxProcess P, after.alice = alice →
      after.storage = process.storage → after.Sound wire epoch queued := by
    rintro after rfl same
    exact ⟨sound.numbers, ⟨session, present, role, current, pastAll⟩, same ▸ sound.tables⟩
  refine ensures_okOr.mpr ⟨fun ciphertextBytes _ => ?_, fun _ => unchanged _ rfl rfl⟩
  refine ensures_okOr.mpr ⟨fun payload serialized => ?_, fun _ => unchanged _ rfl rfl⟩
  refine ensures_okOr.mpr ⟨fun aliceState saved => ?_, fun _ => unchanged _ rfl rfl⟩
  refine ensures_okOr.mpr ⟨fun exported _ => ?_, fun _ => unchanged _ rfl rfl⟩
  refine ensures_okOr.mpr ⟨fun sessionState _ => ?_, fun _ => unchanged _ rfl rfl⟩
  refine (Database.ensures_saveStateSessionMessageAndOutbox _ _ _ _ _ _ _ _ _).mono ?_
    fun _ after same => unchanged _ rfl same
  intro _ after stored
  have decoded := roundTrips.appEnvelope serialized
  have aheadAfter : ∀ item : OutboxItem, item.payload = payload →
      alice.Ahead wire epoch (queued ++ [⟨item, plaintext⟩]) := by
    rintro item rfl
    exact .queue present role current pastAll decoded last
  refine ⟨sound.numbers.queue ⟨decoded, rfl, sealed⟩ past, aheadAfter _ rfl, ?_⟩
  change after.storage.HoldsQueued wire epoch _
  rw [stored]
  refine sound.tables.queue (roundTrips.aliceState saved) ?_ rfl rfl
  rw [Alice.fromState_exportState]
  exact aheadAfter _ rfl

/-- The item is one that was queued. -/
def IsQueued (queued : List QueuedMessage) (item : OutboxItem) : Prop :=
  ∃ entry ∈ queued, item.messageId = entry.item.messageId ∧ item.payload = entry.item.payload

/-- After an item was delivered no row with its id is pending. -/
theorem deliver_ensures (ideal : P.AeadIdeal) (sound : process.Sound wire epoch queued)
    {conversationId : String} {item : OutboxItem} (known : IsQueued queued item)
    {ids : List String} (pending : process.storage.PendingWithin (item.messageId :: ids)) :
    (deliver wire conversationId item).Ensures process
      (fun _ after => after.Sound wire epoch queued ∧ after.storage.PendingWithin ids)
      (fun _ after => after.Sound wire epoch queued) := by
  obtain ⟨entry, member, sameId, samePayload⟩ := known
  simp only [deliver, ensures_bind, ensures_onReceiver, Receiver.handleAck,
    Receiver.ensures_onStorage, Database.markOutboxDelivered, Database.ensures_nowUnixSecs]
  refine (Receiver.deliverOutboxItemToBob_ensures ideal sound.numbers sound.tables conversationId
    member samePayload).mono ?_ fun _ _ tables => ⟨sound.numbers, sound.ahead, tables⟩
  rintro ack receiver ⟨tables, sameOutbox, named, accepted⟩
  refine Database.ensures_execute ⟨sound.numbers, sound.ahead, tables⟩ ⟨⟨sound.numbers,
    sound.ahead, tables.markDelivered accepted _ _⟩, ?_⟩
  have within : receiver.storage.PendingWithin (ack.messageId :: ids) := by
    rwa [Storage.PendingWithin, sameOutbox, named, ← sameId]
  exact within.markDelivered _ _

theorem recordOutboxAttempt_ensures (sound : process.Sound wire epoch queued)
    (messageId : String) {ids : List String} (pending : process.storage.PendingWithin ids) :
    (onStorage (Database.recordOutboxAttempt messageId)).Ensures process
      (fun _ after => after.Sound wire epoch queued ∧ after.storage.PendingWithin ids)
      (fun _ after => after.Sound wire epoch queued) := by
  simp only [ensures_onStorage, Database.recordOutboxAttempt, ensures_bind,
    Database.ensures_nowUnixSecs]
  exact Database.ensures_execute (sound.congr rfl rfl)
    ⟨⟨sound.numbers, sound.ahead, sound.tables.recordAttempt _ _⟩, pending.recordAttempt _ _⟩

/-- A pass over the items leaves none of them pending, or stops. -/
theorem retryItems_ensures (ideal : P.AeadIdeal) (conversationId : String)
    (items : List OutboxItem) :
    ∀ {process : OutboxProcess P}, process.Sound wire epoch queued →
      (∀ item ∈ items, IsQueued queued item) →
      process.storage.PendingWithin (items.map OutboxItem.messageId) →
      (retryItems wire conversationId items).Ensures process
        (fun _ after => after.Sound wire epoch queued ∧ after.storage.PendingWithin [])
        (fun _ after => after.Sound wire epoch queued) := by
  induction items with
  | nil => exact fun sound _ pending => ⟨sound, pending⟩
  | cons item items inductionHypothesis =>
      intro process sound known pending
      simp only [retryItems, ensures_bind]
      refine (recordOutboxAttempt_ensures sound item.messageId pending).mono ?_
        fun _ _ sound => sound
      rintro _ attempted ⟨attemptedSound, attemptedPending⟩
      refine (deliver_ensures ideal attemptedSound (known item List.mem_cons_self)
        attemptedPending).mono ?_ fun _ _ sound => sound
      rintro _ after ⟨afterSound, afterPending⟩
      exact inductionHypothesis afterSound
        (fun other member => known other (List.mem_cons_of_mem _ member)) afterPending

/-- A retry pass that gets to its end leaves no item pending. -/
theorem retryPending_ensures (ideal : P.AeadIdeal) (sound : process.Sound wire epoch queued)
    (conversationId : String) :
    (retryPending wire conversationId).Ensures process
      (fun _ after => after.Sound wire epoch queued ∧ after.storage.PendingWithin [])
      (fun _ after => after.Sound wire epoch queued) := by
  simp only [retryPending, ensures_bind, ensures_onStorage, Database.pendingOutboxItems]
  refine Database.ensures_query (sound.congr rfl rfl) ?_
  refine retryItems_ensures ideal conversationId _ (sound.congr rfl rfl)
    (fun item member => ?_) fun row member pending => ?_
  · exact sound.tables.outbox item (Table.mem_select.mp member).1
  · exact List.mem_map_of_mem (Table.mem_select.mpr ⟨member, decide_eq_true pending⟩)

theorem retryDelivered_ensures (ideal : P.AeadIdeal) (sound : process.Sound wire epoch queued)
    (conversationId messageId : String) :
    (retryDelivered wire conversationId messageId).Ensures process
      (fun _ after => after.Sound wire epoch queued)
      (fun _ after => after.Sound wire epoch queued) := by
  simp only [retryDelivered, ensures_bind, ensures_onStorage, Database.outboxItem]
  have same : Sound wire epoch queued { process with
      receiver := { process.receiver with
        database := process.receiver.database.advance process.receiver.database.storage } } :=
    sound.congr rfl rfl
  refine Database.ensures_query same (ensures_okOr.mpr ⟨fun item found => ?_, fun _ => same⟩)
  have known := sound.tables.outbox item (Table.find_eq_some.mp found).1
  have pending : process.storage.PendingWithin
      (item.messageId :: process.storage.outbox.rows.map OutboxItem.messageId) :=
    fun row member _ => List.mem_cons_of_mem _ (List.mem_map_of_mem member)
  exact (deliver_ensures ideal same known pending).mono (fun _ _ => And.left) fun _ _ kept => kept

/-- The stored Alice is past every number that was queued. -/
theorem restart_ensures (sound : process.Sound wire epoch queued) :
    (restart wire).Ensures process (fun _ after => after.Sound wire epoch queued)
      (fun _ after => after.Sound wire epoch queued) := by
  obtain ⟨row, found, state, decoded, ahead⟩ := sound.tables.sender
  have loaded : (process.storage.localIdentity.find "alice").map LocalIdentityRecord.state =
      some row.state := by
    rw [found, Option.map_some]
  simp only [restart, ensures_bind, ensures_onStorage, Database.loadLocalIdentity, ensures_modify]
  refine Database.ensures_query (sound.congr rfl rfl) ?_
  rw [loaded, ensures_okOr_some, decoded, ensures_okOr_some]
  have restored : ∀ after : OutboxProcess P, after.alice = .fromState state →
      after.storage = process.storage → after.Sound wire epoch queued := by
    intro after sameAlice sameStorage
    exact ⟨sound.numbers, sameAlice ▸ ahead, sameStorage ▸ sound.tables⟩
  refine Database.ensures_query (restored _ rfl rfl) ?_
  refine ensures_okOr.mpr ⟨fun bobBytes _ => ?_, fun _ => restored _ rfl rfl⟩
  exact ensures_okOr.mpr ⟨fun _ _ => restored _ rfl rfl, fun _ => restored _ rfl rfl⟩

end OutboxProcess

end CipherMesh
