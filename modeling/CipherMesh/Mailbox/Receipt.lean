import CipherMesh.Chat.Delivery
import CipherMesh.Foundation.Reachability
import CipherMesh.Mailbox.Receiver

/-!
# What an acknowledgement says

An acknowledged delivery was stored, provided that an id which comes again comes with
the message that it came with first and that the first attempt got to its end.  The
receivers do not check either: an attempt that fails after the id was recorded leaves
the id behind, and the next one acknowledges it.
-/

namespace CipherMesh

open Foundation
open Foundation.Mutation

variable {P : Primitives}

/-! ## Deliveries -/

/-- What reaches a receiver. -/
inductive Delivery where
  | outbox (conversationId : String) (item : OutboxItem)
  | mailbox (recipientToken : String) (envelope : OfflineEnvelope)
  deriving DecidableEq

/-- The message of an envelope and the id of the row that it is stored in. -/
structure Receipt (P : Primitives) where
  messageId : String
  rowId : String
  message : RatchetMessage P

namespace Storage

/-- The history holds the decrypted message. -/
def HasStored (receipt : Receipt P) (storage : Storage) : Prop :=
  ∃ row ∈ storage.messages, row.messageId = receipt.rowId ∧ row.direction = .received ∧
    ∃ text, row.plaintext = some text ∧ OpensTo receipt.message.ciphertext text

/-- No other message has the row of this one. -/
def Leaves (receipt : Receipt P) (storage : Storage) : Prop :=
  storage.messages.Contains receipt.rowId → storage.HasStored receipt

variable {storage after : Storage} {receipt : Receipt P}

theorem HasStored.congr (stored : storage.HasStored receipt)
    (same : after.messages = storage.messages) : after.HasStored receipt := by
  rwa [HasStored, same]

theorem HasStored.contains (stored : storage.HasStored receipt) :
    storage.messages.Contains receipt.rowId := by
  obtain ⟨row, member, same, _⟩ := stored
  exact ⟨row, member, same⟩

theorem HasStored.withMessage (holds : storage.HasStored receipt) (row : MessageRecord) :
    (storage.withMessage row).HasStored receipt := by
  obtain ⟨old, member, rest⟩ := holds
  exact ⟨old, Table.mem_insertOrIgnore.mpr (.inl member), rest⟩

theorem Leaves.congr (leaves : storage.Leaves receipt)
    (same : after.messages = storage.messages) : after.Leaves receipt := by
  rwa [Leaves, HasStored, same]

theorem Leaves.withMessage (leaves : storage.Leaves receipt) {row : MessageRecord}
    (rowId : row.messageId = receipt.rowId) (received : row.direction = .received) {text : String}
    (plaintext : row.plaintext = some text) (opens : OpensTo receipt.message.ciphertext text) :
    (storage.withMessage row).HasStored receipt := by
  by_cases present : storage.messages.Contains receipt.rowId
  · exact (leaves present).withMessage row
  · rw [← rowId] at present
    exact ⟨row, Table.mem_insertOrIgnore.mpr (.inr ⟨rfl, present⟩), rowId, received, text,
      plaintext, opens⟩

end Storage

namespace Delivery

/-- The id that an attempt to receive records. -/
def recordedId (wire : ReceiverWire P) : Delivery → Option String
  | .outbox _ item => (wire.appEnvelope.deserialize item.payload).map DurableAppEnvelope.messageId
  | .mailbox _ envelope => some envelope.messageId

def receipt (wire : ReceiverWire P) : Delivery → Option (Receipt P)
  | .outbox _ item =>
      (wire.appEnvelope.deserialize item.payload).map fun envelope =>
        ⟨envelope.messageId, "bob-" ++ envelope.messageId, envelope.message⟩
  | .mailbox _ envelope =>
      (wire.initialMessage.deserialize envelope.encryptedPayload).map fun initialMessage =>
        ⟨envelope.messageId, envelope.messageId, initialMessage.message⟩

/-- An attempt to receive.  It succeeds when the delivery is acknowledged. -/
def receive (wire : ReceiverWire P) : Delivery → ReceiverResult P Unit
  | .outbox conversationId item => do
      let _ ← Receiver.deliverOutboxItemToBob wire conversationId item
      return ()
  | .mailbox recipientToken envelope =>
      Receiver.receiveOfflineEnvelope wire recipientToken envelope

/-- Bob can decrypt the message, and for the outbox also serialize what he is then. -/
def Decrypts (wire : ReceiverWire P) (bob : Bob P) : Delivery → Prop
  | .outbox _ item => ∃ envelope ∈ wire.appEnvelope.deserialize item.payload,
      (Bob.decryptFromAlice envelope.message).Ensures bob
        (fun _ reached => (wire.bobState.serialize reached.exportState).isSome ∧
          ∃ session ∈ reached.session, (wire.sessionState.serialize session.state).isSome)
        (fun _ _ => False)
  | .mailbox _ envelope =>
      ∃ initialMessage ∈ wire.initialMessage.deserialize envelope.encryptedPayload,
        (Bob.decryptInitialMessage initialMessage).Ensures bob (fun _ _ => True)
          (fun _ _ => False)

/-- The statements of an attempt up to the one that stores the message. -/
def statements : Delivery → Nat
  | .outbox _ _ => 5
  | .mailbox _ _ => 2

/-- The attempt meets a new id, decrypts, is not interrupted before the message is
stored, and finds its row free. -/
structure Completes (wire : ReceiverWire P) (delivery : Delivery) (receiver : Receiver P) :
    Prop where
  new : ∀ messageId, delivery.recordedId wire = some messageId →
    ¬ receiver.storage.acceptedMessages.Contains messageId
  decrypts : delivery.Decrypts wire receiver.bob
  uninterrupted : receiver.database.Uninterrupted delivery.statements
  leaves : ∀ receipt, delivery.receipt wire = some receipt → receiver.storage.Leaves receipt

/-- The history holds the message of the delivery. -/
def Stored (wire : ReceiverWire P) (delivery : Delivery) (storage : Storage) : Prop :=
  ∃ receipt, delivery.receipt wire = some receipt ∧ storage.HasStored receipt

end Delivery

/-! ## Attempts -/

namespace Database

variable {database : Database}

theorem ensures_acceptMessageOnce_of_new {messageId : String}
    (new : ¬ database.storage.acceptedMessages.Contains messageId) :
    (acceptMessageOnce messageId).Ensures database
      (fun accepted after => accepted = true ∧
        after.storage.messages = database.storage.messages ∧
        ∀ count, database.Uninterrupted (count + 1) → after.Uninterrupted count)
      (fun _ _ => ∀ count, ¬ database.Uninterrupted (count + 1)) := by
  rw [acceptMessageOnce, ensures_bind, ensures_nowUnixSecs, ensures_statement_iff rfl]
  refine ⟨fun stop _ uninterrupted => uninterrupted.head stop, fun _ => ⟨?_, rfl, ?_⟩⟩
  · exact decide_eq_true new
  · exact fun _ uninterrupted => uninterrupted.advance _

theorem ensures_saveStateSessionAndInsertMessage (localIdentityId localIdentityRole : String)
    (localIdentityState : Bytes) (conversationId peerId sessionRole : String)
    (sessionState : Bytes) (message : MessageRecord) :
    (saveStateSessionAndInsertMessage localIdentityId localIdentityRole localIdentityState
        conversationId peerId sessionRole sessionState message).Ensures database
      (fun _ after =>
        after.storage.messages = (database.storage.withMessage message).messages)
      (fun _ _ => ¬ database.Uninterrupted 4) := by
  rw [saveStateSessionAndInsertMessage, ensures_bind, ensures_nowUnixSecs, ensures_transaction]
  simp only [ensures_bind, ensures_execute_iff, ensures_pure]
  refine ⟨fun stop uninterrupted => uninterrupted.head stop, fun _ => ?_⟩
  refine ⟨fun stop uninterrupted => (uninterrupted.advance _).head stop, fun _ => ?_⟩
  refine ⟨fun stop uninterrupted => ((uninterrupted.advance _).advance _).head stop, fun _ => ?_⟩
  refine ⟨fun stop uninterrupted => ?_, fun _ => rfl⟩
  exact (((uninterrupted.advance _).advance _).advance _).head stop

end Database

theorem Bob.decryptInitialMessage_opens (bob : Bob P) (initialMessage : InitialMessage P) :
    (decryptInitialMessage initialMessage).Ensures bob
      (fun text _ => OpensTo initialMessage.message.ciphertext text) (fun _ _ => True) := by
  rw [decryptInitialMessage, ensures_bind]
  exact Ensures.trivial.mono (fun _ reached _ => reached.decryptFromAlice_opens _)
    fun _ _ _ => trivial

namespace Delivery

variable {wire : ReceiverWire P} {delivery : Delivery} {receiver : Receiver P}

theorem receipt_outbox {conversationId : String} {item : OutboxItem}
    {envelope : DurableAppEnvelope P}
    (decoded : wire.appEnvelope.deserialize item.payload = some envelope) :
    (Delivery.outbox conversationId item).receipt wire =
      some ⟨envelope.messageId, "bob-" ++ envelope.messageId, envelope.message⟩ := by
  rw [receipt, decoded, Option.map_some]

theorem receipt_mailbox {recipientToken : String} {envelope : OfflineEnvelope}
    {initialMessage : InitialMessage P}
    (decoded : wire.initialMessage.deserialize envelope.encryptedPayload = some initialMessage) :
    (Delivery.mailbox recipientToken envelope).receipt wire =
      some ⟨envelope.messageId, envelope.messageId, initialMessage.message⟩ := by
  rw [receipt, decoded, Option.map_some]

theorem Decrypts.outbox {bob : Bob P} {conversationId : String} {item : OutboxItem}
    (decrypts : (Delivery.outbox conversationId item).Decrypts wire bob)
    {envelope : DurableAppEnvelope P}
    (decoded : wire.appEnvelope.deserialize item.payload = some envelope) :
    (Bob.decryptFromAlice envelope.message).Ensures bob
      (fun _ reached => (wire.bobState.serialize reached.exportState).isSome ∧
        ∃ session ∈ reached.session, (wire.sessionState.serialize session.state).isSome)
      (fun _ _ => False) := by
  obtain ⟨other, otherDecoded, ensures⟩ := decrypts
  cases decoded.symm.trans otherDecoded
  exact ensures

theorem Decrypts.mailbox {bob : Bob P} {recipientToken : String} {envelope : OfflineEnvelope}
    (decrypts : (Delivery.mailbox recipientToken envelope).Decrypts wire bob)
    {initialMessage : InitialMessage P}
    (decoded : wire.initialMessage.deserialize envelope.encryptedPayload = some initialMessage) :
    (Bob.decryptInitialMessage initialMessage).Ensures bob (fun _ _ => True)
      (fun _ _ => False) := by
  obtain ⟨other, otherDecoded, ensures⟩ := decrypts
  cases decoded.symm.trans otherDecoded
  exact ensures

theorem recordedId_of_receipt {receipt : Receipt P}
    (received : delivery.receipt wire = some receipt) :
    delivery.recordedId wire = some receipt.messageId := by
  cases delivery with
  | outbox conversationId item =>
      obtain ⟨envelope, decoded, rfl⟩ := Option.map_eq_some_iff.mp received
      rw [recordedId, decoded, Option.map_some]
  | mailbox recipientToken envelope =>
      obtain ⟨initialMessage, decoded, rfl⟩ := Option.map_eq_some_iff.mp received
      rfl

/-- An attempt that meets a new id and a free row stores the message before it succeeds, and
stores it in any case when it completes. -/
def StoresNew (wire : ReceiverWire P) (delivery : Delivery) (receiver : Receiver P) : Prop :=
  (delivery.receive wire).Ensures receiver (fun _ after => delivery.Stored wire after.storage)
    (fun _ after => delivery.Completes wire receiver → delivery.Stored wire after.storage)

theorem storesNew_outbox {conversationId : String} {item : OutboxItem}
    {envelope : DurableAppEnvelope P}
    (decoded : wire.appEnvelope.deserialize item.payload = some envelope)
    (new : ¬ receiver.storage.acceptedMessages.Contains envelope.messageId)
    (leaves : receiver.storage.Leaves
      ⟨envelope.messageId, "bob-" ++ envelope.messageId, envelope.message⟩) :
    (Delivery.outbox conversationId item).StoresNew wire receiver := by
  simp only [StoresNew, receive, Receiver.deliverOutboxItemToBob, ensures_bind, ensures_pure,
    decoded, ensures_okOr_some, Receiver.ensures_onStorage]
  refine (Database.ensures_acceptMessageOnce_of_new new).mono ?_ fun _ _ stopped completes =>
    absurd completes.uninterrupted (stopped 4)
  rintro accepted database ⟨rfl, sameMessages, uninterrupted⟩
  simp only [ensures_bind, Bool.not_true, Bool.false_eq_true, if_false, Receiver.ensures_onBob,
    ensures_get, ensures_pure, Receiver.ensures_onStorage, Database.ensures_nowUnixSecs]
  refine ((receiver.bob.decryptFromAlice_opens envelope.message).and Ensures.run).mono ?_ ?_
  · rintro text bob ⟨opens, decrypted⟩
    have writes : (Delivery.outbox conversationId item).Completes wire receiver → _ :=
      fun completes => (completes.decrypts.outbox decoded).of_ok decrypted
    refine ensures_okOr.mpr ⟨fun bobState _ => ensures_okOr.mpr ⟨fun session present =>
      ensures_okOr.mpr ⟨fun sessionState _ => ?_, fun unwritten completes => ?_⟩,
        fun absent completes => ?_⟩, fun unwritten completes => ?_⟩
    · refine (Database.ensures_saveStateSessionAndInsertMessage _ _ _ _ _ _ _ _).mono ?_ ?_
      · intro _ after stored
        refine ⟨_, receipt_outbox decoded, Storage.HasStored.congr ?_ stored⟩
        exact (leaves.congr sameMessages).withMessage rfl rfl rfl opens
      · intro _ _ stopped completes
        exact absurd (uninterrupted 4 completes.uninterrupted) stopped
    · obtain ⟨_, same, written⟩ := (writes completes).2
      cases present.symm.trans same
      simp [unwritten] at written
    · obtain ⟨_, same, _⟩ := (writes completes).2
      cases absent.symm.trans same
    · have written := (writes completes).1
      simp [unwritten] at written
  · rintro error bob ⟨_, refused⟩ completes
    exact ((completes.decrypts.outbox decoded).of_error refused).elim

theorem storesNew_mailbox {recipientToken : String} {envelope : OfflineEnvelope}
    (new : ¬ receiver.storage.acceptedMessages.Contains envelope.messageId)
    (leaves : ∀ initialMessage : InitialMessage P,
      wire.initialMessage.deserialize envelope.encryptedPayload = some initialMessage →
      receiver.storage.Leaves
        ⟨envelope.messageId, envelope.messageId, initialMessage.message⟩) :
    (Delivery.mailbox recipientToken envelope).StoresNew wire receiver := by
  simp only [StoresNew, receive, Receiver.receiveOfflineEnvelope, ensures_bind,
    Receiver.ensures_onStorage]
  refine (Database.ensures_acceptMessageOnce_of_new new).mono ?_ fun _ _ stopped completes =>
    absurd completes.uninterrupted (stopped 1)
  rintro accepted database ⟨rfl, sameMessages, uninterrupted⟩
  simp only [ensures_bind, if_true, Receiver.ensures_onBob, ensures_get,
    Receiver.ensures_onStorage, Database.ensures_nowUnixSecs, Receiver.sendRequest,
    ensures_modify, Database.insertMessage, Database.ensures_execute_iff]
  refine ensures_okOr.mpr ⟨fun initialMessage decoded => ?_, fun undecodable completes => ?_⟩
  · refine ((receiver.bob.decryptInitialMessage_opens initialMessage).and Ensures.run).mono ?_ ?_
    · rintro text bob ⟨opens, decrypted⟩
      have stored : ∀ row : MessageRecord, row.messageId = envelope.messageId →
          row.direction = .received → row.plaintext = some text →
          (Delivery.mailbox recipientToken envelope).Stored wire
            (database.storage.withMessage row) := fun row rowId received plaintext =>
        ⟨_, receipt_mailbox decoded,
          ((leaves _ decoded).congr sameMessages).withMessage rowId received plaintext opens⟩
      refine ⟨fun stop completes => ?_, fun _ => ?_⟩
      · exact absurd stop (uninterrupted 1 completes.uninterrupted).head
      · refine ensures_okOr.mpr ⟨fun bobState _ => ?_, fun _ _ => stored _ rfl rfl rfl⟩
        have kept : Keeps (fun database => (Delivery.mailbox recipientToken envelope).Stored wire
            database.storage) (Database.saveLocalIdentity "bob-mailbox" "bob" bobState) :=
          .bind Database.keeps_nowUnixSecs fun _ => Database.keeps_execute fun _ stored => stored
        exact (kept _ (stored _ rfl rfl rfl)).mono (fun _ _ stored => stored)
          fun _ _ stored _ => stored
    · rintro error bob ⟨_, refused⟩ completes
      exact ((completes.decrypts.mailbox decoded).of_error refused).elim
  · obtain ⟨_, decoded, _⟩ := completes.decrypts
    cases undecodable.symm.trans decoded

/-- An id that was not recorded yet is acknowledged when its message is stored. -/
theorem storesNew
    (new : ∀ messageId, delivery.recordedId wire = some messageId →
      ¬ receiver.storage.acceptedMessages.Contains messageId)
    (leaves : ∀ receipt, delivery.receipt wire = some receipt → receiver.storage.Leaves receipt) :
    delivery.StoresNew wire receiver := by
  cases delivery with
  | mailbox recipientToken envelope =>
      exact storesNew_mailbox (new _ rfl) fun initialMessage decoded =>
        leaves _ (receipt_mailbox decoded)
  | outbox conversationId item =>
      cases decoded : wire.appEnvelope.deserialize item.payload with
      | some envelope =>
          refine storesNew_outbox decoded (new _ ?_) (leaves _ (receipt_outbox decoded))
          rw [recordedId, decoded, Option.map_some]
      | none =>
          simp only [StoresNew, receive, Receiver.deliverOutboxItemToBob, ensures_bind, decoded]
          rintro completes
          obtain ⟨_, otherDecoded, _⟩ := completes.decrypts
          cases decoded.symm.trans otherDecoded

/-- Nothing is acknowledged when the id cannot be looked up. -/
theorem receive_interrupted (delivery : Delivery)
    (stop : receiver.database.interruptions.head? = some true) :
    (delivery.receive wire).Ensures receiver (fun _ _ => False) (fun _ _ => True) := by
  have lookup : ∀ messageId, (Database.acceptMessageOnce messageId).Ensures receiver.database
      (fun _ _ => False) (fun _ _ => True) := by
    intro messageId
    rw [Database.acceptMessageOnce, ensures_bind, Database.ensures_nowUnixSecs,
      Database.ensures_statement_iff rfl]
    exact ⟨fun _ => trivial, fun going => going stop⟩
  cases delivery with
  | outbox conversationId item =>
      simp only [receive, Receiver.deliverOutboxItemToBob, ensures_bind,
        Receiver.ensures_onStorage]
      refine ensures_okOr.mpr ⟨fun envelope _ => ?_, fun _ => trivial⟩
      exact (lookup _).mono (fun _ _ => False.elim) fun _ _ _ => trivial
  | mailbox recipientToken envelope =>
      simp only [receive, Receiver.receiveOfflineEnvelope, ensures_bind,
        Receiver.ensures_onStorage]
      exact (lookup _).mono (fun _ _ => False.elim) fun _ _ _ => trivial

/-- A stored message stays. -/
theorem keeps_hasStored (receipt : Receipt P) (delivery : Delivery) :
    Receiver.KeepsTables (Storage.HasStored receipt) (delivery.receive wire) := by
  have accepts : ∀ messageId, Receiver.KeepsTables (P := P) (Storage.HasStored receipt)
      (Receiver.onStorage (Database.acceptMessageOnce messageId)) := fun messageId =>
    Receiver.keepsTables_onStorage <| .bind Database.keeps_nowUnixSecs fun _ =>
      Database.keeps_statement fun _ _ _ stored effected => by cases effected; exact stored
  cases delivery with
  | outbox conversationId item =>
      refine .bind (.bind (.okOr _ _) fun envelope => .bind (accepts _) fun accepted => ?_)
        fun _ => .pure ()
      split
      · exact .pure _
      · refine .bind Receiver.keepsTables_onBob fun text => .bind .get fun _ =>
          .bind (.okOr _ _) fun _ => .bind (.okOr _ _) fun _ => .bind (.okOr _ _) fun _ => ?_
        refine .bind (Receiver.keepsTables_onStorage Database.keeps_nowUnixSecs) fun _ =>
          .bind (Receiver.keepsTables_onStorage ?_) fun _ => .pure _
        refine .bind Database.keeps_nowUnixSecs fun _ => Database.keeps_transaction ?_
        exact .bind (Database.keeps_execute fun _ stored => stored) fun _ =>
          .bind (Database.keeps_execute fun _ stored => stored) fun _ =>
            Database.keeps_execute fun _ stored => stored.withMessage _
  | mailbox recipientToken envelope =>
      refine .bind (accepts _) fun accepted => ?_
      have requests : Receiver.KeepsTables (P := P) (Storage.HasStored receipt)
          (Receiver.sendRequest (.acknowledge envelope.messageId)) := fun _ stored => stored
      split
      · refine .bind (.okOr _ _) fun _ => .bind Receiver.keepsTables_onBob fun text => ?_
        refine .bind (Receiver.keepsTables_onStorage Database.keeps_nowUnixSecs) fun _ =>
          .bind (Receiver.keepsTables_onStorage ?_) fun _ => .bind .get fun _ => ?_
        · exact Database.keeps_execute fun _ stored => stored.withMessage _
        · refine .bind (.okOr _ _) fun _ =>
            .bind (Receiver.keepsTables_onStorage ?_) fun _ => requests
          exact .bind Database.keeps_nowUnixSecs fun _ =>
            Database.keeps_execute fun _ stored => stored
      · exact requests

end Delivery

/-! ## Runs -/

structure Attempt (P : Primitives) where
  receiver : Receiver P
  delivery : Delivery

/-- A receiver with its attempts so far, each with the receiver that it found, and the
deliveries that it has acknowledged. -/
structure ReceiverRun (P : Primitives) where
  receiver : Receiver P
  attempts : List (Attempt P)
  acknowledged : List Delivery

/-- A process starts as some Bob, or time passes; an envelope is delivered; the
acknowledgement of an outbox item is handled. -/
inductive ReceiverEvent (P : Primitives) where
  | start (bob : Bob P) (moment : Moment)
  | deliver (delivery : Delivery)
  | handleAck (ack : DurableAck)

namespace ReceiverRun

def next (wire : ReceiverWire P) (state : ReceiverRun P) : ReceiverEvent P → ReceiverRun P
  | .start bob moment =>
      { state with
        receiver := { state.receiver with
          bob
          database := state.receiver.database.opened moment.now moment.interruptions } }
  | .deliver delivery =>
      let (result, receiver) := (delivery.receive wire).run state.receiver
      { receiver
        attempts := state.attempts ++ [⟨state.receiver, delivery⟩]
        acknowledged := match result with
          | .ok _ => state.acknowledged ++ [delivery]
          | .error _ => state.acknowledged }
  | .handleAck ack =>
      { state with receiver := ((Receiver.handleAck ack).run state.receiver).2 }

/-- All runs from tables without an accepted id. -/
def system (wire : ReceiverWire P) : System (ReceiverRun P) (ReceiverEvent P) where
  initial state := state.receiver.storage.acceptedMessages = .empty ∧ state.attempts = [] ∧
    state.acknowledged = []
  permitted _ _ := True
  next := next wire

/-- Unless the lookup of the id fails: an id that was accepted comes with the message of an
attempt that completed, and the row of a new id is not that of another message. -/
def KeepsReceipts (wire : ReceiverWire P) (state : ReceiverRun P) : ReceiverEvent P → Prop
  | .deliver delivery =>
      state.receiver.database.interruptions.head? ≠ some true →
        ∀ messageId, delivery.recordedId wire = some messageId →
          if state.receiver.storage.acceptedMessages.Contains messageId then
            ∃ attempt ∈ state.attempts, attempt.delivery.Completes wire attempt.receiver ∧
              attempt.delivery.receipt wire = delivery.receipt wire
          else ∀ receipt, delivery.receipt wire = some receipt →
            state.receiver.storage.Leaves receipt
  | _ => True

/-- Completed attempts and acknowledged deliveries are stored. -/
structure StoresReceipts (wire : ReceiverWire P) (state : ReceiverRun P) : Prop where
  completed : ∀ attempt ∈ state.attempts, attempt.delivery.Completes wire attempt.receiver →
    attempt.delivery.Stored wire state.receiver.storage
  acknowledged : ∀ delivery ∈ state.acknowledged, delivery.Stored wire state.receiver.storage

variable {wire : ReceiverWire P} {state : ReceiverRun P}

theorem StoresReceipts.mono (stores : StoresReceipts wire state) {after : Receiver P}
    (kept : ∀ receipt : Receipt P, state.receiver.storage.HasStored receipt →
      after.storage.HasStored receipt) :
    StoresReceipts wire { state with receiver := after } where
  completed attempt member completes := by
    obtain ⟨receipt, received, stored⟩ := stores.completed attempt member completes
    exact ⟨receipt, received, kept receipt stored⟩
  acknowledged delivery member := by
    obtain ⟨receipt, received, stored⟩ := stores.acknowledged delivery member
    exact ⟨receipt, received, kept receipt stored⟩

/-- A delivery that meets the condition is stored when it is acknowledged. -/
theorem stored_of_receive (stores : StoresReceipts wire state) {delivery : Delivery}
    (condition : KeepsReceipts wire state (.deliver delivery)) {after : Receiver P}
    (received : (delivery.receive wire).run state.receiver = (.ok (), after)) :
    delivery.Stored wire after.storage := by
  by_cases stop : state.receiver.database.interruptions.head? = some true
  · exact ((delivery.receive_interrupted stop).of_ok received).elim
  by_cases repeated : ∃ messageId, delivery.recordedId wire = some messageId ∧
    state.receiver.storage.acceptedMessages.Contains messageId
  · obtain ⟨messageId, recorded, present⟩ := repeated
    have earlier := condition stop messageId recorded
    rw [if_pos present] at earlier
    obtain ⟨attempt, member, completes, same⟩ := earlier
    obtain ⟨receipt, carried, stored⟩ := stores.completed attempt member completes
    rw [same] at carried
    exact ⟨receipt, carried, (delivery.keeps_hasStored receipt _ stored).of_ok received⟩
  · refine (delivery.storesNew (fun messageId recorded present =>
      repeated ⟨messageId, recorded, present⟩) fun receipt carried => ?_).of_ok received
    have recorded := Delivery.recordedId_of_receipt carried
    have leaves := condition stop _ recorded
    rw [if_neg fun present => repeated ⟨_, recorded, present⟩] at leaves
    exact leaves receipt carried

theorem stores_deliver (stores : StoresReceipts wire state) {delivery : Delivery}
    (condition : KeepsReceipts wire state (.deliver delivery)) :
    StoresReceipts wire (next wire state (.deliver delivery)) := by
  have stays : ∀ receipt : Receipt P, Receiver.KeepsTables (Storage.HasStored receipt)
      (delivery.receive wire) := fun receipt => delivery.keeps_hasStored receipt
  have kept := stores.mono fun receipt stored => (stays receipt _ stored).reached
  constructor
  · intro attempt member completes
    rcases List.mem_append.mp member with old | new
    · exact kept.completed attempt old completes
    · cases List.mem_singleton.mp new
      exact ((delivery.storesNew completes.new completes.leaves).mono
        (fun _ _ stored => stored) fun _ _ stored => stored completes).reached
  · simp only [next]
    rcases outcome : (delivery.receive wire).run state.receiver with ⟨error | value, after⟩
    · rw [outcome] at kept
      exact kept.acknowledged
    · rw [outcome] at kept
      intro other member
      rcases List.mem_append.mp member with old | new
      · exact kept.acknowledged other old
      · cases List.mem_singleton.mp new
        exact stored_of_receive stores condition outcome

theorem stores_next (stores : StoresReceipts wire state) (event : ReceiverEvent P)
    (condition : KeepsReceipts wire state event) : StoresReceipts wire (next wire state event) := by
  cases event with
  | start bob moment => exact stores.mono fun _ stored => stored
  | deliver delivery => exact stores_deliver stores condition
  | handleAck ack =>
      refine stores.mono fun receipt stored => ?_
      have kept : Receiver.KeepsTables (P := P) (Storage.HasStored receipt)
          (Receiver.handleAck ack) :=
        Receiver.keepsTables_onStorage <| .bind Database.keeps_nowUnixSecs fun _ =>
          Database.keeps_execute fun _ stored => stored
      exact (kept state.receiver stored).reached

/-- In every run that keeps the receipts, an acknowledged delivery is stored. -/
theorem acknowledged_was_stored
    (reachable : ((system wire).restrict (KeepsReceipts wire)).Reachable state)
    {delivery : Delivery} (acknowledged : delivery ∈ state.acknowledged) :
    delivery.Stored wire state.receiver.storage := by
  refine (reachable.invariant (StoresReceipts wire) ?_ ?_).acknowledged delivery acknowledged
  · rintro start ⟨_, noAttempts, noneAcknowledged⟩
    exact ⟨by simp [noAttempts], by simp [noneAcknowledged]⟩
  · exact fun _ event stores permitted => stores_next stores event permitted.2

/-- The loop over the envelopes of the mailbox receives some first part of them. -/
theorem receiveOfflineEnvelopes_eq_run (wire : ReceiverWire P) (recipientToken : String)
    (answered : List (OfflineEnvelope × Except AppError MailboxResponse))
    (state : ReceiverRun P) :
    ∃ count, ((system wire).run state ((answered.take count).map fun envelope =>
        .deliver (.mailbox recipientToken envelope.1))).receiver =
      ((Receiver.receiveOfflineEnvelopes wire recipientToken answered).run state.receiver).2 := by
  induction answered generalizing state with
  | nil => exact ⟨0, rfl⟩
  | cons first rest restIH =>
      obtain ⟨envelope, answer⟩ := first
      let received := next wire state (.deliver (.mailbox recipientToken envelope))
      have sameReceiver : received.receiver =
        ((Receiver.receiveOfflineEnvelope wire recipientToken envelope).run state.receiver).2 := rfl
      rw [Receiver.receiveOfflineEnvelopes, run_bind]
      rcases outcome : (Receiver.receiveOfflineEnvelope wire recipientToken envelope).run
        state.receiver with ⟨error | value, after⟩
      · rw [outcome] at sameReceiver
        exact ⟨1, sameReceiver⟩
      rw [outcome] at sameReceiver
      dsimp only
      match answer with
      | .ok (.acknowledged _) =>
          obtain ⟨count, same⟩ := restIH received
          rw [sameReceiver] at same
          exact ⟨count + 1, same⟩
      | .ok (.deposited _) => exact ⟨1, sameReceiver⟩
      | .ok (.pending _) => exact ⟨1, sameReceiver⟩
      | .ok (.error _) => exact ⟨1, sameReceiver⟩
      | .error _ => exact ⟨1, sameReceiver⟩

end ReceiverRun

/-! ## Two deliveries that are lost -/

namespace Symbolic

/-- Two messages that were encrypted with the same prekey bundle. -/
def letters : List (InitialMessage primitives) :=
  ["first", "second"].filterMap fun name => do
    let bundle ← receivingBob.prekeyBundle.toOption
    ((Alice.encryptInitialMessage bundle "hello" (Bytes.ofText name)).run alice).1.toOption

def receiverWire : ReceiverWire primitives where
  toWire := { wireOf [] with initialMessage := .listed letters }
  appEnvelope := .listed [⟨"greeting", greeting⟩]
  sessionState := stateless

def queuedGreeting : Delivery := .outbox "chat" ⟨"greeting", "bob", [], .pending, 0, 0, none⟩

def firstLetter : Delivery := .mailbox "token" ⟨"token", "first", [], none⟩

def secondLetter : Delivery := .mailbox "token" ⟨"token", "second", [0], none⟩

/-- A receiver with empty tables. -/
def receiving : ReceiverRun primitives := ⟨⟨receivingBob, ⟨.empty, 0, []⟩, []⟩, [], []⟩

/-- The first attempt is interrupted between the two things that it records, and the
second one acknowledges the message that is not there. -/
def interruptedRun : List (ReceiverEvent primitives) :=
  [.start receivingBob ⟨0, [false, true]⟩, .deliver queuedGreeting, .deliver queuedGreeting]

/-- The second letter needs the prekey that the first one has used. -/
def sharedPrekeyRun : List (ReceiverEvent primitives) :=
  [.start receivingBob undisturbed, .deliver firstLetter, .deliver secondLetter,
    .start receivingBob undisturbed, .deliver secondLetter]

theorem lost_message_acknowledged :
    (∃ state, (ReceiverRun.system receiverWire).Reachable state ∧
        state.attempts.length = 2 ∧ state.acknowledged = [queuedGreeting] ∧
        ¬ queuedGreeting.Stored receiverWire state.receiver.storage) ∧
      ∃ state, (ReceiverRun.system receiverWire).Reachable state ∧
        state.attempts.length = 3 ∧ state.acknowledged = [firstLetter, secondLetter] ∧
        ¬ secondLetter.Stored receiverWire state.receiver.storage := by
  have interruptedPermits :
      (ReceiverRun.system receiverWire).Permits receiving interruptedRun := by
    simp [interruptedRun, System.Permits, ReceiverRun.system]
  have sharedPermits : (ReceiverRun.system receiverWire).Permits receiving sharedPrekeyRun := by
    simp [sharedPrekeyRun, System.Permits, ReceiverRun.system]
  have starts : (ReceiverRun.system receiverWire).initial receiving := ⟨rfl, rfl, rfl⟩
  refine ⟨⟨_, ⟨_, starts, interruptedPermits.reaches⟩, ?_, ?_, ?_⟩,
    _, ⟨_, starts, sharedPermits.reaches⟩, ?_, ?_, ?_⟩
  · decide +kernel
  · decide +kernel
  · rintro ⟨receipt, received, stored⟩
    cases received
    revert stored
    refine mt Storage.HasStored.contains ?_
    decide +kernel
  · decide +kernel
  · decide +kernel
  · rintro ⟨receipt, received, stored⟩
    cases received
    revert stored
    refine mt Storage.HasStored.contains ?_
    decide +kernel

/-- The message comes twice and is acknowledged twice. -/
def repeatedRun : List (ReceiverEvent primitives) :=
  [.start receivingBob undisturbed, .deliver queuedGreeting, .deliver queuedGreeting]

theorem queuedGreeting_completes : queuedGreeting.Completes receiverWire receiving.receiver where
  new := by
    rintro messageId ⟨⟩
    decide +kernel
  decrypts := by
    refine ⟨⟨"greeting", greeting⟩, by decide +kernel, ?_⟩
    have decrypted : ((RatchetSession.decrypt greeting).run (sessions .bob)).1 = .ok "hello" := by
      decide +kernel
    have present : receiving.receiver.bob.session = some (sessions .bob) := rfl
    rw [Ensures, Bob.decryptFromAlice, Bob.onSession, run_focusSome _ _ _ present]
    rw [decrypted]
    exact ⟨rfl, _, rfl, rfl⟩
  uninterrupted := by decide +kernel
  leaves := by
    rintro receipt ⟨⟩ present
    exact absurd present (by decide +kernel)

theorem repeated_greeting_stored :
    let state := (ReceiverRun.system receiverWire).run receiving repeatedRun
    queuedGreeting.Stored receiverWire state.receiver.storage := by
  intro state
  have permits : ((ReceiverRun.system receiverWire).restrict
      (ReceiverRun.KeepsReceipts receiverWire)).Permits receiving repeatedRun := by
    refine ⟨⟨trivial, trivial⟩, ⟨trivial, ?_⟩, ⟨trivial, ?_⟩, trivial⟩
    · rintro _ messageId ⟨⟩
      rw [if_neg (by decide +kernel)]
      exact queuedGreeting_completes.leaves
    · rintro _ messageId ⟨⟩
      rw [if_pos (by decide +kernel)]
      exact ⟨⟨receiving.receiver, queuedGreeting⟩, List.mem_singleton_self _,
        queuedGreeting_completes, rfl⟩
  have acknowledged : queuedGreeting ∈ state.acknowledged := by decide +kernel
  exact ReceiverRun.acknowledged_was_stored ⟨receiving, ⟨rfl, rfl, rfl⟩, permits.reaches⟩
    acknowledged

end Symbolic

end CipherMesh
