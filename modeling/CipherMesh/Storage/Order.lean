import CipherMesh.Foundation.Arrival
import CipherMesh.Foundation.Reachability
import CipherMesh.Storage.Messages

/-!
# The order of typed messages

The queue and the history are read by the second in which a message was typed and then by
its id, which is a hash.  So messages come back as they were typed exactly when those of
one second happen to have ascending ids.
-/

namespace CipherMesh

open Foundation
open Foundation.Mutation

/-- What the queue of a peer or the history of a conversation orders messages by. -/
structure TypedMessage where
  messageId : String
  owner : String
  createdAtUnixSecs : UInt64
  deriving DecidableEq

def PendingPeerMessage.typed (row : PendingPeerMessage) : TypedMessage :=
  ⟨row.messageId, row.peerId, row.createdAtUnixSecs⟩

def MessageRecord.typed (row : MessageRecord) : TypedMessage :=
  ⟨row.messageId, row.conversationId, row.createdAtUnixSecs⟩

namespace TypedMessage

/-- The order of a selection, without a counter. -/
def order (message : TypedMessage) : Int ×ₗ String :=
  toLex (asI64 message.createdAtUnixSecs, message.messageId)

/-- The order of the history for messages without a counter. -/
def historyOrder (message : TypedMessage) : Int ×ₗ WithBot Int ×ₗ String :=
  toLex (asI64 message.createdAtUnixSecs, toLex (⊥, message.messageId))

theorem historyOrder_le_historyOrder (first second : TypedMessage) :
    first.historyOrder ≤ second.historyOrder ↔ first.order ≤ second.order := by
  simp [historyOrder, order, Prod.Lex.toLex_le_toLex]

/-- Two messages of one second have ascending ids, and the seconds of the later one are
not read as negative. -/
def InOrder (first second : TypedMessage) : Prop :=
  (first.createdAtUnixSecs = second.createdAtUnixSecs → first.messageId ≤ second.messageId) ∧
    (Representable first.createdAtUnixSecs → Representable second.createdAtUnixSecs)

theorem order_le_order_iff {first second : TypedMessage}
    (earlier : first.createdAtUnixSecs ≤ second.createdAtUnixSecs) :
    first.order ≤ second.order ↔ InOrder first second := by
  rw [order, order, Prod.Lex.toLex_le_toLex, InOrder]
  constructor
  · rintro (before | ⟨sameSecond, ids⟩)
    · refine ⟨fun same => ?_, fun fits => ?_⟩
      · rw [same] at before
        exact absurd before (lt_irrefl _)
      · apply representable_of_asI64_nonneg
        rw [fits.asI64_eq] at before
        exact le_trans (Int.natCast_nonneg _) (le_of_lt before)
    · refine ⟨fun _ => ids, fun fits => ?_⟩
      rwa [← asI64_injective sameSecond]
  · rintro ⟨ids, fits⟩
    rcases UInt64.le_iff_lt_or_eq.mp earlier with before | same
    · left
      dsimp only
      by_cases small : Representable first.createdAtUnixSecs
      · rw [small.asI64_eq, (fits small).asI64_eq]
        exact_mod_cast UInt64.lt_iff_toNat_lt.mp before
      · have large : ¬ Representable second.createdAtUnixSecs := by
          rw [Representable] at small ⊢
          rw [UInt64.lt_iff_toNat_lt] at before
          omega
        rw [asI64_of_not_representable small, asI64_of_not_representable large]
        rw [UInt64.lt_iff_toNat_lt] at before
        omega
    · right
      exact ⟨congrArg asI64 same, ids same⟩

end TypedMessage

/-! ## Calls -/

/-- The calls on the queue and on the rows of typed messages. -/
inductive TypingCall where
  | queuePendingPeerMessage (row : PendingPeerMessage)
  | insertMessage (row : MessageRecord)
  | recordPendingPeerMessageAttempt (messageId : String)
  | removePendingPeerMessage (messageId : String)
  | updateMessageStatus (messageId : String) (status : MessageStatus)

/-- The messages that wait in the queues and those in the histories, in the order in which
they were typed. -/
structure TypedLogs where
  queued : List TypedMessage
  inserted : List TypedMessage

structure TypedChat where
  database : Database
  clock : UInt64
  logs : TypedLogs

namespace TypingCall

def perform : TypingCall → StorageResult Unit
  | .queuePendingPeerMessage row => Database.queuePendingPeerMessage row
  | .insertMessage row => Database.insertMessage row
  | .recordPendingPeerMessageAttempt messageId =>
      Database.recordPendingPeerMessageAttempt messageId
  | .removePendingPeerMessage messageId => Database.removePendingPeerMessage messageId
  | .updateMessageStatus messageId status => Database.updateMessageStatus messageId status

/-- A new row is typed at this time, and as a sent one without a counter. -/
def TypedAt (now : UInt64) : TypingCall → Prop
  | .queuePendingPeerMessage row => row.createdAtUnixSecs = now
  | .insertMessage row =>
      row.createdAtUnixSecs = now ∧ row.direction = .sent ∧ row.protocolCounter = none
  | _ => True

/-- The logs after a call that returned. -/
def log (call : TypingCall) (storage : Storage) (logs : TypedLogs) : TypedLogs :=
  match call with
  | .queuePendingPeerMessage row =>
      if storage.pendingPeerMessages.Contains row.messageId then logs
      else { logs with queued := logs.queued ++ [row.typed] }
  | .insertMessage row =>
      if storage.messages.Contains row.messageId then logs
      else { logs with inserted := logs.inserted ++ [row.typed] }
  | .removePendingPeerMessage messageId =>
      { logs with
        queued := logs.queued.filter fun message => !decide (message.messageId = messageId) }
  | .recordPendingPeerMessageAttempt _ | .updateMessageStatus _ _ => logs

end TypingCall

namespace TypedChat

/-- The runs of calls under a clock that does not go back, from an empty store. -/
def typing : System TypedChat (TypingCall × UInt64 × List Bool) where
  initial chat := chat.database.storage = .empty ∧ chat.logs = ⟨[], []⟩
  permitted chat event := chat.clock ≤ event.2.1 ∧ event.1.TypedAt event.2.1
  next chat event :=
    match event.1.perform.run (chat.database.opened event.2.1 event.2.2) with
    | (.ok (), database) =>
        ⟨database, event.2.1, event.1.log chat.database.storage chat.logs⟩
    | (.error _, database) => ⟨database, event.2.1, chat.logs⟩

end TypedChat

namespace TypedLogs

/-- The messages were typed one after the other. -/
structure Chronological (clock : UInt64) (log : List TypedMessage) : Prop where
  ascending : log.Pairwise fun first second =>
    first.createdAtUnixSecs ≤ second.createdAtUnixSecs
  past : ∀ message ∈ log, message.createdAtUnixSecs ≤ clock

namespace Chronological

variable {clock now : UInt64} {log : List TypedMessage}

theorem later (chronological : Chronological clock log) (passed : clock ≤ now) :
    Chronological now log where
  ascending := chronological.ascending
  past message member := UInt64.le_trans (chronological.past message member) passed

theorem append (chronological : Chronological clock log) {message : TypedMessage}
    (typed : message.createdAtUnixSecs = clock) : Chronological clock (log ++ [message]) where
  ascending := by
    refine List.pairwise_append.mpr ⟨chronological.ascending, List.pairwise_singleton _ _, ?_⟩
    intro first member second inNew
    rw [List.mem_singleton.mp inNew, typed]
    exact chronological.past first member
  past := by
    intro other member
    rcases List.mem_append.mp member with old | inNew
    · exact chronological.past other old
    · rw [List.mem_singleton.mp inNew, typed]
      exact UInt64.le_refl _

theorem filter (chronological : Chronological clock log) (kept : TypedMessage → Bool) :
    Chronological clock (log.filter kept) where
  ascending := chronological.ascending.filter _
  past message member := chronological.past message (List.mem_filter.mp member).1

/-- The order of the selections agrees when messages of one second do. -/
theorem pairwise_order_iff (chronological : Chronological clock log) :
    (log.Pairwise fun first second => first.order ≤ second.order) ↔
      log.Pairwise TypedMessage.InOrder := by
  constructor
  · intro agrees
    exact (agrees.and chronological.ascending).imp fun related =>
      (TypedMessage.order_le_order_iff related.2).mp related.1
  · intro inOrder
    exact (inOrder.and chronological.ascending).imp fun related =>
      (TypedMessage.order_le_order_iff related.2).mpr related.1

end Chronological

/-- The logs list the rows of the tables, and are chronological. -/
structure Record (logs : TypedLogs) (clock : UInt64) (storage : Storage) : Prop where
  queued : Table.Logs PendingPeerMessage.typed logs.queued storage.pendingPeerMessages
  inserted : Table.Logs MessageRecord.typed logs.inserted storage.messages
  uncounted : ∀ row ∈ storage.messages, row.protocolCounter = none
  queuedClock : Chronological clock logs.queued
  insertedClock : Chronological clock logs.inserted

variable {logs : TypedLogs} {clock now : UInt64} {storage : Storage}

theorem Record.later (record : logs.Record clock storage) (passed : clock ≤ now) :
    logs.Record now storage :=
  { record with
    queuedClock := record.queuedClock.later passed
    insertedClock := record.insertedClock.later passed }

theorem Record.queuePendingPeerMessage (record : logs.Record now storage)
    {row : PendingPeerMessage} (typed : row.createdAtUnixSecs = now) :
    ((TypingCall.queuePendingPeerMessage row).log storage logs).Record now { storage with
      pendingPeerMessages := storage.pendingPeerMessages.insertOrIgnore row } := by
  rw [TypingCall.log]
  split
  · next present => exact { record with queued := record.queued.ignored present }
  · next absent =>
      refine { record with
        queued := record.queued.inserted (fun row other alike => ?_) absent
        queuedClock := record.queuedClock.append typed }
      exact congrArg TypedMessage.messageId alike

theorem Record.insertMessage (record : logs.Record now storage) {row : MessageRecord}
    (typed : row.createdAtUnixSecs = now) (uncounted : row.protocolCounter = none) :
    ((TypingCall.insertMessage row).log storage logs).Record now { storage with
      messages := storage.messages.insertOrIgnore row } := by
  have stillUncounted : ∀ other ∈ storage.messages.insertOrIgnore row,
      other.protocolCounter = none := by
    intro other member
    rcases Table.mem_insertOrIgnore.mp member with old | ⟨rfl, _⟩
    · exact record.uncounted other old
    · exact uncounted
  rw [TypingCall.log]
  split
  · next present =>
      exact { record with
        inserted := record.inserted.ignored present
        uncounted := stillUncounted }
  · next absent =>
      refine { record with
        inserted := record.inserted.inserted (fun row other alike => ?_) absent
        uncounted := stillUncounted
        insertedClock := record.insertedClock.append typed }
      exact congrArg TypedMessage.messageId alike

theorem record_perform (record : logs.Record now storage) {call : TypingCall}
    (typed : call.TypedAt now) {database : Database} (same : database.storage = storage) :
    call.perform.Ensures database
      (fun _ after => (call.log storage logs).Record now after.storage)
      (fun _ after => logs.Record now after.storage) := by
  subst same
  cases call with
  | queuePendingPeerMessage row =>
      rw [TypingCall.perform, Database.queuePendingPeerMessage]
      exact Database.ensures_execute (by exact record) (record.queuePendingPeerMessage typed)
  | insertMessage row =>
      obtain ⟨created, _, uncounted⟩ := typed
      rw [TypingCall.perform, Database.insertMessage]
      exact Database.ensures_execute (by exact record) (record.insertMessage created uncounted)
  | recordPendingPeerMessageAttempt messageId =>
      rw [TypingCall.perform, Database.recordPendingPeerMessageAttempt, ensures_bind,
        Database.ensures_nowUnixSecs]
      refine Database.ensures_execute (by exact record) ?_
      refine { record with queued := record.queued.update ?_ ?_ }
      · exact fun _ => rfl
      · exact fun _ => rfl
  | removePendingPeerMessage messageId =>
      rw [TypingCall.perform, Database.removePendingPeerMessage]
      refine Database.ensures_execute (by exact record) ?_
      exact { record with
        queued := record.queued.delete fun _ => rfl
        queuedClock := record.queuedClock.filter _ }
  | updateMessageStatus messageId status =>
      rw [TypingCall.perform, Database.updateMessageStatus]
      refine Database.ensures_execute (by exact record) ?_
      refine { record with inserted := record.inserted.update ?_ ?_, uncounted := ?_ }
      · exact fun _ => rfl
      · exact fun _ => rfl
      · apply Table.forall_mem_update _ record.uncounted
        · exact fun _ holds => holds
        · exact fun _ => rfl

end TypedLogs

namespace TypedChat

variable {chat : TypedChat}

/-- The logs of the typed messages are those of the tables. -/
theorem record_of_reachable (reachable : typing.Reachable chat) :
    chat.logs.Record chat.clock chat.database.storage := by
  refine reachable.invariant (fun chat => chat.logs.Record chat.clock chat.database.storage) ?_ ?_
  · rintro start ⟨empty, none⟩
    rw [empty, none]
    exact {
      queued := .empty
      inserted := .empty
      uncounted := fun row member => absurd member Table.notMem_empty
      queuedClock := ⟨.nil, fun message member => absurd member List.not_mem_nil⟩
      insertedClock := ⟨.nil, fun message member => absurd member List.not_mem_nil⟩ }
  · rintro state ⟨call, now, interruptions⟩ record ⟨passed, typed⟩
    have performed := TypedLogs.record_perform (record.later passed) typed
      (state.database.opened_storage now interruptions)
    dsimp only [typing]
    split
    · next returned => exact performed.of_ok returned
    · next failed => exact performed.of_error failed

/-- The queue of a peer and the history of a conversation are returned as their messages
were typed exactly when the messages of each second were typed in the order of their ids. -/
theorem typed_order_iff (reachable : typing.Reachable chat) (peerId conversationId : String) :
    let queued := chat.logs.queued.filter fun message => message.owner = peerId
    let inserted := chat.logs.inserted.filter fun message => message.owner = conversationId
    ((chat.database.storage.pendingFor peerId).map PendingPeerMessage.typed = queued ↔
        queued.Pairwise TypedMessage.InOrder) ∧
      ((chat.database.storage.historyOf conversationId).map MessageRecord.typed = inserted ↔
        inserted.Pairwise TypedMessage.InOrder) := by
  have record := record_of_reachable reachable
  constructor
  · rw [← (record.queuedClock.filter _).pairwise_order_iff]
    refine record.queued.map_select_eq_iff TypedMessage.order ?_ ?_ ?_
    · exact fun _ => rfl
    · exact fun _ _ => rfl
    · intro row other same
      exact congrArg (fun order => (ofLex order).2) same
  · rw [← (record.insertedClock.filter _).pairwise_order_iff]
    simp only [← TypedMessage.historyOrder_le_historyOrder]
    refine record.inserted.map_select_eq_iff TypedMessage.historyOrder ?_ ?_ ?_
    · exact fun _ => rfl
    · intro row member
      simp only [Storage.historyOrder, record.uncounted row member]
      rfl
    · intro row other same
      exact congrArg (fun order => (ofLex (ofLex order).2).2) same

end TypedChat

/-! ## Two messages in one second -/

namespace Symbolic

def pendingRow (messageId : String) (now : UInt64) : PendingPeerMessage :=
  ⟨messageId, "peer", "conversation", messageId, now, 0, none⟩

def sentRow (messageId : String) (now : UInt64) : MessageRecord :=
  ⟨messageId, "conversation", "you", "peer", .sent, .stored, none, [], some messageId, now⟩

/-- Two messages are typed, and the first one has the greater id. -/
def typedCalls (second : UInt64) : List (TypingCall × UInt64 × List Bool) :=
  [(.queuePendingPeerMessage (pendingRow "f0" 1), 1, []), (.insertMessage (sentRow "f0" 1), 1, []),
    (.queuePendingPeerMessage (pendingRow "0f" second), second, []),
    (.insertMessage (sentRow "0f" second), second, [])]

def typedChat (second : UInt64) : TypedChat :=
  TypedChat.typing.run ⟨⟨.empty, 0, []⟩, 0, ⟨[], []⟩⟩ (typedCalls second)

theorem typedChat_reachable {second : UInt64} (later : 1 ≤ second) :
    TypedChat.typing.Reachable (typedChat second) := by
  have permits : TypedChat.typing.Permits ⟨⟨.empty, 0, []⟩, 0, ⟨[], []⟩⟩ (typedCalls second) := by
    refine ⟨⟨UInt64.zero_le, rfl⟩, ⟨UInt64.le_refl _, rfl, rfl, rfl⟩, ⟨later, rfl⟩,
      ⟨UInt64.le_refl _, rfl, rfl, rfl⟩, trivial⟩
  exact ⟨_, ⟨rfl, rfl⟩, permits.reaches⟩

/-- In two seconds the messages come back as they were typed. -/
theorem typed_in_two_seconds :
    ((typedChat 2).database.storage.pendingFor "peer").map PendingPeerMessage.typed =
      [(pendingRow "f0" 1).typed, (pendingRow "0f" 2).typed] := by
  have queued : ((typedChat 2).logs.queued.filter fun message => message.owner = "peer") =
      [(pendingRow "f0" 1).typed, (pendingRow "0f" 2).typed] := by
    decide +kernel
  have later : (1 : UInt64) ≤ 2 := by decide
  have inOrder := (TypedChat.typed_order_iff (typedChat_reachable later) "peer" "conversation").1
  rw [queued] at inOrder
  refine inOrder.mpr (List.pairwise_pair.mpr ⟨fun same => absurd same (by decide), fun _ => ?_⟩)
  unfold Representable
  decide

/-- In one second they come back in the order of their ids. -/
theorem typed_in_one_second :
    TypedChat.typing.Reachable (typedChat 1) ∧
      (typedChat 1).logs.queued =
        [⟨"f0", "peer", 1⟩, ⟨"0f", "peer", 1⟩] ∧
      ((typedChat 1).database.storage.pendingFor "peer").map PendingPeerMessage.messageId =
        ["0f", "f0"] ∧
      ((typedChat 1).database.storage.historyOf "conversation").map MessageRecord.messageId =
        ["0f", "f0"] :=
  ⟨typedChat_reachable (by decide), by decide +kernel, by decide +kernel, by decide +kernel⟩

end Symbolic

end CipherMesh
