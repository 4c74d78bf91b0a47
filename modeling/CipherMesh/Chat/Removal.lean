import CipherMesh.Chat.FlushEnds
import CipherMesh.Chat.Retry

/-!
# Removal from the queue

A flush removes a part at the front of the queue, and every removed message was acknowledged
while it was the current one.  Its row in the history is `Sent`, unless a statement failed
or the row is a late one under the same id.
-/

namespace CipherMesh

open Foundation
open Foundation.Mutation

variable {P : Primitives} {wire : Wire P}

/-! ## What is left of the queue -/

namespace FlushConnection

variable {peerId : String} {before after : Storage}
variable {removed remaining : List PendingPeerMessage}

/-- The queue that is left is the same, but for one more attempt at its first message. -/
def AttemptedOnce : List PendingPeerMessage → List PendingPeerMessage → Prop
  | [], left => left = []
  | first :: later, left =>
      ∃ row, left = row :: later ∧ (row = first ∨ ∃ now, row = first.attempted now)

theorem AttemptedOnce.refl (remaining : List PendingPeerMessage) :
    AttemptedOnce remaining remaining := by
  cases remaining with
  | nil => rfl
  | cons first later => exact ⟨first, rfl, .inl rfl⟩

theorem pendingOrder_separates {row other : PendingPeerMessage}
    (same : Storage.pendingOrder row = Storage.pendingOrder other) :
    row.messageId = other.messageId :=
  congrArg (fun order => (ofLex order).2) same

/-- Taking out the front of a queue by its ids leaves the rest. -/
theorem filter_removed
    (distinct : ((removed ++ remaining).map PendingPeerMessage.messageId).Nodup) :
    ((removed ++ remaining).filter fun row =>
      !decide (row.messageId ∈ removed.map PendingPeerMessage.messageId)) = remaining := by
  rw [List.map_append] at distinct
  have disjoint := List.disjoint_of_nodup_append distinct
  rw [List.filter_append, List.filter_eq_nil_iff.mpr, List.nil_append, List.filter_eq_self.mpr]
  · intro row member
    have absent := disjoint.symm (List.mem_map_of_mem member)
    simpa using absent
  · intro row member
    have present := List.mem_map_of_mem (f := PendingPeerMessage.messageId) member
    simpa using present

theorem map_attempted {first : PendingPeerMessage} {later : List PendingPeerMessage}
    (distinct : ((first :: later).map PendingPeerMessage.messageId).Nodup) (now : UInt64) :
    ((first :: later).map fun row =>
      if decide (row.messageId = first.messageId) then row.attempted now else row) =
        first.attempted now :: later := by
  rw [List.map_cons, List.nodup_cons] at distinct
  rw [List.map_cons, if_pos (by simp)]
  congr 1
  conv_rhs => rw [← List.map_id later]
  refine List.map_congr_left fun row member => if_neg ?_
  intro same
  exact distinct.1 (List.mem_map.mpr ⟨row, member, of_decide_eq_true same⟩)

theorem Removes.left (removes : Removes removed remaining before after)
    (queue : before.pendingFor peerId = removed ++ remaining) :
    AttemptedOnce remaining (after.pendingFor peerId) := by
  have distinct := Table.nodup_key_select before.pendingPeerMessages
    (fun message => message.peerId = peerId) Storage.pendingOrder
  have deleted := Table.select_delete before.pendingPeerMessages
    (fun message => message.peerId = peerId)
    (fun row => row.messageId ∈ removed.map PendingPeerMessage.messageId) Storage.pendingOrder
    fun row other _ _ same => pendingOrder_separates same
  change (_ = (before.pendingFor peerId).filter _) at deleted
  change ((before.pendingFor peerId).map _).Nodup at distinct
  rw [queue] at deleted distinct
  rw [filter_removed distinct] at deleted
  rcases removes with same | ⟨first, later, now, rfl, same⟩
  · rw [Storage.pendingFor, same, deleted]
    exact .refl remaining
  · rw [Storage.pendingFor, same, Table.select_update, deleted, map_attempted]
    · exact ⟨_, rfl, .inr ⟨now, rfl⟩⟩
    · rw [List.map_append] at distinct
      exact (List.nodup_append.mp distinct).2.1
    · exact fun _ => rfl
    · exact fun _ => rfl

/-- No row of another peer is touched. -/
theorem Removes.others (removes : Removes removed remaining before after)
    (queue : before.pendingFor peerId = removed ++ remaining) {row : PendingPeerMessage}
    (other : row.peerId ≠ peerId) :
    row ∈ after.pendingPeerMessages ↔ row ∈ before.pendingPeerMessages := by
  -- The ids of the queue are those of rows of the peer.
  have apart : ∀ queued ∈ removed ++ remaining, ∀ stored ∈ before.pendingPeerMessages,
      stored.messageId = queued.messageId → stored.peerId = peerId := by
    intro queued member stored storedMember same
    rw [← queue] at member
    obtain ⟨queuedMember, chosen⟩ := Table.mem_select.mp member
    rw [Table.eq_of_key_eq storedMember queuedMember same]
    exact of_decide_eq_true chosen
  have deleted : row ∈ (before.pendingPeerMessages.delete fun row =>
      row.messageId ∈ removed.map PendingPeerMessage.messageId) ↔
        row ∈ before.pendingPeerMessages := by
    rw [Table.mem_delete, and_iff_left_iff_imp, decide_eq_false_iff_not]
    intro member taken
    obtain ⟨queued, queuedMember, same⟩ := List.mem_map.mp taken
    exact other (apart queued (List.mem_append_left _ queuedMember) row member same.symm)
  rcases removes with same | ⟨first, later, now, rfl, same⟩
  · rw [same, deleted]
  · have queued : first ∈ removed ++ first :: later := by simp
    rw [same, ← deleted]
    constructor
    · intro member
      obtain ⟨old, oldMember, rfl⟩ := Table.mem_update.mp member
      split
      · next attempted =>
          rw [if_pos attempted] at other
          have stored := (Table.mem_delete.mp oldMember).1
          exact absurd (apart first queued old stored (of_decide_eq_true attempted)) other
      · exact oldMember
    · intro member
      refine Table.mem_update_of_not _ member (decide_eq_false fun attempted => ?_)
      exact other (apart first queued row (Table.mem_delete.mp member).1 attempted)

end FlushConnection

/-! ## The law of a flush -/

/-- What a flush of the queue of a peer has done when it returned or failed, with the frames
that it has read and the id that was awaited for each.  After a storage failure only the status
of the last row that was removed is left open. -/
structure RemovesAcknowledgedFront (peerId : String) (before after : Storage)
    (received : List (String × ChatFrame P)) (result : Except AppError Unit)
    (removed remaining : List PendingPeerMessage) : Prop where
  queue : before.pendingFor peerId = removed ++ remaining
  acknowledged : ∀ row ∈ removed, (row.messageId, .ack row.messageId) ∈ received
  left : FlushConnection.AttemptedOnce remaining (after.pendingFor peerId)
  others : ∀ row : PendingPeerMessage, row.peerId ≠ peerId →
    (row ∈ after.pendingPeerMessages ↔ row ∈ before.pendingPeerMessages)
  sent : ∀ earlier row later, removed = earlier ++ row :: later →
    (∀ failure, result ≠ .error (.storage failure)) ∨ later ≠ [] →
      ∀ message ∈ after.messages, message.messageId = row.messageId →
        message.status = .sent ∨
          (¬before.messages.Contains row.messageId ∧ ∃ current ∈ later ++ remaining,
            FlushConnection.ArrivedDuring current.messageId row.messageId received)

/-- The peer whose messages are delivered in a conversation. -/
def Storage.pendingPeerIdFor (P : Primitives) (conversationId : String) (storage : Storage) :
    String :=
  ((storage.knownPeerFor P conversationId).map KnownPeerRecord.peerId).getD conversationId

namespace FlushConnection

theorem Flushed.law {peerId : String} {removed remaining : List PendingPeerMessage}
    {result : Except AppError Unit} {complete : Prop}
    (flushed : Flushed removed remaining complete before after)
    (queue : before.storage.pendingFor peerId = removed ++ remaining)
    (completes : (∀ failure, result ≠ .error (.storage failure)) → complete) :
    RemovesAcknowledgedFront peerId before.storage after.storage after.received result removed
      remaining where
  queue := queue
  acknowledged := flushed.acknowledged
  left := flushed.pending.left queue
  others _ other := flushed.pending.others queue other
  sent earlier row later same known message member named := by
    rcases flushed.settled earlier row later same (known.imp_left completes) with settled | late
    · exact .inl (settled message member named)
    · exact .inr late

theorem pendingPeerId_ensures (conversationId : String) (connection : FlushConnection P) :
    (onChat (PairingChat.onStorage (pendingPeerIdForConversation P conversationId))).Ensures
      connection
      (fun peerId after => peerId = connection.storage.pendingPeerIdFor P conversationId ∧
        after.storage = connection.storage)
      (fun _ after => after.storage = connection.storage) := by
  rw [onChat, ensures_focus, PairingChat.onStorage, PairingChat.onDatabase, ensures_focus,
    ensures_mapError, pendingPeerIdForConversation, ensures_bind]
  refine (loadKnownPeer_ensures connection.chat.database conversationId).mono ?_
    fun _ _ => And.right
  rintro peer after ⟨rfl, same, -⟩
  exact ⟨rfl, same⟩

/-- The law, of a flush that started with these tables. -/
def FlushLaw (peerId : String) (before : Storage) (result : Except AppError Unit)
    (after : FlushConnection P) : Prop :=
  ∃ removed remaining,
    RemovesAcknowledgedFront peerId before after.storage after.received result removed remaining

theorem FlushLaw.unchanged {peerId : String} {storage : Storage} (result : Except AppError Unit)
    (same : after.storage = storage) : FlushLaw peerId storage result after := by
  have untouched : Flushed [] (storage.pendingFor peerId) True after after :=
    .untouched ⟨rfl, .refl _⟩
  rw [← same] at untouched ⊢
  exact ⟨[], _, untouched.law rfl fun _ => True.intro⟩

theorem flushPendingMessages_ensures (wire : Wire P) (arrivals : List Arrival)
    (connection : FlushConnection P) :
    let law := FlushLaw (P := P)
      (connection.storage.pendingPeerIdFor P connection.chat.context.conversationId)
      connection.storage
    (flushPendingMessages wire arrivals).Ensures connection (fun value => law (.ok value))
      (fun error => law (.error error)) := by
  intro law
  let peerId := connection.storage.pendingPeerIdFor P connection.chat.context.conversationId
  rw [flushPendingMessages, ensures_bind, ensures_get, ensures_bind]
  refine (pendingPeerId_ensures connection.chat.context.conversationId connection).mono ?_
    fun error after same => .unchanged (.error error) same
  rintro _ found ⟨rfl, same⟩
  rw [ensures_bind, onChat, ensures_focus, PairingChat.onStorage, PairingChat.onDatabase,
    ensures_focus, ensures_mapError]
  apply Database.ensures_query
  · exact .unchanged _ same
  let listed : FlushConnection P := { found with
    chat := { found.chat with database := found.chat.database.advance found.storage } }
  have listedSame : listed.storage = connection.storage := same
  rw [ensures_ite]
  constructor
  · exact fun _ => .unchanged (.ok ()) listedSame
  · intro _
    have laws : ∀ (result : Except AppError Unit) complete after,
        ((∀ failure, result ≠ .error (.storage failure)) → complete) →
        Ends (found.storage.pendingFor peerId) complete listed after → law result after := by
      rintro result complete after completes ⟨removed, remaining, split, flushed⟩
      rw [same, ← listedSame] at split
      have flushedLaw := flushed.law split completes
      rw [listedSame] at flushedLaw
      exact ⟨removed, remaining, flushedLaw⟩
    refine (flushItems_ends _ arrivals listed).mono ?_ ?_
    · exact fun value after => laws (.ok value) True after fun _ => True.intro
    · exact fun error after => laws (.error error) _ after fun noFailure failure same =>
        noFailure failure (congrArg Except.error same)

/-- For every queue and every behaviour of the connection, when the flush returns or fails it
has removed a part at the front of the queue, message by message as they were acknowledged,
and has attempted the next message at most once. -/
theorem flushPendingMessages_removes (wire : Wire P) (arrivals : List Arrival)
    (chat : PairingChat P) (outcomes : List SendOutcome) :
    let connection : FlushConnection P := ⟨chat, outcomes, []⟩
    let outcome := (flushPendingMessages wire arrivals).run connection
    ∃ removed remaining,
      RemovesAcknowledgedFront (connection.storage.pendingPeerIdFor P chat.context.conversationId)
        connection.storage outcome.2.storage outcome.2.received outcome.1 removed remaining := by
  intro connection outcome
  have ensures := flushPendingMessages_ensures wire arrivals connection
  rcases ran : (flushPendingMessages wire arrivals).run connection with ⟨error | value, after⟩
  · have law := ensures.of_error ran
    simp only [outcome, ran]
    exact law
  · have law := ensures.of_ok ran
    simp only [outcome, ran]
    exact law

end FlushConnection

/-! ## A message whose history was cleared -/

/-- Every row that was removed has no other status than `Sent` in the history. -/
def RemovesSettled (peerId : String) (before after : Storage) : Prop :=
  ∃ removed remaining, before.pendingFor peerId = removed ++ remaining ∧
    FlushConnection.AttemptedOnce remaining (after.pendingFor peerId) ∧
    ∀ row ∈ removed, after.Settled row.messageId

namespace Symbolic

/-- The frames of a flush of two messages by Bob, their acknowledgements, and a message of
Alice under the id of the first. -/
def queueFrames : List (ChatFrame primitives) :=
  (encryptions ["hello", "hello"] (sessions .bob)).zipWith
    (fun message id => .message id "Bob" message) ["first", "second"] ++
      [.ack "first", .ack "second", .message "first" "Alice" greeting]

def queueWire : Wire primitives where
  ratchetMessage := stateless
  chatFrame := .listed queueFrames
  initialMessage := stateless
  chatInitialMessage := stateless
  legacyChatInitialMessage := stateless
  aliceState := stateless
  bobState := stateless

/-- Bob has two messages in the queue and nothing in the history. -/
def queuedStore : Storage :=
  { Storage.empty with
    pendingPeerMessages := (Table.empty.upsert
      ⟨"first", "chat", "chat", "hello", 1, 0, none⟩).upsert
        ⟨"second", "chat", "chat", "hello", 2, 0, none⟩ }

/-- The first message is still in the history. -/
def storedStore : Storage :=
  queuedStore.withMessage
    ⟨"first", "chat", "you", "Alice", .sent, .stored, none, [], some "hello", 1⟩

/-- How a flush ends from a store when some of its statements are interrupted. -/
def flushed (storage : Storage) (interruptions : List Bool) (arrivals : List Arrival) :
    Except AppError Unit × FlushConnection primitives :=
  (FlushConnection.flushPendingMessages queueWire arrivals).run
    ⟨{ endpoint .bob with database := ⟨storage, 0, interruptions⟩ }, [], []⟩

/-- The first message is acknowledged, and Alice sends one under its id. -/
def clearedFlush : Except AppError Unit × FlushConnection primitives :=
  flushed queuedStore [] [.frame [0, 0], .frame [0, 0, 0, 0]]

/-- The first message is acknowledged, and its status is not updated. -/
def interruptedFlush : Except AppError Unit × FlushConnection primitives :=
  flushed storedStore (List.replicate 6 false ++ [true]) [.frame [0, 0]]

/-- Of two messages one is left, and the history has the other with another status. -/
theorem not_removesSettled {before after : Storage} {peerId : String}
    {first second : PendingPeerMessage} {status : MessageStatus}
    (queue : before.pendingFor peerId = [first, second])
    (one : (after.pendingFor peerId).length = 1)
    (history : after.messages.rows.map (fun row => (row.messageId, row.status)) =
      [(first.messageId, status)])
    (other : status ≠ .sent) : ¬RemovesSettled peerId before after := by
  rintro ⟨removed, remaining, split, attempted, settled⟩
  rw [queue] at split
  cases removed with
  | nil =>
      rw [List.nil_append] at split
      rw [← split] at attempted
      obtain ⟨_, same, -⟩ := attempted
      rw [same] at one
      cases one
  | cons front removed =>
      obtain rfl : first = front := (List.cons.inj split).1
      have stored : (first.messageId, status) ∈
          after.messages.rows.map fun row => (row.messageId, row.status) := by
        rw [history]
        exact List.mem_cons_self
      obtain ⟨row, member, same⟩ := List.mem_map.mp stored
      obtain ⟨named, rowStatus⟩ := Prod.mk.inj same
      have sent := settled first List.mem_cons_self row member named
      exact other (rowStatus.symm.trans sent)

/-- Either way the message was acknowledged and removed, and its row is not `Sent`. -/
theorem removed_message_not_sent :
    (clearedFlush.1 = .ok () ∧ ("first", .ack "first") ∈ clearedFlush.2.received ∧
      clearedFlush.2.storage.pendingPeerMessages.rows.map PendingPeerMessage.messageId =
        ["second"] ∧
      clearedFlush.2.storage.messages.rows.map (fun row => (row.messageId, row.status)) =
        [("first", .received)] ∧
      ¬RemovesSettled "chat" queuedStore clearedFlush.2.storage) ∧
    (interruptedFlush.1 = .error (.storage .interrupted) ∧
      ("first", .ack "first") ∈ interruptedFlush.2.received ∧
      interruptedFlush.2.storage.pendingPeerMessages.rows.map PendingPeerMessage.messageId =
        ["second"] ∧
      interruptedFlush.2.storage.messages.rows.map (fun row => (row.messageId, row.status)) =
        [("first", .stored)] ∧
      ¬RemovesSettled "chat" storedStore interruptedFlush.2.storage) := by
  refine ⟨⟨by decide +kernel, by decide +kernel, by decide +kernel, by decide +kernel, ?_⟩,
    by decide +kernel, by decide +kernel, by decide +kernel, by decide +kernel, ?_⟩
  · exact not_removesSettled (by decide +kernel : queuedStore.pendingFor "chat" =
        [⟨"first", "chat", "chat", "hello", 1, 0, none⟩,
          ⟨"second", "chat", "chat", "hello", 2, 0, none⟩])
      (by decide +kernel) (by decide +kernel : _ = [("first", MessageStatus.received)])
      (by decide)
  · exact not_removesSettled (by decide +kernel : storedStore.pendingFor "chat" =
        [⟨"first", "chat", "chat", "hello", 1, 0, none⟩,
          ⟨"second", "chat", "chat", "hello", 2, 0, none⟩])
      (by decide +kernel) (by decide +kernel : _ = [("first", MessageStatus.stored)])
      (by decide)

end Symbolic

end CipherMesh
