import CipherMesh.Storage.Events
import CipherMesh.Sync.Meaning

/-!
# The content of shown messages

A conversation is materialized from its events in the order of devices and counters, not
in the order in which they arrive.  So an event that arrives later can come before the
creation of a message that is already shown, and create the message in its place.
-/

namespace CipherMesh

open Foundation
open Foundation.Mutation

variable {format : Format ConversationEvent}

namespace Storage

variable {storage after : Storage} {conversationId : String} {event : EventRecord}

/-- All events of a conversation, which a peer with an empty vector is sent. -/
def allEvents (conversationId : String) (storage : Storage) : List EventRecord :=
  storage.missingEvents conversationId ∅

theorem mem_allEvents {record : EventRecord} :
    record ∈ storage.allEvents conversationId ↔
      (record ∈ storage.eventHistory ∧ record.conversationId = conversationId) ∧
        0 < record.counter := by
  rw [allEvents, mem_missingEvents, Finmap.lookup_empty, Option.getD_none]

theorem pairwise_allEvents (conversationId : String) (storage : Storage) :
    (storage.allEvents conversationId).Pairwise fun first second =>
      eventOrder first < eventOrder second := by
  rw [allEvents, missingEvents, eventsOf]
  refine (Table.pairwise_lt_select fun row other _ _ => ?_).filter _
  exact position_eq_of_eventOrder_eq row other

/-- The message is shown with the content of the least event that creates it. -/
theorem firstCreation_allEvents {messageId : String} {content : String × Bytes} :
    firstCreation format messageId (storage.allEvents conversationId) = some content ↔
      ∃ record ∈ storage.allEvents conversationId,
        creation format messageId record = some content ∧
          ∀ other ∈ storage.allEvents conversationId,
            (creation format messageId other).isSome = true →
              eventOrder record ≤ eventOrder other :=
  findSome?_eq_some_iff_least (pairwise_allEvents conversationId storage)

/-- The messages of the conversation that were shown are shown with the same author and
the same payload. -/
def ContentKept (format : Format ConversationEvent) (conversationId : String)
    (before after : Storage) : Prop :=
  ∀ messageId authorId payload,
    Replay.CreatedAs messageId authorId payload
        (materializeConversation format (before.allEvents conversationId)).messages →
      Replay.CreatedAs messageId authorId payload
        (materializeConversation format (after.allEvents conversationId)).messages

/-- The event takes a free position before the events that create the shown message, and
creates it with another author or payload. -/
structure Overtakes (format : Format ConversationEvent) (storage : Storage)
    (event : EventRecord) (messageId : String) : Prop where
  free : ¬ storage.eventHistory.Contains event.position
  counted : 0 < event.counter
  first : ∀ record ∈ storage.allEvents event.conversationId,
    (creation format messageId record).isSome = true → eventOrder event < eventOrder record
  another : ∃ shown, firstCreation format messageId
      (storage.allEvents event.conversationId) = some shown ∧
    ∃ content, creation format messageId event = some content ∧ content ≠ shown

theorem ContentKept.of_eq
    (same : storage.allEvents conversationId = after.allEvents conversationId) :
    ContentKept format conversationId storage after := by
  intro messageId authorId payload created
  rwa [← same]

theorem mem_allEvents_inserted
    (inserted : after.eventHistory = storage.eventHistory.insertOrIgnore event)
    {record : EventRecord} :
    record ∈ after.allEvents event.conversationId ↔
      record ∈ storage.allEvents event.conversationId ∨
        (record = event ∧ ¬ storage.eventHistory.Contains event.position ∧ 0 < event.counter) := by
  rw [mem_allEvents, mem_allEvents, inserted, Table.mem_insertOrIgnore]
  constructor
  · rintro ⟨⟨old | ⟨rfl, free⟩, here⟩, positive⟩
    · exact .inl ⟨⟨old, here⟩, positive⟩
    · exact .inr ⟨rfl, free, positive⟩
  · rintro (⟨⟨old, here⟩, positive⟩ | ⟨rfl, free, positive⟩)
    · exact ⟨⟨.inl old, here⟩, positive⟩
    · exact ⟨⟨.inr ⟨rfl, free⟩, rfl⟩, positive⟩

/-- An event of another conversation is not listed. -/
theorem allEvents_inserted_elsewhere
    (inserted : after.eventHistory = storage.eventHistory.insertOrIgnore event)
    (elsewhere : event.conversationId ≠ conversationId) :
    storage.allEvents conversationId = after.allEvents conversationId := by
  refine missingEvents_congr fun record here => ?_
  rw [inserted, Table.mem_insertOrIgnore]
  refine ⟨.inl, fun member => member.resolve_right ?_⟩
  rintro ⟨rfl, _⟩
  exact elsewhere here

/-- An event that overtakes is the first creation of the message. -/
theorem Overtakes.not_contentKept {messageId : String}
    (inserted : after.eventHistory = storage.eventHistory.insertOrIgnore event)
    (overtakes : Overtakes format storage event messageId) :
    ¬ ContentKept format event.conversationId storage after := by
  intro kept
  obtain ⟨⟨shownAuthor, shownPayload⟩, shown, ⟨authorId, payload⟩, creates, different⟩ :=
    overtakes.another
  have still := createdAs_iff_firstCreation.mp
    (kept _ _ _ (createdAs_iff_firstCreation.mpr shown))
  have first : firstCreation format messageId (after.allEvents event.conversationId) =
      some (authorId, payload) := by
    refine firstCreation_allEvents.mpr ⟨event, ?_, creates, fun other member some => ?_⟩
    · exact (mem_allEvents_inserted inserted).mpr
        (.inr ⟨rfl, overtakes.free, overtakes.counted⟩)
    · rcases (mem_allEvents_inserted inserted).mp member with old | ⟨rfl, _⟩
      · exact le_of_lt (overtakes.first other old some)
      · exact le_refl _
  rw [still] at first
  exact different (Option.some.inj first).symm

theorem contentKept_of_not_overtakes
    (inserted : after.eventHistory = storage.eventHistory.insertOrIgnore event)
    (behind : ∀ messageId, ¬ Overtakes format storage event messageId) :
    ContentKept format event.conversationId storage after := by
  intro messageId authorId payload created
  rw [createdAs_iff_firstCreation] at created ⊢
  obtain ⟨record, member, creates, least⟩ := firstCreation_allEvents.mp created
  have still := (mem_allEvents_inserted inserted).mpr (.inl member)
  rw [firstCreation_allEvents]
  by_cases leads : (¬ storage.eventHistory.Contains event.position ∧ 0 < event.counter) ∧
      (creation format messageId event).isSome = true ∧ eventOrder event < eventOrder record
  · obtain ⟨⟨free, counted⟩, some, before⟩ := leads
    obtain ⟨content, eventCreates⟩ := Option.isSome_iff_exists.mp some
    have first : ∀ other ∈ storage.allEvents event.conversationId,
        (creation format messageId other).isSome = true → eventOrder event < eventOrder other :=
      fun other otherMember otherSome =>
        lt_of_lt_of_le before (least other otherMember otherSome)
    -- the event leads the others, so it says the same
    have same : content = (authorId, payload) := by
      by_contra different
      exact behind messageId ⟨free, counted, first, _, created, content, eventCreates, different⟩
    refine ⟨event, (mem_allEvents_inserted inserted).mpr (.inr ⟨rfl, free, counted⟩),
      by rw [eventCreates, same], fun other otherMember otherSome => ?_⟩
    rcases (mem_allEvents_inserted inserted).mp otherMember with old | ⟨rfl, _⟩
    · exact le_of_lt (first other old otherSome)
    · exact le_refl _
  · refine ⟨record, still, creates, fun other otherMember otherSome => ?_⟩
    rcases (mem_allEvents_inserted inserted).mp otherMember with old | ⟨rfl, added⟩
    · exact least other old otherSome
    · by_contra above
      exact leads ⟨added, otherSome, not_le.mp above⟩

/-- What is shown keeps its content exactly when the inserted event overtakes no message. -/
theorem contentKept_inserted_iff
    (inserted : after.eventHistory = storage.eventHistory.insertOrIgnore event) :
    ContentKept format conversationId storage after ↔
      (event.conversationId = conversationId →
        ∀ messageId, ¬ Overtakes format storage event messageId) := by
  constructor
  · rintro kept rfl messageId overtakes
    exact overtakes.not_contentKept inserted kept
  · intro behind
    by_cases here : event.conversationId = conversationId
    · subst here
      exact contentKept_of_not_overtakes inserted (behind rfl)
    · exact .of_eq (allEvents_inserted_elsewhere inserted here)

end Storage

/-- However an append ends, the event has been inserted or the history is as before. -/
theorem Database.appendEvent_history (event : EventRecord) (database : Database) :
    let appended := fun after : Database =>
      after.storage.eventHistory = database.storage.eventHistory.insertOrIgnore event
    (appendEvent event).Ensures database (fun _ => appended) fun _ after =>
      after.storage.eventHistory = database.storage.eventHistory ∨ appended after := by
  rw [appendEvent, ensures_bind]
  refine ensures_statement (.inl rfl) (fun inserted storage effected => ?_) fun _ _ => .inl rfl
  cases effected
  rw [ensures_bind, refreshVectorForDevice, ensures_bind]
  exact ensures_query (.inr rfl) (ensures_execute (.inr rfl) rfl)

/-- No append changes the content of a shown message exactly when the event overtakes none
of the conversation. -/
theorem appendEvent_keeps_content_iff (format : Format ConversationEvent) (database : Database)
    (conversationId : String) (event : EventRecord) :
    (∀ (now : UInt64) (interruptions : List Bool),
      Storage.ContentKept format conversationId database.storage
        ((Database.appendEvent event).run (database.opened now interruptions)).2.storage) ↔
      (event.conversationId = conversationId →
        ∀ messageId, ¬ Storage.Overtakes format database.storage event messageId) := by
  constructor
  · intro kept
    exact (Storage.contentKept_inserted_iff rfl).mp (kept 0 [])
  · intro behind now interruptions
    have kept : ∀ after : Database,
        after.storage.eventHistory = database.storage.eventHistory.insertOrIgnore event →
          Storage.ContentKept format conversationId database.storage after.storage :=
      fun after inserted => (Storage.contentKept_inserted_iff inserted).mpr behind
    refine Ensures.reached (((Database.appendEvent_history event
      (database.opened now interruptions)).mono (fun _ => kept) ?_))
    rintro _ after (same | inserted)
    · exact .of_eq (Storage.missingEvents_congr fun record _ => by rw [same]; rfl)
    · exact kept after inserted

namespace Symbolic

/-- Bob's creation of a message is stored. -/
def shownStore : Database :=
  ((Database.appendEvent createdByBob).run ⟨.empty, 0, []⟩).2

/-- Alice's creation of the same message is appended later. -/
def overtakenStore : Database :=
  ((Database.appendEvent createdByAlice).run (shownStore.opened 0 [])).2

/-- Bob's message is shown with the content of Alice's later event. -/
theorem late_creation_takes_over :
    ¬ Storage.ContentKept conversationFormat "conversation" shownStore.storage
        overtakenStore.storage ∧
      ((materializeConversation conversationFormat
        (shownStore.storage.allEvents "conversation")).messages.lookup "message-1").map
          MessageState.authorId = some "bob" ∧
      ((materializeConversation conversationFormat
        (overtakenStore.storage.allEvents "conversation")).messages.lookup "message-1").map
          MessageState.authorId = some "alice" := by
  have shown : ((materializeConversation conversationFormat
      (shownStore.storage.allEvents "conversation")).messages.lookup "message-1") =
        some ⟨"message-1", "bob", [2], false, ∅⟩ := by
    decide +kernel
  have overtaken : ((materializeConversation conversationFormat
      (overtakenStore.storage.allEvents "conversation")).messages.lookup "message-1") =
        some ⟨"message-1", "alice", [1], false, ∅⟩ := by
    decide +kernel
  refine ⟨fun kept => ?_, by rw [shown]; rfl, by rw [overtaken]; rfl⟩
  obtain ⟨later, found, author, _⟩ := kept "message-1" "bob" [2] ⟨_, shown, rfl, rfl⟩
  rw [overtaken] at found
  cases found
  exact absurd author (by decide)

end Symbolic

end CipherMesh
