import CipherMesh.Foundation.Fold
import CipherMesh.Sync.Crdt

/-!
# What a materialized conversation depends on

The order and the multiplicity of the events make no difference to any collection
but the messages: of two events that create one message, the first wins.  So a
conversation is a function of its set of events as long as no message is created
in two ways.
-/

namespace CipherMesh

open Foundation

variable {format : Format ConversationEvent}

namespace Replay

/-- One iteration of the loop over the events. -/
def step (format : Format ConversationEvent) (replay : Replay) (record : EventRecord) : Replay :=
  match format.deserialize record.payload with
  | none => replay
  | some event => replay.apply record event

end Replay

theorem materializeConversation_eq (events : List EventRecord) :
    materializeConversation format events =
      (events.foldl (Replay.step format) Replay.start).finish := rfl

/-- All events that create a message name the same author and payload. -/
def CreatedOnce (format : Format ConversationEvent) (events : List EventRecord) : Prop :=
  ∀ record ∈ events, ∀ other ∈ events, ∀ messageId authorId payload otherAuthorId otherPayload,
    format.deserialize record.payload = some (.messageCreated messageId authorId payload) →
    format.deserialize other.payload =
      some (.messageCreated messageId otherAuthorId otherPayload) →
    authorId = otherAuthorId ∧ payload = otherPayload

/-- The position of an event determines it. -/
def Identified (events : List EventRecord) : Prop :=
  ∀ record ∈ events, ∀ other ∈ events, record.position = other.position → record = other

namespace Replay

/-- Two events do not create one message in two ways. -/
def Consistent : ConversationEvent → ConversationEvent → Prop
  | .messageCreated messageId authorId payload,
    .messageCreated otherMessageId otherAuthorId otherPayload =>
      messageId = otherMessageId → authorId = otherAuthorId ∧ payload = otherPayload
  | _, _ => True

theorem lookup_modifyMessage (change : MessageState → MessageState) (messageId key : String)
    (messages : Finmap fun _ : String => MessageState) :
    (modifyMessage change messageId messages).lookup key =
      if key = messageId then (messages.lookup key).map change else messages.lookup key := by
  unfold modifyMessage
  split
  · next absent =>
      split
      · next same => rw [same, absent]; rfl
      · rfl
  · next message present =>
      split
      · next same => rw [same, Finmap.lookup_insert, present]; rfl
      · next different => rw [Finmap.lookup_insert_of_ne _ different]

theorem mem_modifyMessage {change : MessageState → MessageState} {messageId key : String}
    {messages : Finmap fun _ : String => MessageState} :
    key ∈ modifyMessage change messageId messages ↔ key ∈ messages := by
  rw [← Finmap.lookup_isSome, ← Finmap.lookup_isSome, lookup_modifyMessage]
  split <;> simp

attribute [ext] Replay

/-- Whether a message is there and whether it is deleted are all that creation reads. -/
theorem apply_created_comm {record other : EventRecord} {messageId authorId : String}
    {payload : Bytes} {event : ConversationEvent}
    (consistent : Consistent (.messageCreated messageId authorId payload) event)
    (replay : Replay) :
    (replay.apply record (.messageCreated messageId authorId payload)).apply other event =
      (replay.apply other event).apply record (.messageCreated messageId authorId payload) := by
  cases event with
  | messageCreated otherMessageId otherAuthorId otherPayload =>
      by_cases same : messageId = otherMessageId
      · obtain ⟨rfl, rfl⟩ := consistent same
        subst same
        rfl
      · by_cases present : messageId ∈ replay.messages <;>
          by_cases otherPresent : otherMessageId ∈ replay.messages <;>
            simp [apply, present, otherPresent, same, Ne.symm same,
              Finmap.insert_insert_of_ne _ same]
  | messageDeleted otherMessageId =>
      by_cases present : messageId ∈ replay.messages
      · simp [apply, present, mem_modifyMessage]
      · simp only [apply, present, mem_modifyMessage, if_false]
        refine Replay.ext (Finmap.ext_lookup fun key => ?_) rfl rfl rfl rfl
        rw [lookup_modifyMessage]
        by_cases isCreated : key = messageId
        · subst isCreated
          by_cases isDeleted : key = otherMessageId
          · subst isDeleted
            simp [Finmap.lookup_insert]
          · simp [Finmap.lookup_insert, isDeleted]
        · rw [Finmap.lookup_insert_of_ne _ isCreated, Finmap.lookup_insert_of_ne _ isCreated,
            lookup_modifyMessage]
  | reactionAdded | reactionRemoved | readAdvanced =>
      by_cases present : messageId ∈ replay.messages
      · simp only [apply, present, if_true]
      · simp only [apply, present, if_false]
        rfl

/-- The later of two counters. -/
def laterCounter (current readCounter : UInt64) : UInt64 :=
  if current < readCounter then readCounter else current

/-- The frontier of an actor after it has read another event of a device. -/
def advance (readDeviceId : String) (readCounter : UInt64)
    (frontier : Finmap fun _ : String => UInt64) : Finmap fun _ : String => UInt64 :=
  frontier.insert readDeviceId
    (laterCounter ((frontier.lookup readDeviceId).getD 0) readCounter)

theorem readFrontiers_apply (record : EventRecord) (actorId readDeviceId : String)
    (readCounter : UInt64) (replay : Replay) :
    (replay.apply record (.readAdvanced actorId readDeviceId readCounter)).readFrontiers =
      replay.readFrontiers.insert actorId
        (advance readDeviceId readCounter ((replay.readFrontiers.lookup actorId).getD ∅)) := rfl

theorem advance_comm (readDeviceId otherReadDeviceId : String)
    (readCounter otherReadCounter : UInt64) (frontier : Finmap fun _ : String => UInt64) :
    advance otherReadDeviceId otherReadCounter (advance readDeviceId readCounter frontier) =
      advance readDeviceId readCounter
        (advance otherReadDeviceId otherReadCounter frontier) := by
  unfold advance
  by_cases sameDevice : readDeviceId = otherReadDeviceId
  · subst sameDevice
    rw [Finmap.lookup_insert, Finmap.lookup_insert, Finmap.insert_insert, Finmap.insert_insert,
      Option.getD_some, Option.getD_some]
    congr 1
    grind [laterCounter]
  · rw [Finmap.lookup_insert_of_ne _ (Ne.symm sameDevice),
      Finmap.lookup_insert_of_ne _ sameDevice, Finmap.insert_insert_of_ne _ sameDevice]

theorem advance_absorb (readDeviceId : String) (readCounter : UInt64)
    (frontier : Finmap fun _ : String => UInt64) :
    advance readDeviceId readCounter (advance readDeviceId readCounter frontier) =
      advance readDeviceId readCounter frontier := by
  unfold advance
  rw [Finmap.lookup_insert, Finmap.insert_insert, Option.getD_some]
  congr 1
  grind [laterCounter]

theorem apply_comm {record other : EventRecord} {event otherEvent : ConversationEvent}
    (consistent : Consistent event otherEvent)
    (identified : record.position = other.position → event = otherEvent) (replay : Replay) :
    (replay.apply record event).apply other otherEvent =
      (replay.apply other otherEvent).apply record event := by
  cases event
  case messageCreated => exact apply_created_comm consistent replay
  all_goals cases otherEvent
  case messageDeleted.messageCreated | reactionAdded.messageCreated |
      reactionRemoved.messageCreated | readAdvanced.messageCreated =>
    exact (apply_created_comm (by trivial) replay).symm
  case messageDeleted.messageDeleted messageId otherMessageId =>
    refine Replay.ext (Finmap.ext_lookup fun key => ?_) (Finset.insert_comm _ _ _) rfl rfl rfl
    simp only [apply, lookup_modifyMessage]
    grind
  case reactionAdded.reactionAdded =>
    refine Replay.ext rfl rfl ?_ rfl rfl
    by_cases same : record.position = other.position
    · cases identified same
      simp only [EventRecord.position, Prod.mk.injEq] at same
      simp only [apply, same.1, same.2]
    · refine Finmap.insert_insert_of_ne _ fun sameId => same ?_
      simpa [EventRecord.position] using sameId
  case reactionRemoved.reactionRemoved =>
    exact Replay.ext rfl rfl rfl (Finset.insert_comm _ _ _) rfl
  case readAdvanced.readAdvanced actorId readDeviceId readCounter otherActorId otherReadDeviceId
      otherReadCounter =>
    refine Replay.ext rfl rfl rfl rfl ?_
    simp only [readFrontiers_apply]
    by_cases sameActor : actorId = otherActorId
    · subst sameActor
      rw [Finmap.lookup_insert, Finmap.lookup_insert, Finmap.insert_insert, Finmap.insert_insert,
        Option.getD_some, Option.getD_some, advance_comm]
    · rw [Finmap.lookup_insert_of_ne _ (Ne.symm sameActor),
        Finmap.lookup_insert_of_ne _ sameActor, Finmap.insert_insert_of_ne _ sameActor]
  all_goals rfl

theorem apply_absorb {record : EventRecord} (event : ConversationEvent) (replay : Replay) :
    (replay.apply record event).apply record event = replay.apply record event := by
  cases event with
  | messageCreated messageId authorId payload =>
      by_cases present : messageId ∈ replay.messages <;>
        simp [apply, present, Finmap.mem_insert]
  | messageDeleted messageId =>
      refine Replay.ext (Finmap.ext_lookup fun key => ?_) (Finset.insert_idem _ _) rfl rfl rfl
      simp only [apply, lookup_modifyMessage]
      split
      · rw [Option.map_map]
        rfl
      · rfl
  | reactionAdded => exact Replay.ext rfl rfl (Finmap.insert_insert _) rfl rfl
  | reactionRemoved => exact Replay.ext rfl rfl rfl (Finset.insert_idem _ _) rfl
  | readAdvanced actorId readDeviceId readCounter =>
      refine Replay.ext rfl rfl rfl rfl ?_
      rw [readFrontiers_apply, readFrontiers_apply, Finmap.lookup_insert, Finmap.insert_insert,
        Option.getD_some, advance_absorb]

/-- Events of a conversation in which no message is created in two ways can be merged in
any order, any number of times. -/
theorem mergeable_step {events : List EventRecord} (createdOnce : CreatedOnce format events)
    (identified : Identified events) : Mergeable (step format) (· ∈ events) where
  commute replay record other member otherMember := by
    unfold step
    cases decoded : format.deserialize record.payload with
    | none => rfl
    | some event =>
        cases otherDecoded : format.deserialize other.payload with
        | none => rfl
        | some otherEvent =>
            refine apply_comm ?_ (fun same => ?_) replay
            · cases event <;> cases otherEvent <;> try trivial
              rintro rfl
              exact createdOnce record member other otherMember _ _ _ _ _ decoded otherDecoded
            · rw [identified record member other otherMember same, otherDecoded] at decoded
              exact (Option.some.inj decoded).symm
  absorb replay record _ := by
    unfold step
    split
    · rfl
    · exact apply_absorb _ replay

/-! ## The first creation wins -/

/-- The message is there with this author and payload. -/
def CreatedAs (messageId authorId : String) (payload : Bytes)
    (messages : Finmap fun _ : String => MessageState) : Prop :=
  ∃ message, messages.lookup messageId = some message ∧
    message.authorId = authorId ∧ message.payload = payload

variable {messageId authorId : String} {payload : Bytes}

theorem CreatedAs.modifyMessage {messages : Finmap fun _ : String => MessageState}
    {change : MessageState → MessageState} {otherId : String}
    (created : CreatedAs messageId authorId payload messages)
    (sameAuthor : ∀ message, (change message).authorId = message.authorId)
    (samePayload : ∀ message, (change message).payload = message.payload) :
    CreatedAs messageId authorId payload (modifyMessage change otherId messages) := by
  obtain ⟨message, found, rfl, rfl⟩ := created
  rw [CreatedAs, lookup_modifyMessage]
  split
  · exact ⟨change message, by rw [found]; rfl, sameAuthor _, samePayload _⟩
  · exact ⟨message, found, rfl, rfl⟩

theorem CreatedAs.step {replay : Replay}
    (created : CreatedAs messageId authorId payload replay.messages) (record : EventRecord) :
    CreatedAs messageId authorId payload (step format replay record).messages := by
  unfold Replay.step
  split
  · exact created
  · next event _ =>
      cases event with
      | messageCreated otherId otherAuthorId otherPayload =>
          rw [apply]
          split
          · exact created
          · next absent =>
              obtain ⟨message, found, same⟩ := created
              have different : messageId ≠ otherId := by
                rintro rfl
                exact absent (Finmap.mem_of_lookup_eq_some found)
              exact ⟨message, by rw [Finmap.lookup_insert_of_ne _ different, found], same⟩
      | messageDeleted => exact created.modifyMessage (fun _ => rfl) fun _ => rfl
      | reactionAdded | reactionRemoved | readAdvanced => exact created

theorem CreatedAs.finish {replay : Replay}
    (created : CreatedAs messageId authorId payload replay.messages) :
    CreatedAs messageId authorId payload replay.finish.messages := by
  rw [Replay.finish]
  generalize entries replay.reactionAdds = adds
  revert created
  generalize replay.messages = messages
  intro created
  induction adds generalizing messages with
  | nil => exact created
  | cons add adds addsIH =>
      rw [List.foldl_cons]
      apply addsIH
      rw [attach]
      split
      · exact created
      · exact created.modifyMessage (fun _ => rfl) fun _ => rfl

/-- An event that creates a message and comes first determines its author and payload. -/
theorem createdAs_materialize {record : EventRecord} (events : List EventRecord)
    (decoded : format.deserialize record.payload =
      some (.messageCreated messageId authorId payload)) :
    CreatedAs messageId authorId payload
      (materializeConversation format (record :: events)).messages := by
  rw [materializeConversation_eq]
  apply CreatedAs.finish
  rw [List.foldl_cons]
  have first : CreatedAs messageId authorId payload
      (Replay.step format Replay.start record).messages := by
    rw [Replay.step, decoded]
    exact ⟨_, Finmap.lookup_insert _, rfl, rfl⟩
  revert first
  generalize Replay.step format Replay.start record = replay
  intro first
  induction events generalizing replay with
  | nil => exact first
  | cons other events eventsIH => exact eventsIH _ (first.step other)

theorem CreatedAs.unique {otherAuthorId : String} {otherPayload : Bytes}
    {messages : Finmap fun _ : String => MessageState}
    (first : CreatedAs messageId authorId payload messages)
    (second : CreatedAs messageId otherAuthorId otherPayload messages) :
    authorId = otherAuthorId ∧ payload = otherPayload := by
  obtain ⟨message, found, rfl, rfl⟩ := first
  obtain ⟨other, otherFound, rfl, rfl⟩ := second
  rw [found] at otherFound
  cases otherFound
  exact ⟨rfl, rfl⟩

end Replay

/-- A conversation depends only on its set of events exactly when these create no message
in two ways. -/
theorem materializeConversation_depends_on_set_iff (format : Format ConversationEvent)
    (events : List EventRecord) (identified : Identified events) :
    (∀ first second : List EventRecord,
      (∀ record, record ∈ first ↔ record ∈ events) →
      (∀ record, record ∈ second ↔ record ∈ events) →
      materializeConversation format first = materializeConversation format second) ↔
        CreatedOnce format events := by
  constructor
  · intro sameConversation record member other otherMember messageId authorId payload
      otherAuthorId otherPayload decoded otherDecoded
    have same := sameConversation (record :: events) (other :: events)
      (by simp [member]) (by simp [otherMember])
    have created := Replay.createdAs_materialize events decoded
    rw [same] at created
    exact created.unique (Replay.createdAs_materialize events otherDecoded)
  · intro createdOnce first second sameFirst sameSecond
    rw [materializeConversation_eq, materializeConversation_eq]
    congr 1
    exact (Replay.mergeable_step createdOnce identified).foldl_eq_foldl
      (fun record member => (sameFirst record).mp member)
      (fun record => (sameFirst record).trans (sameSecond record).symm) _

namespace Symbolic

/-- Alice and Bob create one message, and Bob deletes it. -/
def conversationFormat : Format ConversationEvent :=
  .listed [.messageCreated "message-1" "alice" [1], .messageCreated "message-1" "bob" [2],
    .messageDeleted "message-1"]

def conversationRecord (deviceId : String) (counter : UInt64) (payload : Bytes) : EventRecord :=
  ⟨deviceId, counter, "conversation", "", none, payload, 0⟩

def createdByAlice : EventRecord := conversationRecord "AliceDevice" 1 []

def createdByBob : EventRecord := conversationRecord "BobDevice" 1 [0]

def deletedByBob : EventRecord := conversationRecord "BobDevice" 2 [0, 0]

/-- A message and its deletion are shown alike in either order. -/
theorem deletion_commutes :
    materializeConversation conversationFormat [createdByAlice, deletedByBob] =
      materializeConversation conversationFormat
        [deletedByBob, createdByAlice, deletedByBob] := by
  have identified : Identified [createdByAlice, deletedByBob] := by
    unfold Identified
    decide +kernel
  have createdOnce : CreatedOnce conversationFormat [createdByAlice, deletedByBob] := by
    have notCreated : ∀ messageId authorId payload,
        conversationFormat.deserialize deletedByBob.payload ≠
          some (.messageCreated messageId authorId payload) := by
      rintro _ _ _ ⟨⟩
    intro record member other otherMember messageId authorId payload otherAuthorId otherPayload
      decoded otherDecoded
    rw [List.mem_pair] at member otherMember
    rcases member with rfl | rfl
    · rcases otherMember with rfl | rfl
      · rw [decoded] at otherDecoded
        cases otherDecoded
        exact ⟨rfl, rfl⟩
      · exact absurd otherDecoded (notCreated _ _ _)
    · exact absurd decoded (notCreated _ _ _)
  exact (materializeConversation_depends_on_set_iff conversationFormat _ identified).mpr
    createdOnce _ _ (by grind) (by grind)

/-- Two devices create one message, and the order decides whose it is. -/
theorem creation_depends_on_order :
    Identified [createdByAlice, createdByBob] ∧
      (∀ record, record ∈ [createdByAlice, createdByBob] ↔
        record ∈ [createdByBob, createdByAlice]) ∧
      materializeConversation conversationFormat [createdByAlice, createdByBob] ≠
        materializeConversation conversationFormat [createdByBob, createdByAlice] := by
  refine ⟨by unfold Identified; decide +kernel, by grind, fun same => ?_⟩
  have sameAuthor := congrArg (fun conversation : ConversationState =>
    (conversation.messages.lookup "message-1").map MessageState.authorId) same
  revert sameAuthor
  decide +kernel

end Symbolic

end CipherMesh
