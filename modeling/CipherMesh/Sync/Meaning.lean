import CipherMesh.Sync.Materialize
import Mathlib.Order.Bounds.Basic

/-!
# The meaning of a materialized conversation

Materialization is one pass over the events and one over the reactions that were
collected.  What it returns is determined by what the events say: deletions and removals
count wherever they stand, the first creation of a message and the last addition at a
position win, and a reader has read up to the greatest number.
-/

namespace CipherMesh

open Foundation

variable {format : Format ConversationEvent} {events other : List EventRecord}

/-! ## What the events say -/

/-- Some payload decodes to the event. -/
def Said (format : Format ConversationEvent) (events : List EventRecord)
    (event : ConversationEvent) : Prop :=
  ∃ record ∈ events, format.deserialize record.payload = some event

/-- The author and the payload that the record creates the message with. -/
def creation (format : Format ConversationEvent) (messageId : String) (record : EventRecord) :
    Option (String × Bytes) :=
  match format.deserialize record.payload with
  | some (.messageCreated created authorId payload) =>
      if created = messageId then some (authorId, payload) else none
  | _ => none

def firstCreation (format : Format ConversationEvent) (messageId : String)
    (events : List EventRecord) : Option (String × Bytes) :=
  events.findSome? (creation format messageId)

/-- The name of a reaction that the record adds. -/
def EventRecord.addId (record : EventRecord) : ReactionAddId :=
  ⟨record.deviceId, record.counter⟩

/-- The reaction that the record adds under this name. -/
def addition (format : Format ConversationEvent) (add : ReactionAddId) (record : EventRecord) :
    Option ReactionAdd :=
  match format.deserialize record.payload with
  | some (.reactionAdded messageId reaction actorId) =>
      if record.addId = add then some ⟨messageId, reaction, actorId⟩ else none
  | _ => none

def lastAddition (format : Format ConversationEvent) (add : ReactionAddId)
    (events : List EventRecord) : Option ReactionAdd :=
  events.reverse.findSome? (addition format add)

/-- The message is shown as the events say. -/
structure MessageMeans (format : Format ConversationEvent) (events : List EventRecord)
    (messageId : String) (message : MessageState) : Prop where
  named : message.messageId = messageId
  content : firstCreation format messageId events = some (message.authorId, message.payload)
  deleted : message.deleted = true ↔ Said format events (.messageDeleted messageId)
  reactions : ∀ visible, visible ∈ message.reactions ↔
    lastAddition format visible.add events =
        some ⟨messageId, visible.reaction, visible.actorId⟩ ∧
      ¬ Said format events (.reactionRemoved visible.add)

/-- The conversation is what the events say. -/
structure Means (format : Format ConversationEvent) (events : List EventRecord)
    (conversation : ConversationState) : Prop where
  tombstones : ∀ messageId, messageId ∈ conversation.tombstones ↔
    Said format events (.messageDeleted messageId)
  created : ∀ messageId, messageId ∈ conversation.messages ↔
    ∃ authorId payload, Said format events (.messageCreated messageId authorId payload)
  message : ∀ messageId message, conversation.messages.lookup messageId = some message →
    MessageMeans format events messageId message
  readers : ∀ actorId, actorId ∈ conversation.readFrontiers ↔
    ∃ readDeviceId readCounter,
      Said format events (.readAdvanced actorId readDeviceId readCounter)
  frontier : ∀ actorId readDeviceId readCounter,
    (conversation.readFrontiers.lookup actorId).bind (·.lookup readDeviceId) =
        some readCounter ↔
      IsGreatest {counter | Said format events (.readAdvanced actorId readDeviceId counter)}
        readCounter

theorem said_concat {record : EventRecord} {event : ConversationEvent} :
    Said format (events ++ [record]) event ↔
      Said format events event ∨ format.deserialize record.payload = some event := by
  simp [Said, or_and_right, exists_or]

theorem Said.mono {event : ConversationEvent} (said : Said format events event)
    (contained : events ⊆ other) : Said format other event := by
  obtain ⟨record, member, decoded⟩ := said
  exact ⟨record, contained member, decoded⟩

theorem creation_eq_some {messageId authorId : String} {payload : Bytes}
    {record : EventRecord} :
    creation format messageId record = some (authorId, payload) ↔
      format.deserialize record.payload = some (.messageCreated messageId authorId payload) := by
  unfold creation
  split
  · next created author content decoded =>
      rw [decoded]
      split
      · next same => simp [same]
      · next different => simp [different]
  · next notCreated =>
      simp only [reduceCtorEq, false_iff]
      exact notCreated messageId authorId payload

theorem creation_eq_none {messageId : String} {record : EventRecord}
    (other : ∀ authorId payload,
      format.deserialize record.payload ≠ some (.messageCreated messageId authorId payload)) :
    creation format messageId record = none := by
  by_contra some
  obtain ⟨⟨authorId, payload⟩, creates⟩ := Option.ne_none_iff_exists'.mp some
  exact other authorId payload (creation_eq_some.mp creates)

theorem addition_eq_some {add : ReactionAddId} {messageId reaction actorId : String}
    {record : EventRecord} :
    addition format add record = some ⟨messageId, reaction, actorId⟩ ↔
      record.addId = add ∧ format.deserialize record.payload =
        some (.reactionAdded messageId reaction actorId) := by
  unfold addition
  split
  · next added content actor decoded =>
      rw [decoded]
      split
      · next same => simp [same]
      · next different => simp [different]
  · next notAdded =>
      simp only [reduceCtorEq, false_iff, not_and]
      exact fun _ => notAdded messageId reaction actorId

theorem firstCreation_concat (messageId : String) (record : EventRecord) :
    firstCreation format messageId (events ++ [record]) =
      (firstCreation format messageId events).or (creation format messageId record) := by
  simp [firstCreation, List.findSome?_append]

theorem lastAddition_concat (add : ReactionAddId) (record : EventRecord) :
    lastAddition format add (events ++ [record]) =
      (addition format add record).or (lastAddition format add events) := by
  rw [lastAddition, List.reverse_append, List.findSome?_append]
  simp [lastAddition]

/-- A message has a first creation when some event creates it. -/
theorem isSome_firstCreation {messageId : String} :
    (firstCreation format messageId events).isSome = true ↔
      ∃ authorId payload, Said format events (.messageCreated messageId authorId payload) := by
  rw [firstCreation, List.findSome?_isSome_iff]
  constructor
  · rintro ⟨record, member, some⟩
    obtain ⟨⟨authorId, payload⟩, creates⟩ := Option.isSome_iff_exists.mp some
    exact ⟨authorId, payload, record, member, creation_eq_some.mp creates⟩
  · rintro ⟨authorId, payload, record, member, decoded⟩
    exact ⟨record, member, Option.isSome_iff_exists.mpr ⟨_, creation_eq_some.mpr decoded⟩⟩

/-! ## The loop over the events -/

namespace Replay

variable {replay : Replay}

/-- How far an actor has read a device. -/
def frontierOf (replay : Replay) (actorId readDeviceId : String) : Option UInt64 :=
  (replay.readFrontiers.lookup actorId).bind (·.lookup readDeviceId)

/-- The collections hold what the events have said so far. -/
structure Collects (format : Format ConversationEvent) (events : List EventRecord)
    (replay : Replay) : Prop where
  messages : ∀ messageId, replay.messages.lookup messageId =
    (firstCreation format messageId events).map fun created =>
      ⟨messageId, created.1, created.2, decide (messageId ∈ replay.tombstones), ∅⟩
  tombstones : ∀ messageId, messageId ∈ replay.tombstones ↔
    Said format events (.messageDeleted messageId)
  reactionAdds : ∀ add, replay.reactionAdds.lookup add = lastAddition format add events
  removedReactions : ∀ add, add ∈ replay.removedReactions ↔
    Said format events (.reactionRemoved add)
  readers : ∀ actorId, actorId ∈ replay.readFrontiers ↔
    ∃ readDeviceId readCounter,
      Said format events (.readAdvanced actorId readDeviceId readCounter)
  frontierSaid : ∀ actorId readDeviceId readCounter,
    replay.frontierOf actorId readDeviceId = some readCounter →
      Said format events (.readAdvanced actorId readDeviceId readCounter)
  frontierAbove : ∀ actorId readDeviceId readCounter,
    Said format events (.readAdvanced actorId readDeviceId readCounter) →
      ∃ current, replay.frontierOf actorId readDeviceId = some current ∧ readCounter ≤ current

theorem collects_start : Collects format [] start where
  messages _ := rfl
  tombstones _ := iff_of_false (Finset.notMem_empty _) (by simp [Said])
  reactionAdds _ := rfl
  removedReactions _ := iff_of_false (Finset.notMem_empty _) (by simp [Said])
  readers _ := iff_of_false Finmap.notMem_empty (by simp [Said])
  frontierSaid _ _ _ found := by cases found
  frontierAbove _ _ _ said := by simp [Said] at said

theorem tombstones_apply (record : EventRecord) (event : ConversationEvent)
    (messageId : String) :
    messageId ∈ (replay.apply record event).tombstones ↔
      messageId ∈ replay.tombstones ∨ event = .messageDeleted messageId := by
  cases event with
  | messageCreated created authorId payload =>
      rw [apply]
      split <;> simp
  | messageDeleted deleted => simp [apply, or_comm, eq_comm]
  | reactionAdded | reactionRemoved | readAdvanced => simp [apply]

theorem removedReactions_apply (record : EventRecord) (event : ConversationEvent)
    (add : ReactionAddId) :
    add ∈ (replay.apply record event).removedReactions ↔
      add ∈ replay.removedReactions ∨ event = .reactionRemoved add := by
  cases event with
  | messageCreated created authorId payload =>
      rw [apply]
      split <;> simp
  | reactionRemoved removed => simp [apply, or_comm, eq_comm]
  | messageDeleted | reactionAdded | readAdvanced => simp [apply]

theorem reactionAdds_apply {record : EventRecord} {event : ConversationEvent}
    (decoded : format.deserialize record.payload = some event) (add : ReactionAddId) :
    (replay.apply record event).reactionAdds.lookup add =
      (addition format add record).or (replay.reactionAdds.lookup add) := by
  rw [addition, decoded]
  cases event with
  | messageCreated created authorId payload =>
      rw [apply]
      split <;> rfl
  | reactionAdded messageId reaction actorId =>
      dsimp only [apply]
      split
      · next same => rw [← same, EventRecord.addId, Finmap.lookup_insert, Option.some_or]
      · next different =>
          exact Finmap.lookup_insert_of_ne _ (Ne.symm different)
  | messageDeleted | reactionRemoved | readAdvanced => rfl

theorem messages_apply {record : EventRecord} {event : ConversationEvent}
    (collects : Collects format events replay)
    (decoded : format.deserialize record.payload = some event) (messageId : String) :
    (replay.apply record event).messages.lookup messageId =
      ((firstCreation format messageId events).or (creation format messageId record)).map
        fun created => ⟨messageId, created.1, created.2,
          decide (messageId ∈ (replay.apply record event).tombstones), ∅⟩ := by
  have before := collects.messages messageId
  cases event with
  | messageCreated created authorId payload =>
      by_cases same : created = messageId
      · subst same
        rw [creation_eq_some.mpr decoded]
        cases first : firstCreation format created events with
        | none =>
            rw [first, Option.map_none, Finmap.lookup_eq_none] at before
            simp only [apply, if_neg before]
            exact Finmap.lookup_insert _
        | some content =>
            rw [first, Option.map_some] at before
            simp only [apply, if_pos (Finmap.mem_of_lookup_eq_some before)]
            exact before
      · rw [creation_eq_none (by simp [decoded, same]), Option.or_none]
        by_cases present : created ∈ replay.messages
        · simp only [apply, if_pos present]
          exact before
        · simp only [apply, if_neg present]
          rw [Finmap.lookup_insert_of_ne _ (Ne.symm same)]
          exact before
  | messageDeleted deleted =>
      rw [creation_eq_none (by simp [decoded]), Option.or_none]
      refine (lookup_modifyMessage _ _ _ _).trans ?_
      rw [before]
      by_cases same : messageId = deleted
      · subst same
        rw [if_pos rfl, Option.map_map]
        congr 1
        funext content
        simp [apply]
      · rw [if_neg same]
        congr 1
        funext content
        simp [apply, same]
  | reactionAdded | reactionRemoved | readAdvanced =>
      rw [creation_eq_none (by simp [decoded]), Option.or_none]
      exact before

theorem frontierOf_apply_readAdvanced (record : EventRecord)
    (actorId readDeviceId : String) (readCounter : UInt64) (reader device : String) :
    (replay.apply record (.readAdvanced actorId readDeviceId readCounter)).frontierOf reader
        device =
      if reader = actorId ∧ device = readDeviceId then
        some (laterCounter ((replay.frontierOf reader device).getD 0) readCounter)
      else replay.frontierOf reader device := by
  rw [frontierOf, readFrontiers_apply]
  rcases eq_or_ne reader actorId with rfl | differentReader
  · rw [Finmap.lookup_insert, Option.bind_some, advance]
    rcases eq_or_ne device readDeviceId with rfl | differentDevice
    · rw [Finmap.lookup_insert, if_pos ⟨rfl, rfl⟩, frontierOf]
      cases replay.readFrontiers.lookup reader <;> rfl
    · rw [Finmap.lookup_insert_of_ne _ differentDevice, if_neg (by simp [differentDevice]),
        frontierOf]
      cases replay.readFrontiers.lookup reader <;> rfl
  · rw [Finmap.lookup_insert_of_ne _ differentReader, if_neg (by simp [differentReader]),
      frontierOf]

/-- Events of the other kinds leave the frontiers. -/
theorem readFrontiers_apply_of_ne (record : EventRecord) {event : ConversationEvent}
    (other : ∀ actorId readDeviceId readCounter,
      event ≠ .readAdvanced actorId readDeviceId readCounter) :
    (replay.apply record event).readFrontiers = replay.readFrontiers := by
  cases event with
  | messageCreated created authorId payload =>
      rw [apply]
      split <;> rfl
  | readAdvanced => exact absurd rfl (other _ _ _)
  | messageDeleted | reactionAdded | reactionRemoved => rfl

theorem readers_apply (record : EventRecord) (event : ConversationEvent) (reader : String) :
    reader ∈ (replay.apply record event).readFrontiers ↔
      reader ∈ replay.readFrontiers ∨
        ∃ readDeviceId readCounter, event = .readAdvanced reader readDeviceId readCounter := by
  by_cases reads : ∃ actorId readDeviceId readCounter,
      event = .readAdvanced actorId readDeviceId readCounter
  · obtain ⟨actorId, readDeviceId, readCounter, rfl⟩ := reads
    rw [readFrontiers_apply, Finmap.mem_insert, or_comm]
    simp [eq_comm]
  · push Not at reads
    rw [readFrontiers_apply_of_ne record reads]
    exact (or_iff_left fun ⟨readDeviceId, readCounter, same⟩ => reads _ _ _ same).symm

/-- A frontier is an earlier one or the number that was read. -/
theorem frontierOf_of_apply {record : EventRecord} {event : ConversationEvent}
    {reader device : String} {counter : UInt64}
    (found : (replay.apply record event).frontierOf reader device = some counter) :
    replay.frontierOf reader device = some counter ∨
      event = .readAdvanced reader device counter := by
  by_cases reads : ∃ actorId readDeviceId readCounter,
      event = .readAdvanced actorId readDeviceId readCounter
  · obtain ⟨actorId, readDeviceId, readCounter, rfl⟩ := reads
    rw [frontierOf_apply_readAdvanced] at found
    split at found
    · next same =>
        obtain ⟨rfl, rfl⟩ := same
        cases before : replay.frontierOf reader device with
        | none =>
            right
            rw [before] at found
            grind [laterCounter]
        | some current =>
            rw [before] at found
            grind [laterCounter]
    · exact .inl found
  · push Not at reads
    left
    rwa [frontierOf, readFrontiers_apply_of_ne record reads] at found

/-- No frontier falls, and what is read is passed. -/
theorem frontierOf_apply_above {record : EventRecord} {event : ConversationEvent}
    {reader device : String} {counter : UInt64}
    (above : (∃ current, replay.frontierOf reader device = some current ∧ counter ≤ current) ∨
      event = .readAdvanced reader device counter) :
    ∃ current, (replay.apply record event).frontierOf reader device = some current ∧
      counter ≤ current := by
  by_cases reads : ∃ actorId readDeviceId readCounter,
      event = .readAdvanced actorId readDeviceId readCounter
  · obtain ⟨actorId, readDeviceId, readCounter, rfl⟩ := reads
    rw [frontierOf_apply_readAdvanced]
    split
    · next same =>
        obtain ⟨rfl, rfl⟩ := same
        refine ⟨_, rfl, ?_⟩
        rcases above with ⟨current, before, below⟩ | same
        · rw [before]
          grind [laterCounter]
        · cases same
          grind [laterCounter]
    · next different =>
        rcases above with before | same
        · exact before
        · cases same
          exact absurd ⟨rfl, rfl⟩ different
  · push Not at reads
    rw [frontierOf, readFrontiers_apply_of_ne record reads]
    exact above.resolve_right (reads _ _ _)

/-- One iteration keeps the description. -/
theorem Collects.step (collects : Collects format events replay) (record : EventRecord) :
    Collects format (events ++ [record]) (Replay.step format replay record) := by
  unfold Replay.step
  cases decoded : format.deserialize record.payload with
  | none =>
      have silent : ∀ event, Said format (events ++ [record]) event ↔ Said format events event :=
        fun event => said_concat.trans (or_iff_left (by simp [decoded]))
      constructor
      · intro messageId
        rw [firstCreation_concat, creation_eq_none (by simp [decoded]), Option.or_none]
        exact collects.messages messageId
      · exact fun messageId => (collects.tombstones messageId).trans (silent _).symm
      · intro add
        rw [lastAddition_concat, addition, decoded]
        exact collects.reactionAdds add
      · exact fun add => (collects.removedReactions add).trans (silent _).symm
      · intro actorId
        simp only [silent]
        exact collects.readers actorId
      · exact fun actorId readDeviceId readCounter found =>
          (silent _).mpr (collects.frontierSaid actorId readDeviceId readCounter found)
      · exact fun actorId readDeviceId readCounter said =>
          collects.frontierAbove actorId readDeviceId readCounter ((silent _).mp said)
  | some event =>
      constructor
      · intro messageId
        rw [firstCreation_concat]
        exact messages_apply collects decoded messageId
      · intro messageId
        rw [tombstones_apply, collects.tombstones, said_concat, decoded, Option.some.injEq]
      · intro add
        rw [lastAddition_concat, reactionAdds_apply decoded, collects.reactionAdds]
      · intro add
        rw [removedReactions_apply, collects.removedReactions, said_concat, decoded,
          Option.some.injEq]
      · intro actorId
        simp only [readers_apply, collects.readers, said_concat, decoded, Option.some.injEq,
          exists_or]
      · intro actorId readDeviceId readCounter found
        rw [said_concat, decoded, Option.some.injEq]
        exact (frontierOf_of_apply found).imp_left (collects.frontierSaid _ _ _)
      · intro actorId readDeviceId readCounter said
        rw [said_concat, decoded, Option.some.injEq] at said
        exact frontierOf_apply_above (said.imp_left (collects.frontierAbove _ _ _))

theorem collects_foldl (events : List EventRecord) :
    Collects format events (events.foldl (Replay.step format) start) := by
  induction events using List.reverseRecOn with
  | nil => exact collects_start
  | append_singleton events record eventsIH =>
      rw [List.foldl_append]
      exact eventsIH.step record

/-! ## The loop over the reactions -/

/-- The reactions of a message among the listed ones. -/
def visibleReactions (removedReactions : Finset ReactionAddId) (messageId : String)
    (adds : List (ReactionAddId × ReactionAdd)) : Finset VisibleReaction :=
  ((adds.filter fun entry => entry.1 ∉ removedReactions ∧ entry.2.messageId = messageId).map
    fun entry => ⟨entry.2.reaction, entry.2.actorId, entry.1⟩).toFinset

theorem mem_visibleReactions {removedReactions : Finset ReactionAddId} {messageId : String}
    {adds : List (ReactionAddId × ReactionAdd)} {visible : VisibleReaction} :
    visible ∈ visibleReactions removedReactions messageId adds ↔
      (visible.add, ⟨messageId, visible.reaction, visible.actorId⟩) ∈ adds ∧
        visible.add ∉ removedReactions := by
  simp only [visibleReactions, List.mem_toFinset, List.mem_map, List.mem_filter,
    decide_eq_true_eq]
  constructor
  · rintro ⟨⟨add, reaction⟩, ⟨member, kept, rfl⟩, rfl⟩
    exact ⟨member, kept⟩
  · rintro ⟨member, kept⟩
    exact ⟨_, ⟨member, kept, rfl⟩, rfl⟩

theorem visibleReactions_cons (removedReactions : Finset ReactionAddId) (messageId : String)
    (entry : ReactionAddId × ReactionAdd) (adds : List (ReactionAddId × ReactionAdd)) :
    visibleReactions removedReactions messageId (entry :: adds) =
      visibleReactions removedReactions messageId [entry] ∪
        visibleReactions removedReactions messageId adds := by
  ext visible
  simp only [Finset.mem_union, mem_visibleReactions, List.mem_cons, List.not_mem_nil, or_false]
  exact or_and_right

/-- The message with further reactions. -/
def withReactions (reactions : Finset VisibleReaction) (message : MessageState) :
    MessageState :=
  { message with reactions := message.reactions ∪ reactions }

@[simp] theorem withReactions_empty : withReactions ∅ = id := by
  funext message
  rw [withReactions, Finset.union_empty]
  rfl

theorem withReactions_comp (first second : Finset VisibleReaction) :
    withReactions second ∘ withReactions first = withReactions (first ∪ second) := by
  funext message
  rw [Function.comp_apply, withReactions, withReactions, withReactions, Finset.union_assoc]

theorem lookup_attach (removedReactions : Finset ReactionAddId)
    (messages : Finmap fun _ : String => MessageState) (entry : ReactionAddId × ReactionAdd)
    (messageId : String) :
    (attach removedReactions messages entry).lookup messageId =
      (messages.lookup messageId).map
        (withReactions (visibleReactions removedReactions messageId [entry])) := by
  by_cases shown : entry.1 ∉ removedReactions ∧ entry.2.messageId = messageId
  · obtain ⟨kept, rfl⟩ := shown
    have visible : visibleReactions removedReactions entry.2.messageId [entry] =
        {⟨entry.2.reaction, entry.2.actorId, entry.1⟩} := by
      simp [visibleReactions, kept]
    rw [attach, if_neg kept, lookup_modifyMessage, if_pos rfl, visible]
    congr 1
    funext message
    rw [withReactions, Finset.insert_eq, Finset.union_comm]
  · have visible : visibleReactions removedReactions messageId [entry] = ∅ := by
      simp [visibleReactions, shown]
    rw [visible, withReactions_empty, Option.map_id_fun, id_eq, attach]
    split
    · rfl
    · next kept =>
        rw [lookup_modifyMessage, if_neg]
        exact fun same => shown ⟨kept, same.symm⟩

theorem lookup_foldl_attach (removedReactions : Finset ReactionAddId)
    (messages : Finmap fun _ : String => MessageState)
    (adds : List (ReactionAddId × ReactionAdd)) (messageId : String) :
    (adds.foldl (attach removedReactions) messages).lookup messageId =
      (messages.lookup messageId).map
        (withReactions (visibleReactions removedReactions messageId adds)) := by
  induction adds generalizing messages with
  | nil =>
      have none : visibleReactions removedReactions messageId [] = ∅ := rfl
      rw [none, withReactions_empty, Option.map_id_fun]
      rfl
  | cons entry adds addsIH =>
      rw [List.foldl_cons, addsIH, lookup_attach, Option.map_map, withReactions_comp,
        ← visibleReactions_cons]

/-- What the collections give is what the events say. -/
theorem Collects.finish (collects : Collects format events replay) :
    Means format events replay.finish := by
  have lookup : ∀ messageId, replay.finish.messages.lookup messageId =
      (replay.messages.lookup messageId).map (withReactions
        (visibleReactions replay.removedReactions messageId (entries replay.reactionAdds))) :=
    fun messageId => lookup_foldl_attach _ _ _ messageId
  constructor
  · exact collects.tombstones
  · intro messageId
    rw [← Finmap.lookup_isSome, lookup, Option.isSome_map, collects.messages, Option.isSome_map,
      isSome_firstCreation]
  · intro messageId message found
    rw [lookup, collects.messages, Option.map_map, Option.map_eq_some_iff] at found
    obtain ⟨content, first, rfl⟩ := found
    refine ⟨rfl, first, ?_, fun visible => ?_⟩
    · rw [← collects.tombstones]
      exact decide_eq_true_iff
    · rw [← collects.removedReactions, ← collects.reactionAdds, ← mem_entries,
        ← mem_visibleReactions]
      simp [withReactions]
  · exact collects.readers
  · intro actorId readDeviceId readCounter
    constructor
    · intro found
      refine ⟨collects.frontierSaid _ _ _ found, fun counter said => ?_⟩
      obtain ⟨current, same, below⟩ := collects.frontierAbove _ _ _ said
      rw [frontierOf] at same
      rw [show replay.finish.readFrontiers = replay.readFrontiers from rfl, same] at found
      cases found
      exact below
    · rintro ⟨said, greatest⟩
      obtain ⟨current, found, below⟩ := collects.frontierAbove _ _ _ said
      have above := greatest (collects.frontierSaid _ _ _ found)
      rw [UInt64.le_antisymm below above]
      exact found

end Replay

/-- Materialization computes the meaning of the events. -/
theorem materializeConversation_means (format : Format ConversationEvent)
    (events : List EventRecord) :
    Means format events (materializeConversation format events) := by
  rw [materializeConversation_eq]
  exact (Replay.collects_foldl events).finish

/-! ## The meaning as a function of the events -/

attribute [ext] MessageState ConversationState

variable {conversation : ConversationState}

theorem MessageMeans.unique {messageId : String} {message another : MessageState}
    (first : MessageMeans format events messageId message)
    (second : MessageMeans format events messageId another) : message = another := by
  have content := first.content.symm.trans second.content
  obtain ⟨sameAuthor, samePayload⟩ := Prod.mk.inj (Option.some.inj content)
  refine MessageState.ext (first.named.trans second.named.symm) sameAuthor samePayload ?_ ?_
  · exact Bool.eq_iff_iff.mpr (first.deleted.trans second.deleted.symm)
  · ext visible
    exact (first.reactions visible).trans (second.reactions visible).symm

/-- The events determine the conversation. -/
theorem Means.unique {another : ConversationState} (first : Means format events conversation)
    (second : Means format events another) : conversation = another := by
  refine ConversationState.ext ?_ ?_ ?_
  · refine eq_of_mem_iff (fun messageId => (first.created messageId).trans
      (second.created messageId).symm) fun messageId message other found otherFound => ?_
    exact (first.message messageId message found).unique
      (second.message messageId other otherFound)
  · ext messageId
    exact (first.tombstones messageId).trans (second.tombstones messageId).symm
  · refine eq_of_mem_iff (fun actorId => (first.readers actorId).trans
      (second.readers actorId).symm) fun actorId frontier other found otherFound => ?_
    refine Finmap.ext_lookup fun readDeviceId => Option.ext fun readCounter => ?_
    have firstGreatest := first.frontier actorId readDeviceId readCounter
    have secondGreatest := second.frontier actorId readDeviceId readCounter
    rw [found, Option.bind_some] at firstGreatest
    rw [otherFound, Option.bind_some] at secondGreatest
    exact firstGreatest.trans secondGreatest.symm

/-- Lists of events that say the same have the same meaning. -/
theorem Means.congr (means : Means format events conversation)
    (sameSaid : ∀ event, Said format events event ↔ Said format other event)
    (sameCreation : ∀ messageId, firstCreation format messageId events =
      firstCreation format messageId other)
    (sameAddition : ∀ add, lastAddition format add events = lastAddition format add other) :
    Means format other conversation := by
  constructor
  · simpa only [sameSaid] using means.tombstones
  · simpa only [sameSaid] using means.created
  · intro messageId message found
    have before := means.message messageId message found
    refine ⟨before.named, ?_, ?_, ?_⟩
    · rw [← sameCreation]
      exact before.content
    · rw [← sameSaid]
      exact before.deleted
    · simpa only [sameSaid, sameAddition] using before.reactions
  · simpa only [sameSaid] using means.readers
  · simpa only [sameSaid] using means.frontier

/-- A message is shown with the content of its first creation. -/
theorem createdAs_iff_firstCreation {messageId authorId : String} {payload : Bytes} :
    Replay.CreatedAs messageId authorId payload (materializeConversation format events).messages ↔
      firstCreation format messageId events = some (authorId, payload) := by
  have means := materializeConversation_means format events
  constructor
  · rintro ⟨message, found, rfl, rfl⟩
    exact (means.message messageId message found).content
  · intro first
    have present := (means.created messageId).mpr
      (isSome_firstCreation.mp (by rw [first]; rfl))
    obtain ⟨message, found⟩ := Finmap.mem_iff.mp present
    have content := (means.message messageId message found).content.symm.trans first
    obtain ⟨author, same⟩ := Prod.mk.inj (Option.some.inj content)
    exact ⟨message, found, author, same⟩

/-- An event that is replayed has been said, and is neither the first creation of its
message nor another addition at its position. -/
theorem materializeConversation_replayed (identified : Identified events)
    {record : EventRecord} (member : record ∈ events) :
    materializeConversation format (events ++ [record]) =
      materializeConversation format events := by
  have means := materializeConversation_means format events
  refine (materializeConversation_means format (events ++ [record])).unique
    (means.congr (fun event => ?_) (fun messageId => ?_) fun add => ?_)
  · rw [said_concat]
    exact (or_iff_left_of_imp fun decoded => ⟨record, member, decoded⟩).symm
  · rw [firstCreation_concat]
    cases creates : creation format messageId record with
    | none => rw [Option.or_none]
    | some content =>
        have found : (firstCreation format messageId events).isSome = true :=
          List.findSome?_isSome_iff.mpr ⟨record, member, by rw [creates]; rfl⟩
        exact (Option.or_of_isSome found).symm
  · rw [lastAddition_concat]
    cases adds : addition format add record with
    | none => rw [Option.none_or]
    | some reaction =>
        rw [Option.some_or]
        have found : (lastAddition format add events).isSome = true :=
          List.findSome?_isSome_iff.mpr
            ⟨record, List.mem_reverse.mpr member, by rw [adds]; rfl⟩
        obtain ⟨last, lastFound⟩ := Option.isSome_iff_exists.mp found
        obtain ⟨later, laterMember, laterAdds⟩ := List.exists_of_findSome?_eq_some lastFound
        -- the last addition stands at the same position, so it is the same event
        have samePosition : later.position = record.position := by
          have laterAt := (addition_eq_some.mp laterAdds).1
          have recordAt := (addition_eq_some.mp adds).1
          have sameId := laterAt.trans recordAt.symm
          simp only [EventRecord.addId, ReactionAddId.mk.injEq] at sameId
          exact Prod.ext sameId.1 sameId.2
        rw [identified later (List.mem_reverse.mp laterMember) record member samePosition,
          adds] at laterAdds
        rw [lastFound, ← laterAdds]

/-- A conversation is what its events say: a replayed event changes nothing, and further
events undo neither a deletion nor the removal of a reaction. -/
theorem conversation_meaning (format : Format ConversationEvent) (events : List EventRecord) :
    Means format events (materializeConversation format events) ∧
      (Identified events → ∀ record ∈ events,
        materializeConversation format (events ++ [record]) =
          materializeConversation format events) ∧
      ∀ later : List EventRecord, events ⊆ later →
        (∀ messageId ∈ (materializeConversation format events).tombstones,
          messageId ∈ (materializeConversation format later).tombstones ∧
            ∀ message, (materializeConversation format later).messages.lookup messageId =
              some message → message.deleted = true) ∧
        ∀ add, Said format events (.reactionRemoved add) →
          ∀ messageId message,
            (materializeConversation format later).messages.lookup messageId = some message →
              ∀ visible ∈ message.reactions, visible.add ≠ add := by
  have means := materializeConversation_means format events
  refine ⟨means, fun identified record => materializeConversation_replayed identified, ?_⟩
  intro later contained
  have laterMeans := materializeConversation_means format later
  constructor
  · intro messageId deleted
    have saidLater := ((means.tombstones messageId).mp deleted).mono contained
    refine ⟨(laterMeans.tombstones messageId).mpr saidLater, fun message found => ?_⟩
    exact (laterMeans.message messageId message found).deleted.mpr saidLater
  · rintro add removed messageId message found visible shown rfl
    exact (((laterMeans.message messageId message found).reactions visible).mp shown).2
      (removed.mono contained)

namespace Symbolic

/-- Alice's creation is replayed after its deletion. -/
theorem creation_replayed :
    materializeConversation conversationFormat
        ([createdByAlice, deletedByBob] ++ [createdByAlice]) =
      materializeConversation conversationFormat [createdByAlice, deletedByBob] :=
  (conversation_meaning conversationFormat [createdByAlice, deletedByBob]).2.1
    (by unfold Identified; decide +kernel) createdByAlice List.mem_cons_self

end Symbolic

end CipherMesh
