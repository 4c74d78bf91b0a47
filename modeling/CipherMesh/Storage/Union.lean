import CipherMesh.Storage.Merge
import CipherMesh.Storage.Views
import CipherMesh.Sync.Vectors

/-!
# What a merge shows

A merge should show the union of two conversations as one.  It does for the history, the
queue, the events and the session.  The marks of new messages stay where they are, and a
vector of the new contact is kept although events have joined it.
-/

namespace CipherMesh

open Foundation
open Foundation.Mutation

/-- The message under its contact after a merge. -/
def MessageRecord.merged (oldContactId newContactId : String) : MessageRecord → MessageRecord :=
  moved MessageRecord.conversationId (MessageRecord.underContact newContactId) oldContactId

def EventRecord.merged (oldContactId newContactId : String) : EventRecord → EventRecord :=
  moved EventRecord.conversationId (EventRecord.underContact newContactId) oldContactId

/-- One of the two conversations has the event. -/
def Storage.HasEitherEvent (storage : Storage) (oldContactId newContactId deviceId : String)
    (counter : UInt64) : Prop :=
  storage.HasEvent oldContactId deviceId counter ∨ storage.HasEvent newContactId deviceId counter

/-- The conversation of the old contact has become part of that of the new one. -/
structure MergesInto (oldContactId newContactId : String) (before after : Storage) : Prop where
  messages : (after.historyOf newContactId).Perm
    ((before.historyOf oldContactId ++ before.historyOf newContactId).map
      (MessageRecord.merged oldContactId newContactId))
  unread : (after.unreadOf newContactId).Perm
    ((before.unreadOf oldContactId ++ before.unreadOf newContactId).map
      (MessageRecord.merged oldContactId newContactId))
  pendingCount : after.pendingCountOf newContactId =
    before.pendingCountOf oldContactId + before.pendingCountOf newContactId
  events : (after.eventsOf newContactId).Perm
    ((before.eventsOf oldContactId ++ before.eventsOf newContactId).map
      (EventRecord.merged oldContactId newContactId))
  vector : ∀ deviceId, after.LastContiguous newContactId deviceId
    (((after.vectorOf newContactId).lookup deviceId).getD 0)
  session : after.sessions.find newContactId = (before.sessions.find newContactId).or
    ((before.sessions.find oldContactId).map (·.underContact newContactId))
  emptied : after.historyOf oldContactId = [] ∧ after.unreadOf oldContactId = [] ∧
    after.pendingCountOf oldContactId = 0 ∧ after.eventsOf oldContactId = [] ∧
    after.vectorOf oldContactId = ∅ ∧ after.sessions.find oldContactId = none
  others : ∀ other, other ≠ oldContactId → other ≠ newContactId →
    after.viewOf other = before.viewOf other

/-- The entry that the new contact has after a merge: its own, or else that of the old
contact. -/
def Storage.entryAfterMerge (storage : Storage) (oldContactId newContactId deviceId : String) :
    UInt64 :=
  (((storage.vectorOf newContactId).lookup deviceId).or
    ((storage.vectorOf oldContactId).lookup deviceId)).getD 0

/-- The merge does all it should: no unread message belongs to the old contact, and every
entry that is kept is that of the united events. -/
structure MergesWhole (oldContactId newContactId : String) (before : Storage) : Prop where
  read : before.unreadOf oldContactId = []
  marks : ∀ other, other ≠ oldContactId → other ≠ newContactId →
    ∀ message ∈ before.unreadOf other, message.conversationId ≠ oldContactId
  entries : ∀ deviceId, IsGreatest {last | ∀ counter, 0 < counter → counter ≤ last →
      before.HasEitherEvent oldContactId newContactId deviceId counter}
    (before.entryAfterMerge oldContactId newContactId deviceId)

namespace Storage

variable {oldContactId newContactId : String} {storage : Storage}

/-! ## Rows -/

theorem historyOrder_merged (message : MessageRecord) :
    historyOrder (message.merged oldContactId newContactId) = historyOrder message := by
  unfold MessageRecord.merged moved
  split <;> rfl

theorem rows_movedMessages (messages : Table MessageRecord.messageId) :
    (movedMessages oldContactId newContactId messages).rows =
      messages.rows.map (MessageRecord.merged oldContactId newContactId) := by
  simp only [movedMessages, Table.update, decide_eq_true_eq]
  rfl

theorem rows_movedEvents (events : Table EventRecord.position) :
    (movedEvents oldContactId newContactId events).rows =
      events.rows.map (EventRecord.merged oldContactId newContactId) := by
  simp only [movedEvents, Table.update, decide_eq_true_eq]
  rfl

theorem find_movedMessages (messages : Table MessageRecord.messageId) (messageId : String) :
    (movedMessages oldContactId newContactId messages).find messageId =
      (messages.find messageId).map (MessageRecord.merged oldContactId newContactId) := by
  have sameId : ∀ message : MessageRecord,
      (message.merged oldContactId newContactId).messageId = message.messageId := by
    intro message
    unfold MessageRecord.merged moved
    split <;> rfl
  simp only [Table.find, rows_movedMessages, List.find?_map, Function.comp_def, sameId]

/-- The marks stay, the messages that they name are renamed. -/
theorem unreadOf_merged (conversationId : String) :
    (merged oldContactId newContactId storage).unreadOf conversationId =
      (storage.unreadOf conversationId).map (MessageRecord.merged oldContactId newContactId) := by
  have sameDirection : ∀ message : MessageRecord,
      (message.merged oldContactId newContactId).direction = message.direction := by
    intro message
    unfold MessageRecord.merged moved
    split <;> rfl
  have sameOrder : ∀ first second : MessageRecord,
      historyOrder first ≤ historyOrder second ↔
        historyOrder (first.merged oldContactId newContactId) ≤
          historyOrder (second.merged oldContactId newContactId) := by
    intro first second
    rw [historyOrder_merged, historyOrder_merged]
  simp only [unreadOf]
  rw [List.map_insertionSort (fun first second => historyOrder first ≤ historyOrder second)
    (fun first second => historyOrder first ≤ historyOrder second) _ _
    fun first _ second _ => sameOrder first second]
  congr 1
  simp only [merged, find_movedMessages]
  rw [← List.map_filterMap, List.filter_map]
  simp only [Function.comp_def, sameDirection]

theorem rows_movedPending (messages : Table PendingPeerMessage.messageId) :
    (movedPending oldContactId newContactId messages).rows =
      messages.rows.map (moved PendingPeerMessage.conversationId
        (PendingPeerMessage.underContact newContactId) oldContactId) := by
  simp only [movedPending, Table.update, decide_eq_true_eq]
  rfl

section

variable (different : oldContactId ≠ newContactId)

include different

theorem pendingCountOf_merged (storage : Storage) :
    (merged oldContactId newContactId storage).pendingCountOf newContactId =
        storage.pendingCountOf oldContactId + storage.pendingCountOf newContactId ∧
      (merged oldContactId newContactId storage).pendingCountOf oldContactId = 0 ∧
      ∀ other, other ≠ oldContactId → other ≠ newContactId →
        (merged oldContactId newContactId storage).pendingCountOf other =
          storage.pendingCountOf other := by
  have renames : ∀ message : PendingPeerMessage,
      (message.underContact newContactId).conversationId = newContactId := fun _ => rfl
  simp only [pendingCountOf, merged, rows_movedPending, List.countP_eq_length_filter]
  refine ⟨?_, ?_, ?_⟩
  · rw [(filter_moved_new _ renames different).length_eq]
    simp
  · rw [filter_moved_old _ renames different]
    rfl
  · intro other notOld notNew
    rw [filter_moved_other _ renames notOld notNew]

theorem find_movedSessions (sessions : Table SessionRecord.conversationId) :
    (movedSessions oldContactId newContactId sessions).find newContactId =
      (sessions.find newContactId).or
        ((sessions.find oldContactId).map (·.underContact newContactId)) := by
  unfold movedSessions
  dsimp only
  split
  · next present =>
      obtain ⟨session, member, rfl⟩ := present
      have found := Table.find_eq_some.mpr ⟨member, rfl⟩
      rw [found, Option.some_or]
      exact Table.find_eq_some.mpr
        ⟨Table.mem_delete.mpr ⟨member, decide_eq_false different.symm⟩, rfl⟩
  · next absent =>
      rw [Table.find_eq_none.mpr absent, Option.none_or]
      split
      · next none => simpa [none] using Table.find_eq_none.mpr absent
      · next session found =>
          rw [found, Option.map_some]
          exact Table.find_eq_some.mpr ⟨Table.mem_upsert.mpr (.inl rfl), rfl⟩

theorem find_movedSessions_old (sessions : Table SessionRecord.conversationId) :
    (movedSessions oldContactId newContactId sessions).find oldContactId = none := by
  apply List.find?_eq_none.mpr
  intro session member
  simpa using other_of_mem_movedSessions different member

omit different in
theorem find_movedSessions_other (sessions : Table SessionRecord.conversationId) {other : String}
    (notOld : other ≠ oldContactId) (notNew : other ≠ newContactId) :
    (movedSessions oldContactId newContactId sessions).find other = sessions.find other := by
  apply Table.find_congr
  intro session isOther
  have kept : decide (session.conversationId = oldContactId) = false :=
    decide_eq_false (isOther ▸ notOld)
  unfold movedSessions
  dsimp only
  split
  · simp [kept]
  split
  · exact Iff.rfl
  · next moving _ =>
      rw [Table.mem_upsert, Table.mem_delete]
      have notMoved : session ≠ moving.underContact newContactId := by
        rintro rfl
        exact notNew isOther.symm
      have otherKey : session.conversationId ≠
          (moving.underContact newContactId).conversationId := isOther ▸ notNew
      simp [notMoved, otherKey, kept]

/-! ## Vectors -/

/-- A copied entry was not there under the new contact. -/
theorem mem_mergedVectors {vectors : Table VersionEntry.key} {entry : VersionEntry} :
    entry ∈ withoutVectors oldContactId (copiedVectors oldContactId newContactId vectors) ↔
      (entry ∈ vectors ∧ entry.conversationId ≠ oldContactId) ∨
        ∃ original ∈ vectors, original.conversationId = oldContactId ∧
          original.underContact newContactId = entry ∧
          ¬vectors.Contains (newContactId, original.deviceId) := by
  have distinct : ((((vectors.rows.filter fun entry =>
      entry.conversationId = oldContactId).map (·.underContact newContactId))).map
        VersionEntry.key).Nodup := by
    rw [List.map_map]
    apply List.Nodup.map_on _ ((List.Nodup.of_map _ vectors.unique).filter _)
    intro first firstMember second secondMember same
    obtain ⟨inVectors, owned⟩ := List.mem_filter.mp firstMember
    obtain ⟨alsoInVectors, alsoOwned⟩ := List.mem_filter.mp secondMember
    apply Table.eq_of_key_eq inVectors alsoInVectors
    have sameDevice : first.deviceId = second.deviceId := congrArg Prod.snd same
    exact Prod.ext ((of_decide_eq_true owned).trans (of_decide_eq_true alsoOwned).symm) sameDevice
  rw [withoutVectors, Table.mem_delete, copiedVectors, Table.mem_insertAll distinct,
    decide_eq_false_iff_not]
  constructor
  · rintro ⟨old | ⟨copied, free⟩, other⟩
    · exact .inl ⟨old, other⟩
    · obtain ⟨original, member, rfl⟩ := List.mem_map.mp copied
      obtain ⟨inVectors, owned⟩ := List.mem_filter.mp member
      exact .inr ⟨original, inVectors, of_decide_eq_true owned, rfl, free⟩
  · rintro (⟨old, other⟩ | ⟨original, member, owned, rfl, free⟩)
    · exact ⟨.inl old, other⟩
    · refine ⟨.inr ⟨?_, free⟩, different.symm⟩
      exact List.mem_map_of_mem (List.mem_filter.mpr ⟨member, decide_eq_true owned⟩)

theorem find_mergedVectors (vectors : Table VersionEntry.key) (deviceId : String) :
    (withoutVectors oldContactId (copiedVectors oldContactId newContactId vectors)).find
        (newContactId, deviceId) =
      (vectors.find (newContactId, deviceId)).or
        ((vectors.find (oldContactId, deviceId)).map (·.underContact newContactId)) := by
  cases own : vectors.find (newContactId, deviceId) with
  | some entry =>
      obtain ⟨member, same⟩ := Table.find_eq_some.mp own
      have owner : entry.conversationId = newContactId := congrArg Prod.fst same
      rw [Option.some_or]
      refine Table.find_eq_some.mpr ⟨(mem_mergedVectors different).mpr (.inl ⟨member, ?_⟩), same⟩
      rw [owner]
      exact different.symm
  | none =>
      have free := Table.find_eq_none.mp own
      rw [Option.none_or]
      cases others : vectors.find (oldContactId, deviceId) with
      | some entry =>
          obtain ⟨member, same⟩ := Table.find_eq_some.mp others
          obtain ⟨owner, device⟩ := Prod.mk.inj same
          rw [Option.map_some]
          refine Table.find_eq_some.mpr ⟨(mem_mergedVectors different).mpr
            (.inr ⟨entry, member, owner, rfl, ?_⟩), Prod.ext rfl device⟩
          rw [device]
          exact free
      | none =>
          have absent := Table.find_eq_none.mp others
          apply Table.find_eq_none.mpr
          rintro ⟨entry, member, same⟩
          rcases (mem_mergedVectors different).mp member with
            ⟨old, -⟩ | ⟨original, inVectors, owned, rfl, -⟩
          · exact free ⟨entry, old, same⟩
          · have device : original.deviceId = deviceId := congrArg Prod.snd same
            exact absent ⟨original, inVectors, Prod.ext owned device⟩

end

/-! ## The conversation after a merge -/

section

variable (different : oldContactId ≠ newContactId)

theorem rows_mergedVectors_other (vectors : Table VersionEntry.key) {other : String}
    (notOld : other ≠ oldContactId) (notNew : other ≠ newContactId) :
    ((withoutVectors oldContactId (copiedVectors oldContactId newContactId vectors)).rows.filter
      fun entry => entry.conversationId = other) =
        vectors.rows.filter fun entry => entry.conversationId = other := by
  have hidden : ∀ entry ∈ (vectors.rows.filter fun entry =>
      entry.conversationId = oldContactId).map (·.underContact newContactId),
      decide (entry.conversationId = other) = false := by
    intro entry member
    obtain ⟨original, -, rfl⟩ := List.mem_map.mp member
    exact decide_eq_false notNew.symm
  rw [← Table.filter_insertAll vectors hidden, withoutVectors, Table.delete, List.filter_filter]
  apply List.filter_congr
  intro entry _
  by_cases here : entry.conversationId = other
  · simp [here, notOld]
  · simp [here]

theorem vectorOf_merged_other {other : String} (notOld : other ≠ oldContactId)
    (notNew : other ≠ newContactId) :
    (merged oldContactId newContactId storage).vectorOf other = storage.vectorOf other := by
  simp only [vectorOf, merged, rows_mergedVectors_other _ notOld notNew]

theorem vectorOf_merged_old :
    (merged oldContactId newContactId storage).vectorOf oldContactId = ∅ := by
  simp only [vectorOf, merged, withoutVectors, Table.filter_delete, List.map_nil]
  rfl

include different

theorem lookup_vectorOf_merged (deviceId : String) :
    (((merged oldContactId newContactId storage).vectorOf newContactId).lookup deviceId).getD 0 =
      storage.entryAfterMerge oldContactId newContactId deviceId := by
  have entries := find_mergedVectors different storage.versionVectors deviceId
  simp only [entryAfterMerge, lookup_vectorOf, merged, entries]
  cases storage.versionVectors.find (newContactId, deviceId) with
  | some entry => rfl
  | none => cases storage.versionVectors.find (oldContactId, deviceId) <;> rfl

theorem hasEvent_merged {deviceId : String} {counter : UInt64} :
    (merged oldContactId newContactId storage).HasEvent newContactId deviceId counter ↔
      storage.HasEitherEvent oldContactId newContactId deviceId counter := by
  have members : ∀ event, event ∈ (merged oldContactId newContactId storage).eventHistory ↔
      ∃ before ∈ storage.eventHistory, before.merged oldContactId newContactId = event := by
    intro event
    rw [Table.mem_def, merged, rows_movedEvents]
    exact List.mem_map
  constructor
  · rintro ⟨event, member, conversation, device, number⟩
    obtain ⟨before, inStorage, rfl⟩ := (members event).mp member
    by_cases owned : before.conversationId = oldContactId
    · rw [EventRecord.merged, moved_of_owned owned] at device number
      exact .inl ⟨before, inStorage, owned, device, number⟩
    · rw [EventRecord.merged, moved_of_other owned] at conversation device number
      exact .inr ⟨before, inStorage, conversation, device, number⟩
  · rintro (⟨event, member, owned, device, number⟩ | ⟨event, member, owned, device, number⟩)
    · refine ⟨event.underContact newContactId, (members _).mpr ⟨event, member, ?_⟩, rfl, device,
        number⟩
      exact moved_of_owned owned
    · refine ⟨event, (members _).mpr ⟨event, member, ?_⟩, owned, device, number⟩
      exact moved_of_other (owned ▸ different.symm)

/-- The entry that is kept is exact if it is that of the united events. -/
theorem lastContiguous_merged_iff (deviceId : String) :
    (merged oldContactId newContactId storage).LastContiguous newContactId deviceId
        ((((merged oldContactId newContactId storage).vectorOf newContactId).lookup
          deviceId).getD 0) ↔
      IsGreatest {last | ∀ counter, 0 < counter → counter ≤ last →
          storage.HasEitherEvent oldContactId newContactId deviceId counter}
        (storage.entryAfterMerge oldContactId newContactId deviceId) := by
  rw [lookup_vectorOf_merged different]
  simp only [LastContiguous, HasPrefix, hasEvent_merged different]

omit different in
/-- The marks of the old contact stay, so there must be none. -/
theorem unread_merged_iff :
    ((merged oldContactId newContactId storage).unreadOf newContactId).Perm
        ((storage.unreadOf oldContactId ++ storage.unreadOf newContactId).map
          (MessageRecord.merged oldContactId newContactId)) ↔
      storage.unreadOf oldContactId = [] := by
  rw [unreadOf_merged]
  constructor
  · intro united
    have lengths := united.length_eq
    simp only [List.length_map, List.length_append] at lengths
    exact List.eq_nil_of_length_eq_zero (by omega)
  · intro read
    rw [read]
    exact .refl _

theorem merged_eq_self_iff {message : MessageRecord} :
    message.merged oldContactId newContactId = message ↔
      message.conversationId ≠ oldContactId := by
  constructor
  · intro same owned
    rw [MessageRecord.merged, moved_of_owned owned] at same
    have renamed : newContactId = message.conversationId := congrArg
      MessageRecord.conversationId same
    exact different (owned.symm.trans renamed.symm)
  · exact moved_of_other

/-- A conversation shows that another one was merged where it marks one of its messages. -/
theorem unreadOf_merged_other_iff (other : String) :
    (merged oldContactId newContactId storage).unreadOf other = storage.unreadOf other ↔
      ∀ message ∈ storage.unreadOf other, message.conversationId ≠ oldContactId := by
  rw [unreadOf_merged]
  constructor
  · intro same message member
    have fixed := List.map_inj_left.mp (same.trans (List.map_id _).symm) message member
    exact (merged_eq_self_iff different).mp fixed
  · intro others
    refine (List.map_congr_left fun message member => ?_).trans (List.map_id _)
    exact (merged_eq_self_iff different).mpr (others message member)

theorem viewOf_merged_iff {other : String} (notOld : other ≠ oldContactId)
    (notNew : other ≠ newContactId) :
    (merged oldContactId newContactId storage).viewOf other = storage.viewOf other ↔
      ∀ message ∈ storage.unreadOf other, message.conversationId ≠ oldContactId := by
  have messages : (merged oldContactId newContactId storage).historyOf other =
      storage.historyOf other :=
    Table.select_moved_other _ (rows_movedMessages _) (fun _ => rfl) notOld notNew
  have events : (merged oldContactId newContactId storage).eventsOf other =
      storage.eventsOf other :=
    Table.select_moved_other _ (rows_movedEvents _) (fun _ => rfl) notOld notNew
  have pending := (pendingCountOf_merged different storage).2.2 other notOld notNew
  have session := find_movedSessions_other storage.sessions notOld notNew
  have knownPeer : (merged oldContactId newContactId storage).knownPeerOf other =
      storage.knownPeerOf other := by
    simp only [knownPeerOf, merged, withoutPeers, Table.delete, List.find?_filter]
    congr 1
    funext peer
    by_cases here : peer.conversationId = other
    · simp [here, notOld]
    · simp [here]
  have contact : (merged oldContactId newContactId storage).contacts.find other =
      storage.contacts.find other := by
    apply Table.find_congr
    intro contact isOther
    have kept : contact.contactId ≠ oldContactId := isOther ▸ notOld
    rw [merged, withoutContact, Table.mem_delete]
    simp [kept]
  rw [← unreadOf_merged_other_iff different]
  simp only [viewOf, ConversationView.mk.injEq, messages, events, pending, knownPeer, contact,
    vectorOf_merged_other notOld notNew, true_and, and_true]
  exact and_iff_left session

/-- A merge shows the union exactly if no unread message belongs to the old contact and the
entries that are kept are those of the united events. -/
theorem mergesInto_merged_iff :
    MergesInto oldContactId newContactId storage (merged oldContactId newContactId storage) ↔
      MergesWhole oldContactId newContactId storage := by
  constructor
  · intro merges
    constructor
    case read => exact unread_merged_iff.mp merges.unread
    case marks =>
      intro other notOld notNew
      exact (viewOf_merged_iff different notOld notNew).mp (merges.others other notOld notNew)
    case entries =>
      intro deviceId
      exact (lastContiguous_merged_iff different deviceId).mp (merges.vector deviceId)
  · intro whole
    have pending := pendingCountOf_merged different storage
    constructor
    case messages =>
      exact Table.select_moved_new _ (rows_movedMessages _) (fun _ => rfl) different
    case unread => exact unread_merged_iff.mpr whole.read
    case pendingCount => exact pending.1
    case events =>
      exact Table.select_moved_new _ (rows_movedEvents _) (fun _ => rfl) different
    case vector =>
      intro deviceId
      exact (lastContiguous_merged_iff different deviceId).mpr (whole.entries deviceId)
    case session => exact find_movedSessions different storage.sessions
    case emptied =>
      refine ⟨?_, ?_, pending.2.1, ?_, vectorOf_merged_old, ?_⟩
      · exact Table.select_moved_old _ (rows_movedMessages _) (fun _ => rfl) different
      · rw [unreadOf_merged, whole.read]
        rfl
      · exact Table.select_moved_old _ (rows_movedEvents _) (fun _ => rfl) different
      · exact find_movedSessions_old different storage.sessions
    case others =>
      intro other notOld notNew
      exact (viewOf_merged_iff different notOld notNew).mpr (whole.marks other notOld notNew)

end

end Storage

namespace Database

/-- After a merge that returned, the new contact has the whole conversation exactly if no
unread message belonged to the old one and the entries that are kept count the united
events. -/
theorem merge_moves_conversation_iff {oldContactId newContactId : String}
    (different : oldContactId ≠ newContactId) {before after : Database}
    (merges : (mergeContactInto oldContactId newContactId).run before = (.ok (), after)) :
    MergesInto oldContactId newContactId before.storage after.storage ↔
      MergesWhole oldContactId newContactId before.storage := by
  have moved := (mergeContactInto_ensures different).of_ok merges
  rw [moved]
  exact Storage.mergesInto_merged_iff different

end Database

namespace Symbolic

def legacyMessage : MessageRecord :=
  ⟨"message-1", "legacy", "Bob", "Alice", .received, .received, none, [], some "hello", 0⟩

/-- A message of a legacy contact that was read. -/
def readStore : Storage :=
  { Storage.empty with messages := ⟨[legacyMessage], by decide⟩ }

/-- The same message, not read yet. -/
def unreadStore : Storage :=
  { readStore with newMessages := ⟨[⟨"message-1", "legacy", 0⟩], by decide⟩ }

/-- The first event of a phone in the conversation of the identity, the second in that of
the legacy contact, with the entries that the appends leave. -/
def splitStore : Storage :=
  { Storage.empty with
    eventHistory := ⟨[⟨"phone", 1, "identity", "sent", none, [], 0⟩,
      ⟨"phone", 2, "legacy", "sent", none, [], 0⟩], by decide⟩
    versionVectors := ⟨[⟨"identity", "phone", 1⟩, ⟨"legacy", "phone", 0⟩], by decide⟩ }

def mergeLegacy (storage : Storage) : Except StorageError Unit × Database :=
  (Database.mergeContactInto "legacy" "identity").run ⟨storage, 0, []⟩

theorem readStore_whole : MergesWhole "legacy" "identity" readStore where
  read := by decide +kernel
  marks other notOld notNew message member := by
    have none : readStore.unreadOf other = [] := rfl
    rw [none] at member
    cases member
  entries deviceId := by
    have noEvent : ∀ counter, ¬readStore.HasEitherEvent "legacy" "identity" deviceId counter := by
      rintro counter (⟨event, member, -⟩ | ⟨event, member, -⟩) <;> cases member
    constructor
    · intro counter positive below
      exact absurd (UInt64.lt_of_lt_of_le positive below) (UInt64.lt_irrefl 0)
    · intro last complete
      by_contra beyond
      have positive : 0 < last := UInt64.not_le.mp beyond
      exact noEvent last (complete last positive (UInt64.le_refl last))

theorem readStore_moves :
    MergesInto "legacy" "identity" readStore (mergeLegacy readStore).2.storage :=
  (Database.merge_moves_conversation_iff (by decide)
    (Prod.ext rfl rfl : mergeLegacy readStore = (.ok (), (mergeLegacy readStore).2))).mpr
      readStore_whole

theorem splitStore_merged_prefix :
    (mergeLegacy splitStore).2.storage.HasPrefix "identity" "phone" 2 := by
  intro counter positive below
  have either : counter = 1 ∨ counter = 2 := by grind
  rcases either with rfl | rfl
  · exact ⟨⟨"phone", 1, "identity", "sent", none, [], 0⟩, .head _, rfl, rfl, rfl⟩
  · exact ⟨⟨"phone", 2, "identity", "sent", none, [], 0⟩, .tail _ (.head _), rfl, rfl, rfl⟩

/-- The mark of the unread message stays with a contact that no longer exists, and the
entry of the identity stays behind the events that it now has. -/
theorem merge_loses_unread_and_prefix :
    ((mergeLegacy unreadStore).1 = .ok () ∧ unreadStore.unreadOf "legacy" = [legacyMessage] ∧
      (mergeLegacy unreadStore).2.storage.unreadOf "identity" = [] ∧
      ¬MergesInto "legacy" "identity" unreadStore (mergeLegacy unreadStore).2.storage) ∧
    ((mergeLegacy splitStore).1 = .ok () ∧
      ((mergeLegacy splitStore).2.storage.vectorOf "identity").lookup "phone" = some 1 ∧
      ¬MergesInto "legacy" "identity" splitStore (mergeLegacy splitStore).2.storage) := by
  have marked : unreadStore.unreadOf "legacy" = [legacyMessage] := by decide +kernel
  have lost : (mergeLegacy unreadStore).2.storage.unreadOf "identity" = [] := by decide +kernel
  have entry : ((mergeLegacy splitStore).2.storage.vectorOf "identity").lookup "phone" =
    some 1 := by decide +kernel
  refine ⟨⟨rfl, marked, lost, fun merges => ?_⟩, rfl, entry, fun merges => ?_⟩
  · have lengths := merges.unread.length_eq
    rw [lost, marked] at lengths
    simp at lengths
  · have greatest := merges.vector "phone"
    rw [entry] at greatest
    have beyond := greatest.2 splitStore_merged_prefix
    exact absurd beyond (by decide)

end Symbolic

end CipherMesh
