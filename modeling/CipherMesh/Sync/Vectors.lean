import CipherMesh.Foundation.Moves
import CipherMesh.Foundation.Reachability
import CipherMesh.Storage.Conversations

/-!
# Exact version vectors

Every append recomputes the entry of its device and conversation, whether or not the
event was inserted, and an event only counts for its own entry.  So an entry is always the
longest prefix of the events of the device in the conversation.
-/

namespace CipherMesh

open Foundation
open Foundation.Mutation

namespace Storage

/-- The event with this number is stored in the conversation. -/
def HasEvent (storage : Storage) (conversationId deviceId : String) (counter : UInt64) : Prop :=
  ∃ event ∈ storage.eventHistory, event.conversationId = conversationId ∧
    event.deviceId = deviceId ∧ event.counter = counter

/-- The events `1` to `last` of the device are all stored in the conversation. -/
def HasPrefix (storage : Storage) (conversationId deviceId : String) (last : UInt64) : Prop :=
  ∀ counter, 0 < counter → counter ≤ last → storage.HasEvent conversationId deviceId counter

/-- The number is that of the longest prefix. -/
def LastContiguous (storage : Storage) (conversationId deviceId : String) (last : UInt64) :
    Prop :=
  IsGreatest {last | storage.HasPrefix conversationId deviceId last} last

variable {storage after : Storage} {conversationId deviceId : String}

/-- The counters are in the order of the column. -/
theorem pairwise_countersOf (storage : Storage) (conversationId deviceId : String) :
    (storage.countersOf conversationId deviceId).Pairwise fun first second =>
      asI64 first ≤ asI64 second := by
  rw [countersOf, List.pairwise_map]
  exact Table.pairwise_select _ _ _

/-- The loop counts stored events only. -/
theorem hasPrefix_contiguousFrom (conversationId deviceId : String) :
    storage.HasPrefix conversationId deviceId
      (contiguousFrom 0 (storage.countersOf conversationId deviceId)) :=
  fun _ positive below => mem_countersOf.mp (mem_of_le_contiguousFrom positive below)

/-- The loop of `refresh_vector_for_device` finds the longest prefix. -/
theorem lastContiguous_contiguousFrom
    (fits : ∀ event ∈ storage.eventHistory, event.conversationId = conversationId →
      event.deviceId = deviceId → Representable event.counter) :
    storage.LastContiguous conversationId deviceId
      (contiguousFrom 0 (storage.countersOf conversationId deviceId)) := by
  have listedFits : ∀ counter ∈ storage.countersOf conversationId deviceId,
      Representable counter := by
    intro counter member
    obtain ⟨event, eventMember, conversation, device, rfl⟩ := mem_countersOf.mp member
    exact fits event eventMember conversation device
  have sorted : (storage.countersOf conversationId deviceId).Pairwise (· ≤ ·) := by
    refine (pairwise_countersOf storage conversationId deviceId).imp_of_mem ?_
    exact fun first second => (asI64_le_asI64 (listedFits _ first) (listedFits _ second)).mp
  constructor
  · exact hasPrefix_contiguousFrom conversationId deviceId
  · intro last isPrefix
    refine le_contiguousFrom sorted (by unfold Representable; decide) listedFits ?_
    exact fun counter positive below => mem_countersOf.mpr (isPrefix counter positive below)

/-- Every entry is what the loop finds, and every stored event has an entry. -/
structure Recomputed (storage : Storage) : Prop where
  computed : ∀ entry ∈ storage.versionVectors, entry.contiguousCounter =
    contiguousFrom 0 (storage.countersOf entry.conversationId entry.deviceId)
  present : ∀ event ∈ storage.eventHistory,
    storage.versionVectors.Contains (event.conversationId, event.deviceId)

theorem Recomputed.empty : Recomputed .empty where
  computed _ member := absurd member Table.notMem_empty
  present _ member := absurd member Table.notMem_empty

/-- An event is inserted and the entry of its device recomputed. -/
theorem Recomputed.appended (recomputed : storage.Recomputed) {event : EventRecord}
    (events : after.eventHistory = storage.eventHistory.insertOrIgnore event)
    (vectors : after.versionVectors = storage.versionVectors.upsert
      ⟨event.conversationId, event.deviceId,
        contiguousFrom 0 (after.countersOf event.conversationId event.deviceId)⟩) :
    after.Recomputed where
  computed entry member := by
    rw [vectors] at member
    rcases Table.mem_upsert.mp member with rfl | ⟨old, different⟩
    · rfl
    rw [recomputed.computed entry old]
    refine congrArg (contiguousFrom 0) (countersOf_congr fun other conversation device => ?_)
    rw [events, Table.mem_insertOrIgnore]
    refine ⟨.inl, fun inAfter => inAfter.resolve_right ?_⟩
    rintro ⟨rfl, _⟩
    exact different (Prod.ext conversation.symm device.symm)
  present other member := by
    rw [events] at member
    rw [vectors, Table.contains_upsert]
    rcases Table.mem_insertOrIgnore.mp member with old | ⟨rfl, _⟩
    · exact .inr (recomputed.present other old)
    · exact .inl rfl

/-- The rows of a conversation are deleted from both tables. -/
theorem Recomputed.deleted (recomputed : storage.Recomputed) (conversationId : String) :
    (storage.withoutConversation conversationId).Recomputed where
  computed entry member := by
    obtain ⟨old, other⟩ := Table.mem_delete.mp member
    rw [recomputed.computed entry old]
    refine congrArg (contiguousFrom 0) (countersOf_congr fun event conversation _ => ?_)
    refine (Table.mem_delete.trans (and_iff_left ?_)).symm
    rw [conversation]
    exact other
  present event member := by
    obtain ⟨old, other⟩ := Table.mem_delete.mp member
    obtain ⟨entry, entryMember, same⟩ := recomputed.present event old
    refine ⟨entry, Table.mem_delete.mpr ⟨entryMember, ?_⟩, same⟩
    rw [show entry.conversationId = event.conversationId from congrArg Prod.fst same]
    exact other

/-- The counters of the stored events fit the columns. -/
def Fits (storage : Storage) : Prop :=
  ∀ event ∈ storage.eventHistory, Representable event.counter

end Storage

/-! ## Calls -/

namespace Database

variable {database : Database}

theorem appendEvent_recomputed {event : EventRecord} (recomputed : database.storage.Recomputed) :
    (appendEvent event).Ensures database (fun _ after => after.storage.Recomputed)
      (fun _ _ => True) := by
  rw [appendEvent, ensures_bind]
  refine ensures_statement trivial (fun inserted storage effected => ?_) fun _ _ => trivial
  cases effected
  rw [ensures_bind, refreshVectorForDevice, ensures_bind]
  exact ensures_query trivial (ensures_execute trivial (recomputed.appended rfl rfl))

theorem appendEvents_recomputed {events : List EventRecord}
    (recomputed : database.storage.Recomputed) :
    (appendEvents events).Ensures database (fun _ after => after.storage.Recomputed)
      (fun _ _ => True) := by
  induction events generalizing database with
  | nil => exact recomputed
  | cons event events eventsIH =>
      rw [appendEvents, ensures_bind]
      refine (appendEvent_recomputed recomputed).mono (fun inserted after appended => ?_)
        fun _ _ => id
      rw [ensures_bind]
      exact (eventsIH appended).mono (fun _ _ => id) fun _ _ => id

theorem keepsFits_appendEvent {event : EventRecord} (fits : Representable event.counter) :
    Keeps (fun database => database.storage.Fits) (appendEvent event) := by
  refine .bind (keeps_statement fun storage value after stored effected => ?_) fun inserted =>
    .bind (.bind (keeps_query _) fun _ => keeps_execute fun _ => id) fun _ => .pure _
  cases effected
  intro other member
  rcases Table.mem_insertOrIgnore.mp member with old | ⟨rfl, _⟩
  · exact stored other old
  · exact fits

theorem keepsFits_appendEvents {events : List EventRecord}
    (fits : ∀ event ∈ events, Representable event.counter) :
    Keeps (fun database => database.storage.Fits) (appendEvents events) := by
  induction events with
  | nil => exact .pure 0
  | cons event events eventsIH =>
      refine .bind (keepsFits_appendEvent (fits event List.mem_cons_self)) fun inserted => ?_
      exact .bind (eventsIH fun other member => fits other (List.mem_cons_of_mem _ member))
        fun count => .pure _

end Database

/-- The calls that write events. -/
inductive EventCall where
  | appendEvent (event : EventRecord)
  | appendEvents (events : List EventRecord)
  | deleteConversation (conversationId : String)

namespace EventCall

def events : EventCall → List EventRecord
  | .appendEvent event => [event]
  | .appendEvents events => events
  | .deleteConversation _ => []

def perform : EventCall → StorageResult Unit
  | .appendEvent event => do
      let _ ← Database.appendEvent event
      return ()
  | .appendEvents events => do
      let _ ← Database.appendEvents events
      return ()
  | .deleteConversation conversationId => do
      let _ ← Database.deleteConversation conversationId
      return ()

/-- The runs of calls that return, with counters that the columns can hold. -/
def returning : System Database (EventCall × UInt64 × List Bool) where
  initial database := database.storage = .empty
  permitted database call :=
    (∀ event ∈ call.1.events, Representable event.counter) ∧
      ∃ after, call.1.perform.run (database.opened call.2.1 call.2.2) = (.ok (), after)
  next database call := (call.1.perform.run (database.opened call.2.1 call.2.2)).2

variable {database : Database}

theorem perform_recomputed (call : EventCall) (recomputed : database.storage.Recomputed)
    (fits : database.storage.Fits) (callFits : ∀ event ∈ call.events, Representable event.counter) :
    call.perform.Ensures database
      (fun _ after => after.storage.Recomputed ∧ after.storage.Fits) (fun _ _ => True) := by
  cases call with
  | appendEvent event =>
      rw [perform, ensures_bind]
      exact ((Database.appendEvent_recomputed recomputed).and
        (Database.keepsFits_appendEvent (callFits event (List.mem_singleton_self event)) _
          fits)).mono (fun _ _ => id) fun _ _ _ => trivial
  | appendEvents events =>
      rw [perform, ensures_bind]
      exact ((Database.appendEvents_recomputed recomputed).and
        (Database.keepsFits_appendEvents callFits _ fits)).mono (fun _ _ => id)
          fun _ _ _ => trivial
  | deleteConversation conversationId =>
      rw [perform, ensures_bind]
      refine (Database.deleteConversation_ensures conversationId).mono
        (fun count after same => ?_) fun _ _ => id
      rw [ensures_pure, same]
      exact ⟨recomputed.deleted conversationId,
        fun event member => fits event (Table.mem_delete.mp member).1⟩

theorem recomputed_of_reachable (reachable : returning.Reachable database) :
    database.storage.Recomputed ∧ database.storage.Fits := by
  refine reachable.invariant
    (fun database => database.storage.Recomputed ∧ database.storage.Fits) ?_ ?_
  · rintro start empty
    rw [empty]
    exact ⟨.empty, fun event member => absurd member Table.notMem_empty⟩
  · rintro state call ⟨recomputed, fits⟩ ⟨callFits, after, returned⟩
    have performs : call.1.perform.Ensures (state.opened call.2.1 call.2.2)
        (fun _ reached => reached.storage.Recomputed ∧ reached.storage.Fits) (fun _ _ => True) :=
      call.1.perform_recomputed recomputed fits callFits
    simpa only [returning, returned] using performs.of_ok returned

/-- The vector that a store returns has an entry for every device with a stored event, and
every entry is the number of the longest prefix of its events. -/
theorem versionVector_exact (reachable : returning.Reachable database) (conversationId : String)
    {now : UInt64} {interruptions : List Bool} {vector : VersionVector} {after : Database}
    (returned : (Database.versionVector conversationId).run (database.opened now interruptions) =
      (.ok vector, after)) :
    (∀ deviceId last, vector.lookup deviceId = some last →
      database.storage.LastContiguous conversationId deviceId last) ∧
      ∀ event ∈ database.storage.eventHistory, event.conversationId = conversationId →
        ∃ last, vector.lookup event.deviceId = some last := by
  obtain ⟨recomputed, fits⟩ := recomputed_of_reachable reachable
  obtain ⟨rfl, _⟩ := (Database.query_reads _ _).of_ok returned
  constructor
  · intro deviceId last found
    have computed := recomputed.computed _ (Storage.mem_of_lookup_vectorOf found)
    dsimp only at computed
    rw [computed]
    exact Storage.lastContiguous_contiguousFrom fun event member _ _ => fits event member
  · rintro event member rfl
    exact Storage.exists_lookup_vectorOf (recomputed.present event member)

end EventCall

namespace Symbolic

def numberedEvent (conversationId : String) (counter : UInt64) : EventRecord :=
  ⟨"AliceDevice", counter, conversationId, "message", none, [], 0⟩

/-- The second event arrives before the first one. -/
def gapCalls : List (EventCall × UInt64 × List Bool) :=
  [(.appendEvent (numberedEvent "conversation" 2), 0, []),
    (.appendEvent (numberedEvent "conversation" 1), 0, [])]

def emptyStore : Database := ⟨.empty, 0, []⟩

theorem gap_filled :
    (EventCall.returning.run emptyStore gapCalls).storage.LastContiguous "conversation"
      "AliceDevice" 2 := by
  have permits : EventCall.returning.Permits emptyStore gapCalls := by
    refine ⟨⟨?_, _, rfl⟩, ⟨?_, _, rfl⟩, trivial⟩
    all_goals
      intro event member
      cases List.mem_singleton.mp member
      unfold Representable
      decide
  exact (EventCall.versionVector_exact ⟨emptyStore, rfl, permits.reaches⟩ "conversation"
    (show (Database.versionVector "conversation").run
      ((EventCall.returning.run emptyStore gapCalls).opened 0 []) = (.ok _, _) from rfl)).1
    "AliceDevice" 2 (by decide +kernel)

end Symbolic

end CipherMesh
