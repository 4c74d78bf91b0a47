import CipherMesh.Crypto.Symbolic
import CipherMesh.Sync.Round

/-!
# Replica convergence

The version vector of a store never claims an event that is absent: the loop that
computes it stops at the first gap, and an entry that is not refreshed claims too
little.  Hence a peer sends every event the store lacks, and after a round the two
stores hold the union of their events.
-/

namespace CipherMesh

open Foundation
open Foundation.Mutation

variable {P : Primitives} {Replica : Type} {issued : EventRecord → Prop}

namespace Storage

variable {storage before middle after : Storage} {event : EventRecord}

/-- The claimed prefixes are present. -/
def Sound (storage : Storage) : Prop :=
  ∀ entry ∈ storage.versionVectors, ∀ counter, 0 < counter →
    counter ≤ entry.contiguousCounter →
      ∃ event ∈ storage.eventHistory, event.conversationId = entry.conversationId ∧
        event.deviceId = entry.deviceId ∧ event.counter = counter

/-- The store holds issued events only and claims no others. -/
structure Consistent (issued : EventRecord → Prop) (storage : Storage) : Prop where
  issued : ∀ event ∈ storage.eventHistory, issued event
  sound : storage.Sound

theorem Consistent.empty : Consistent issued .empty where
  issued _ member := absurd member Table.notMem_empty
  sound _ member := absurd member Table.notMem_empty

/-- The store lost nothing and gained none but the listed events. -/
structure Gains (added : List EventRecord) (before after : Storage) : Prop where
  kept : ∀ event ∈ before.eventHistory, event ∈ after.eventHistory
  origin : ∀ event ∈ after.eventHistory, event ∈ before.eventHistory ∨ event ∈ added

theorem Gains.of_eq (added : List EventRecord)
    (same : after.eventHistory = before.eventHistory) : Gains added before after where
  kept _ member := same ▸ member
  origin _ member := .inl (same ▸ member)

theorem Gains.trans {first second : List EventRecord} (gains : Gains first before middle)
    (further : Gains second middle after) : Gains (first ++ second) before after where
  kept event member := further.kept event (gains.kept event member)
  origin := by
    intro event member
    rcases further.origin event member with inMiddle | inSecond
    · rcases gains.origin event inMiddle with inBefore | inFirst
      · exact .inl inBefore
      · exact .inr (List.mem_append_left _ inFirst)
    · exact .inr (List.mem_append_right _ inSecond)

/-- Storing a recomputed vector entry. -/
theorem Consistent.refreshed (consistent : Consistent issued storage)
    (conversationId deviceId : String) :
    Consistent issued { storage with
      versionVectors := storage.versionVectors.upsert ⟨conversationId, deviceId,
        contiguousFrom 0 (storage.countersOf conversationId deviceId)⟩ } where
  issued := consistent.issued
  sound := by
    intro entry member counter positive below
    rcases Table.mem_upsert.mp member with rfl | ⟨old, _⟩
    · exact mem_countersOf.mp (mem_of_le_contiguousFrom positive below)
    · exact consistent.sound entry old counter positive below

/-- Inserting an issued event. -/
theorem Consistent.inserted (consistent : Consistent issued storage) (allowed : issued event) :
    Consistent issued { storage with
      eventHistory := storage.eventHistory.insertOrIgnore event } where
  issued := by
    intro other member
    rcases Table.mem_insertOrIgnore.mp member with old | ⟨rfl, _⟩
    · exact consistent.issued other old
    · exact allowed
  sound := by
    intro entry member counter positive below
    obtain ⟨found, present, claimed⟩ := consistent.sound entry member counter positive below
    exact ⟨found, Table.mem_insertOrIgnore.mpr (.inl present), claimed⟩

theorem Gains.inserted (storage : Storage) (event : EventRecord) :
    Gains [event] storage { storage with
      eventHistory := storage.eventHistory.insertOrIgnore event } where
  kept _ member := Table.mem_insertOrIgnore.mpr (.inl member)
  origin := by
    intro other member
    rcases Table.mem_insertOrIgnore.mp member with old | ⟨rfl, _⟩
    · exact .inl old
    · exact .inr List.mem_cons_self

end Storage

open Storage

/-! ## Appending -/

/-- Positions determine the issued events. -/
def Determined (issued : EventRecord → Prop) : Prop :=
  ∀ first second, issued first → issued second → first.position = second.position →
    first = second

section

variable {database : Database} {event : EventRecord} {events : List EventRecord}

/-- After the insertion the event is present, inserted now or before. -/
theorem mem_inserted (determined : Determined issued)
    (consistent : Consistent issued database.storage) (allowed : issued event) :
    event ∈ database.storage.eventHistory.insertOrIgnore event := by
  obtain ⟨found, present, samePosition⟩ :=
    Table.contains_insertOrIgnore database.storage.eventHistory event
  have foundIssued := (consistent.inserted allowed).issued found present
  rwa [determined found event foundIssued allowed samePosition] at present

theorem refreshVector_ensures (consistent : Consistent issued database.storage)
    (conversationId deviceId : String) :
    let kept := fun after : Database => Consistent issued after.storage ∧
      after.storage.eventHistory = database.storage.eventHistory
    (Database.refreshVectorForDevice conversationId deviceId).Ensures database
      (fun _ => kept) (fun _ => kept) := by
  simp only [Database.refreshVectorForDevice, ensures_bind]
  apply Database.ensures_query
  · exact ⟨consistent, rfl⟩
  · apply Database.ensures_execute
    · exact ⟨consistent, rfl⟩
    · exact ⟨consistent.refreshed conversationId deviceId, rfl⟩

theorem appendEvent_ensures (determined : Determined issued)
    (consistent : Consistent issued database.storage) (allowed : issued event) :
    let progress := fun after : Database => Consistent issued after.storage ∧
      Gains [event] database.storage after.storage
    (Database.appendEvent event).Ensures database
      (fun _ after => progress after ∧ event ∈ after.storage.eventHistory)
      (fun _ => progress) := by
  simp only [Database.appendEvent, ensures_bind]
  apply Database.ensures_statement
  · exact ⟨consistent, .of_eq _ rfl⟩
  · rintro inserted storage ⟨⟩
    refine (refreshVector_ensures (consistent.inserted allowed) event.conversationId
      event.deviceId).mono ?_ ?_
    · rintro _ after ⟨afterConsistent, same⟩
      have gains := (Gains.inserted database.storage event).trans (.of_eq [] same)
      refine ⟨⟨afterConsistent, gains⟩, ?_⟩
      rw [same]
      exact mem_inserted determined consistent allowed
    · rintro _ after ⟨afterConsistent, same⟩
      exact ⟨afterConsistent,
        (Gains.inserted database.storage event).trans (.of_eq [] same)⟩
  · rintro error ⟨⟩

theorem appendEvents_ensures (determined : Determined issued)
    (consistent : Consistent issued database.storage)
    (allowed : ∀ event ∈ events, issued event) :
    let progress := fun after : Database => Consistent issued after.storage ∧
      Gains events database.storage after.storage
    (Database.appendEvents events).Ensures database
      (fun _ after => progress after ∧ ∀ event ∈ events, event ∈ after.storage.eventHistory)
      (fun _ => progress) := by
  induction events generalizing database with
  | nil => exact ⟨⟨consistent, .of_eq _ rfl⟩, fun _ member => absurd member List.not_mem_nil⟩
  | cons event events eventsIH =>
      simp only [Database.appendEvents, ensures_bind]
      refine (appendEvent_ensures determined consistent
        (allowed event List.mem_cons_self)).mono ?_ ?_
      · rintro inserted middle ⟨⟨middleConsistent, gains⟩, present⟩
        refine (eventsIH middleConsistent fun event member =>
          allowed event (List.mem_cons_of_mem _ member)).mono ?_ ?_
        · rintro count after ⟨⟨afterConsistent, further⟩, restPresent⟩
          refine ⟨⟨afterConsistent, gains.trans further⟩, ?_⟩
          intro other member
          rcases List.mem_cons.mp member with rfl | inRest
          · exact further.kept _ present
          · exact restPresent other inRest
        · rintro error after ⟨afterConsistent, further⟩
          exact ⟨afterConsistent, gains.trans further⟩
      · rintro error after ⟨afterConsistent, gains⟩
        refine ⟨afterConsistent, gains.kept, ?_⟩
        intro other member
        exact (gains.origin other member).imp_right fun inHead =>
          List.mem_cons.mpr (.inl (List.mem_singleton.mp inHead))

end

/-! ## Rounds -/

namespace Stores

variable {stores before middle after : Stores Replica} {conversationId : String}

/-- The events of a conversation that a replica holds. -/
def held (stores : Stores Replica) (replica : Replica) (conversationId : String) :
    Set EventRecord :=
  {event | event ∈ (stores replica).storage.eventHistory ∧
    event.conversationId = conversationId}

/-- Every store stays consistent and loses nothing. -/
structure Progress (issued : EventRecord → Prop) (before after : Stores Replica) : Prop where
  consistent : ∀ replica, Consistent issued (after replica).storage
  kept : ∀ replica, ∀ event ∈ (before replica).storage.eventHistory,
    event ∈ (after replica).storage.eventHistory

theorem Progress.of_storage_eq (consistent : ∀ replica, Consistent issued (before replica).storage)
    (same : ∀ replica, (after replica).storage = (before replica).storage) :
    Progress issued before after where
  consistent replica := same replica ▸ consistent replica
  kept replica _ member := same replica ▸ member

theorem Progress.trans (first : Progress issued before middle)
    (second : Progress issued middle after) : Progress issued before after where
  consistent := second.consistent
  kept replica event member := second.kept replica event (first.kept replica event member)

variable [DecidableEq Replica]

/-- Reading leaves the content of all stores. -/
theorem query_ensures {Result : Type} (replica : Replica) (read : Storage → Result) :
    let same := fun after : Stores Replica =>
      ∀ other, (after other).storage = (stores other).storage
    (onStore replica (Database.query read)).Ensures stores
      (fun value after => value = read (stores replica).storage ∧ same after)
      (fun _ => same) := by
  have same : ∀ other, (Function.update stores replica
      ((stores replica).advance (stores replica).storage) other).storage =
        (stores other).storage := by
    intro other
    rcases eq_or_ne other replica with rfl | different
    · simp
    · simp [different]
  simp only [onStore, ensures_mapError, ensures_focus]
  exact Database.ensures_query same ⟨rfl, same⟩

/-- What the source does not send the target has already. -/
theorem mem_of_not_missing (determined : Determined issued)
    (positive : ∀ event, issued event → 0 < event.counter) {source target : Storage}
    (sourceConsistent : Consistent issued source) (targetConsistent : Consistent issued target)
    {event : EventRecord} (member : event ∈ source.eventHistory)
    (covered : event.counter ≤
      ((target.vectorOf event.conversationId).lookup event.deviceId).getD 0) :
    event ∈ target.eventHistory := by
  have eventIssued := sourceConsistent.issued event member
  cases seen : (target.vectorOf event.conversationId).lookup event.deviceId with
  | none =>
      rw [seen] at covered
      exact absurd (UInt64.lt_of_lt_of_le (positive event eventIssued) covered)
        (UInt64.lt_irrefl 0)
  | some contiguous =>
      rw [seen] at covered
      obtain ⟨found, present, _, sameDevice, sameCounter⟩ := targetConsistent.sound _
        (Storage.mem_of_lookup_vectorOf seen) event.counter (positive event eventIssued) covered
      have samePosition : found.position = event.position := Prod.ext sameDevice sameCounter
      rwa [determined found event (targetConsistent.issued found present) eventIssued
        samePosition] at present

/-- With the missing events of the source, the target has the conversation of both. -/
theorem mem_pulled_iff (determined : Determined issued)
    (positive : ∀ event, issued event → 0 < event.counter) {source target pulled : Storage}
    (sourceConsistent : Consistent issued source) (targetConsistent : Consistent issued target)
    (gains : Gains (source.missingEvents conversationId (target.vectorOf conversationId))
      target pulled)
    (present : ∀ event ∈ source.missingEvents conversationId (target.vectorOf conversationId),
      event ∈ pulled.eventHistory) (event : EventRecord) :
    (event ∈ pulled.eventHistory ∧ event.conversationId = conversationId) ↔
      (event ∈ target.eventHistory ∧ event.conversationId = conversationId) ∨
        (event ∈ source.eventHistory ∧ event.conversationId = conversationId) := by
  constructor
  · rintro ⟨member, conversation⟩
    rcases gains.origin event member with old | new
    · exact .inl ⟨old, conversation⟩
    · exact .inr (mem_missingEvents.mp new).1
  · rintro (⟨member, conversation⟩ | ⟨member, rfl⟩)
    · exact ⟨gains.kept event member, conversation⟩
    · refine ⟨?_, rfl⟩
      by_cases sent : ((target.vectorOf event.conversationId).lookup event.deviceId).getD 0 <
          event.counter
      · exact present event (mem_missingEvents.mpr ⟨⟨member, rfl⟩, sent⟩)
      · exact gains.kept event (mem_of_not_missing determined positive sourceConsistent
          targetConsistent member (UInt64.not_lt.mp sent))

/-- One store gains events, and the others stay. -/
theorem Progress.update {target : Replica} {database : Database} {events : List EventRecord}
    (consistent : ∀ replica, Consistent issued (before replica).storage)
    (same : ∀ replica, (middle replica).storage = (before replica).storage)
    (targetConsistent : Consistent issued database.storage)
    (gains : Gains events (before target).storage database.storage) :
    Progress issued before (Function.update middle target database) := by
  constructor
  · intro replica
    rcases eq_or_ne replica target with rfl | different
    · simpa using targetConsistent
    · simpa [different, same] using consistent replica
  · intro replica event member
    rcases eq_or_ne replica target with rfl | different
    · simpa using gains.kept event member
    · simpa [different, same] using member

theorem pull_ensures (determined : Determined issued)
    (positive : ∀ event, issued event → 0 < event.counter) {format : Format SyncResponse}
    (roundTrip : format.RoundTrip)
    (consistent : ∀ replica, Consistent issued (stores replica).storage)
    (source target : Replica) (conversationId : String) :
    (pull format source target conversationId).Ensures stores
      (fun _ after => Progress issued stores after ∧
        after.held target conversationId =
          stores.held target conversationId ∪ stores.held source conversationId ∧
        ∀ other, other ≠ target → (after other).storage = (stores other).storage)
      (fun _ after => Progress issued stores after) := by
  simp only [pull, ensures_bind]
  refine (query_ensures target _).mono ?_ fun _ _ same => .of_storage_eq consistent same
  rintro _ first ⟨rfl, firstSame⟩
  refine (query_ensures source _).mono ?_ fun _ _ same =>
    .of_storage_eq consistent fun other => (same other).trans (firstSame other)
  rintro _ second ⟨rfl, secondSame⟩
  have same : ∀ other, (second other).storage = (stores other).storage :=
    fun other => (secondSame other).trans (firstSame other)
  rw [ensures_okOr]
  refine ⟨?_, fun _ => .of_storage_eq consistent same⟩
  intro responseBytes serialized
  rw [roundTrip serialized]
  simp only [ensures_okOr_some, ensures_pure, onStore, ensures_mapError, ensures_focus,
    EventRecord.map_fromSync_fromRecord]
  have allowed : ∀ event ∈ (stores source).storage.missingEvents conversationId
      ((stores target).storage.vectorOf conversationId), issued event := fun event member =>
    (consistent source).issued event (mem_missingEvents.mp member).1.1
  rw [firstSame source]
  refine (appendEvents_ensures determined (by rw [same]; exact consistent target)
    allowed).mono ?_ ?_
  · rintro _ database ⟨⟨targetConsistent, gains⟩, present⟩
    rw [same] at gains
    refine ⟨.update consistent same targetConsistent gains, ?_, ?_⟩
    · ext event
      simp only [held, Function.update_self, Set.mem_ofPred_eq, Set.mem_union]
      exact mem_pulled_iff determined positive (consistent source) (consistent target) gains
        present event
    · intro other different
      simp [different, same]
  · rintro error database ⟨targetConsistent, gains⟩
    rw [same] at gains
    exact .update consistent same targetConsistent gains

theorem sync_ensures (determined : Determined issued)
    (positive : ∀ event, issued event → 0 < event.counter) {format : Format SyncResponse}
    (roundTrip : format.RoundTrip)
    (consistent : ∀ replica, Consistent issued (stores replica).storage)
    (accountPublicKey : P.IdentityKey) (leftCertificate rightCertificate : DeviceCertificate P)
    (revocations : List (DeviceRevocation P)) (left right : Replica)
    (conversationId : String) :
    let union := stores.held left conversationId ∪ stores.held right conversationId
    (syncAuthorizedSiblingDevices format accountPublicKey leftCertificate rightCertificate
      revocations left right conversationId).Ensures stores
      (fun _ after => Progress issued stores after ∧ after.held left conversationId = union ∧
        after.held right conversationId = union)
      (fun _ after => Progress issued stores after) := by
  have unchanged : Progress issued stores stores := .of_storage_eq consistent fun _ => rfl
  simp only [syncAuthorizedSiblingDevices, ensures_bind, ensures_lift, ensures_pure]
  refine ⟨fun _ _ => ?_, fun _ _ => unchanged⟩
  refine (pull_ensures determined positive roundTrip consistent left right conversationId).mono
    ?_ fun _ _ progress => progress
  rintro _ middle ⟨progress, rightHeld, othersMiddle⟩
  refine (pull_ensures determined positive roundTrip progress.consistent right left
    conversationId).mono ?_ fun _ _ further => progress.trans further
  rintro _ after ⟨further, leftHeld, othersAfter⟩
  have leftBefore : middle.held left conversationId ∪ middle.held right conversationId =
      stores.held left conversationId ∪ stores.held right conversationId := by
    rcases eq_or_ne left right with rfl | different
    · rw [rightHeld, Set.union_self]
    · have kept : middle.held left conversationId = stores.held left conversationId := by
        simp only [held, othersMiddle left different]
      rw [kept, rightHeld, Set.union_comm (stores.held right _), ← Set.union_assoc, Set.union_self]
  refine ⟨progress.trans further, leftHeld.trans leftBefore, ?_⟩
  rcases eq_or_ne right left with rfl | different
  · exact leftHeld.trans leftBefore
  · have kept : after.held right conversationId = middle.held right conversationId := by
      simp only [held, othersAfter right different]
    rw [kept, rightHeld, Set.union_comm]

/-- Every step of a run makes progress. -/
theorem next_progress (determined : Determined issued)
    (positive : ∀ event, issued event → 0 < event.counter) {format : Format SyncResponse}
    (roundTrip : format.RoundTrip)
    (consistent : ∀ replica, Consistent issued (stores replica).storage)
    {event : ReplicaEvent P Replica}
    (permitted : (replication P format issued).permitted stores event) :
    Progress issued stores (stores.next format event) := by
  cases event with
  | append replica event now interruptions =>
      have atStart : Consistent issued ((stores replica).opened now interruptions).storage :=
        consistent replica
      have progress := (appendEvent_ensures determined atStart permitted).mono
        (fun _ after appended => appended.1) (fun _ _ => id)
      obtain ⟨afterConsistent, gains⟩ := progress.reached
      constructor
      · intro other
        rcases eq_or_ne other replica with rfl | different
        · simpa [next] using afterConsistent
        · simpa [next, different] using consistent other
      · intro other found member
        rcases eq_or_ne other replica with rfl | different
        · simpa [next] using gains.kept found member
        · simpa [next, different] using member
  | sync accountPublicKey leftCertificate rightCertificate revocations left right
      conversationId now interruptions =>
      have atStart : ∀ replica,
          Consistent issued (stores.opened now interruptions replica).storage := consistent
      have progress := (sync_ensures determined positive roundTrip atStart accountPublicKey
        leftCertificate rightCertificate revocations left right conversationId).mono
          (fun _ _ synced => synced.1) (fun _ _ => id)
      exact ⟨progress.reached.consistent, progress.reached.kept⟩

theorem consistent_of_reachable (determined : Determined issued)
    (positive : ∀ event, issued event → 0 < event.counter) {format : Format SyncResponse}
    (roundTrip : format.RoundTrip) (reachable : (replication P format issued).Reachable stores) :
    ∀ replica, Consistent issued (stores replica).storage := by
  apply reachable.invariant
    fun stores => ∀ replica, Consistent issued (stores replica).storage
  · intro start initial replica
    rw [initial replica]
    exact .empty
  · intro state event consistent permitted
    exact (next_progress determined positive roundTrip consistent permitted).consistent

/-- Replicas converge.  In every run no step loses an event, and a round that succeeds
leaves both stores with the union of their events of the conversation and with one
materialized state. -/
theorem replica_convergence (determined : Determined issued)
    (positive : ∀ event, issued event → 0 < event.counter) (format : Format SyncResponse)
    (roundTrip : format.RoundTrip) (payloads : Format ConversationEvent)
    (reachable : (replication P format issued).Reachable stores) :
    (∀ event : ReplicaEvent P Replica, (replication P format issued).permitted stores event →
        ∀ replica, ∀ record ∈ (stores replica).storage.eventHistory,
          record ∈ (stores.next format event replica).storage.eventHistory) ∧
      ∀ (accountPublicKey : P.IdentityKey) (leftCertificate rightCertificate : DeviceCertificate P)
        (revocations : List (DeviceRevocation P)) (left right : Replica)
        (conversationId : String) (now : Replica → UInt64) (interruptions : Replica → List Bool)
        (trip : SyncRoundTrip) (after : Stores Replica),
        (syncAuthorizedSiblingDevices format accountPublicKey leftCertificate rightCertificate
          revocations left right conversationId).run (stores.opened now interruptions) =
            (.ok trip, after) →
          after.held left conversationId =
              stores.held left conversationId ∪ stores.held right conversationId ∧
            after.held right conversationId =
              stores.held left conversationId ∪ stores.held right conversationId ∧
            materializeConversation payloads
                ((after left).storage.missingEvents conversationId ∅) =
              materializeConversation payloads
                ((after right).storage.missingEvents conversationId ∅) := by
  have consistent := consistent_of_reachable determined positive roundTrip reachable
  refine ⟨fun event permitted => (next_progress determined positive roundTrip consistent
    permitted).kept, ?_⟩
  intro accountPublicKey leftCertificate rightCertificate revocations left right conversationId
    now interruptions trip after run
  have atStart : ∀ replica,
      Consistent issued (stores.opened now interruptions replica).storage := consistent
  obtain ⟨_, leftHeld, rightHeld⟩ := (sync_ensures determined positive roundTrip atStart
    accountPublicKey leftCertificate rightCertificate
    revocations left right conversationId).of_ok run
  refine ⟨leftHeld, rightHeld, congrArg _ ?_⟩
  apply missingEvents_congr
  intro event here
  have sameHeld := Set.ext_iff.mp (leftHeld.trans rightHeld.symm) event
  simpa [held, here] using sameHeld

end Stores

/-! ## A round between two devices -/

namespace Symbolic

/-- The first event of a device. -/
def firstEvent (device : String) : EventRecord where
  deviceId := device
  counter := 1
  conversationId := "chat"
  eventType := "MessageCreated"
  messageId := some "message"
  payload := []
  createdAtUnixSecs := 0

/-- The responses with the first event of either device. -/
def responses : Format SyncResponse :=
  .listed [⟨[.fromRecord (firstEvent "laptop")]⟩, ⟨[.fromRecord (firstEvent "phone")]⟩]

def issuedFirst (event : EventRecord) : Prop :=
  event = firstEvent "laptop" ∨ event = firstEvent "phone"

/-- Each device has appended its own event. -/
def apart : Stores Bool :=
  (Stores.replication primitives responses issuedFirst).run
    (fun _ => ⟨.empty, 0, []⟩)
    [.append true (firstEvent "laptop") 0 [], .append false (firstEvent "phone") 0 []]

/-- The laptop and the phone sync. -/
def synced : Except AppError SyncRoundTrip × Stores Bool :=
  (syncAuthorizedSiblingDevices (P := primitives) responses (Bytes.ofText "account")
    (deviceCertificate "laptop") (deviceCertificate "phone") [] true false "chat").run
      (apart.opened (fun _ => 0) fun _ => [])

theorem synced_ok : synced.1 = .ok ⟨[firstEvent "laptop"], [firstEvent "phone"]⟩ := by
  decide +kernel

theorem sync_unites :
    synced.2.held true "chat" = apart.held true "chat" ∪ apart.held false "chat" := by
  have determined : Determined issuedFirst := by
    rintro _ _ (rfl | rfl) (rfl | rfl) same
    · rfl
    · exact absurd same (by decide)
    · exact absurd same (by decide)
    · rfl
  have positive : ∀ event, issuedFirst event → 0 < event.counter := by
    rintro _ (rfl | rfl) <;> decide
  have permits : (Stores.replication primitives responses issuedFirst).Permits
      (fun _ : Bool => ⟨.empty, 0, []⟩)
      [.append true (firstEvent "laptop") 0 [], .append false (firstEvent "phone") 0 []] :=
    ⟨.inl rfl, .inr rfl, trivial⟩
  have reachable : (Stores.replication primitives responses issuedFirst).Reachable apart :=
    ⟨_, fun _ => rfl, permits.reaches⟩
  have converged := (Stores.replica_convergence determined positive responses
    (Format.roundTrip_listed _) (.listed []) reachable).2 (Bytes.ofText "account")
    (deviceCertificate "laptop") (deviceCertificate "phone") [] true false "chat" (fun _ => 0)
    (fun _ => []) ⟨[firstEvent "laptop"], [firstEvent "phone"]⟩ synced.2
  have run : synced = (.ok ⟨[firstEvent "laptop"], [firstEvent "phone"]⟩, synced.2) := by
    rw [← synced_ok]
  exact (converged run).1

end Symbolic

end CipherMesh
