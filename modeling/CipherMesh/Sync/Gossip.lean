import CipherMesh.Foundation.Gossip
import CipherMesh.Sync.Meaning
import CipherMesh.Sync.Quiet

/-!
# Replicas that hear of each other

Every replica is the store of one device, which issues its events there.  Rounds may fail
at any statement, and single events may be carried from store to store.  A replica that has
heard of all others since the last event of a conversation holds exactly the events that
were issued in it, and shows what they mean.
-/

namespace CipherMesh

open Foundation
open Foundation.Mutation
open Storage

variable {P : Primitives} {Replica : Type}

/-! ## Counters -/

/-- The counter of the device has not come to its end. -/
def Storage.CanIssue (deviceId : String) (storage : Storage) : Prop :=
  (storage.nextCounterOf deviceId).toInt + 1 < 2 ^ 63

instance (deviceId : String) (storage : Storage) : Decidable (storage.CanIssue deviceId) :=
  inferInstanceAs (Decidable (_ < _))

theorem toInt_add_one {counter : Int64} (positive : 0 < counter.toInt)
    (below : counter.toInt + 1 < 2 ^ 63) : (counter + 1).toInt = counter.toInt + 1 := by
  have one : (1 : Int64).toInt = 1 := rfl
  rw [Int64.toInt_add, one, Int.bmod_def]
  omega

theorem toNat_toUInt64 {counter : Int64} (positive : 0 < counter.toInt) :
    (counter.toUInt64.toNat : Int) = counter.toInt := by
  have nonneg : 0 ≤ counter := Int64.le_iff_toInt_le.mpr (Int.le_of_lt positive)
  rw [Int64.toNat_toUInt64_of_le nonneg]
  exact Int.toNat_of_nonneg (Int.le_of_lt positive)

/-- The table of the device counters is the given one. -/
def Storage.HasCounters (counters : Table DeviceCounter.deviceId) (storage : Storage) : Prop :=
  storage.deviceCounters = counters

namespace Database

theorem keepsCounters_appendEvent {counters : Table DeviceCounter.deviceId} (event : EventRecord) :
    Keeps (fun database => database.storage.HasCounters counters) (appendEvent event) := by
  refine .bind (keeps_statement fun storage value after same effected => ?_) fun inserted =>
    .bind (.bind (keeps_query _) fun _ => keeps_execute fun _ => id) fun _ => .pure _
  cases effected
  exact same

theorem keepsCounters_appendEvents {counters : Table DeviceCounter.deviceId}
    (events : List EventRecord) :
    Keeps (fun database => database.storage.HasCounters counters) (appendEvents events) := by
  induction events with
  | nil => exact .pure 0
  | cons event events eventsIH =>
      exact .bind (keepsCounters_appendEvent event) fun inserted =>
        .bind eventsIH fun count => .pure _

/-- The event that a draft becomes. -/
def numbered (draft : EventRecord) (storage : Storage) : EventRecord :=
  { draft with counter := (storage.nextCounterOf draft.deviceId).toUInt64 }

/-- A call that issues an event adds it only with its number used up. -/
structure Issues (draft : EventRecord) (before after : Storage) : Prop where
  sound : after.Sound
  counter : after.nextCounterOf draft.deviceId = before.nextCounterOf draft.deviceId ∨
    after.nextCounterOf draft.deviceId = before.nextCounterOf draft.deviceId + 1
  kept : ∀ event ∈ before.eventHistory, event ∈ after.eventHistory
  origin : ∀ event ∈ after.eventHistory, event ∈ before.eventHistory ∨
    event = numbered draft before ∧
      after.nextCounterOf draft.deviceId = before.nextCounterOf draft.deviceId + 1

theorem nextCounterOf_upsert (deviceId : String) (counter : Int64) (storage : Storage) :
    nextCounterOf deviceId { storage with
      deviceCounters := storage.deviceCounters.upsert ⟨deviceId, counter⟩ } = counter := by
  have found : (storage.deviceCounters.upsert ⟨deviceId, counter⟩).find deviceId =
      some ⟨deviceId, counter⟩ :=
    Table.find_eq_some.mpr ⟨Table.mem_upsert.mpr (.inl rfl), rfl⟩
  simp only [nextCounterOf, found, Option.map_some, Option.getD_some]

theorem nextCounterOf_congr {before after : Storage}
    (same : after.HasCounters before.deviceCounters) (deviceId : String) :
    after.nextCounterOf deviceId = before.nextCounterOf deviceId := by
  rw [nextCounterOf, same, nextCounterOf]

/-- A draft is issued at a position that no event of the store has. -/
theorem issueEvent_ensures {database : Database} {draft : EventRecord}
    (sound : database.storage.Sound)
    (fresh : ∀ event ∈ database.storage.eventHistory,
      event.position ≠ (numbered draft database.storage).position) :
    let issues := fun after : Database => Issues draft database.storage after.storage
    (issueEvent draft).Ensures database (fun _ => issues) (fun _ => issues) := by
  have unchanged : Issues draft database.storage database.storage :=
    ⟨sound, .inl rfl, fun _ => id, fun _ => .inl⟩
  simp only [issueEvent, ensures_bind, nextLocalEventCounter, ensures_transaction, ensures_pure]
  refine ensures_query unchanged ?_
  refine ensures_execute unchanged ?_
  refine ensures_execute unchanged ?_
  let event := numbered draft database.storage
  let issued := fun other => other ∈ database.storage.eventHistory ∨ other = event
  have determined : Determined issued := by
    rintro first second (firstOld | rfl) (secondOld | rfl) same
    · exact Table.eq_of_key_eq firstOld secondOld same
    · exact absurd same (fresh first firstOld)
    · exact absurd same.symm (fresh second secondOld)
    · rfl
  let counted := { database.storage with
    deviceCounters := database.storage.deviceCounters.upsert
      ⟨draft.deviceId, database.storage.nextCounterOf draft.deviceId + 1⟩ }
  have consistent : Consistent issued counted := ⟨fun other => .inl, sound⟩
  have used : counted.nextCounterOf draft.deviceId =
      database.storage.nextCounterOf draft.deviceId + 1 := nextCounterOf_upsert _ _ _
  have issues : ∀ after : Database, (Consistent issued after.storage ∧
      Gains [event] counted after.storage) ∧ after.storage.HasCounters counted.deviceCounters →
        Issues draft database.storage after.storage := by
    rintro after ⟨⟨afterConsistent, gains⟩, counters⟩
    have usedAfter := (nextCounterOf_congr counters draft.deviceId).trans used
    exact {
      sound := afterConsistent.sound
      counter := .inr usedAfter
      kept := gains.kept
      origin := fun other member => (gains.origin other member).imp_right fun added =>
        ⟨List.mem_singleton.mp added, usedAfter⟩ }
  refine Ensures.mono (Ensures.and (appendEvent_ensures determined ?_ (.inr rfl))
    (keepsCounters_appendEvent event _ rfl)) ?_ ?_
  · exact consistent
  · exact fun _ after holds => issues after ⟨holds.1.1, holds.2⟩
  · exact fun _ after holds => issues after holds

end Database

namespace Stores

/-! ## Rounds leave the counters -/

section

variable [DecidableEq Replica]

theorem keeps_onStore {property : Replica → Storage → Prop} {Result : Type} {replica : Replica}
    {method : StorageResult Result}
    (keeps : Keeps (fun database => property replica database.storage) method) :
    Keeps (fun stores : Stores Replica => ∀ other, property other (stores other).storage)
      (onStore replica method) := by
  refine .mapError (.focus (fun _ database => property replica database.storage) ?_ ?_ ?_)
  · exact fun stores holds => holds replica
  · intro stores database holds updated other
    rcases eq_or_ne other replica with rfl | different
    · rwa [Function.update_self]
    · rw [Function.update_of_ne different]
      exact holds other
  · exact fun stores holds => keeps

/-- What appending keeps in every store, a round keeps. -/
theorem keeps_sync (property : Replica → Storage → Prop)
    (keeps : ∀ replica events, Keeps (fun database => property replica database.storage)
      (Database.appendEvents events))
    (format : Format SyncResponse) (accountPublicKey : P.IdentityKey)
    (leftCertificate rightCertificate : DeviceCertificate P)
    (revocations : List (DeviceRevocation P)) (left right : Replica) (conversationId : String) :
    Keeps (fun stores : Stores Replica => ∀ other, property other (stores other).storage)
      (syncAuthorizedSiblingDevices format accountPublicKey leftCertificate rightCertificate
        revocations left right conversationId) := by
  have pulled : ∀ source target, Keeps (fun stores : Stores Replica =>
      ∀ other, property other (stores other).storage) (pull format source target conversationId) :=
    fun source target => .bind (keeps_onStore (Database.keeps_query _)) fun vector =>
      .bind (keeps_onStore (Database.keeps_query _)) fun missing =>
        .bind (.okOr _ _) fun responseBytes => .bind (.okOr _ _) fun decoded =>
          .bind (keeps_onStore (keeps target _)) fun count => .pure _
  exact .bind (.lift _) fun _ => .bind (pulled left right) fun leftToRight =>
    .bind (pulled right left) fun rightToLeft => .pure _

theorem counters_next (format : Format SyncResponse) (stores : Stores Replica)
    (event : ReplicaEvent P Replica) (replica : Replica) :
    (stores.next format event replica).storage.deviceCounters =
      (stores replica).storage.deviceCounters := by
  cases event with
  | append target event now interruptions =>
      rcases eq_or_ne replica target with rfl | different
      · have kept := Database.keepsCounters_appendEvent event
          ((stores replica).opened now interruptions)
          (show HasCounters (stores replica).storage.deviceCounters _ from rfl)
        rw [next, Function.update_self]
        exact kept.reached
      · rw [next, Function.update_of_ne different]
  | sync accountPublicKey leftCertificate rightCertificate revocations left right
      conversationId now interruptions =>
      have kept := keeps_sync
        (fun replica storage => storage.HasCounters (stores replica).storage.deviceCounters)
        (fun replica events => Database.keepsCounters_appendEvents events) format accountPublicKey
        leftCertificate rightCertificate revocations left right conversationId
        (stores.opened now interruptions) fun _ => rfl
      exact kept.reached replica

end

/-! ## Every event comes from its device -/

/-- Some store has the event. -/
def Present (stores : Stores Replica) (event : EventRecord) : Prop :=
  ∃ replica, event ∈ (stores replica).storage.eventHistory

/-- The store of its device has the event, below the number that the device uses next. -/
structure IssuedBy (device : Replica → String) (stores : Stores Replica) (origin : Replica)
    (event : EventRecord) : Prop where
  deviceId : event.deviceId = device origin
  kept : event ∈ (stores origin).storage.eventHistory
  positive : 0 < event.counter
  below : (event.counter.toNat : Int) <
    ((stores origin).storage.nextCounterOf (device origin)).toInt

structure Numbered (device : Replica → String) (stores : Stores Replica) : Prop where
  counter : ∀ replica, 0 < ((stores replica).storage.nextCounterOf (device replica)).toInt
  issued : ∀ event, stores.Present event → ∃ origin, IssuedBy device stores origin event
  sound : ∀ replica, (stores replica).storage.Sound

variable {stores : Stores Replica} {device : Replica → String}

namespace Numbered

theorem determined (numbered : stores.Numbered device) (names : Function.Injective device) :
    Determined stores.Present := by
  intro first second firstPresent secondPresent same
  obtain ⟨origin, firstIssued⟩ := numbered.issued first firstPresent
  obtain ⟨otherOrigin, secondIssued⟩ := numbered.issued second secondPresent
  have sameDevice : first.deviceId = second.deviceId := congrArg Prod.fst same
  rw [firstIssued.deviceId, secondIssued.deviceId] at sameDevice
  obtain rfl := names sameDevice
  exact Table.eq_of_key_eq firstIssued.kept secondIssued.kept same

theorem positive (numbered : stores.Numbered device) :
    ∀ event, stores.Present event → 0 < event.counter := by
  intro event present
  obtain ⟨origin, issued⟩ := numbered.issued event present
  exact issued.positive

theorem consistent (numbered : stores.Numbered device) (replica : Replica) :
    Consistent stores.Present (stores replica).storage :=
  ⟨fun _ member => ⟨replica, member⟩, numbered.sound replica⟩

/-- A step that makes progress and leaves the counters keeps the events with their devices. -/
theorem of_progress (numbered : stores.Numbered device) {after : Stores Replica}
    (progress : Progress stores.Present stores after)
    (counters : ∀ replica, (after replica).storage.deviceCounters =
      (stores replica).storage.deviceCounters) : after.Numbered device := by
  have sameNext : ∀ replica, (after replica).storage.nextCounterOf (device replica) =
      (stores replica).storage.nextCounterOf (device replica) :=
    fun replica => Database.nextCounterOf_congr (counters replica) _
  constructor
  · intro replica
    rw [sameNext]
    exact numbered.counter replica
  · rintro event ⟨replica, member⟩
    obtain ⟨origin, issued⟩ :=
      numbered.issued event ((progress.consistent replica).issued event member)
    refine ⟨origin, issued.deviceId, progress.kept origin event issued.kept, issued.positive, ?_⟩
    rw [sameNext]
    exact issued.below
  · exact fun replica => (progress.consistent replica).sound

theorem fresh (numbered : stores.Numbered device) (names : Function.Injective device)
    {origin replica : Replica} {draft : EventRecord} (named : draft.deviceId = device origin)
    {event : EventRecord} (member : event ∈ (stores replica).storage.eventHistory) :
    event.position ≠ (Database.numbered draft (stores origin).storage).position := by
  intro same
  obtain ⟨sameDevice, sameCounter⟩ := Prod.mk.inj same
  obtain ⟨other, issued⟩ := numbered.issued event ⟨replica, member⟩
  have sameOrigin : device other = device origin :=
    issued.deviceId.symm.trans (sameDevice.trans named)
  obtain rfl := names sameOrigin
  have below := issued.below
  have value := toNat_toUInt64 (numbered.counter other)
  rw [show event.counter = _ from sameCounter] at below
  simp only [Database.numbered, named] at below
  omega

theorem issued_by_mono {after : Stores Replica} {origin : Replica} {event : EventRecord}
    (issued : IssuedBy device stores origin event)
    (kept : ∀ event ∈ (stores origin).storage.eventHistory,
      event ∈ (after origin).storage.eventHistory)
    (counter : ((stores origin).storage.nextCounterOf (device origin)).toInt ≤
      ((after origin).storage.nextCounterOf (device origin)).toInt) :
    IssuedBy device after origin event :=
  ⟨issued.deviceId, kept event issued.kept, issued.positive, issued.below.trans_le counter⟩

/-- Issuing an event keeps the events with their devices. -/
theorem of_issues [DecidableEq Replica] (numbered : stores.Numbered device) {replica : Replica}
    {draft : EventRecord} (named : draft.deviceId = device replica)
    (canIssue : (stores replica).storage.CanIssue draft.deviceId) {database : Database}
    (issues : Database.Issues draft (stores replica).storage database.storage) :
    Numbered device (Function.update stores replica database) := by
  have start := numbered.counter replica
  have usedUp := toInt_add_one start (named ▸ canIssue)
  have counter := issues.counter
  rw [named] at counter
  have grows : ∀ origin, ((stores origin).storage.nextCounterOf (device origin)).toInt ≤
      ((Function.update stores replica database origin).storage.nextCounterOf
        (device origin)).toInt := by
    intro origin
    rcases eq_or_ne origin replica with rfl | different
    · rw [Function.update_self]
      rcases counter with same | used
      · rw [same]
      · rw [used, usedUp]
        exact Int.le_of_lt (Int.lt_succ _)
    · rw [Function.update_of_ne different]
  have kept : ∀ origin, ∀ event ∈ (stores origin).storage.eventHistory,
      event ∈ (Function.update stores replica database origin).storage.eventHistory := by
    intro origin event member
    rcases eq_or_ne origin replica with rfl | different
    · rw [Function.update_self]
      exact issues.kept event member
    · rwa [Function.update_of_ne different]
  constructor
  · exact fun origin => (numbered.counter origin).trans_le (grows origin)
  · rintro event ⟨holder, member⟩
    have here : stores.Present event ∨ event = Database.numbered draft (stores replica).storage ∧
        event ∈ database.storage.eventHistory ∧ (database.storage.nextCounterOf draft.deviceId) =
          (stores replica).storage.nextCounterOf draft.deviceId + 1 := by
      rcases eq_or_ne holder replica with rfl | different
      · rw [Function.update_self] at member
        rcases issues.origin event member with old | ⟨new, used⟩
        · exact .inl ⟨holder, old⟩
        · exact .inr ⟨new, member, used⟩
      · rw [Function.update_of_ne different] at member
        exact .inl ⟨holder, member⟩
    rcases here with present | ⟨rfl, added, used⟩
    · obtain ⟨origin, issued⟩ := numbered.issued event present
      exact ⟨origin, issued_by_mono issued (kept origin) (grows origin)⟩
    · refine ⟨replica, named, ?_, ?_, ?_⟩
      · rwa [Function.update_self]
      · rw [UInt64.lt_iff_toNat_lt, Database.numbered, named]
        exact Int.ofNat_lt.mp (start.trans_eq (toNat_toUInt64 start).symm)
      · rw [Function.update_self, ← named, used, named, usedUp, Database.numbered, named,
          toNat_toUInt64 start]
        exact Int.lt_succ _
  · intro origin
    rcases eq_or_ne origin replica with rfl | different
    · rw [Function.update_self]
      exact issues.sound
    · rw [Function.update_of_ne different]
      exact numbered.sound origin

end Numbered

/-- What the devices have issued in the conversation, each in its own store. -/
def issued (device : Replica → String) (stores : Stores Replica) (conversationId : String) :
    Set EventRecord :=
  {event | event.conversationId = conversationId ∧ ∃ origin, event.deviceId = device origin ∧
    event ∈ (stores origin).storage.eventHistory}

/-- What a replica returns to somebody who has nothing yet. -/
def shown (stores : Stores Replica) (replica : Replica) (conversationId : String) :
    List EventRecord :=
  (stores replica).storage.missingEvents conversationId ∅

theorem numbered_of_initial (initial : ∀ replica, (stores replica).storage = .empty) :
    stores.Numbered device where
  counter replica := by
    rw [initial replica]
    exact (by decide : 0 < (1 : Int64).toInt)
  issued := by
    rintro event ⟨replica, member⟩
    rw [initial replica] at member
    exact absurd member Table.notMem_empty
  sound replica := by
    rw [initial replica]
    exact fun _ member => absurd member Table.notMem_empty

theorem issue_issues (numbered : stores.Numbered device) (names : Function.Injective device)
    {replica : Replica} {draft : EventRecord} (named : draft.deviceId = device replica)
    (now : UInt64) (interruptions : List Bool) :
    Database.Issues draft (stores replica).storage
      ((Database.issueEvent draft).run ((stores replica).opened now interruptions)).2.storage := by
  have sound : ((stores replica).opened now interruptions).storage.Sound := numbered.sound replica
  exact (Database.issueEvent_ensures sound
    fun _ member => numbered.fresh names named member).reached

/-- What a store holds was issued. -/
theorem held_subset_issued (numbered : stores.Numbered device) (replica : Replica)
    (conversationId : String) :
    stores.held replica conversationId ⊆ stores.issued device conversationId := by
  rintro event ⟨member, here⟩
  obtain ⟨origin, issued⟩ := numbered.issued event ⟨replica, member⟩
  exact ⟨here, origin, issued.deviceId, issued.kept⟩

/-- What is shown to somebody new is all that the store holds. -/
theorem mem_shown (numbered : stores.Numbered device) {replica : Replica}
    {conversationId : String} {record : EventRecord} :
    record ∈ stores.shown replica conversationId ↔ record ∈ stores.held replica conversationId := by
  rw [shown, mem_missingEvents]
  refine and_iff_left_of_imp fun here => ?_
  exact numbered.positive record ⟨replica, here.1⟩

/-! ## Runs -/

variable [DecidableEq Replica]

/-- The runs of replicas that issue events as their own device.  An event that is appended
elsewhere was read from some store, and every call may fail. -/
def gossip (P : Primitives) (device : Replica → String) (format : Format SyncResponse) :
    System (Stores Replica) (FillingEvent P Replica) where
  initial stores := ∀ replica, (stores replica).storage = .empty
  permitted stores
    | .issue replica draft _ _ =>
        draft.deviceId = device replica ∧ (stores replica).storage.CanIssue draft.deviceId
    | .exchange (.append _ event _ _) => stores.Present event
    | .exchange (.sync ..) => True
  next := (filling P format).next

/-- The replicas of a round about the conversation that succeeds. -/
def met (format : Format SyncResponse) (conversationId : String) (stores : Stores Replica) :
    FillingEvent P Replica → Option (Replica × Replica)
  | .exchange (.sync accountPublicKey leftCertificate rightCertificate revocations left right
      about now interruptions) =>
      match ((syncAuthorizedSiblingDevices format accountPublicKey leftCertificate
        rightCertificate revocations left right about).run (stores.opened now interruptions)).1 with
      | .ok _ => if about = conversationId then some (left, right) else none
      | .error _ => none
  | _ => none

/-- The event issues something in the conversation. -/
def issuesIn (conversationId : String) : FillingEvent P Replica → Bool
  | .issue _ draft _ _ => draft.conversationId = conversationId
  | .exchange _ => false

section

variable {format : Format SyncResponse} {conversationId : String}
  {event : FillingEvent P Replica}

/-- A round or a carried event makes progress. -/
theorem exchange_progress (numbered : stores.Numbered device) (names : Function.Injective device)
    (roundTrip : format.RoundTrip) {event : ReplicaEvent P Replica}
    (permitted : (gossip P device format).permitted stores (.exchange event)) :
    Progress stores.Present stores (stores.next format event) := by
  refine next_progress (P := P) (numbered.determined names) numbered.positive roundTrip
    numbered.consistent ?_
  cases event with
  | append replica event now interruptions => exact permitted
  | sync => trivial

theorem numbered_next (numbered : stores.Numbered device) (names : Function.Injective device)
    (roundTrip : format.RoundTrip) (permitted : (gossip P device format).permitted stores event) :
    ((gossip P device format).next stores event).Numbered device := by
  cases event with
  | issue replica draft now interruptions =>
      exact numbered.of_issues permitted.1 permitted.2
        (issue_issues numbered names permitted.1 now interruptions)
  | exchange event =>
      exact numbered.of_progress (exchange_progress numbered names roundTrip permitted)
        (counters_next format stores event)

theorem kept_next (numbered : stores.Numbered device) (names : Function.Injective device)
    (roundTrip : format.RoundTrip) (permitted : (gossip P device format).permitted stores event)
    (replica : Replica) : ∀ record ∈ (stores replica).storage.eventHistory,
      record ∈ ((gossip P device format).next stores event replica).storage.eventHistory := by
  intro record member
  cases event with
  | issue target draft now interruptions =>
      rcases eq_or_ne replica target with rfl | different
      · simp only [gossip, filling, Function.update_self]
        exact (issue_issues numbered names permitted.1 now interruptions).kept record member
      · simpa only [gossip, filling, Function.update_of_ne different]
  | exchange event =>
      exact (exchange_progress numbered names roundTrip permitted).kept replica record member

theorem met_shares (numbered : stores.Numbered device) (names : Function.Injective device)
    (roundTrip : format.RoundTrip) {left right : Replica}
    (contact : met format conversationId stores event = some (left, right)) :
    let union := stores.held left conversationId ∪ stores.held right conversationId
    let after := (gossip P device format).next stores event
    after.held left conversationId = union ∧ after.held right conversationId = union := by
  unfold met at contact
  split at contact
  · next accountPublicKey leftCertificate rightCertificate revocations first second about now
      interruptions =>
      split at contact
      · next trip returned =>
          obtain ⟨rfl, same⟩ := Option.ite_none_right_eq_some.mp contact
          obtain ⟨rfl, rfl⟩ := Prod.mk.inj (Option.some.inj same)
          have consistent : ∀ replica, Consistent stores.Present
              (stores.opened now interruptions replica).storage := numbered.consistent
          exact ((sync_ensures (numbered.determined names) numbered.positive roundTrip consistent
            accountPublicKey leftCertificate rightCertificate revocations first second
            about).of_ok (Prod.ext returned rfl)).2
      · cases contact
  · cases contact

/-- Rounds about a conversation spread its events. -/
theorem gossips (names : Function.Injective device) (roundTrip : format.RoundTrip)
    (conversationId : String) :
    (gossip P device format).Gossips (Numbered device)
      (fun stores replica => stores.held replica conversationId)
      (met format conversationId) where
  preserved numbered permitted := numbered_next numbered names roundTrip permitted
  kept numbered permitted replica _ here :=
    ⟨kept_next numbered names roundTrip permitted replica _ here.1, here.2⟩
  shared numbered _ contact := by
    obtain ⟨left, right⟩ := met_shares (P := P) numbered names roundTrip contact
    exact ⟨left.ge, right.ge⟩

theorem numbered_of_reachable (names : Function.Injective device) (roundTrip : format.RoundTrip)
    (reachable : (gossip P device format).Reachable stores) : stores.Numbered device :=
  reachable.invariant (Numbered device) (fun _ => numbered_of_initial)
    fun _ _ numbered permitted => numbered_next numbered names roundTrip permitted

/-- Only issuing in a conversation adds to what was issued in it. -/
theorem issued_next (numbered : stores.Numbered device) (names : Function.Injective device)
    (roundTrip : format.RoundTrip) (permitted : (gossip P device format).permitted stores event)
    (quiet : issuesIn conversationId event = false) :
    ((gossip P device format).next stores event).issued device conversationId ⊆
      stores.issued device conversationId := by
  have after := numbered_next numbered names roundTrip permitted
  rintro record ⟨here, origin, named, member⟩
  suffices present : stores.Present record by
    obtain ⟨replica, member⟩ := present
    exact held_subset_issued numbered replica conversationId ⟨member, here⟩
  cases event with
  | issue target draft now interruptions =>
      rcases eq_or_ne origin target with rfl | different
      · simp only [gossip, filling, Function.update_self] at member
        rcases (issue_issues numbered names permitted.1 now interruptions).origin record member with
          old | ⟨rfl, -⟩
        · exact ⟨origin, old⟩
        · exact absurd here (of_decide_eq_false quiet)
      · simp only [gossip, filling, Function.update_of_ne different] at member
        exact ⟨origin, member⟩
  | exchange event =>
      exact ((exchange_progress numbered names roundTrip permitted).consistent origin).issued
        record member

theorem issued_run (names : Function.Injective device) (roundTrip : format.RoundTrip)
    {schedule : List (FillingEvent P Replica)}
    (quiet : ∀ event ∈ schedule, issuesIn conversationId event = false) :
    ∀ {stores : Stores Replica}, stores.Numbered device →
      (gossip P device format).Permits stores schedule →
        ((gossip P device format).run stores schedule).issued device conversationId ⊆
          stores.issued device conversationId := by
  induction schedule with
  | nil => exact fun _ _ => Set.Subset.rfl
  | cons event schedule scheduleIH =>
      intro stores numbered permits
      have later := scheduleIH (fun other member => quiet other (List.mem_cons_of_mem _ member))
        (numbered_next numbered names roundTrip permits.1) permits.2
      exact Set.Subset.trans later
        (issued_next numbered names roundTrip permits.1 (quiet event List.mem_cons_self))

end

/-- A replica that has heard of every other one, through any chain of rounds, shows all that
was issued before and nothing that was not issued.  While nothing is issued in the
conversation, all such replicas show exactly the same events. -/
theorem informed_replica_shows_issued (names : Function.Injective device)
    (format : Format SyncResponse) (roundTrip : format.RoundTrip)
    (reachable : (gossip P device format).Reachable stores)
    {schedule : List (FillingEvent P Replica)}
    (permits : (gossip P device format).Permits stores schedule) (conversationId : String)
    (replica : Replica)
    (heard : HeardAll
      ((gossip P device format).contacts (met format conversationId) stores schedule) replica) :
    let after := (gossip P device format).run stores schedule
    (∀ record ∈ stores.issued device conversationId,
        record ∈ after.shown replica conversationId) ∧
      (∀ record ∈ after.shown replica conversationId,
        record ∈ after.issued device conversationId) ∧
      ((∀ event ∈ schedule, issuesIn conversationId event = false) →
        (∀ record, record ∈ after.shown replica conversationId ↔
          record ∈ stores.issued device conversationId) ∧
        ∀ other, HeardAll ((gossip P device format).contacts
            (met format conversationId) stores schedule) other →
          after.shown other conversationId = after.shown replica conversationId) := by
  have numbered := numbered_of_reachable names roundTrip reachable
  obtain ⟨start, initial, reaches⟩ := reachable
  have afterNumbered := numbered_of_reachable names roundTrip
    ⟨start, initial, reaches.trans permits.reaches⟩
  have all : ∀ other, HeardAll
      ((gossip P device format).contacts (met format conversationId) stores schedule) other →
      stores.issued device conversationId ⊆
        ((gossip P device format).run stores schedule).held other conversationId := by
    rintro other informs record ⟨here, origin, -, member⟩
    exact (gossips names roundTrip conversationId).informed_holds numbered permits
      (informs.heard origin) ⟨member, here⟩
  refine ⟨fun record issued => (mem_shown afterNumbered).mpr (all replica heard issued),
    fun record shown => held_subset_issued afterNumbered _ _ ((mem_shown afterNumbered).mp shown),
    fun quiet => ?_⟩
  have exact_ : ∀ other, HeardAll
      ((gossip P device format).contacts (met format conversationId) stores schedule) other →
      ∀ record, record ∈ ((gossip P device format).run stores schedule).held other conversationId ↔
        record ∈ stores.issued device conversationId := fun other informs record =>
    ⟨fun held => issued_run names roundTrip quiet numbered permits
      (held_subset_issued afterNumbered _ _ held), fun issued => all other informs issued⟩
  refine ⟨fun record => (mem_shown afterNumbered).trans (exact_ replica heard record), ?_⟩
  intro other informs
  apply missingEvents_congr
  intro record here
  have same := (exact_ other informs record).trans (exact_ replica heard record).symm
  simpa [held, here] using same

end Stores

/-! ## Three devices -/

namespace Symbolic

open Stores

inductive Sibling where
  | laptop
  | phone
  | tablet
  deriving DecidableEq

instance : Fintype Sibling where
  elems := {.laptop, .phone, .tablet}
  complete sibling := by cases sibling <;> decide

def deviceNames : Sibling → String
  | .laptop => "laptop"
  | .phone => "phone"
  | .tablet => "tablet"

def deviceEvent (replica : Sibling) : EventRecord :=
  { numberedEvent "conversation" 1 with deviceId := deviceNames replica }

def chainResponses : Format SyncResponse :=
  .listed [⟨[]⟩, ⟨[.fromRecord (deviceEvent .laptop)]⟩, ⟨[.fromRecord (deviceEvent .tablet)]⟩]

def round (left right : Sibling) (interruptions : List Bool) : FillingEvent primitives (Sibling) :=
  .exchange (.sync (Bytes.ofText "account") (deviceCertificate (deviceNames left))
    (deviceCertificate (deviceNames right)) [] left right "conversation" (fun _ => 0)
    fun _ => interruptions)

/-- The laptop and the tablet issue an event each. -/
def issuedStores : Stores (Sibling) :=
  (gossip primitives deviceNames chainResponses).run (fun _ => emptyStore)
    [.issue .laptop (deviceEvent .laptop) 0 [], .issue .tablet (deviceEvent .tablet) 0 []]

/-- The laptop fails to reach the tablet but meets the phone, which meets the tablet. -/
def chainOfRounds : List (FillingEvent primitives (Sibling)) :=
  [round .laptop .tablet [true], round .laptop .phone [], round .phone .tablet []]

theorem issuedStores_reachable :
    (gossip primitives deviceNames chainResponses).Reachable issuedStores := by
  have permits : (gossip primitives deviceNames chainResponses).Permits (fun _ => emptyStore)
      [.issue .laptop (deviceEvent .laptop) 0 [], .issue .tablet (deviceEvent .tablet) 0 []] :=
    ⟨⟨rfl, by decide +kernel⟩, ⟨rfl, by decide +kernel⟩, trivial⟩
  exact ⟨fun _ => emptyStore, fun _ => rfl, permits.reaches⟩

theorem chainOfRounds_permits :
    (gossip primitives deviceNames chainResponses).Permits issuedStores chainOfRounds :=
  ⟨trivial, trivial, trivial, trivial⟩

theorem chainOfRounds_contacts : (gossip primitives deviceNames chainResponses).contacts
    (met chainResponses "conversation") issuedStores chainOfRounds =
      [(.laptop, .phone), (.phone, .tablet)] := by
  decide +kernel

theorem chainOfRounds_heard (replica : Sibling) (different : replica ≠ .laptop) :
    HeardAll ((gossip primitives deviceNames chainResponses).contacts
      (met chainResponses "conversation") issuedStores chainOfRounds) replica := by
  rw [chainOfRounds_contacts]
  revert replica
  decide

theorem deviceNames_injective : Function.Injective deviceNames := by
  have different : ∀ first second, deviceNames first = deviceNames second → first = second := by
    decide +kernel
  exact fun first second => different first second

theorem deviceEvent_issued : ∀ replica ≠ .phone,
    deviceEvent replica ∈ issuedStores.issued deviceNames "conversation" := by
  have kept : ∀ replica ≠ .phone,
      deviceEvent replica ∈ (issuedStores replica).storage.eventHistory.rows := by
    decide +kernel
  exact fun replica different => ⟨rfl, replica, rfl, kept replica different⟩

/-- The phone and the tablet have heard of all and show both events. -/
theorem chain_informed :
    let after := (gossip primitives deviceNames chainResponses).run issuedStores chainOfRounds
    deviceEvent .laptop ∈ after.shown .tablet "conversation" ∧
      deviceEvent .tablet ∈ after.shown .tablet "conversation" ∧
      after.shown .phone "conversation" = after.shown .tablet "conversation" := by
  have quiet : ∀ event ∈ chainOfRounds, issuesIn "conversation" event = false := by
    intro event member
    simp only [chainOfRounds, round, List.mem_cons, List.not_mem_nil, or_false] at member
    rcases member with rfl | rfl | rfl <;> rfl
  have shows := informed_replica_shows_issued deviceNames_injective chainResponses
    (Format.roundTrip_listed _) issuedStores_reachable chainOfRounds_permits
    "conversation" .tablet (chainOfRounds_heard .tablet (by decide))
  exact ⟨shows.1 _ (deviceEvent_issued .laptop (by decide)),
    shows.1 _ (deviceEvent_issued .tablet (by decide)),
    (shows.2.2 quiet).2 .phone (chainOfRounds_heard .phone (by decide))⟩

end Symbolic

end CipherMesh
