import CipherMesh.Chat.Delivery
import CipherMesh.Mailbox.WriteAhead

/-!
# Runs of the durable outbox

The process queues messages, retries them, and starts again from the tables, in any order
and with any statement failing.  A message is delivered as it was queued, and no number of
Alice is used twice, as the tables are never behind a message that was queued.
-/

namespace CipherMesh

open Foundation
open Foundation.Mutation

variable {P : Primitives}

inductive OutboxEvent where
  | queue (plaintext : String)
  | retryPending
  | retryDelivered (messageId : String)
  | restart

/-- The process, and what was queued so far. -/
structure OutboxRun (P : Primitives) where
  process : OutboxProcess P
  queued : List QueuedMessage

namespace OutboxProcess

/-- The process when a call begins. -/
def opened (process : OutboxProcess P) (moment : Moment) : OutboxProcess P :=
  { process with
    receiver := { process.receiver with
      database := process.receiver.database.opened moment.now moment.interruptions } }

end OutboxProcess

namespace Storage

/-- What was received is what was queued. -/
structure FilesQueued (queued : List QueuedMessage) (storage : Storage) : Prop where
  received : ∀ row ∈ storage.messages, row.direction = .received → ∃ entry ∈ queued,
    row.messageId = "bob-" ++ entry.item.messageId ∧ row.ciphertext = entry.item.payload ∧
      row.plaintext = some entry.plaintext

/-- Every item was acknowledged with an id that is recorded. -/
structure Delivered (storage : Storage) : Prop where
  delivered : ∀ row ∈ storage.outbox, row.status = .delivered
  accepted : ∀ row ∈ storage.outbox, storage.acceptedMessages.Contains row.messageId

end Storage

namespace OutboxRun

/-- A message counts as queued when the call that stores it returns. -/
def next (wire : ReceiverWire P) (conversationId : String) (run : OutboxRun P) :
    OutboxEvent × Moment → OutboxRun P
  | (.queue plaintext, moment) =>
      match (OutboxProcess.queueForBob wire conversationId plaintext).run
        (run.process.opened moment) with
      | (.ok item, process) => { process, queued := run.queued ++ [⟨item, plaintext⟩] }
      | (.error _, process) => { run with process }
  | (.retryPending, moment) =>
      { run with
        process := ((OutboxProcess.retryPending wire conversationId).run
          (run.process.opened moment)).2 }
  | (.retryDelivered messageId, moment) =>
      { run with
        process := ((OutboxProcess.retryDelivered wire conversationId messageId).run
          (run.process.opened moment)).2 }
  | (.restart, moment) =>
      { run with
        process := ((OutboxProcess.restart wire).run (run.process.opened moment)).2 }

/-- The runs after an exchange of keys whose states were saved to an empty database. -/
def system (wire : ReceiverWire P) (conversationId : String) :
    System (OutboxRun P) (OutboxEvent × Moment) where
  initial run := run.queued = [] ∧ ∃ start : OutboxProcess P, start.storage = .empty ∧
    (OutboxProcess.setUp wire).run start = (.ok (), run.process)
  permitted _ _ := True
  next := next wire conversationId

end OutboxRun

variable {wire : ReceiverWire P} {conversationId : String}

/-! ## The start -/

theorem Alice.deriveSessionKey_ensures (wire : ReceiverWire P) (alice : Alice P)
    (exchange : SignedKeyExchange P) :
    (deriveSessionKey exchange).Ensures alice
      (fun _ reached => ∃ rootKey, reached.Ahead wire (.initial rootKey) [])
      (fun _ _ => True) := by
  refine Ensures.run.mono ?_ fun _ _ _ => trivial
  intro _ reached success
  have present := Alice.run_deriveSessionKey success
  exact ⟨_, _, present, rfl, .fresh _ _ _ _, fun _ absent => absurd absent List.not_mem_nil⟩

/-- The tables of an empty database to which the states of both ends were saved. -/
theorem Storage.HoldsQueued.start {epoch : Epoch P} {aliceState bobState : Bytes}
    {state : AliceState P} {aliceTime bobTime : UInt64}
    (decoded : wire.aliceState.deserialize aliceState = some state)
    (ahead : (Alice.fromState state).Ahead wire epoch []) :
    ((Storage.empty.withLocalIdentity ⟨"alice", "alice", aliceState, aliceTime⟩).withLocalIdentity
      ⟨"bob", "bob", bobState, bobTime⟩).HoldsQueued wire epoch [] where
  sender := ⟨⟨"alice", "alice", aliceState, aliceTime⟩, rfl, state, decoded, ahead⟩
  outbox _ member := absurd member Table.notMem_empty
  received _ member := absurd member Table.notMem_empty
  delivered _ member := absurd member Table.notMem_empty

namespace OutboxProcess

theorem setUp_ensures (roundTrips : RoundTrips wire) {start : OutboxProcess P}
    (empty : start.storage = .empty) :
    (setUp wire).Ensures start
      (fun _ after => ∃ rootKey, after.Sound wire (.initial rootKey) [])
      (fun _ _ => True) := by
  simp only [setUp, ensures_bind, ensures_get, ensures_onAlice, ensures_onReceiver,
    ensures_onStorage, Receiver.ensures_onBob]
  refine (Alice.deriveSessionKey_ensures wire _ _).mono ?_ fun _ _ _ => trivial
  rintro _ alice ⟨rootKey, ahead⟩
  refine Ensures.trivial.mono ?_ fun _ _ _ => trivial
  intro _ bob _
  refine ensures_okOr.mpr ⟨fun aliceState saved => ?_, fun _ => trivial⟩
  rw [Database.saveLocalIdentity, ensures_bind, Database.ensures_nowUnixSecs]
  refine Database.ensures_execute trivial ?_
  refine ensures_okOr.mpr ⟨fun bobState _ => ?_, fun _ => trivial⟩
  rw [Database.saveLocalIdentity, ensures_bind, Database.ensures_nowUnixSecs]
  refine Database.ensures_execute trivial ⟨rootKey, ⟨?_, .nil⟩, ahead, ?_⟩
  · exact fun _ absent => absurd absent List.not_mem_nil
  · have tables : Storage.HoldsQueued wire (.initial rootKey) []
        ((start.storage.withLocalIdentity ⟨"alice", "alice", aliceState,
          start.receiver.database.now⟩).withLocalIdentity ⟨"bob", "bob", bobState,
            start.receiver.database.now⟩) := by
      rw [empty]
      refine .start (roundTrips.aliceState saved) ?_
      rwa [Alice.fromState_exportState]
    exact tables

end OutboxProcess

/-! ## Every run -/

namespace OutboxRun

variable {run : OutboxRun P}

theorem next_sound (ideal : P.AeadIdeal) (roundTrips : OutboxProcess.RoundTrips wire)
    {epoch : Epoch P} (sound : run.process.Sound wire epoch run.queued)
    (event : OutboxEvent × Moment) :
    (run.next wire conversationId event).process.Sound wire epoch
      (run.next wire conversationId event).queued := by
  obtain ⟨event, moment⟩ := event
  have opened : (run.process.opened moment).Sound wire epoch run.queued := sound.congr rfl rfl
  cases event with
  | queue plaintext =>
      have ensured := OutboxProcess.queueForBob_ensures roundTrips opened conversationId plaintext
      simp only [next]
      split
      · next success => exact ensured.of_ok success
      · next failure => exact ensured.of_error failure
  | retryPending =>
      have ensured := OutboxProcess.retryPending_ensures ideal opened conversationId
      exact (ensured.mono (fun _ _ => And.left) fun _ _ sound => sound).reached
  | retryDelivered messageId =>
      exact (OutboxProcess.retryDelivered_ensures ideal opened conversationId messageId).reached
  | restart => exact (OutboxProcess.restart_ensures opened).reached

theorem sound_of_reachable (ideal : P.AeadIdeal) (roundTrips : OutboxProcess.RoundTrips wire)
    (reachable : (system wire conversationId).Reachable run) :
    ∃ epoch, run.process.Sound wire epoch run.queued := by
  refine reachable.invariant (fun run => ∃ epoch, run.process.Sound wire epoch run.queued) ?_ ?_
  · rintro start ⟨fresh, origin, empty, success⟩
    obtain ⟨rootKey, sound⟩ := (OutboxProcess.setUp_ensures roundTrips empty).of_ok success
    exact ⟨.initial rootKey, fresh ▸ sound⟩
  · rintro state event ⟨epoch, sound⟩ -
    exact ⟨epoch, next_sound ideal roundTrips sound event⟩

/-- Whatever fails and however often the process starts again, the stored Alice is past the
numbers of all that was queued, and no two queued messages have one number. -/
theorem written_ahead (ideal : P.AeadIdeal) (roundTrips : OutboxProcess.RoundTrips wire)
    (reachable : (system wire conversationId).Reachable run) :
    ∃ epoch, Numbers wire epoch run.queued ∧
      (∀ row ∈ run.process.storage.outbox, OutboxProcess.IsQueued run.queued row) ∧
      ∃ row, run.process.storage.localIdentity.find "alice" = some row ∧
        ∃ state, wire.aliceState.deserialize row.state = some state ∧
          (Alice.fromState state).Ahead wire epoch run.queued := by
  obtain ⟨epoch, sound⟩ := sound_of_reachable ideal roundTrips reachable
  exact ⟨epoch, sound.numbers, sound.tables.outbox, sound.tables.sender⟩

/-- Bob files only what was queued, and a retry pass that gets to its end has delivered every
item, each with an id that Bob recorded. -/
theorem delivered_as_queued (ideal : P.AeadIdeal) (roundTrips : OutboxProcess.RoundTrips wire)
    (reachable : (system wire conversationId).Reachable run) (moment : Moment) :
    run.process.storage.FilesQueued run.queued ∧
      ∀ after, (OutboxProcess.retryPending wire conversationId).run
          (run.process.opened moment) = (.ok (), after) →
        after.storage.Delivered ∧ after.storage.FilesQueued run.queued := by
  obtain ⟨epoch, sound⟩ := sound_of_reachable ideal roundTrips reachable
  refine ⟨⟨sound.tables.received⟩, fun after success => ?_⟩
  have opened : (run.process.opened moment).Sound wire epoch run.queued := sound.congr rfl rfl
  obtain ⟨afterSound, nonePending⟩ :=
    (OutboxProcess.retryPending_ensures ideal opened conversationId).of_ok success
  have delivered : ∀ row ∈ after.storage.outbox, row.status = .delivered := by
    intro row member
    cases status : row.status with
    | pending => exact absurd (nonePending row member status) List.not_mem_nil
    | delivered => rfl
  exact ⟨⟨delivered, fun row member => afterSound.tables.delivered row member
    (delivered row member)⟩, ⟨afterSound.tables.received⟩⟩

end OutboxRun

/-! ## A message that is queued, and delivered after a restart -/

namespace Symbolic

/-- Alice with the session of the exchange, after she encrypted so many greetings. -/
def aliceAfter (count : Nat) : Alice primitives :=
  { alice with session := some (Nat.iterate RatchetSession.sent count (sessions .alice)) }

/-- Bob with the session of the exchange, and after he opened the greeting. -/
def bobStates : List (Bob primitives) :=
  let ready : Bob primitives := { bob with session := some (sessions .bob) }
  [ready, ((Bob.decryptFromAlice greeting).run ready).2]

/-- The id of the first message that is queued. -/
def queuedId : String := "msg-" ++ messageIdFor primitives 0 []

def outboxWire : ReceiverWire primitives where
  toWire := { wireOf [greeting] with
    aliceState := .listed ([aliceAfter 0, aliceAfter 1].map Alice.exportState)
    bobState := .listed (bobStates.map Bob.exportState) }
  appEnvelope := .listed [⟨queuedId, greeting⟩]
  sessionState := stateless

def outboxStart : OutboxProcess primitives := ⟨alice, ⟨bob, ⟨.empty, 0, []⟩, []⟩⟩

def outboxRun : OutboxRun primitives :=
  ⟨((OutboxProcess.setUp outboxWire).run outboxStart).2, []⟩

def queueAndRestart : List (OutboxEvent × Moment) :=
  [(.queue "hello", undisturbed), (.restart, undisturbed)]

theorem outboxWire_roundTrips : OutboxProcess.RoundTrips outboxWire where
  appEnvelope := Format.roundTrip_listed _
  aliceState := Format.roundTrip_listed _

theorem outboxWire_ready : ((OutboxProcess.setUp outboxWire).run outboxStart).1 = .ok () := by
  decide +kernel

/-- The message is queued and the process starts again. -/
def queuedRun : OutboxRun primitives :=
  (OutboxRun.system outboxWire "chat").run outboxRun queueAndRestart

theorem queuedRun_reachable : (OutboxRun.system outboxWire "chat").Reachable queuedRun := by
  have starts : (OutboxRun.system outboxWire "chat").initial outboxRun :=
    ⟨rfl, outboxStart, rfl, Prod.ext outboxWire_ready rfl⟩
  have permits : (OutboxRun.system outboxWire "chat").Permits outboxRun queueAndRestart :=
    ⟨trivial, trivial, trivial⟩
  exact ⟨outboxRun, starts, permits.reaches⟩

theorem queuedRun_written_ahead :
    queuedRun.queued.length = 1 ∧ ∃ epoch, Numbers outboxWire epoch queuedRun.queued ∧
      (∀ row ∈ queuedRun.process.storage.outbox,
        OutboxProcess.IsQueued queuedRun.queued row) ∧
      ∃ row, queuedRun.process.storage.localIdentity.find "alice" = some row ∧
        ∃ state, outboxWire.aliceState.deserialize row.state = some state ∧
          (Alice.fromState state).Ahead outboxWire epoch queuedRun.queued :=
  ⟨by decide +kernel,
    OutboxRun.written_ahead aeadIdeal outboxWire_roundTrips queuedRun_reachable⟩

/-- The pass after the start. -/
def retriedRun : Except AppError Unit × OutboxProcess primitives :=
  (OutboxProcess.retryPending outboxWire "chat").run (queuedRun.process.opened undisturbed)

theorem retriedRun_delivered :
    retriedRun.1 = .ok () ∧ retriedRun.2.storage.Delivered ∧
      retriedRun.2.storage.FilesQueued queuedRun.queued := by
  have success : retriedRun.1 = .ok () := by decide +kernel
  have passed : retriedRun = (.ok (), retriedRun.2) := by
    rw [← success, Prod.mk.eta]
  exact ⟨success, (OutboxRun.delivered_as_queued aeadIdeal outboxWire_roundTrips
    queuedRun_reachable undisturbed).2 _ passed⟩

end Symbolic

end CipherMesh
