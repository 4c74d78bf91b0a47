import CipherMesh.Devices.FanOut
import CipherMesh.Foundation.Sequencer
import CipherMesh.Mailbox.WriteAhead

/-!
# Runs of the fan-out

A device queues messages for the devices of an account, goes on from its stored sessions
after a crash, and the other devices open what waits for them, in any order and with any
statement failing.  The numbers of each pair of devices are those of a sequencer of its own,
so an absent device does not touch the others.
-/

namespace CipherMesh

open Foundation
open Foundation.Mutation
open RatchetSession

variable {P : Primitives}

@[simp] theorem DeviceSession.fromState_exportState (device : DeviceSession P) :
    fromState device.exportState = device := by
  rw [fromState, exportState, RatchetSession.fromState_state]

/-! ## What each call does -/

namespace DeviceEnd

variable (wire : FanOutWire P) (device : DeviceEnd P)

/-- The next envelope of a session. -/
structure Encrypts (session : DeviceSession P) (logicalMessageId plaintext : String)
    (envelope : DeviceDeliveryEnvelope P) : Prop where
  logicalMessageId : envelope.logicalMessageId = logicalMessageId
  recipient : envelope.recipientDeviceId = session.remoteDeviceId
  number : envelope.message.number = session.session.sendCount
  publicKey : envelope.message.ratchetPublicKey = session.session.dhKeys.publicKey
  sealed : session.session.sealNext plaintext = some envelope.message.ciphertext

/-- The session after it encrypted something. -/
def encrypted (session : DeviceSession P) : DeviceSession P :=
  { session with session := session.session.sent }

/-- The item of an envelope. -/
structure Queues (wire : FanOutWire P) (envelope : DeviceDeliveryEnvelope P) (item : OutboxItem) :
    Prop where
  messageId : item.messageId = deliveryOutboxId envelope
  recipient : item.recipientId = envelope.recipientDeviceId
  payload : wire.envelope.serialize envelope = some item.payload

theorem encrypt_ensures (session : DeviceSession P) (logicalMessageId plaintext : String) :
    (DeviceSession.encrypt logicalMessageId plaintext).Ensures session
      (fun envelope reached => reached = encrypted session ∧
        Encrypts session logicalMessageId plaintext envelope)
      (fun _ reached => reached = encrypted session) := by
  rw [Ensures, DeviceSession.run_encrypt, run_encrypt]
  cases sealed : session.session.sealNext plaintext with
  | none => rfl
  | some ciphertext => exact ⟨rfl, rfl, rfl, rfl, rfl, sealed⟩

/-- The envelope goes to the outbox with the session after it, or the session is ahead of the
tables. -/
theorem encryptAndQueueDeviceDelivery_ensures (logicalMessageId plaintext : String) :
    (encryptAndQueueDeviceDelivery wire logicalMessageId plaintext).Ensures device
      (fun envelope after => after.session = encrypted device.session ∧
        Encrypts device.session logicalMessageId plaintext envelope ∧
        ∃ state now item, Queues wire envelope item ∧
          wire.sessionState.serialize after.session.exportState = some state ∧
          after.storage = device.storage.withOutboxItem item ∧
          after.database.devicePairSessions = device.database.devicePairSessions.upsert
            ⟨device.session.localDeviceId, device.session.remoteDeviceId, state, now⟩)
      (fun _ after => after.session = encrypted device.session ∧
        after.storage = device.storage ∧
        after.database.devicePairSessions = device.database.devicePairSessions) := by
  simp only [encryptAndQueueDeviceDelivery, ensures_bind, ensures_onSession, ensures_onStorage,
    ensures_get, ensures_pure, DeviceDatabase.ensures_onDatabase, Database.ensures_nowUnixSecs]
  refine (encrypt_ensures device.session logicalMessageId plaintext).mono ?_ ?_
  · rintro envelope _ ⟨rfl, encrypts⟩
    refine ensures_okOr.mpr ⟨fun payload serialized => ?_, fun _ => ⟨rfl, rfl, rfl⟩⟩
    refine ensures_okOr.mpr ⟨fun sessionState saved => ?_, fun _ => ⟨rfl, rfl, rfl⟩⟩
    refine (DeviceDatabase.ensures_saveDevicePairSessionAndOutbox _ _ _ _).mono ?_
      fun _ _ same => ⟨rfl, same⟩
    rintro _ after ⟨stored, pairs⟩
    exact ⟨rfl, encrypts, _, _, _, ⟨rfl, rfl, serialized⟩, saved, stored, pairs⟩
  · rintro _ _ rfl
    exact ⟨rfl, trivial, trivial⟩

/-- The session is the stored one, or stays. -/
theorem restore_ensures :
    (restore wire).Ensures device
      (fun _ after => after.storage = device.storage ∧
        after.database.devicePairSessions = device.database.devicePairSessions ∧
        ∃ row, device.database.devicePairSessions.find
            (device.session.localDeviceId, device.session.remoteDeviceId) = some row ∧
          ∃ state, wire.sessionState.deserialize row.state = some state ∧
            after.session = .fromState state)
      (fun _ after => after.session = device.session ∧ after.storage = device.storage ∧
        after.database.devicePairSessions = device.database.devicePairSessions) := by
  simp only [restore, ensures_bind, ensures_get, ensures_onStorage, ensures_onSession,
    ensures_modify]
  refine (DeviceDatabase.ensures_loadDevicePairSession _ _).mono ?_
    fun _ _ same => ⟨trivial, same⟩
  rintro _ after ⟨stored, pairs, rfl⟩
  refine ensures_okOr.mpr ⟨fun bytes found => ?_, fun _ => ⟨rfl, stored, pairs⟩⟩
  obtain ⟨row, rowFound, rfl⟩ := Option.map_eq_some_iff.mp found
  refine ensures_okOr.mpr ⟨fun state decoded => ?_, fun _ => ⟨rfl, stored, pairs⟩⟩
  exact ⟨stored, pairs, row, rowFound, state, decoded, rfl⟩

theorem decrypt_ensures (session : DeviceSession P) (envelope : DeviceDeliveryEnvelope P) :
    (DeviceSession.decrypt envelope).Ensures session
      (fun text reached => reached.localDeviceId = session.localDeviceId ∧
        session.Addressed envelope ∧ OpensTo envelope.message.ciphertext text)
      (fun _ reached => reached.localDeviceId = session.localDeviceId) := by
  by_cases addressed : session.Addressed envelope
  · have ensures := session.session.decrypt_opens envelope.message
    rw [Ensures] at ensures ⊢
    rw [DeviceSession.run_decrypt addressed]
    revert ensures
    rcases (decrypt envelope.message).run session.session with ⟨error | text, reached⟩
    · exact fun _ => rfl
    · exact fun opens => ⟨rfl, addressed, opens⟩
  · rw [Ensures, DeviceSession.run_decrypt_of_not addressed]

/-- An opened envelope waited for the device; what waits stays the same. -/
theorem receivePendingDelivery_ensures :
    (receivePendingDelivery wire).Ensures device
      (fun opened after => after.session.localDeviceId = device.session.localDeviceId ∧
        after.database.devicePairSessions = device.database.devicePairSessions ∧
        (∀ messageId, after.storage.queuedAs messageId = device.storage.queuedAs messageId) ∧
        ∃ payload envelope,
          device.storage.queuedAs opened.1 = some (device.session.localDeviceId, payload) ∧
          wire.envelope.deserialize payload = some envelope ∧
          OpensTo envelope.message.ciphertext opened.2)
      (fun _ after => after.session.localDeviceId = device.session.localDeviceId ∧
        after.database.devicePairSessions = device.database.devicePairSessions ∧
        ∀ messageId, after.storage.queuedAs messageId = device.storage.queuedAs messageId) := by
  simp only [receivePendingDelivery, ensures_bind, ensures_get, ensures_onStorage,
    ensures_onSession, ensures_pure, DeviceDatabase.ensures_onDatabase,
    Database.pendingOutboxItems]
  refine Database.ensures_query ⟨trivial, trivial, fun _ => rfl⟩ ?_
  refine ensures_okOr.mpr ⟨fun item found => ?_, fun _ => ⟨rfl, rfl, fun _ => rfl⟩⟩
  refine ensures_okOr.mpr ⟨fun envelope decoded => ?_, fun _ => ⟨rfl, rfl, fun _ => rfl⟩⟩
  refine (decrypt_ensures device.session envelope).mono ?_
    fun _ _ same => ⟨same, rfl, fun _ => rfl⟩
  rintro text reached ⟨sameId, -, opens⟩
  have member := (Table.mem_select.mp (List.mem_of_find?_eq_some found)).1
  have recipient : item.recipientId = device.session.localDeviceId := by
    simpa using List.find?_some found
  have waits : device.storage.queuedAs item.messageId =
      some (device.session.localDeviceId, item.payload) := by
    rw [Storage.queuedAs, Table.find_eq_some.mpr ⟨member, rfl⟩, Option.map_some, recipient]
  refine (Database.ensures_markOutboxDelivered_queuedAs item.messageId).mono ?_ ?_
  · exact fun _ _ same => ⟨sameId, rfl, same, item.payload, envelope, waits, decoded, opens⟩
  · exact fun _ _ same => ⟨sameId, rfl, fun messageId => congrArg _ same⟩

end DeviceEnd

/-! ## The system -/

/-- The sender's sessions, those of the other devices, and as history what was queued and what
each device opened from which item. -/
structure FanOut (P : Primitives) where
  sessions : DeviceSessions P
  devices : DeviceSessions P
  database : DeviceDatabase
  queued : List (DeviceDeliveryEnvelope P × String)
  opened : List (DeviceId × String × String)

inductive FanOutEvent where
  | queue (device : DeviceId) (logicalMessageId plaintext : String)
  | restore (device : DeviceId)
  | receive (device : DeviceId)

namespace DeviceDatabase

/-- The connection at the start of a call. -/
def opened (database : DeviceDatabase) (moment : Moment) : DeviceDatabase :=
  { database with database := database.database.opened moment.now moment.interruptions }

end DeviceDatabase

namespace FanOut

/-- Only a device with a session can be called. -/
def next (wire : FanOutWire P) (run : FanOut P) : FanOutEvent × Moment → FanOut P
  | (.queue device logicalMessageId plaintext, moment) =>
      match run.sessions device with
      | none => run
      | some session =>
          let (result, reached) :=
            (DeviceEnd.encryptAndQueueDeviceDelivery wire logicalMessageId plaintext).run
              ⟨session, run.database.opened moment⟩
          { run with
            sessions := Function.update run.sessions device (some reached.session)
            database := reached.database
            queued := run.queued ++ (result.toOption.map (·, plaintext)).toList }
  | (.restore device, moment) =>
      match run.sessions device with
      | none => run
      | some session =>
          let reached := ((DeviceEnd.restore wire).run ⟨session, run.database.opened moment⟩).2
          { run with
            sessions := Function.update run.sessions device (some reached.session)
            database := reached.database }
  | (.receive device, moment) =>
      match run.devices device with
      | none => run
      | some session =>
          let (result, reached) :=
            (DeviceEnd.receivePendingDelivery wire).run ⟨session, run.database.opened moment⟩
          { run with
            devices := Function.update run.devices device (some reached.session)
            database := reached.database
            opened := run.opened ++ (result.toOption.map (device, ·)).toList }

/-- The runs that start with a session to each active device and with empty tables. -/
def system (wire : FanOutWire P) (sender : DeviceIdentity P) (accountPublicKey : P.IdentityKey)
    (active : List (DeviceCertificate P)) : System (FanOut P) (FanOutEvent × Moment) where
  initial run :=
    createOutboundSessions sender accountPublicKey active (fun _ => none) = .ok run.sessions ∧
      (∀ device session, run.devices device = some session → session.localDeviceId = device) ∧
      run.database.storage = .empty ∧ run.database.devicePairSessions = .empty ∧
      run.queued = [] ∧ run.opened = []
  permitted _ _ := True
  next := next wire

/-! ## What every run keeps -/

/-- A session of the sender with one of the active devices, in the epoch of the two. -/
structure SessionTo (localDeviceId : DeviceId) (active : List (DeviceCertificate P))
    (device : DeviceId) (epoch : Epoch P) (session : DeviceSession P) : Prop where
  active : ∃ certificate ∈ active, certificate.deviceId = device
  localDeviceId : session.localDeviceId = localDeviceId
  remoteDeviceId : session.remoteDeviceId = device
  role : session.session.role = .alice
  current : session.session.AtEpoch epoch

/-- The envelope that was queued last with an id. -/
def lastQueued (queued : List (DeviceDeliveryEnvelope P × String)) (messageId : String) :
    Option (DeviceDeliveryEnvelope P) :=
  (queued.reverse.find? fun entry => deliveryOutboxId entry.1 = messageId).map Prod.fst

structure Sound (wire : FanOutWire P) (localDeviceId : DeviceId)
    (active : List (DeviceCertificate P)) (epochs : DeviceId → Epoch P) (run : FanOut P) :
    Prop where
  sessions : ∀ device session, run.sessions device = some session →
    SessionTo localDeviceId active device (epochs device) session
  stored : ∀ device row, run.database.devicePairSessions.find (localDeviceId, device) = some row →
    ∃ state, wire.sessionState.deserialize row.state = some state ∧
      SessionTo localDeviceId active device (epochs device) (.fromState state)
  devices : ∀ device session, run.devices device = some session → session.localDeviceId = device
  queued : ∀ entry ∈ run.queued, (run.sessions entry.1.recipientDeviceId).isSome ∧
    SealedIn (epochs entry.1.recipientDeviceId) .alice entry.1.message (.ofText entry.2) ∧
    (wire.envelope.serialize entry.1).isSome
  outbox : ∀ messageId, run.database.storage.queuedAs messageId =
    (lastQueued run.queued messageId).bind fun envelope =>
      (wire.envelope.serialize envelope).map (envelope.recipientDeviceId, ·)
  opened : ∀ entry ∈ run.opened, ∃ sent ∈ run.queued, deliveryOutboxId sent.1 = entry.2.1 ∧
    sent.1.recipientDeviceId = entry.1 ∧ sent.2 = entry.2.2

/-- The numbers between the sender and a device. -/
def numbers (wire : FanOutWire P) (localDeviceId device : DeviceId) (run : FanOut P) :
    Sequencer (DeviceDeliveryEnvelope P × String) where
  memory := (run.sessions device).elim 0 fun session => session.session.sendCount
  saved := ((run.database.devicePairSessions.find (localDeviceId, device)).bind fun row =>
    wire.sessionState.deserialize row.state).elim 0 fun state => state.session.sendCount
  issued := (run.queued.filter fun entry => entry.1.recipientDeviceId = device).map fun entry =>
    (entry.1.message.number, entry)

variable {wire : FanOutWire P} {localDeviceId device : DeviceId} {epoch : Epoch P}
variable {active : List (DeviceCertificate P)} {epochs : DeviceId → Epoch P} {run : FanOut P}
variable {session : DeviceSession P}

theorem SessionTo.encrypted (sessionTo : SessionTo localDeviceId active device epoch session) :
    SessionTo localDeviceId active device epoch (DeviceEnd.encrypted session) where
  active := sessionTo.active
  localDeviceId := sessionTo.localDeviceId
  remoteDeviceId := sessionTo.remoteDeviceId
  role := sessionTo.role
  current := sessionTo.current.sent

/-- What a session encrypts is sealed in its epoch. -/
theorem SessionTo.sealedIn (sessionTo : SessionTo localDeviceId active device epoch session)
    {logicalMessageId plaintext : String} {envelope : DeviceDeliveryEnvelope P}
    (encrypts : DeviceEnd.Encrypts session logicalMessageId plaintext envelope) :
    SealedIn epoch .alice envelope.message (.ofText plaintext) := by
  have sealed := encrypts.sealed
  rw [sealNext, sessionTo.current.sendChainKey, sessionTo.role, ← encrypts.number,
    ← encrypts.publicKey] at sealed
  exact sealed

theorem lastQueued_append (queued : List (DeviceDeliveryEnvelope P × String))
    (envelope : DeviceDeliveryEnvelope P) (plaintext messageId : String) :
    lastQueued (queued ++ [(envelope, plaintext)]) messageId =
      if deliveryOutboxId envelope = messageId then some envelope
      else lastQueued queued messageId := by
  rw [lastQueued, List.reverse_append, List.reverse_singleton, List.singleton_append,
    List.find?_cons]
  split
  · next same => rw [if_pos (of_decide_eq_true same), Option.map_some]
  · next other => rw [if_neg (of_decide_eq_false other), lastQueued]

theorem mem_of_lastQueued {queued : List (DeviceDeliveryEnvelope P × String)} {messageId : String}
    {envelope : DeviceDeliveryEnvelope P} (last : lastQueued queued messageId = some envelope) :
    deliveryOutboxId envelope = messageId ∧ ∃ plaintext, (envelope, plaintext) ∈ queued := by
  obtain ⟨⟨_, plaintext⟩, found, rfl⟩ := Option.map_eq_some_iff.mp last
  refine ⟨by simpa using List.find?_some found, plaintext, ?_⟩
  exact List.mem_reverse.mp (List.mem_of_find?_eq_some found)

namespace Sound

variable (sound : run.Sound wire localDeviceId active epochs)
include sound

/-- A call that changes the session with a device and leaves what is stored. -/
theorem update (present : run.sessions device = some session) {reached : DeviceSession P}
    (sessionTo : SessionTo localDeviceId active device (epochs device) reached)
    {database : DeviceDatabase}
    (pairs : database.devicePairSessions = run.database.devicePairSessions)
    (outbox : ∀ messageId,
      database.storage.queuedAs messageId = run.database.storage.queuedAs messageId) :
    Sound wire localDeviceId active epochs { run with
      sessions := Function.update run.sessions device (some reached)
      database } where
  sessions other session found := by
    simp only [Function.update_apply] at found
    split at found
    · next same =>
        subst same
        exact Option.some.inj found ▸ sessionTo
    · exact sound.sessions other session found
  stored other row found := sound.stored other row (pairs ▸ found)
  devices := sound.devices
  queued entry member := by
    refine ⟨?_, (sound.queued entry member).2⟩
    simp only [Function.update_apply]
    split
    · rfl
    · exact (sound.queued entry member).1
  outbox messageId := (outbox messageId).trans (sound.outbox messageId)
  opened := sound.opened

/-- An envelope is queued with the session after it. -/
theorem queue (roundTrip : wire.sessionState.RoundTrip)
    (present : run.sessions device = some session) {logicalMessageId plaintext : String}
    {envelope : DeviceDeliveryEnvelope P}
    (encrypts : DeviceEnd.Encrypts session logicalMessageId plaintext envelope) {item : OutboxItem}
    (queues : DeviceEnd.Queues wire envelope item) {state : Bytes} {now : UInt64}
    (saved : wire.sessionState.serialize (DeviceEnd.encrypted session).exportState = some state)
    {database : DeviceDatabase}
    (storage : database.storage = run.database.storage.withOutboxItem item)
    (pairs : database.devicePairSessions = run.database.devicePairSessions.upsert
      ⟨session.localDeviceId, session.remoteDeviceId, state, now⟩) :
    Sound wire localDeviceId active epochs { run with
      sessions := Function.update run.sessions device (some (DeviceEnd.encrypted session))
      database
      queued := run.queued ++ [(envelope, plaintext)] } := by
  have sessionTo := sound.sessions device session present
  have recipient : envelope.recipientDeviceId = device :=
    encrypts.recipient.trans sessionTo.remoteDeviceId
  have updated : Sound wire localDeviceId active epochs { run with
      sessions := Function.update run.sessions device (some (DeviceEnd.encrypted session)) } :=
    sound.update present sessionTo.encrypted rfl fun _ => rfl
  refine { updated with stored := ?_, queued := ?_, outbox := ?_, opened := ?_ }
  · intro other row found
    rw [pairs, sessionTo.localDeviceId, sessionTo.remoteDeviceId,
      DevicePairSessionRecord.find_upsert] at found
    split at found
    · next same =>
        subst same
        obtain rfl := Option.some.inj found
        refine ⟨_, roundTrip saved, ?_⟩
        rw [DeviceSession.fromState_exportState]
        exact sessionTo.encrypted
    · exact sound.stored other row found
  · intro entry member
    rcases List.mem_append.mp member with old | new
    · exact updated.queued entry old
    · obtain rfl := List.mem_singleton.mp new
      simp only [recipient, Function.update_self]
      exact ⟨rfl, sessionTo.sealedIn encrypts, Option.isSome_iff_exists.mpr ⟨_, queues.payload⟩⟩
  · intro messageId
    simp only [lastQueued_append, storage]
    split
    · next same =>
        rw [← same, ← queues.messageId, Storage.queuedAs_withOutboxItem_self, Option.bind_some,
          queues.payload, queues.recipient]
        rfl
    · next other =>
        rw [Storage.queuedAs_withOutboxItem_of_ne]
        · exact sound.outbox messageId
        · rw [queues.messageId]
          exact Ne.symm other
  · intro entry member
    obtain ⟨sent, queued, rest⟩ := sound.opened entry member
    exact ⟨sent, List.mem_append_left _ queued, rest⟩

/-- A device opened what waits for it. -/
theorem receive (roundTrip : wire.envelope.RoundTrip) (ideal : P.AeadIdeal)
    (present : run.devices device = some session) {reached : DeviceSession P}
    (sameId : reached.localDeviceId = session.localDeviceId) {database : DeviceDatabase}
    (pairs : database.devicePairSessions = run.database.devicePairSessions)
    (outbox : ∀ messageId,
      database.storage.queuedAs messageId = run.database.storage.queuedAs messageId)
    (opened : List (DeviceId × String × String))
    (waited : ∀ entry ∈ opened, entry.1 = device ∧ ∃ payload envelope,
      run.database.storage.queuedAs entry.2.1 = some (session.localDeviceId, payload) ∧
        wire.envelope.deserialize payload = some envelope ∧
        OpensTo envelope.message.ciphertext entry.2.2) :
    Sound wire localDeviceId active epochs { run with
      devices := Function.update run.devices device (some reached)
      database
      opened := run.opened ++ opened } where
  sessions := sound.sessions
  stored other row found := sound.stored other row (pairs ▸ found)
  devices other session found := by
    simp only [Function.update_apply] at found
    split at found
    · next same =>
        subst same
        obtain rfl := Option.some.inj found
        exact sameId.trans (sound.devices _ _ present)
    · exact sound.devices other session found
  queued := sound.queued
  outbox messageId := (outbox messageId).trans (sound.outbox messageId)
  opened entry member := by
    rcases List.mem_append.mp member with old | new
    · exact sound.opened entry old
    · obtain ⟨rfl, payload, envelope, waits, decoded, opens⟩ := waited entry new
      rw [sound.outbox, Option.bind_eq_some_iff] at waits
      obtain ⟨sent, last, packed⟩ := waits
      obtain ⟨bytes, serialized, same⟩ := Option.map_eq_some_iff.mp packed
      obtain ⟨recipient, rfl⟩ := Prod.mk.inj same
      obtain ⟨sameId, plaintext, queued⟩ := mem_of_lastQueued last
      obtain rfl := Option.some.inj ((roundTrip serialized).symm.trans decoded)
      refine ⟨_, queued, sameId, recipient.trans (sound.devices _ _ present), ?_⟩
      exact (SealedFrom.text_eq ideal ⟨_, _, _, (sound.queued _ queued).2.1⟩ opens).symm

end Sound

/-! ## The sequencers -/

theorem numbers_draw (present : run.sessions device = some session) {database : DeviceDatabase}
    (pairs : database.devicePairSessions = run.database.devicePairSessions) (other : DeviceId) :
    numbers wire localDeviceId other { run with
        sessions := Function.update run.sessions device (some (DeviceEnd.encrypted session))
        database } =
      if other = device then (run.numbers wire localDeviceId other).next .draw
      else run.numbers wire localDeviceId other := by
  split
  · next same =>
      subst same
      simp only [numbers, pairs, Function.update_self, present, Sequencer.next]
      rfl
  · next different =>
      simp only [numbers, pairs, Function.update_of_ne different]

theorem numbers_restore (present : run.sessions device = some session)
    {row : DevicePairSessionRecord} {state : DeviceSessionState P}
    (found : run.database.devicePairSessions.find (localDeviceId, device) = some row)
    (decoded : wire.sessionState.deserialize row.state = some state) {database : DeviceDatabase}
    (pairs : database.devicePairSessions = run.database.devicePairSessions) (other : DeviceId) :
    numbers wire localDeviceId other { run with
        sessions := Function.update run.sessions device (some (.fromState state))
        database } =
      if other = device then (run.numbers wire localDeviceId other).next .crash
      else run.numbers wire localDeviceId other := by
  split
  · next same =>
      subst same
      simp only [numbers, pairs, Function.update_self, found, Option.bind_some, decoded,
        Sequencer.next]
      rfl
  · next different =>
      simp only [numbers, pairs, Function.update_of_ne different]

theorem numbers_queue (roundTrip : wire.sessionState.RoundTrip)
    (present : run.sessions device = some session)
    (sessionTo : SessionTo localDeviceId active device epoch session)
    {logicalMessageId plaintext : String} {envelope : DeviceDeliveryEnvelope P}
    (encrypts : DeviceEnd.Encrypts session logicalMessageId plaintext envelope)
    {state : Bytes} {now : UInt64}
    (saved : wire.sessionState.serialize (DeviceEnd.encrypted session).exportState = some state)
    {database : DeviceDatabase}
    (pairs : database.devicePairSessions = run.database.devicePairSessions.upsert
      ⟨session.localDeviceId, session.remoteDeviceId, state, now⟩) (other : DeviceId) :
    numbers wire localDeviceId other { run with
        sessions := Function.update run.sessions device (some (DeviceEnd.encrypted session))
        database
        queued := run.queued ++ [(envelope, plaintext)] } =
      if other = device then
        (run.numbers wire localDeviceId other).next (.issue (envelope, plaintext))
      else run.numbers wire localDeviceId other := by
  have recipient : envelope.recipientDeviceId = device :=
    encrypts.recipient.trans sessionTo.remoteDeviceId
  simp only [numbers, pairs, sessionTo.localDeviceId, sessionTo.remoteDeviceId,
    DevicePairSessionRecord.find_upsert, List.filter_append, List.map_append]
  split
  · next same =>
      subst same
      simp only [Function.update_self, Option.bind_some, roundTrip saved, present,
        Sequencer.next, List.filter_singleton, recipient, decide_true]
      simp only [cond_true, List.map_cons, List.map_nil, encrypts.number]
      rfl
  · next different =>
      simp [Function.update_of_ne different, recipient, Ne.symm different]

/-! ## Every step -/

/-- At most one event of the sequencer. -/
private theorem reaches_of_ite {Entry : Type} {before after : Sequencer Entry}
    {event : SequencerEvent Entry} {condition : Prop} [Decidable condition]
    (same : after = if condition then before.next event else before) :
    Sequencer.runs.Reaches before after := by
  subst same
  split
  · exact .step event .refl trivial
  · exact .refl

section

variable (sound : run.Sound wire localDeviceId active epochs) (moment : Moment)
include sound

theorem next_queue (roundTrips : wire.RoundTrips) (logicalMessageId plaintext : String)
    (other : DeviceId) :
    let after := run.next wire (.queue device logicalMessageId plaintext, moment)
    after.Sound wire localDeviceId active epochs ∧ Sequencer.runs.Reaches
      (run.numbers wire localDeviceId other) (after.numbers wire localDeviceId other) := by
  cases present : run.sessions device with
  | none =>
      simp only [next, present]
      exact ⟨sound, .refl⟩
  | some session =>
      have sessionTo := sound.sessions device session present
      have ensured := DeviceEnd.encryptAndQueueDeviceDelivery_ensures wire
        ⟨session, run.database.opened moment⟩ logicalMessageId plaintext
      simp only [next, present]
      rcases outcome : (DeviceEnd.encryptAndQueueDeviceDelivery wire logicalMessageId
        plaintext).run ⟨session, run.database.opened moment⟩ with ⟨error | envelope, reached⟩
      · obtain ⟨same, stored, pairs⟩ := ensured.of_error outcome
        simp only [same, Except.toOption, Option.map_none, Option.toList_none, List.append_nil]
        refine ⟨sound.update present sessionTo.encrypted pairs fun _ => congrArg _ stored, ?_⟩
        exact reaches_of_ite (numbers_draw present pairs other)
      · obtain ⟨same, encrypts, state, now, item, queues, saved, stored, pairs⟩ :=
          ensured.of_ok outcome
        rw [same] at saved
        simp only [same, Except.toOption, Option.map_some, Option.toList_some]
        refine ⟨sound.queue roundTrips.sessionState present encrypts queues saved stored pairs, ?_⟩
        exact reaches_of_ite
          (numbers_queue roundTrips.sessionState present sessionTo encrypts saved pairs other)

theorem next_restore (other : DeviceId) :
    let after := run.next wire (.restore device, moment)
    after.Sound wire localDeviceId active epochs ∧ Sequencer.runs.Reaches
      (run.numbers wire localDeviceId other) (after.numbers wire localDeviceId other) := by
  cases present : run.sessions device with
  | none =>
      simp only [next, present]
      exact ⟨sound, .refl⟩
  | some session =>
      have sessionTo := sound.sessions device session present
      have ensured := DeviceEnd.restore_ensures wire ⟨session, run.database.opened moment⟩
      simp only [next, present]
      rcases outcome : (DeviceEnd.restore wire).run ⟨session, run.database.opened moment⟩ with
        ⟨error | _, reached⟩
      · obtain ⟨same, stored, pairs⟩ := ensured.of_error outcome
        have unchanged : Function.update run.sessions device (some session) = run.sessions :=
          Function.update_eq_self_iff.mpr present.symm
        simp only [same]
        refine ⟨sound.update present sessionTo pairs fun _ => congrArg _ stored, ?_⟩
        rw [unchanged]
        simp only [numbers, pairs]
        exact .refl
      · obtain ⟨stored, pairs, row, found, state, decoded, same⟩ := ensured.of_ok outcome
        rw [sessionTo.localDeviceId, sessionTo.remoteDeviceId] at found
        obtain ⟨storedState, storedDecoded, storedTo⟩ := sound.stored device row found
        obtain rfl := Option.some.inj (storedDecoded.symm.trans decoded)
        simp only [same]
        refine ⟨sound.update present storedTo pairs fun _ => congrArg _ stored, ?_⟩
        exact reaches_of_ite (numbers_restore present found decoded pairs other)

theorem next_receive (ideal : P.AeadIdeal) (roundTrips : wire.RoundTrips) (other : DeviceId) :
    let after := run.next wire (.receive device, moment)
    after.Sound wire localDeviceId active epochs ∧ Sequencer.runs.Reaches
      (run.numbers wire localDeviceId other) (after.numbers wire localDeviceId other) := by
  cases present : run.devices device with
  | none =>
      simp only [next, present]
      exact ⟨sound, .refl⟩
  | some session =>
      have ensured :=
        DeviceEnd.receivePendingDelivery_ensures wire ⟨session, run.database.opened moment⟩
      simp only [next, present]
      rcases outcome : (DeviceEnd.receivePendingDelivery wire).run
        ⟨session, run.database.opened moment⟩ with ⟨error | opened, reached⟩
      · obtain ⟨sameId, pairs, outbox⟩ := ensured.of_error outcome
        refine ⟨sound.receive roundTrips.envelope ideal present sameId pairs outbox _ ?_, ?_⟩
        · exact fun _ member => nomatch member
        · simp only [numbers, pairs]
          exact .refl
      · obtain ⟨sameId, pairs, outbox, waited⟩ := ensured.of_ok outcome
        refine ⟨sound.receive roundTrips.envelope ideal present sameId pairs outbox _ ?_, ?_⟩
        · intro entry member
          obtain rfl := List.mem_singleton.mp member
          exact ⟨rfl, waited⟩
        · simp only [numbers, pairs]
          exact .refl

end

/-! ## Every run -/

variable {sender : DeviceIdentity P} {accountPublicKey : P.IdentityKey}

/-- What holds of each session that the loop opens holds of the sessions after it. -/
theorem createOutboundSessions_property (property : DeviceId → DeviceSession P → Prop)
    {certificates : List (DeviceCertificate P)}
    (opens : ∀ certificate ∈ certificates, ∀ session,
      sender.createOutboundSession accountPublicKey certificate = .ok session →
        property certificate.deviceId session) :
    ∀ {before after : DeviceSessions P},
      createOutboundSessions sender accountPublicKey certificates before = .ok after →
      (∀ device session, before device = some session → property device session) →
      ∀ device session, after device = some session → property device session := by
  induction certificates with
  | nil =>
      rintro before after created holds
      exact Except.ok.inj created ▸ holds
  | cons certificate certificates inductionHypothesis =>
      intro before after created holds
      obtain ⟨session, opened, rest⟩ := bind_eq_ok_iff.mp created
      refine inductionHypothesis (fun other member => opens other (List.mem_cons_of_mem _ member))
        rest fun device found present => ?_
      rw [Function.update_apply] at present
      split at present
      · next same =>
          subst same
          exact Option.some.inj present ▸ opens certificate List.mem_cons_self session opened
      · exact holds device found present

/-- The sessions of the start, each in the first epoch of its handshake. -/
theorem exists_epochs {sessions : DeviceSessions P}
    (created : createOutboundSessions sender accountPublicKey active (fun _ => none) =
      .ok sessions) :
    ∃ epochs : DeviceId → Epoch P, ∀ device session, sessions device = some session →
      SessionTo sender.deviceId active device (epochs device) session ∧
        session.session.sendCount = 0 := by
  have each : ∀ device, ∃ epoch, ∀ session, sessions device = some session →
      SessionTo sender.deviceId active device epoch session ∧ session.session.sendCount = 0 := by
    intro device
    cases present : sessions device with
    | none => exact ⟨.initial (P.hkdf none [] [] 0), fun _ absent => nomatch absent⟩
    | some session =>
        have opened := createOutboundSessions_property
          (fun device session => ∃ epoch,
            SessionTo sender.deviceId active device epoch session ∧ session.session.sendCount = 0)
          ?_ created (fun _ _ absent => nomatch absent) device session present
        · obtain ⟨epoch, holds⟩ := opened
          refine ⟨epoch, fun other same => ?_⟩
          exact Option.some.inj same ▸ holds
        · intro certificate member session opens
          rw [DeviceIdentity.createOutboundSession_eq opens]
          exact ⟨_, ⟨⟨certificate, member, rfl⟩, rfl, rfl, rfl, .fresh _ _ _ _⟩, rfl⟩
  exact ⟨fun device => (each device).choose, fun device => (each device).choose_spec⟩

theorem start_sound (wire : FanOutWire P)
    (initial : (system wire sender accountPublicKey active).initial run) :
    ∃ epochs, run.Sound wire sender.deviceId active epochs ∧
      ∀ device, run.numbers wire sender.deviceId device = Sequencer.start := by
  obtain ⟨created, devices, storage, pairs, queued, opened⟩ := initial
  obtain ⟨epochs, sessions⟩ := exists_epochs created
  refine ⟨epochs, ⟨fun device session present => (sessions device session present).1, ?_, devices,
    ?_, ?_, ?_⟩, fun device => ?_⟩
  · intro device row found
    rw [pairs] at found
    exact nomatch found
  · rw [queued]
    exact fun _ member => nomatch member
  · intro messageId
    rw [queued, storage]
    rfl
  · rw [opened]
    exact fun _ member => nomatch member
  · simp only [numbers, pairs, queued]
    cases present : run.sessions device with
    | none => rfl
    | some session =>
        simp only [Option.elim_some, (sessions device session present).2]
        rfl

theorem next_sound (ideal : P.AeadIdeal) (roundTrips : wire.RoundTrips)
    (sound : run.Sound wire localDeviceId active epochs) (event : FanOutEvent × Moment)
    (other : DeviceId) :
    (run.next wire event).Sound wire localDeviceId active epochs ∧ Sequencer.runs.Reaches
      (run.numbers wire localDeviceId other)
      ((run.next wire event).numbers wire localDeviceId other) := by
  obtain ⟨event, moment⟩ := event
  cases event with
  | queue device logicalMessageId plaintext =>
      exact next_queue sound moment roundTrips logicalMessageId plaintext other
  | restore device => exact next_restore sound moment other
  | receive device => exact next_receive sound moment ideal roundTrips other

/-- Every run, seen from one device, is a run of a sequencer. -/
theorem sound_of_reachable (ideal : P.AeadIdeal) (roundTrips : wire.RoundTrips)
    (reachable : (system wire sender accountPublicKey active).Reachable run) :
    ∃ epochs, run.Sound wire sender.deviceId active epochs ∧
      ∀ device, Sequencer.runs.Reachable (run.numbers wire sender.deviceId device) := by
  refine reachable.invariant (fun run => ∃ epochs, run.Sound wire sender.deviceId active epochs ∧
    ∀ device, Sequencer.runs.Reachable (run.numbers wire sender.deviceId device)) ?_ ?_
  · intro start initial
    obtain ⟨epochs, sound, starts⟩ := start_sound wire initial
    exact ⟨epochs, sound, fun device => ⟨_, starts device, .refl⟩⟩
  · rintro state event ⟨epochs, sound, numbered⟩ -
    refine ⟨epochs, (next_sound ideal roundTrips sound event "").1, fun device => ?_⟩
    obtain ⟨start, initial, reaches⟩ := numbered device
    exact ⟨start, initial, reaches.trans (next_sound ideal roundTrips sound event device).2⟩

end FanOut

end CipherMesh
