import CipherMesh.Storage.Outbox

/-!
# Sessions of device pairs

A session between two devices is stored under the ids of both.  The table lies beside those
of `Storage`; one transaction writes a session and the outbox item that it encrypted.
-/

namespace CipherMesh

open Foundation
open Foundation.Mutation

structure DevicePairSessionRecord where
  localDeviceId : String
  remoteDeviceId : String
  state : Bytes
  updatedAtUnixSecs : UInt64
  deriving DecidableEq

/-- The primary key of a session. -/
def DevicePairSessionRecord.devices (record : DevicePairSessionRecord) : String × String :=
  (record.localDeviceId, record.remoteDeviceId)

/-- The database with the table of the device sessions. -/
structure DeviceDatabase where
  database : Database
  devicePairSessions : Table DevicePairSessionRecord.devices

abbrev DeviceStorageResult := Mutation DeviceDatabase StorageError

/-- The session with a device after one was stored. -/
theorem DevicePairSessionRecord.find_upsert (sessions : Table DevicePairSessionRecord.devices)
    (localDeviceId remoteDeviceId other : String) (state : Bytes) (now : UInt64) :
    (sessions.upsert ⟨localDeviceId, remoteDeviceId, state, now⟩).find (localDeviceId, other) =
      if other = remoteDeviceId then some ⟨localDeviceId, remoteDeviceId, state, now⟩
      else sessions.find (localDeviceId, other) := by
  split
  · next same =>
      subst same
      exact sessions.find_upsert_self ⟨localDeviceId, other, state, now⟩
  · next different =>
      exact Table.find_upsert_of_ne _ fun sameKey => different (Prod.mk.inj sameKey).2

namespace DeviceDatabase

abbrev storage (database : DeviceDatabase) : Storage := database.database.storage

def onDatabase {Result : Type} (method : StorageResult Result) : DeviceStorageResult Result :=
  focus database (fun inner database => { database with database := inner }) method

/-- The upsert of a session. -/
def withDevicePairSession (record : DevicePairSessionRecord) (database : DeviceDatabase) :
    DeviceDatabase :=
  { database with devicePairSessions := database.devicePairSessions.upsert record }

def saveDevicePairSession (localDeviceId remoteDeviceId : String) (state : Bytes) :
    DeviceStorageResult Unit := do
  let now ← onDatabase Database.nowUnixSecs
  onDatabase (Database.execute id)
  modify (withDevicePairSession ⟨localDeviceId, remoteDeviceId, state, now⟩)

def loadDevicePairSession (localDeviceId remoteDeviceId : String) :
    DeviceStorageResult (Option Bytes) := do
  onDatabase (Database.query fun _ => ())
  let sessions := (← get).devicePairSessions
  return (sessions.find (localDeviceId, remoteDeviceId)).map DevicePairSessionRecord.state

/-- Both rows are written when the transaction commits. -/
def saveDevicePairSessionAndOutbox (localDeviceId remoteDeviceId : String)
    (sessionState : Bytes) (outbox : OutboxItem) : DeviceStorageResult Unit := do
  let now ← onDatabase Database.nowUnixSecs
  onDatabase <| Database.transaction do
    Database.execute id
    Database.execute (Storage.withOutboxItem outbox)
  modify (withDevicePairSession ⟨localDeviceId, remoteDeviceId, sessionState, now⟩)

section

variable {Result : Type} {database : DeviceDatabase} {returned : Result → DeviceDatabase → Prop}
  {failed : StorageError → DeviceDatabase → Prop}

@[simp] theorem ensures_onDatabase {method : StorageResult Result} :
    (onDatabase method).Ensures database returned failed ↔
      method.Ensures database.database
        (fun value inner => returned value { database with database := inner })
        (fun error inner => failed error { database with database := inner }) := by
  rw [onDatabase, ensures_focus]

end

variable {database : DeviceDatabase}

/-- The session and the item are stored together or not at all. -/
theorem ensures_saveDevicePairSessionAndOutbox (localDeviceId remoteDeviceId : String)
    (sessionState : Bytes) (outbox : OutboxItem) :
    (saveDevicePairSessionAndOutbox localDeviceId remoteDeviceId sessionState outbox).Ensures
      database
      (fun _ after => after.storage = database.storage.withOutboxItem outbox ∧
        after.devicePairSessions = database.devicePairSessions.upsert
          ⟨localDeviceId, remoteDeviceId, sessionState, database.database.now⟩)
      (fun _ after => after.storage = database.storage ∧
        after.devicePairSessions = database.devicePairSessions) := by
  simp only [saveDevicePairSessionAndOutbox, ensures_bind, ensures_onDatabase,
    Database.ensures_nowUnixSecs, Database.ensures_transaction, ensures_modify, ensures_pure]
  exact Database.ensures_execute ⟨trivial, trivial⟩ <|
    Database.ensures_execute ⟨trivial, trivial⟩ <|
      Database.ensures_execute ⟨trivial, trivial⟩ ⟨rfl, rfl⟩

theorem ensures_loadDevicePairSession (localDeviceId remoteDeviceId : String) :
    (loadDevicePairSession localDeviceId remoteDeviceId).Ensures database
      (fun state after => after.storage = database.storage ∧
        after.devicePairSessions = database.devicePairSessions ∧
        state = (database.devicePairSessions.find (localDeviceId, remoteDeviceId)).map
          DevicePairSessionRecord.state)
      (fun _ after => after.storage = database.storage ∧
        after.devicePairSessions = database.devicePairSessions) := by
  simp only [loadDevicePairSession, ensures_bind, ensures_onDatabase, ensures_get, ensures_pure]
  exact Database.ensures_query ⟨rfl, trivial⟩ ⟨rfl, trivial, trivial⟩

end DeviceDatabase

end CipherMesh
