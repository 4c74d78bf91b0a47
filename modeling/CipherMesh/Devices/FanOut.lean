import CipherMesh.Foundation.Format
import CipherMesh.Link.Envelopes
import CipherMesh.Storage.DevicePairs

/-!
# Fan-out to the devices of an account

A message for an account is encrypted once for each of its active devices, with a session of
its own for each.  Every envelope is stored in the outbox with the session that encrypted it,
and waits there until its device has opened it.
-/

namespace CipherMesh

open Foundation
open Foundation.Mutation

variable {P : Primitives}

/-- The serialization of what the fan-out writes. -/
structure FanOutWire (P : Primitives) where
  envelope : Format (DeviceDeliveryEnvelope P)
  sessionState : Format (DeviceSessionState P)

/-- The formats read back what they wrote. -/
structure FanOutWire.RoundTrips (wire : FanOutWire P) : Prop where
  envelope : wire.envelope.RoundTrip
  sessionState : wire.sessionState.RoundTrip

/-- One end of a device pair, with the database. -/
structure DeviceEnd (P : Primitives) where
  session : DeviceSession P
  database : DeviceDatabase

abbrev DeviceEndResult (P : Primitives) := Mutation (DeviceEnd P) AppError

/-- The sessions of a device by the device at their other end. -/
abbrev DeviceSessions (P : Primitives) := DeviceId → Option (DeviceSession P)

/-- The loop that opens a session to each certified device. -/
def createOutboundSessions (device : DeviceIdentity P) (accountPublicKey : P.IdentityKey) :
    List (DeviceCertificate P) → DeviceSessions P → Except CryptoError (DeviceSessions P)
  | [], sessions => .ok sessions
  | certificate :: certificates, sessions => do
      let session ← device.createOutboundSession accountPublicKey certificate
      createOutboundSessions device accountPublicKey certificates
        (Function.update sessions certificate.deviceId (some session))

/-- The id of an envelope in the outbox. -/
def deliveryOutboxId (envelope : DeviceDeliveryEnvelope P) : String :=
  envelope.logicalMessageId ++ ":" ++ envelope.recipientDeviceId

namespace DeviceEnd

abbrev storage (device : DeviceEnd P) : Storage := device.database.storage

def onSession {Result : Type} (method : Mutation (DeviceSession P) CryptoError Result) :
    DeviceEndResult P Result :=
  mapError .crypto (focus session (fun session device => { device with session }) method)

def onStorage {Result : Type} (method : DeviceStorageResult Result) : DeviceEndResult P Result :=
  mapError .storage (focus database (fun database device => { device with database }) method)

def encryptAndQueueDeviceDelivery (wire : FanOutWire P) (logicalMessageId plaintext : String) :
    DeviceEndResult P (DeviceDeliveryEnvelope P) := do
  let envelope ← onSession (DeviceSession.encrypt logicalMessageId plaintext)
  let payload ← okOr .format (wire.envelope.serialize envelope)
  let now ← onStorage (DeviceDatabase.onDatabase Database.nowUnixSecs)
  let session := (← get).session
  let sessionState ← okOr .format (wire.sessionState.serialize session.exportState)
  onStorage (DeviceDatabase.saveDevicePairSessionAndOutbox session.localDeviceId
    session.remoteDeviceId sessionState {
      messageId := deliveryOutboxId envelope
      recipientId := envelope.recipientDeviceId
      payload
      status := .pending
      retryCount := 0
      createdAtUnixSecs := now
      lastAttemptUnixSecs := none })
  return envelope

/-- Start again with the stored session of the pair. -/
def restore (wire : FanOutWire P) : DeviceEndResult P Unit := do
  let session := (← get).session
  let stored ← onStorage
    (DeviceDatabase.loadDevicePairSession session.localDeviceId session.remoteDeviceId)
  let bytes ← okOr (.message "missing device session") stored
  let state ← okOr .format (wire.sessionState.deserialize bytes)
  onSession (modify fun _ => .fromState state)

/-- Open the first envelope that waits for this device. -/
def receivePendingDelivery (wire : FanOutWire P) : DeviceEndResult P (String × String) := do
  let pending ← onStorage (DeviceDatabase.onDatabase Database.pendingOutboxItems)
  let localDeviceId := (← get).session.localDeviceId
  let item ← okOr (.message "phone delivery did not remain pending")
    (pending.find? fun item => item.recipientId = localDeviceId)
  let envelope ← okOr .format (wire.envelope.deserialize item.payload)
  let plaintext ← onSession (DeviceSession.decrypt envelope)
  onStorage (DeviceDatabase.onDatabase (Database.markOutboxDelivered item.messageId))
  return (item.messageId, plaintext)

section

variable {Result : Type} {device : DeviceEnd P} {returned : Result → DeviceEnd P → Prop}
  {failed : AppError → DeviceEnd P → Prop}

@[simp] theorem ensures_onSession {method : Mutation (DeviceSession P) CryptoError Result} :
    (onSession method).Ensures device returned failed ↔
      method.Ensures device.session (fun value session => returned value { device with session })
        (fun error session => failed (.crypto error) { device with session }) := by
  rw [onSession, ensures_mapError, ensures_focus]

@[simp] theorem ensures_onStorage {method : DeviceStorageResult Result} :
    (onStorage method).Ensures device returned failed ↔
      method.Ensures device.database
        (fun value database => returned value { device with database })
        (fun error database => failed (.storage error) { device with database }) := by
  rw [onStorage, ensures_mapError, ensures_focus]

end

end DeviceEnd

end CipherMesh
