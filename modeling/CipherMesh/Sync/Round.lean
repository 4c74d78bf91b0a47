import CipherMesh.Crypto.Symbolic
import CipherMesh.Foundation.Reachability
import CipherMesh.Handshake.Devices
import CipherMesh.Storage.Events
import CipherMesh.Sync.Crdt
import Mathlib.Logic.Function.Basic

/-!
# Sync rounds between sibling devices

A round asks each store for the events of a conversation that are beyond the other
store's version vector, and appends the answer.  The stores of any number of
replicas form the state; which two take part is chosen for each round.
-/

namespace CipherMesh

open Foundation
open Foundation.Mutation

variable {P : Primitives} {Replica : Type}

structure SyncEvent where
  deviceId : String
  counter : UInt64
  conversationId : String
  eventType : String
  messageId : Option String
  payload : Bytes
  createdAtUnixSecs : UInt64
  deriving DecidableEq

def SyncEvent.fromRecord (event : EventRecord) : SyncEvent :=
  { event with }

def EventRecord.fromSync (event : SyncEvent) : EventRecord :=
  { event with }

@[simp] theorem EventRecord.fromSync_fromRecord (event : EventRecord) :
    EventRecord.fromSync (.fromRecord event) = event := rfl

theorem EventRecord.map_fromSync_fromRecord (events : List EventRecord) :
    (events.map SyncEvent.fromRecord).map EventRecord.fromSync = events := by
  simp [Function.comp_def]

structure SyncRequest where
  versionVector : VersionVector

structure SyncResponse where
  events : List SyncEvent
  deriving DecidableEq

structure SyncRoundTrip where
  leftToRight : List EventRecord
  rightToLeft : List EventRecord
  deriving DecidableEq

abbrev Stores (Replica : Type) := Replica → Database

/-- The checks of a round, before a store is touched. -/
def authorizeSiblingDevices (accountPublicKey : P.IdentityKey)
    (leftCertificate rightCertificate : DeviceCertificate P)
    (revocations : List (DeviceRevocation P)) : Except AppError Unit := do
  (verifyAuthorizedSiblingDevices accountPublicKey leftCertificate
    rightCertificate).mapError .crypto
  let leftAuthorized ← (isDeviceCurrentlyAuthorized accountPublicKey leftCertificate
    revocations).mapError .crypto
  -- the right device is looked at only if the left one is authorized
  let authorized ← if leftAuthorized then
      (isDeviceCurrentlyAuthorized accountPublicKey rightCertificate
        revocations).mapError .crypto
    else pure false
  if !authorized then
    .error (.message "sibling device is revoked")

section

variable [DecidableEq Replica]

/-- Use the store of one replica. -/
def onStore {Result : Type} (replica : Replica) (method : StorageResult Result) :
    Mutation (Stores Replica) AppError Result :=
  mapError .storage
    (focus (fun stores : Stores Replica => stores replica)
      (fun database stores => Function.update stores replica database) method)

/-- One half of a round: `source` answers the vector of `target`, which appends what
it decodes from the answer. -/
def pull (format : Format SyncResponse) (source target : Replica) (conversationId : String) :
    Mutation (Stores Replica) AppError (List EventRecord) := do
  let request : SyncRequest := ⟨← onStore target (Database.versionVector conversationId)⟩
  let missing ← onStore source
    (Database.missingEventsFor conversationId request.versionVector)
  let response : SyncResponse := ⟨missing.map .fromRecord⟩
  let responseBytes ← okOr .format (format.serialize response)
  let decoded ← okOr .format (format.deserialize responseBytes)
  let events := decoded.events.map EventRecord.fromSync
  let _ ← onStore target (Database.appendEvents events)
  return events

def syncAuthorizedSiblingDevices (format : Format SyncResponse)
    (accountPublicKey : P.IdentityKey) (leftCertificate rightCertificate : DeviceCertificate P)
    (revocations : List (DeviceRevocation P)) (left right : Replica)
    (conversationId : String) : Mutation (Stores Replica) AppError SyncRoundTrip := do
  lift (authorizeSiblingDevices accountPublicKey leftCertificate rightCertificate revocations)
  let leftToRight ← pull format left right conversationId
  let rightToLeft ← pull format right left conversationId
  return { leftToRight, rightToLeft }

/-! ## Replication -/

/-- An event is appended to one store, or two stores sync a conversation.  Every call
happens at some time, and its statements may fail. -/
inductive ReplicaEvent (P : Primitives) (Replica : Type) where
  | append (replica : Replica) (event : EventRecord) (now : UInt64)
      (interruptions : List Bool)
  | sync (accountPublicKey : P.IdentityKey)
      (leftCertificate rightCertificate : DeviceCertificate P)
      (revocations : List (DeviceRevocation P)) (left right : Replica)
      (conversationId : String) (now : Replica → UInt64)
      (interruptions : Replica → List Bool)

namespace Stores

/-- The stores at the start of a call. -/
def opened (stores : Stores Replica) (now : Replica → UInt64)
    (interruptions : Replica → List Bool) : Stores Replica :=
  fun replica => (stores replica).opened (now replica) (interruptions replica)

def next (format : Format SyncResponse) (stores : Stores Replica) :
    ReplicaEvent P Replica → Stores Replica
  | .append replica event now interruptions =>
      Function.update stores replica
        ((Database.appendEvent event).run ((stores replica).opened now interruptions)).2
  | .sync accountPublicKey leftCertificate rightCertificate revocations left right
      conversationId now interruptions =>
      ((syncAuthorizedSiblingDevices format accountPublicKey leftCertificate rightCertificate
        revocations left right conversationId).run (stores.opened now interruptions)).2

/-- The runs in which only events of `issued` are appended, from empty stores. -/
def replication (P : Primitives) (format : Format SyncResponse)
    (issued : EventRecord → Prop) : System (Stores Replica) (ReplicaEvent P Replica) where
  initial stores := ∀ replica, (stores replica).storage = .empty
  permitted _
    | .append _ event _ _ => issued event
    | .sync .. => True
  next := next format

end Stores

end

namespace Symbolic

/-- A device certificate signed by the account. -/
def deviceCertificate (name : String) : DeviceCertificate primitives :=
  let content : DeviceCertificate primitives := {
    accountId := accountIdForPublicKey (P := primitives) (Bytes.ofText "account")
    deviceId := name
    deviceEd25519PublicKey := Bytes.ofText name
    deviceX25519PublicKey := Bytes.ofText name
    signature := ⟨[], []⟩ }
  { content with
    signature := primitives.sign (Bytes.ofText "account") (deviceCertificateBytes content) }

end Symbolic

end CipherMesh
