import CipherMesh.Storage.Database
import Mathlib.Data.String.Basic

/-!
# Stored certificates and revocations

Certificates and revocations are stored as serialized blobs under the account and the
device they are about.  A revocation gives way only to one with a counter that is at
least as large.
-/

namespace CipherMesh

open Foundation
open Foundation.Mutation

namespace Storage

/-- The row that `ON CONFLICT DO UPDATE` leaves for a revocation. -/
def mergeRevocation (storage : Storage) (new : DeviceRevocationRecord) : DeviceRevocationRecord :=
  match storage.deviceRevocations.find new.device with
  | none => new
  | some old =>
      if asI64 old.revocationCounter ≤ asI64 new.revocationCounter then new
      else
        { new with
          revocationCounter := old.revocationCounter
          revocation := old.revocation }

@[simp] theorem device_mergeRevocation (storage : Storage) (new : DeviceRevocationRecord) :
    (storage.mergeRevocation new).device = new.device := by
  unfold mergeRevocation
  split
  · rfl
  · split <;> rfl

/-- Every row after a revocation was saved has an old blob or the new one. -/
theorem mergeRevocation_revocation (storage : Storage) (new : DeviceRevocationRecord) :
    (storage.mergeRevocation new).revocation = new.revocation ∨
      ∃ old ∈ storage.deviceRevocations, old.device = new.device ∧
        (storage.mergeRevocation new).revocation = old.revocation := by
  unfold mergeRevocation
  split
  · exact .inl rfl
  · next old found =>
      split
      · exact .inl rfl
      · obtain ⟨member, same⟩ := Table.find_eq_some.mp found
        exact .inr ⟨old, member, same, rfl⟩

/-- The blobs of an account's certificates in the order of the devices. -/
def certificatesOf (accountId : String) (storage : Storage) : List Bytes :=
  (storage.deviceCertificates.select (fun record => record.accountId = accountId)
    DeviceCertificateRecord.deviceId).map DeviceCertificateRecord.certificate

/-- The rows are those of the account's certificates, each once, by ascending device. -/
structure HasCertificates (accountId : String) (rows : List DeviceCertificateRecord)
    (storage : Storage) : Prop where
  selected : ∀ row, row ∈ rows ↔ row ∈ storage.deviceCertificates ∧ row.accountId = accountId
  ascending : rows.Pairwise fun first second => first.deviceId < second.deviceId

/-- What `certificatesOf` reads. -/
theorem exists_certificatesOf (accountId : String) (storage : Storage) :
    ∃ rows, storage.HasCertificates accountId rows ∧
      storage.certificatesOf accountId = rows.map DeviceCertificateRecord.certificate := by
  refine ⟨_, ⟨fun row => ?_, Table.pairwise_lt_select ?_⟩, rfl⟩
  · rw [Table.mem_select, decide_eq_true_iff]
  · intro row other ours otherOurs same
    exact Prod.ext ((of_decide_eq_true ours).trans (of_decide_eq_true otherOurs).symm) same

def revocationsOf (accountId : String) (storage : Storage) : List Bytes :=
  (storage.deviceRevocations.select (fun record => record.accountId = accountId)
    DeviceRevocationRecord.deviceId).map DeviceRevocationRecord.revocation

end Storage

namespace Database

open Storage

def saveDeviceCertificate (accountId deviceId : String) (certificate : Bytes) :
    StorageResult Unit := do
  let now ← nowUnixSecs
  execute fun storage =>
    { storage with
      deviceCertificates := storage.deviceCertificates.upsert
        ⟨accountId, deviceId, certificate, now⟩ }

def deviceCertificatesForAccount (accountId : String) : StorageResult (List Bytes) :=
  query (certificatesOf accountId)

def saveDeviceRevocation (accountId deviceId : String) (revocationCounter : UInt64)
    (revocation : Bytes) : StorageResult Unit := do
  let now ← nowUnixSecs
  execute fun storage =>
    { storage with
      deviceRevocations := storage.deviceRevocations.upsert
        (storage.mergeRevocation ⟨accountId, deviceId, revocationCounter, revocation, now⟩) }

def deviceRevocationsForAccount (accountId : String) : StorageResult (List Bytes) :=
  query (revocationsOf accountId)

end Database

end CipherMesh
