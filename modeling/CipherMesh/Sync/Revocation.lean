import CipherMesh.Crypto.Symbolic
import CipherMesh.Foundation.Results
import CipherMesh.Storage.Devices
import CipherMesh.Sync.Round

/-!
# Revoked devices

A revocation that was verified and saved stays: later saves only replace it by another
verified revocation of the device.  The device is then never among the active ones, and
a sync with it is refused before a store is touched.
-/

namespace CipherMesh

open Foundation
open Foundation.Mutation

variable {P : Primitives}

/-! ## The checks of a certificate -/

theorem accountId_of_verifyDeviceCertificate {accountPublicKey : P.IdentityKey}
    {certificate : DeviceCertificate P}
    (verified : verifyDeviceCertificate accountPublicKey certificate = .ok ()) :
    certificate.accountId = accountIdForPublicKey accountPublicKey := by
  rw [verifyDeviceCertificate_eq, check_eq_ok_iff] at verified
  exact verified.1

theorem accountId_of_verifyDeviceRevocation {accountPublicKey : P.IdentityKey}
    {revocation : DeviceRevocation P}
    (verified : verifyDeviceRevocation accountPublicKey revocation = .ok ()) :
    revocation.accountId = accountIdForPublicKey accountPublicKey := by
  rw [verifyDeviceRevocation_eq, check_eq_ok_iff] at verified
  exact verified.1

/-- Some revocation in the list is about the device of the account. -/
def NamesRevoked (accountPublicKey : P.IdentityKey) (deviceId : DeviceId)
    (revocations : List (DeviceRevocation P)) : Prop :=
  ∃ revocation ∈ revocations, revocation.accountId = accountIdForPublicKey accountPublicKey ∧
    revocation.deviceId = deviceId

section

variable {accountPublicKey : P.IdentityKey} {certificate : DeviceCertificate P}
variable {revocations : List (DeviceRevocation P)} {deviceId : DeviceId}

/-- The revocation that decides about a certificate. -/
def decisiveRevocation (certificate : DeviceCertificate P)
    (revocations : List (DeviceRevocation P)) : Option (DeviceRevocation P) :=
  revocations.find? fun revocation =>
    revocation.accountId = certificate.accountId ∧ revocation.deviceId = certificate.deviceId

theorem isDeviceCurrentlyAuthorized_of_certified
    (certified : verifyDeviceCertificate accountPublicKey certificate = .ok ()) :
    isDeviceCurrentlyAuthorized accountPublicKey certificate revocations =
      match decisiveRevocation certificate revocations with
      | some revocation => (verifyDeviceRevocation accountPublicKey revocation).map fun _ => false
      | none => .ok true := by
  rw [isDeviceCurrentlyAuthorized, certified, decisiveRevocation]
  cases revocations.find? fun revocation =>
    revocation.accountId = certificate.accountId ∧
      revocation.deviceId = certificate.deviceId <;> rfl

theorem certified_of_authorized {authorized : Bool}
    (checked : isDeviceCurrentlyAuthorized accountPublicKey certificate revocations =
      .ok authorized) : verifyDeviceCertificate accountPublicKey certificate = .ok () := by
  obtain ⟨_, certified, -⟩ := bind_eq_ok_iff.mp checked
  exact certified

theorem decisiveRevocation_isSome
    (certified : verifyDeviceCertificate accountPublicKey certificate = .ok ()) :
    (decisiveRevocation certificate revocations).isSome ↔
      NamesRevoked accountPublicKey certificate.deviceId revocations := by
  rw [decisiveRevocation, List.find?_isSome, accountId_of_verifyDeviceCertificate certified,
    NamesRevoked]
  simp

/-- A device that is named is not authorized, whatever its revocation is worth. -/
theorem not_authorized_of_namesRevoked
    (revoked : NamesRevoked accountPublicKey certificate.deviceId revocations) :
    isDeviceCurrentlyAuthorized accountPublicKey certificate revocations ≠ .ok true := by
  intro authorized
  have certified := certified_of_authorized authorized
  obtain ⟨revocation, decisive⟩ := Option.isSome_iff_exists.mp
    ((decisiveRevocation_isSome certified).mpr revoked)
  rw [isDeviceCurrentlyAuthorized_of_certified certified, decisive] at authorized
  cases verified : verifyDeviceRevocation accountPublicKey revocation <;>
    simp [verified, Except.map] at authorized

/-- Where everything verifies, a device is authorized unless it is named. -/
theorem isDeviceCurrentlyAuthorized_of_verified
    (certified : verifyDeviceCertificate accountPublicKey certificate = .ok ())
    (verified : ∀ revocation ∈ revocations,
      verifyDeviceRevocation accountPublicKey revocation = .ok ()) :
    ∃ authorized, isDeviceCurrentlyAuthorized accountPublicKey certificate revocations =
      .ok authorized ∧
        (authorized = true ↔ ¬ NamesRevoked accountPublicKey certificate.deviceId revocations) := by
  rw [isDeviceCurrentlyAuthorized_of_certified certified,
    ← decisiveRevocation_isSome certified]
  cases decisive : decisiveRevocation certificate revocations with
  | none => exact ⟨true, rfl, by simp⟩
  | some revocation =>
      have valid := verified revocation (List.mem_of_find?_eq_some decisive)
      exact ⟨false, by simp only [valid, Except.map], by simp⟩

/-! ## Active devices -/

variable {certificates active : List (DeviceCertificate P)}

/-- Only authorized devices are active. -/
theorem authorized_of_mem_active
    (computed : activeDeviceCertificates accountPublicKey revocations certificates = .ok active)
    (member : certificate ∈ active) :
    isDeviceCurrentlyAuthorized accountPublicKey certificate revocations = .ok true := by
  induction certificates generalizing active with
  | nil =>
      cases computed
      cases member
  | cons head tail tailIH =>
      rw [activeDeviceCertificates] at computed
      obtain ⟨authorized, checked, computed⟩ := bind_eq_ok_iff.mp computed
      obtain ⟨others, rest, computed⟩ := bind_eq_ok_iff.mp computed
      cases computed
      cases authorized with
      | false => exact tailIH rest member
      | true =>
          rcases List.mem_cons.mp member with rfl | inTail
          · exact checked
          · exact tailIH rest inTail

/-- Where everything verifies, the active devices are those that are not named. -/
theorem activeDeviceCertificates_of_verified (unnamed : DeviceCertificate P → Bool)
    (unnamed_iff : ∀ certificate, unnamed certificate = true ↔
      ¬ NamesRevoked accountPublicKey certificate.deviceId revocations)
    (certified : ∀ certificate ∈ certificates,
      verifyDeviceCertificate accountPublicKey certificate = .ok ())
    (verified : ∀ revocation ∈ revocations,
      verifyDeviceRevocation accountPublicKey revocation = .ok ()) :
    activeDeviceCertificates accountPublicKey revocations certificates =
      .ok (certificates.filter unnamed) := by
  induction certificates with
  | nil => rfl
  | cons head tail tailIH =>
      obtain ⟨authorized, checked, authorized_iff⟩ :=
        isDeviceCurrentlyAuthorized_of_verified (certified head List.mem_cons_self) verified
      have sameAnswer : authorized = unnamed head := by
        rw [Bool.eq_iff_iff, authorized_iff, unnamed_iff]
      rw [activeDeviceCertificates, checked,
        tailIH fun certificate inTail => certified certificate (List.mem_cons_of_mem _ inTail),
        List.filter_cons, ← sameAnswer]
      rfl

/-! ## Sync -/

/-- A round with a named device ends before a store is touched. -/
theorem authorizeSiblingDevices_of_namesRevoked {left right : DeviceCertificate P}
    (revoked : NamesRevoked accountPublicKey deviceId revocations)
    (involved : left.deviceId = deviceId ∨ right.deviceId = deviceId) :
    ∃ error, authorizeSiblingDevices accountPublicKey left right revocations = .error error := by
  cases outcome : authorizeSiblingDevices accountPublicKey left right revocations with
  | error error => exact ⟨error, rfl⟩
  | ok =>
      exfalso
      rw [authorizeSiblingDevices] at outcome
      obtain ⟨_, -, outcome⟩ := bind_eq_ok_iff.mp outcome
      obtain ⟨leftAuthorized, leftChecked, outcome⟩ := bind_eq_ok_iff.mp outcome
      cases leftAuthorized with
      | false => cases outcome
      | true =>
          obtain ⟨rightAuthorized, rightChecked, outcome⟩ := bind_eq_ok_iff.mp outcome
          rw [mapError_eq_ok_iff] at leftChecked rightChecked
          cases rightAuthorized with
          | false => cases outcome
          | true =>
              rcases involved with rfl | rfl
              · exact not_authorized_of_namesRevoked revoked leftChecked
              · exact not_authorized_of_namesRevoked revoked rightChecked

end

/-! ## The device tables -/

/-- Deserialize the certificates of an account. -/
def loadDeviceCertificates (format : Format (DeviceCertificate P)) (accountId : AccountId) :
    Mutation Database AppError (List (DeviceCertificate P)) := do
  let blobs ← mapError .storage (Database.deviceCertificatesForAccount accountId)
  okOr .format (format.deserializeAll blobs)

def loadDeviceRevocations (format : Format (DeviceRevocation P)) (accountId : AccountId) :
    Mutation Database AppError (List (DeviceRevocation P)) := do
  let blobs ← mapError .storage (Database.deviceRevocationsForAccount accountId)
  okOr .format (format.deserializeAll blobs)

/-- The calls that write the device tables, each at some time and with statements that may
fail. -/
inductive DeviceStoreEvent where
  | saveDeviceCertificate (accountId : AccountId) (deviceId : DeviceId) (certificate : Bytes)
      (now : UInt64) (interruptions : List Bool)
  | saveDeviceRevocation (accountId : AccountId) (deviceId : DeviceId)
      (revocationCounter : UInt64) (revocation : Bytes) (now : UInt64)
      (interruptions : List Bool)

namespace DeviceStore

/-- The blob is a revocation of the device that verifies. -/
def Verified (format : Format (DeviceRevocation P)) (accountPublicKey : P.IdentityKey)
    (deviceId : DeviceId) (blob : Bytes) : Prop :=
  ∃ revocation, format.serialize revocation = some blob ∧
    verifyDeviceRevocation accountPublicKey revocation = .ok () ∧
    revocation.deviceId = deviceId

def next (database : Database) : DeviceStoreEvent → Database
  | .saveDeviceCertificate accountId deviceId certificate now interruptions =>
      ((Database.saveDeviceCertificate accountId deviceId certificate).run
        (database.opened now interruptions)).2
  | .saveDeviceRevocation accountId deviceId revocationCounter revocation now interruptions =>
      ((Database.saveDeviceRevocation accountId deviceId revocationCounter revocation).run
        (database.opened now interruptions)).2

/-- The runs in which a revocation for the account is verified before it is saved. -/
def system (format : Format (DeviceRevocation P)) (accountPublicKey : P.IdentityKey) :
    System Database DeviceStoreEvent where
  initial database := database.storage.deviceCertificates = .empty ∧
    database.storage.deviceRevocations = .empty
  permitted _
    | .saveDeviceCertificate .. => True
    | .saveDeviceRevocation accountId deviceId _ revocation _ _ =>
        accountId = accountIdForPublicKey accountPublicKey →
          Verified format accountPublicKey deviceId revocation
  next := next

/-- Every stored revocation of the account is verified. -/
def Sound (format : Format (DeviceRevocation P)) (accountPublicKey : P.IdentityKey)
    (storage : Storage) : Prop :=
  ∀ record ∈ storage.deviceRevocations,
    record.accountId = accountIdForPublicKey accountPublicKey →
      Verified format accountPublicKey record.deviceId record.revocation

/-- There is a revocation of the device of the account. -/
def Revokes (accountPublicKey : P.IdentityKey) (deviceId : DeviceId) (storage : Storage) : Prop :=
  storage.deviceRevocations.Contains (accountIdForPublicKey accountPublicKey, deviceId)

variable {format : Format (DeviceRevocation P)} {accountPublicKey : P.IdentityKey}
variable {deviceId : DeviceId} {database : Database}

theorem sound_save {storage : Storage} {new : DeviceRevocationRecord}
    (sound : Sound format accountPublicKey storage)
    (verified : new.accountId = accountIdForPublicKey accountPublicKey →
      Verified format accountPublicKey new.deviceId new.revocation) :
    Sound format accountPublicKey { storage with
      deviceRevocations := storage.deviceRevocations.upsert (storage.mergeRevocation new) } := by
  intro record member ours
  rcases Table.mem_upsert.mp member with rfl | ⟨old, _⟩
  · have device := storage.device_mergeRevocation new
    simp only [DeviceRevocationRecord.device, Prod.mk.injEq] at device
    rw [device.1] at ours
    rw [device.2]
    rcases storage.mergeRevocation_revocation new with same | ⟨old, oldMember, oldDevice, same⟩
    · rw [same]
      exact verified ours
    · simp only [DeviceRevocationRecord.device, Prod.mk.injEq] at oldDevice
      rw [same, ← oldDevice.2]
      exact sound old oldMember (oldDevice.1.trans ours)
  · exact sound record old ours

theorem revokes_save {storage : Storage} (revokes : Revokes accountPublicKey deviceId storage)
    (new : DeviceRevocationRecord) :
    Revokes accountPublicKey deviceId { storage with
      deviceRevocations := storage.deviceRevocations.upsert (storage.mergeRevocation new) } := by
  obtain ⟨record, member, same⟩ := revokes
  by_cases replaced : record.device = (storage.mergeRevocation new).device
  · exact ⟨_, Table.mem_upsert.mpr (.inl rfl), by rw [← replaced, same]⟩
  · exact ⟨record, Table.mem_upsert.mpr (.inr ⟨member, replaced⟩), same⟩

/-- What both kinds of save keep holds after every call, also when it fails. -/
theorem keeps_next (property : Storage → Prop) (event : DeviceStoreEvent)
    (holds : property database.storage)
    (certificate : ∀ storage record, property storage →
      property { storage with
        deviceCertificates := storage.deviceCertificates.upsert record })
    (revocation : ∀ storage accountId deviceId revocationCounter blob now interruptions,
      event = .saveDeviceRevocation accountId deviceId revocationCounter blob now interruptions →
      property storage →
      property { storage with
        deviceRevocations := storage.deviceRevocations.upsert
          (storage.mergeRevocation ⟨accountId, deviceId, revocationCounter, blob, now⟩) }) :
    property (next database event).storage := by
  cases event with
  | saveDeviceCertificate accountId deviceId blob now interruptions =>
      have keeps : (Database.saveDeviceCertificate accountId deviceId blob).Ensures
          (database.opened now interruptions)
          (fun _ after => property after.storage) (fun _ after => property after.storage) := by
        rw [Database.saveDeviceCertificate, ensures_bind, Database.ensures_nowUnixSecs]
        exact Database.ensures_execute holds (certificate _ _ holds)
      exact keeps.reached
  | saveDeviceRevocation accountId deviceId revocationCounter blob now interruptions =>
      have keeps : (Database.saveDeviceRevocation accountId deviceId revocationCounter
          blob).Ensures (database.opened now interruptions)
          (fun _ after => property after.storage) (fun _ after => property after.storage) := by
        rw [Database.saveDeviceRevocation, ensures_bind, Database.ensures_nowUnixSecs]
        exact Database.ensures_execute holds (revocation _ _ _ _ _ _ _ rfl holds)
      exact keeps.reached

theorem sound_of_reachable (reachable : (system format accountPublicKey).Reachable database) :
    Sound format accountPublicKey database.storage := by
  refine reachable.invariant (fun database => Sound format accountPublicKey database.storage)
    (fun start initial => ?_) fun database event sound permitted => ?_
  · rw [Sound, initial.2]
    exact fun record member => absurd member Table.notMem_empty
  · refine keeps_next (Sound format accountPublicKey) event sound (fun _ _ => id) ?_
    rintro storage accountId deviceId revocationCounter blob now interruptions rfl holds
    exact sound_save holds permitted

theorem revokes_of_reaches {later : Database}
    (revokes : Revokes accountPublicKey deviceId database.storage)
    (reaches : (system format accountPublicKey).Reaches database later) :
    Revokes accountPublicKey deviceId later.storage := by
  induction reaches with
  | refl => exact revokes
  | step event _ _ revoked =>
      refine keeps_next (Revokes accountPublicKey deviceId) event revoked (fun _ _ => id) ?_
      exact fun _ _ _ _ _ _ _ _ holds => revokes_save holds _

/-- Saving a revocation of the account revokes the device. -/
theorem revokes_of_saved {revocationCounter : UInt64} {blob : Bytes} {after : Database}
    (saved : (Database.saveDeviceRevocation (accountIdForPublicKey accountPublicKey) deviceId
      revocationCounter blob).run database = (.ok (), after)) :
    Revokes accountPublicKey deviceId after.storage := by
  have revokes : (Database.saveDeviceRevocation (accountIdForPublicKey accountPublicKey) deviceId
      revocationCounter blob).Ensures database
      (fun _ after => Revokes accountPublicKey deviceId after.storage) (fun _ _ => True) := by
    rw [Database.saveDeviceRevocation, ensures_bind, Database.ensures_nowUnixSecs]
    refine Database.ensures_execute True.intro ⟨_, Table.mem_upsert.mpr (.inl rfl), ?_⟩
    rw [Storage.device_mergeRevocation]
    rfl
  exact revokes.of_ok saved

/-! ## Loading -/

variable {certificateFormat : Format (DeviceCertificate P)} {after : Database}
variable {revocations : List (DeviceRevocation P)}

theorem loadDeviceRevocations_ensures {accountId : AccountId} :
    (loadDeviceRevocations format accountId).Ensures database
      (fun revocations _ => format.deserializeAll (database.storage.revocationsOf accountId) =
        some revocations) (fun _ _ => True) := by
  rw [loadDeviceRevocations, ensures_bind, ensures_mapError, Database.deviceRevocationsForAccount]
  refine Database.ensures_query True.intro ?_
  rw [ensures_okOr]
  exact ⟨fun _ => id, fun _ => True.intro⟩

theorem loadDeviceCertificates_ensures {accountId : AccountId} :
    (loadDeviceCertificates certificateFormat accountId).Ensures database
      (fun certificates _ => certificateFormat.deserializeAll
        (database.storage.certificatesOf accountId) = some certificates) (fun _ _ => True) := by
  rw [loadDeviceCertificates, ensures_bind, ensures_mapError,
    Database.deviceCertificatesForAccount]
  refine Database.ensures_query True.intro ?_
  rw [ensures_okOr]
  exact ⟨fun _ => id, fun _ => True.intro⟩

theorem mem_revocationsOf {storage : Storage} {accountId : AccountId} {blob : Bytes} :
    blob ∈ storage.revocationsOf accountId ↔
      ∃ record ∈ storage.deviceRevocations, record.accountId = accountId ∧
        record.revocation = blob := by
  simp [Storage.revocationsOf, and_assoc]

/-- The blobs of a sound store deserialize to the revocations that were serialized. -/
theorem Sound.deserialize {storage : Storage} (sound : Sound format accountPublicKey storage)
    (roundTrip : format.RoundTrip) {record : DeviceRevocationRecord}
    (member : record ∈ storage.deviceRevocations)
    (ours : record.accountId = accountIdForPublicKey accountPublicKey) :
    ∃ revocation, format.deserialize record.revocation = some revocation ∧
      verifyDeviceRevocation accountPublicKey revocation = .ok () ∧
      revocation.deviceId = record.deviceId := by
  obtain ⟨revocation, serialized, verified⟩ := sound record member ours
  exact ⟨revocation, roundTrip serialized, verified⟩

section

variable {storage : Storage} (sound : Sound format accountPublicKey storage)
variable (roundTrip : format.RoundTrip)
variable (loaded : format.deserializeAll
  (storage.revocationsOf (accountIdForPublicKey accountPublicKey)) = some revocations)

include sound roundTrip loaded

theorem verified_of_loaded {revocation : DeviceRevocation P} (member : revocation ∈ revocations) :
    verifyDeviceRevocation accountPublicKey revocation = .ok () := by
  obtain ⟨blob, blobMember, decoded⟩ := (Format.mem_of_deserializeAll loaded).mp member
  obtain ⟨record, recordMember, ours, rfl⟩ := mem_revocationsOf.mp blobMember
  obtain ⟨stored, storedDecoded, verified, _⟩ := sound.deserialize roundTrip recordMember ours
  rw [storedDecoded] at decoded
  cases decoded
  exact verified

/-- The loaded revocations name the devices that have a row. -/
theorem namesRevoked_iff :
    NamesRevoked accountPublicKey deviceId revocations ↔
      Revokes accountPublicKey deviceId storage := by
  constructor
  · rintro ⟨revocation, member, _, rfl⟩
    obtain ⟨blob, blobMember, decoded⟩ := (Format.mem_of_deserializeAll loaded).mp member
    obtain ⟨record, recordMember, ours, rfl⟩ := mem_revocationsOf.mp blobMember
    obtain ⟨stored, storedDecoded, _, sameDevice⟩ :=
      sound.deserialize roundTrip recordMember ours
    rw [storedDecoded] at decoded
    cases decoded
    exact ⟨record, recordMember, Prod.ext ours sameDevice.symm⟩
  · rintro ⟨record, recordMember, same⟩
    obtain ⟨ours, sameDevice⟩ := Prod.mk.inj same
    obtain ⟨stored, storedDecoded, verified, storedDevice⟩ :=
      sound.deserialize roundTrip recordMember ours
    refine ⟨stored, (Format.mem_of_deserializeAll loaded).mpr ⟨_, ?_, storedDecoded⟩,
      accountId_of_verifyDeviceRevocation verified, storedDevice.trans sameDevice⟩
    exact mem_revocationsOf.mpr ⟨record, recordMember, ours, rfl⟩

end

/-- Once a verified revocation of a device has been saved, then after any later saves: the
active devices computed from what is loaded never include the device; the certificates that are
loaded are those of the account's rows, each once and by device, and where all of them verify,
exactly those of devices without a stored revocation are active; and every sync with the device
fails and leaves the stores. -/
theorem revocation_permanent (Replica : Type) [DecidableEq Replica]
    (roundTrip : format.RoundTrip) {before after later : Database}
    (reachable : (system format accountPublicKey).Reachable before)
    {revocation : DeviceRevocation P} {blob : Bytes}
    (verified : verifyDeviceRevocation accountPublicKey revocation = .ok ())
    (serialized : format.serialize revocation = some blob) {now readNow : UInt64}
    {interruptions : List Bool}
    (saved : (Database.saveDeviceRevocation revocation.accountId revocation.deviceId
      revocation.revocationCounter blob).run (before.opened now interruptions) = (.ok (), after))
    (reaches : (system format accountPublicKey).Reaches after later)
    {certificates : List (DeviceCertificate P)} {readCertificates readRevocations : List Bool}
    {certificatesRead revocationsRead : Database}
    (certificatesLoaded : (loadDeviceCertificates certificateFormat revocation.accountId).run
      (later.opened readNow readCertificates) = (.ok certificates, certificatesRead))
    (revocationsLoaded : (loadDeviceRevocations format revocation.accountId).run
      (later.opened readNow readRevocations) = (.ok revocations, revocationsRead)) :
    (∀ active, activeDeviceCertificates accountPublicKey revocations certificates = .ok active →
      ∀ certificate ∈ active, certificate.deviceId ≠ revocation.deviceId) ∧
    certificateFormat.deserializeAll (later.storage.certificatesOf revocation.accountId) =
      some certificates ∧
    (∃ rows, later.storage.HasCertificates revocation.accountId rows ∧
      certificateFormat.deserializeAll (rows.map DeviceCertificateRecord.certificate) =
        some certificates) ∧
    ((∀ certificate ∈ certificates,
        verifyDeviceCertificate accountPublicKey certificate = .ok ()) →
      activeDeviceCertificates accountPublicKey revocations certificates =
        .ok (certificates.filter fun certificate =>
          ∀ record ∈ later.storage.deviceRevocations.rows,
            record.accountId = revocation.accountId →
              record.deviceId ≠ certificate.deviceId)) ∧
    ∀ (syncFormat : Format SyncResponse) (left right : DeviceCertificate P)
      (leftReplica rightReplica : Replica) (conversationId : String) (stores : Stores Replica),
      left.deviceId = revocation.deviceId ∨ right.deviceId = revocation.deviceId →
      ∃ error, (syncAuthorizedSiblingDevices syncFormat accountPublicKey left right revocations
        leftReplica rightReplica conversationId).run stores = (.error error, stores) := by
  have account := accountId_of_verifyDeviceRevocation verified
  rw [account] at saved revocationsLoaded
  have isNext : (system format accountPublicKey).next before (.saveDeviceRevocation
      (accountIdForPublicKey accountPublicKey) revocation.deviceId
      revocation.revocationCounter blob now interruptions) = after := by
    simp only [system, next, saved]
  have savedReachable : (system format accountPublicKey).Reachable after := by
    obtain ⟨start, initial, run⟩ := reachable
    exact ⟨start, initial, isNext ▸ run.step _ fun _ => ⟨revocation, serialized, verified, rfl⟩⟩
  have laterSound : Sound format accountPublicKey later.storage := by
    obtain ⟨start, initial, run⟩ := savedReachable
    exact sound_of_reachable ⟨start, initial, run.trans reaches⟩
  have loaded := loadDeviceRevocations_ensures.of_ok revocationsLoaded
  have named_iff : ∀ deviceId, NamesRevoked accountPublicKey deviceId revocations ↔
      Revokes accountPublicKey deviceId later.storage :=
    fun _ => namesRevoked_iff laterSound roundTrip loaded
  have named := (named_iff revocation.deviceId).mpr
    (revokes_of_reaches (revokes_of_saved saved) reaches)
  have stored := loadDeviceCertificates_ensures.of_ok certificatesLoaded
  refine ⟨?_, stored, ?_, fun certified => ?_, ?_⟩
  · rintro active computed certificate member same
    rw [← same] at named
    exact not_authorized_of_namesRevoked named (authorized_of_mem_active computed member)
  · obtain ⟨rows, has, same⟩ := later.storage.exists_certificatesOf revocation.accountId
    exact ⟨rows, has, same ▸ stored⟩
  · refine activeDeviceCertificates_of_verified _ (fun certificate => ?_) certified
      fun revocation => verified_of_loaded laterSound roundTrip loaded
    rw [named_iff, decide_eq_true_iff, account]
    constructor
    · rintro unnamed ⟨record, member, same⟩
      obtain ⟨ours, device⟩ := Prod.mk.inj same
      exact unnamed record member ours device
    · intro notRevoked record member ours device
      exact notRevoked ⟨record, member, Prod.ext ours device⟩
  · intro syncFormat left right leftReplica rightReplica conversationId stores involved
    obtain ⟨error, refused⟩ := authorizeSiblingDevices_of_namesRevoked named involved
    refine ⟨error, ?_⟩
    rw [syncAuthorizedSiblingDevices, refused]
    rfl

end DeviceStore

/-! ## A revoked phone -/

namespace Symbolic

def phoneRevocation : DeviceRevocation primitives :=
  let content : DeviceRevocation primitives := {
    accountId := accountIdForPublicKey (P := primitives) (Bytes.ofText "account")
    deviceId := "phone"
    revocationCounter := 1
    signature := ⟨[], []⟩ }
  { content with
    signature := primitives.sign (Bytes.ofText "account") (deviceRevocationBytes content) }

instance : DecidableEq primitives.Signature := inferInstanceAs (DecidableEq Signature)

instance : DecidableEq (DeviceRevocation primitives) := fun first second =>
  decidable_of_iff (first.accountId = second.accountId ∧ first.deviceId = second.deviceId ∧
      first.revocationCounter = second.revocationCounter ∧
      first.signature = second.signature) (by
    cases first
    cases second
    simp only [DeviceRevocation.mk.injEq])

instance : DecidableEq (DeviceCertificate primitives) := fun first second =>
  decidable_of_iff (first.accountId = second.accountId ∧ first.deviceId = second.deviceId ∧
      first.deviceEd25519PublicKey = second.deviceEd25519PublicKey ∧
      first.deviceX25519PublicKey = second.deviceX25519PublicKey ∧
      first.signature = second.signature) (by
    cases first
    cases second
    simp only [DeviceCertificate.mk.injEq])

def revocationFormat : Format (DeviceRevocation primitives) := .listed [phoneRevocation]

def certificateFormat : Format (DeviceCertificate primitives) :=
  .listed [deviceCertificate "laptop", deviceCertificate "phone"]

def account : AccountId := accountIdForPublicKey (P := primitives) (Bytes.ofText "account")

def saveCertificate (name : String) (certificate : Bytes) : DeviceStoreEvent :=
  .saveDeviceCertificate account name certificate 0 []

/-- The certificates of a laptop and a phone are stored. -/
def certifiedStore : Database :=
  (DeviceStore.system revocationFormat (Bytes.ofText "account")).run ⟨.empty, 0, []⟩
    [saveCertificate "laptop" [], saveCertificate "phone" [0]]

def revokedStore : Database :=
  ((Database.saveDeviceRevocation phoneRevocation.accountId phoneRevocation.deviceId
    phoneRevocation.revocationCounter []).run (certifiedStore.opened 0 [])).2

/-- The certificate of the revoked phone is saved once more. -/
def recertifiedStore : Database :=
  (DeviceStore.system revocationFormat (Bytes.ofText "account")).run revokedStore
    [saveCertificate "phone" [0]]

theorem loads_recertified :
    ((loadDeviceCertificates certificateFormat account).run
      (recertifiedStore.opened 0 [])).1 =
        .ok [deviceCertificate "laptop", deviceCertificate "phone"] ∧
      ((loadDeviceRevocations revocationFormat account).run
        (recertifiedStore.opened 0 [])).1 = .ok [phoneRevocation] := by
  decide +kernel

/-- Only the laptop stays active. -/
theorem phone_stays_revoked :
    activeDeviceCertificates (P := primitives) (Bytes.ofText "account") [phoneRevocation]
      [deviceCertificate "laptop", deviceCertificate "phone"] =
        .ok [deviceCertificate "laptop"] := by
  have certified : (DeviceStore.system revocationFormat (Bytes.ofText "account")).Permits
      ⟨.empty, 0, []⟩ [saveCertificate "laptop" [], saveCertificate "phone" [0]] :=
    ⟨trivial, trivial, trivial⟩
  have recertified : (DeviceStore.system revocationFormat (Bytes.ofText "account")).Permits
      revokedStore [saveCertificate "phone" [0]] :=
    ⟨trivial, trivial⟩
  have saved : (Database.saveDeviceRevocation phoneRevocation.accountId phoneRevocation.deviceId
      phoneRevocation.revocationCounter []).run (certifiedStore.opened 0 []) =
        (.ok (), revokedStore) := rfl
  have permanent := DeviceStore.revocation_permanent Bool
    (Format.roundTrip_listed [phoneRevocation])
    (show (DeviceStore.system revocationFormat (Bytes.ofText "account")).Reachable certifiedStore
      from ⟨_, ⟨rfl, rfl⟩, certified.reaches⟩)
    (show verifyDeviceRevocation (P := primitives) (Bytes.ofText "account") phoneRevocation =
      .ok () by decide +kernel)
    (show revocationFormat.serialize phoneRevocation = some [] by decide +kernel)
    saved recertified.reaches
    (Prod.ext loads_recertified.1 rfl) (Prod.ext loads_recertified.2 rfl)
  refine (permanent.2.2.2.1 ?_).trans ?_
  · decide +kernel
  · decide +kernel

end Symbolic

end CipherMesh
