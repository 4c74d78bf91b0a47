import CipherMesh.Crypto.Primitives
import CipherMesh.Foundation.Ensures
import CipherMesh.Foundation.Table
import Mathlib.Data.Int.ConditionallyCompleteOrder
import Mathlib.Order.ConditionallyCompleteLattice.Basic

/-!
# The database

`Storage` is the content of the SQLite file: one table for each `CREATE TABLE`
that the modelled code uses.  A `Database` is an open connection.  Any statement
may fail, for a full disk or because the process is stopped; the plan of failures
is part of the connection, so that a run of the model is determined by its events.
-/

namespace CipherMesh

open Foundation
open Foundation.Mutation

inductive MessageDirection where
  | sent
  | received
  deriving DecidableEq, Repr

inductive MessageStatus where
  | stored
  | sent
  | received
  deriving DecidableEq, Repr

inductive OutboxStatus where
  | pending
  | delivered
  deriving DecidableEq, Repr

/-- The order of the integers that SQLite stores: `value as i64`. -/
def asI64 (value : UInt64) : Int := value.toInt64.toInt

theorem asI64_injective : Function.Injective asI64 := by
  intro first second same
  have sameSigned := Int64.toInt_inj.mp same
  rw [← UInt64.toUInt64_toInt64 first, sameSigned, UInt64.toUInt64_toInt64]

/-- The number fits the signed integers of SQL. -/
def Representable (seconds : UInt64) : Prop := seconds.toNat < 2 ^ 63

theorem Representable.asI64_eq {seconds : UInt64} (fits : Representable seconds) :
    asI64 seconds = seconds.toNat :=
  BitVec.toInt_eq_toNat_of_lt (show 2 * seconds.toNat < 2 ^ 64 by
    rw [Representable] at fits
    omega)

theorem asI64_of_not_representable {seconds : UInt64} (beyond : ¬ Representable seconds) :
    asI64 seconds = seconds.toNat - 2 ^ 64 := by
  have negative : ¬ 2 * seconds.toNat < 2 ^ 64 := by
    rw [Representable] at beyond
    omega
  exact (BitVec.toInt_eq_toNat_cond seconds.toBitVec).trans (if_neg negative)

theorem representable_of_asI64_nonneg {seconds : UInt64} (nonneg : 0 ≤ asI64 seconds) :
    Representable seconds := by
  have below : ¬ 2 ^ 64 ≤ 2 * seconds.toNat := fun above =>
    absurd (BitVec.toInt_neg_iff.mpr above) (Int.not_lt.mpr nonneg)
  rw [Representable]
  omega

theorem asI64_le_asI64 {first second : UInt64} (firstFits : Representable first)
    (secondFits : Representable second) : asI64 first ≤ asI64 second ↔ first ≤ second := by
  rw [firstFits.asI64_eq, secondFits.asI64_eq, Int.ofNat_le, UInt64.le_iff_toNat_le]

structure LocalIdentityRecord where
  id : String
  role : String
  state : Bytes
  updatedAtUnixSecs : UInt64
  deriving DecidableEq

structure SessionRecord where
  conversationId : String
  peerId : String
  role : String
  state : Bytes
  updatedAtUnixSecs : UInt64
  deriving DecidableEq

structure MessageRecord where
  messageId : String
  conversationId : String
  senderId : String
  recipientId : String
  direction : MessageDirection
  status : MessageStatus
  protocolCounter : Option Nat
  ciphertext : Bytes
  plaintext : Option String
  createdAtUnixSecs : UInt64
  deriving DecidableEq

structure OutboxItem where
  messageId : String
  recipientId : String
  payload : Bytes
  status : OutboxStatus
  retryCount : Nat
  createdAtUnixSecs : UInt64
  lastAttemptUnixSecs : Option UInt64
  deriving DecidableEq

structure AcceptedMessage where
  messageId : String
  acceptedAtUnixSecs : UInt64
  deriving DecidableEq

structure NewMessage where
  messageId : String
  conversationId : String
  markedAtUnixSecs : UInt64
  deriving DecidableEq

structure EventRecord where
  deviceId : String
  counter : UInt64
  conversationId : String
  eventType : String
  messageId : Option String
  payload : Bytes
  createdAtUnixSecs : UInt64
  deriving DecidableEq

/-- The primary key of an event. -/
def EventRecord.position (event : EventRecord) : String × UInt64 :=
  (event.deviceId, event.counter)

structure VersionEntry where
  conversationId : String
  deviceId : String
  contiguousCounter : UInt64
  deriving DecidableEq

def VersionEntry.key (entry : VersionEntry) : String × String :=
  (entry.conversationId, entry.deviceId)

structure DeviceCounter where
  deviceId : String
  nextCounter : Int64
  deriving DecidableEq

structure ContactRecord where
  contactId : String
  displayName : String
  identityPublicKey : Bytes
  discoveryHint : String
  savedAtUnixSecs : UInt64
  deriving DecidableEq

structure KnownPeerRecord where
  peerId : String
  identityPublicKey : Bytes
  displayName : String
  conversationId : String
  lastSeenAtUnixSecs : UInt64
  deriving DecidableEq

structure PendingPeerMessage where
  messageId : String
  peerId : String
  conversationId : String
  plaintext : String
  createdAtUnixSecs : UInt64
  retryCount : Nat
  lastAttemptUnixSecs : Option UInt64
  deriving DecidableEq

structure DeviceCertificateRecord where
  accountId : String
  deviceId : String
  certificate : Bytes
  updatedAtUnixSecs : UInt64
  deriving DecidableEq

/-- The primary key of a certificate. -/
def DeviceCertificateRecord.device (record : DeviceCertificateRecord) : String × String :=
  (record.accountId, record.deviceId)

structure DeviceRevocationRecord where
  accountId : String
  deviceId : String
  revocationCounter : UInt64
  revocation : Bytes
  updatedAtUnixSecs : UInt64
  deriving DecidableEq

/-- The primary key of a revocation. -/
def DeviceRevocationRecord.device (record : DeviceRevocationRecord) : String × String :=
  (record.accountId, record.deviceId)

structure Storage where
  localIdentity : Table LocalIdentityRecord.id
  sessions : Table SessionRecord.conversationId
  messages : Table MessageRecord.messageId
  outbox : Table OutboxItem.messageId
  acceptedMessages : Table AcceptedMessage.messageId
  newMessages : Table NewMessage.messageId
  eventHistory : Table EventRecord.position
  versionVectors : Table VersionEntry.key
  deviceCounters : Table DeviceCounter.deviceId
  contacts : Table ContactRecord.contactId
  knownPeers : Table KnownPeerRecord.peerId
  pendingPeerMessages : Table PendingPeerMessage.messageId
  deviceCertificates : Table DeviceCertificateRecord.device
  deviceRevocations : Table DeviceRevocationRecord.device

/-- The tables that `init` creates. -/
def Storage.empty : Storage where
  localIdentity := .empty
  sessions := .empty
  messages := .empty
  outbox := .empty
  acceptedMessages := .empty
  newMessages := .empty
  eventHistory := .empty
  versionVectors := .empty
  deviceCounters := .empty
  contacts := .empty
  knownPeers := .empty
  pendingPeerMessages := .empty
  deviceCertificates := .empty
  deviceRevocations := .empty

/-- `interrupted` is a failure outside the model, `constraint` a violated `UNIQUE`. -/
inductive StorageError where
  | interrupted
  | constraint
  deriving DecidableEq, Repr

/-- An open connection: the tables, the clock that `now_unix_secs` reads, and for the
statements to come whether they fail. -/
structure Database where
  storage : Storage
  now : UInt64
  interruptions : List Bool

abbrev StorageResult := Mutation Database StorageError

namespace Database

variable {Result : Type}

/-- Run one SQL statement. -/
def statement (effect : Storage → Except StorageError (Result × Storage)) :
    StorageResult Result := fun database =>
  let next := { database with interruptions := database.interruptions.tail }
  if database.interruptions.head? = some true then (.error .interrupted, next)
  else
    match effect database.storage with
    | .ok (value, storage) => (.ok value, { next with storage })
    | .error error => (.error error, next)

/-- A statement that only reads. -/
def query (read : Storage → Result) : StorageResult Result :=
  statement fun storage => .ok (read storage, storage)

/-- A statement that only writes. -/
def execute (write : Storage → Storage) : StorageResult Unit :=
  statement fun storage => .ok ((), write storage)

/-- Statements that take effect together when the last of them has succeeded. -/
def transaction (body : StorageResult Result) : StorageResult Result := fun database =>
  match (body >>= fun value => do execute id; pure value).run database with
  | (.ok value, reached) => (.ok value, reached)
  | (.error error, reached) => (.error error, { reached with storage := database.storage })

def nowUnixSecs : StorageResult UInt64 := do
  return (← get).now

variable {database : Database} {returned : Result → Database → Prop}
variable {failed : StorageError → Database → Prop}

/-- The connection after a statement that left this storage. -/
def advance (database : Database) (storage : Storage) : Database :=
  { database with storage, interruptions := database.interruptions.tail }

@[simp] theorem advance_storage (storage : Storage) :
    (database.advance storage).storage = storage := rfl

@[simp] theorem advance_now (storage : Storage) :
    (database.advance storage).now = database.now := rfl

theorem ensures_statement {effect : Storage → Except StorageError (Result × Storage)}
    (interrupted : failed .interrupted (database.advance database.storage))
    (completed : ∀ value storage, effect database.storage = .ok (value, storage) →
      returned value (database.advance storage))
    (refused : ∀ error, effect database.storage = .error error →
      failed error (database.advance database.storage)) :
    (statement effect).Ensures database returned failed := by
  unfold Ensures Mutation.run statement
  dsimp only
  split
  · next stop => split at stop <;> grind [advance]
  · next stop => split at stop <;> grind [advance]

theorem ensures_query {read : Storage → Result}
    (interrupted : failed .interrupted (database.advance database.storage))
    (completed : returned (read database.storage) (database.advance database.storage)) :
    (query read).Ensures database returned failed := by
  apply ensures_statement interrupted
  · rintro value storage ⟨⟩
    exact completed
  · rintro error ⟨⟩

/-- What a query returns was read from the tables, which it leaves. -/
theorem query_reads (read : Storage → Result) (database : Database) :
    (query read).Ensures database
      (fun value after => value = read database.storage ∧ after.storage = database.storage)
      (fun _ after => after.storage = database.storage) :=
  ensures_query rfl ⟨rfl, rfl⟩

theorem ensures_execute {write : Storage → Storage} {returned : Unit → Database → Prop}
    (interrupted : failed .interrupted (database.advance database.storage))
    (completed : returned () (database.advance (write database.storage))) :
    (execute write).Ensures database returned failed := by
  apply ensures_statement interrupted
  · rintro value storage ⟨⟩
    exact completed
  · rintro error ⟨⟩

@[simp] theorem ensures_nowUnixSecs {returned : UInt64 → Database → Prop} :
    nowUnixSecs.Ensures database returned failed ↔ returned database.now database :=
  Iff.rfl

/-! ## Properties of the tables -/

variable {property : Storage → Prop}

theorem keeps_statement {effect : Storage → Except StorageError (Result × Storage)}
    (keeps : ∀ storage value after, property storage →
      effect storage = .ok (value, after) → property after) :
    Keeps (fun database => property database.storage) (statement effect) := by
  intro database holds
  apply ensures_statement
  · exact holds
  · exact fun value after effected => keeps _ value after holds effected
  · exact fun _ _ => holds

theorem keeps_query (read : Storage → Result) :
    Keeps (fun database => property database.storage) (query read) :=
  fun _ holds => ensures_query holds holds

theorem keeps_execute {write : Storage → Storage}
    (keeps : ∀ storage, property storage → property (write storage)) :
    Keeps (fun database => property database.storage) (execute write) :=
  fun _ holds => ensures_execute holds (keeps _ holds)

theorem keeps_nowUnixSecs :
    Keeps (fun database => property database.storage) nowUnixSecs :=
  fun _ holds => holds

theorem ensures_transaction {body : StorageResult Result} :
    (transaction body).Ensures database returned failed ↔
      (body >>= fun value => do execute id; pure value).Ensures database returned
        fun error reached => failed error { reached with storage := database.storage } := by
  rcases outcome : (body >>= fun value => do execute id; pure value).run database with
    ⟨error | value, reached⟩
  · simp only [Ensures, Mutation.run, transaction] at outcome ⊢
    rw [outcome]
  · simp only [Ensures, Mutation.run, transaction] at outcome ⊢
    rw [outcome]

/-- A transaction that fails leaves the tables. -/
theorem keeps_transaction {body : StorageResult Result}
    (keeps : Keeps (fun database => property database.storage) body) :
    Keeps (fun database => property database.storage) (transaction body) := by
  intro database holds
  have commits : Keeps (fun database => property database.storage)
      (body >>= fun value => do execute id; pure value) :=
    .bind keeps fun value => .bind (keeps_execute fun _ => id) fun _ => .pure value
  exact ensures_transaction.mpr ((commits database holds).mono (fun _ _ => id) fun _ _ _ => holds)

/-- The next statements are not interrupted. -/
def Uninterrupted (count : Nat) (database : Database) : Prop :=
  true ∉ database.interruptions.take count

instance (count : Nat) : Decidable (database.Uninterrupted count) :=
  inferInstanceAs (Decidable (true ∉ _))

theorem Uninterrupted.head {count : Nat} (uninterrupted : database.Uninterrupted (count + 1)) :
    database.interruptions.head? ≠ some true := by
  rw [Uninterrupted] at uninterrupted
  cases interruptions : database.interruptions with
  | nil => simp
  | cons first rest =>
      rw [interruptions, List.take_succ_cons, List.mem_cons, not_or] at uninterrupted
      simpa [eq_comm] using uninterrupted.1

theorem Uninterrupted.advance {count : Nat} (uninterrupted : database.Uninterrupted (count + 1))
    (storage : Storage) : (database.advance storage).Uninterrupted count := by
  rw [Uninterrupted] at uninterrupted ⊢
  dsimp only [Database.advance]
  cases interruptions : database.interruptions with
  | nil => simp
  | cons first rest =>
      rw [interruptions, List.take_succ_cons, List.mem_cons, not_or] at uninterrupted
      exact uninterrupted.2

/-- A statement that cannot fail by itself fails exactly when it is interrupted. -/
theorem ensures_statement_iff {effect : Storage → Except StorageError (Result × Storage)}
    {value : Result} {after : Storage} (effected : effect database.storage = .ok (value, after)) :
    (statement effect).Ensures database returned failed ↔
      (database.interruptions.head? = some true →
        failed .interrupted (database.advance database.storage)) ∧
        (database.interruptions.head? ≠ some true → returned value (database.advance after)) := by
  by_cases stop : database.interruptions.head? = some true
  · simp only [Ensures, Mutation.run, statement, stop, if_true, advance, forall_const, ne_eq,
      not_true, false_implies, and_true]
  · simp only [Ensures, Mutation.run, statement, stop, if_false, effected, advance, forall_const,
      ne_eq, not_false_eq_true, false_implies, true_and]

theorem ensures_execute_iff {write : Storage → Storage} {returned : Unit → Database → Prop} :
    (execute write).Ensures database returned failed ↔
      (database.interruptions.head? = some true →
        failed .interrupted (database.advance database.storage)) ∧
        (database.interruptions.head? ≠ some true →
          returned () (database.advance (write database.storage))) :=
  ensures_statement_iff rfl

/-- No statement to come is interrupted. -/
def Undisturbed (database : Database) : Prop := database.interruptions = []

theorem succeeds_statement {effect : Storage → Except StorageError (Result × Storage)}
    (total : ∀ storage, ∃ value after, effect storage = .ok (value, after)) :
    Succeeds Undisturbed (statement effect) := by
  intro database undisturbed
  rw [Undisturbed] at undisturbed
  obtain ⟨value, after, effected⟩ := total database.storage
  simp [Ensures, Mutation.run, statement, effected, undisturbed, Undisturbed]

theorem succeeds_query (read : Storage → Result) : Succeeds Undisturbed (query read) :=
  succeeds_statement fun _ => ⟨_, _, rfl⟩

theorem succeeds_execute (write : Storage → Storage) : Succeeds Undisturbed (execute write) :=
  succeeds_statement fun _ => ⟨_, _, rfl⟩

theorem succeeds_nowUnixSecs : Succeeds Undisturbed nowUnixSecs :=
  fun _ undisturbed => undisturbed

/-- The connection at the start of a call: the clock and the failures are those of the
moment. -/
def opened (database : Database) (now : UInt64) (interruptions : List Bool) : Database :=
  { database with now, interruptions }

@[simp] theorem opened_storage (now : UInt64) (interruptions : List Bool) :
    (database.opened now interruptions).storage = database.storage := rfl

end Database

/-- The errors that the application boxes. -/
inductive AppError where
  | crypto (error : CryptoError)
  | storage (error : StorageError)
  | format
  | message (text : String)
  deriving DecidableEq, Repr

end CipherMesh
