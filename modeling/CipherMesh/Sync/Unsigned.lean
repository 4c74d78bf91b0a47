import CipherMesh.Foundation.Greatest
import CipherMesh.Mailbox.Server
import CipherMesh.Storage.Devices
import CipherMesh.Sync.Vectors

/-!
# Numbers beyond the signed range

Counters and expiries are unsigned on the wire, and signed in a column.  What is compared
in a statement is compared as signed numbers: where a number does not fit, the prefix of a
device is lost, an older revocation stays and an envelope expires at once.
-/

namespace CipherMesh

open Foundation
open Foundation.Mutation

/-! ## Version vectors -/

namespace Storage

variable {storage : Storage} {conversationId deviceId : String} {event : EventRecord}

/-- The statement of `append_event`. -/
def withEvent (event : EventRecord) (storage : Storage) : Storage :=
  { storage with eventHistory := storage.eventHistory.insertOrIgnore event }

/-- What a vector says about a device. -/
def entryOf (conversationId deviceId : String) (storage : Storage) : UInt64 :=
  ((storage.vectorOf conversationId).lookup deviceId).getD 0

theorem not_representable_of_asI64_le {first second : UInt64}
    (order : asI64 first ≤ asI64 second) (beyond : ¬Representable second) :
    ¬Representable first := by
  intro fits
  rw [fits.asI64_eq, asI64_of_not_representable beyond] at order
  have bound := second.toNat_lt
  omega

/-- A counter that does not fit is listed first, and ends the prefix before it begins. -/
theorem contiguousFrom_of_not_representable {counters : List UInt64} {counter : UInt64}
    (sorted : counters.Pairwise fun first second => asI64 first ≤ asI64 second)
    (member : counter ∈ counters) (beyond : ¬Representable counter) :
    contiguousFrom 0 counters = 0 := by
  cases counters with
  | nil => cases member
  | cons head tail =>
      have headBeyond : ¬Representable head := by
        rcases List.mem_cons.mp member with rfl | inTail
        · exact beyond
        · exact not_representable_of_asI64_le (List.rel_of_pairwise_cons sorted inTail) beyond
      have large : 2 ^ 63 ≤ head.toNat := by
        rw [Representable] at headBeyond
        omega
      have one : ((0 : UInt64) + 1).toNat = 1 := rfl
      have notNext : head ≠ 0 + 1 := by
        rintro rfl
        rw [one] at large
        omega
      have gap : head > 0 + 1 := by
        rw [gt_iff_lt, UInt64.lt_iff_toNat_lt, one]
        omega
      rw [contiguousFrom, if_neg notNext, if_pos gap]

/-- The counters of a device in a conversation fit the column. -/
def CountersFit (storage : Storage) (conversationId deviceId : String) : Prop :=
  ∀ counter, storage.HasEvent conversationId deviceId counter → Representable counter

/-- An entry is at most what the loop finds if it is zero, or if it counts stored events
and all of them fit. -/
theorem le_contiguousFrom_countersOf_iff (entry : UInt64) :
    entry ≤ contiguousFrom 0 (storage.countersOf conversationId deviceId) ↔
      entry = 0 ∨ (storage.CountersFit conversationId deviceId ∧
        storage.HasPrefix conversationId deviceId entry) := by
  by_cases fits : storage.CountersFit conversationId deviceId
  · have greatest : storage.LastContiguous conversationId deviceId
        (contiguousFrom 0 (storage.countersOf conversationId deviceId)) :=
      lastContiguous_contiguousFrom fun event member conversation device =>
        fits _ ⟨event, member, conversation, device, rfl⟩
    constructor
    · intro below
      exact .inr ⟨fits, fun counter positive order =>
        greatest.1 counter positive (UInt64.le_trans order below)⟩
    · rintro (rfl | ⟨-, isPrefix⟩)
      · exact UInt64.zero_le
      · exact greatest.2 isPrefix
  · obtain ⟨counter, stored, beyond⟩ : ∃ counter,
        storage.HasEvent conversationId deviceId counter ∧ ¬Representable counter := by
      simpa [CountersFit] using fits
    rw [contiguousFrom_of_not_representable (pairwise_countersOf ..)
      (mem_countersOf.mpr stored) beyond]
    simp [fits]

/-- The tables after an event was appended. -/
def appended (event : EventRecord) (storage : Storage) : Storage :=
  let inserted := storage.withEvent event
  { inserted with
    versionVectors := inserted.versionVectors.upsert ⟨event.conversationId, event.deviceId,
      contiguousFrom 0 (inserted.countersOf event.conversationId event.deviceId)⟩ }

theorem entryOf_appended_self (event : EventRecord) (storage : Storage) :
    (storage.appended event).entryOf event.conversationId event.deviceId =
      contiguousFrom 0
        ((storage.withEvent event).countersOf event.conversationId event.deviceId) := by
  have found : (storage.appended event).versionVectors.find
      (event.conversationId, event.deviceId) =
        some ⟨event.conversationId, event.deviceId, contiguousFrom 0
          ((storage.withEvent event).countersOf event.conversationId event.deviceId)⟩ :=
    Table.find_upsert_self _ _
  rw [entryOf, lookup_vectorOf, found]
  rfl

theorem entryOf_appended_of_ne (storage : Storage)
    (other : (conversationId, deviceId) ≠ (event.conversationId, event.deviceId)) :
    (storage.appended event).entryOf conversationId deviceId =
      storage.entryOf conversationId deviceId := by
  have kept : (storage.appended event).versionVectors.find (conversationId, deviceId) =
      storage.versionVectors.find (conversationId, deviceId) :=
    Table.find_upsert_of_ne _ other
  rw [entryOf, entryOf, lookup_vectorOf, lookup_vectorOf, kept]

end Storage

namespace Database

variable {database after : Database} {event : EventRecord} {inserted : Bool}

theorem appendEvent_appended :
    (appendEvent event).Ensures database
      (fun _ after => after.storage = database.storage.appended event) (fun _ _ => True) := by
  rw [appendEvent, ensures_bind]
  refine ensures_statement trivial (fun inserted storage effected => ?_) fun _ _ => trivial
  cases effected
  rw [ensures_bind, refreshVectorForDevice, ensures_bind]
  exact ensures_query trivial (ensures_execute trivial rfl)

/-- An append that returns lowers no entry exactly if that of its device is zero, or the
counters of the device fit, with the new one, and the entry counts stored events. -/
theorem appendEvent_lowers_nothing_iff
    (appends : (appendEvent event).run database = (.ok inserted, after)) :
    (∀ conversationId deviceId, database.storage.entryOf conversationId deviceId ≤
        after.storage.entryOf conversationId deviceId) ↔
      database.storage.entryOf event.conversationId event.deviceId = 0 ∨
        ((database.storage.withEvent event).CountersFit event.conversationId event.deviceId ∧
          (database.storage.withEvent event).HasPrefix event.conversationId event.deviceId
            (database.storage.entryOf event.conversationId event.deviceId)) := by
  rw [appendEvent_appended.of_ok appends, ← Storage.le_contiguousFrom_countersOf_iff,
    ← Storage.entryOf_appended_self]
  constructor
  · exact fun keeps => keeps event.conversationId event.deviceId
  · intro keeps conversationId deviceId
    by_cases same : (conversationId, deviceId) = (event.conversationId, event.deviceId)
    · obtain ⟨rfl, rfl⟩ := Prod.mk.inj same
      exact keeps
    · rw [Storage.entryOf_appended_of_ne _ same]
      exact UInt64.le_refl _

end Database

/-! ## Revocations -/

/-- A call of `save_device_revocation` for a device. -/
structure RevocationCall where
  revocationCounter : UInt64
  revocation : Bytes
  now : UInt64

namespace RevocationCall

/-- The counter as the number that it stands for. -/
def magnitude (call : RevocationCall) : Nat := call.revocationCounter.toNat

/-- Calls for one device that all return. -/
def saveAll (accountId deviceId : String) (calls : List RevocationCall) (database : Database) :
    Database :=
  calls.foldl (fun database call =>
    ((Database.saveDeviceRevocation accountId deviceId call.revocationCounter
      call.revocation).run (database.opened call.now [])).2) database

def storedFor (accountId deviceId : String) (database : Database) : Option Bytes :=
  (database.storage.deviceRevocations.find (accountId, deviceId)).map
    DeviceRevocationRecord.revocation

variable {accountId deviceId : String} {database : Database} {calls : List RevocationCall}

/-- What a call leaves for the device. -/
theorem find_saved (call : RevocationCall) :
    (((Database.saveDeviceRevocation accountId deviceId call.revocationCounter
      call.revocation).run (database.opened call.now [])).2.storage.deviceRevocations.find
        (accountId, deviceId)) = some (database.storage.mergeRevocation
          ⟨accountId, deviceId, call.revocationCounter, call.revocation, call.now⟩) := by
  have device := Storage.device_mergeRevocation database.storage
    ⟨accountId, deviceId, call.revocationCounter, call.revocation, call.now⟩
  refine Eq.trans ?_ (Table.find_upsert_self database.storage.deviceRevocations _)
  rw [device]
  rfl

/-- The row of the device is that of the last call with the greatest signed counter. -/
theorem find_saveAll (fresh : database.storage.deviceRevocations.find (accountId, deviceId) = none)
    (nonempty : calls ≠ []) :
    ∃ call, LastGreatest (fun call => asI64 call.revocationCounter) calls call ∧
      ∃ row, (saveAll accountId deviceId calls database).storage.deviceRevocations.find
        (accountId, deviceId) = some row ∧ row.revocationCounter = call.revocationCounter ∧
          row.revocation = call.revocation := by
  induction calls using List.reverseRecOn with
  | nil => exact absurd rfl nonempty
  | append_singleton calls last callsIH =>
      have step : saveAll accountId deviceId (calls ++ [last]) database =
          ((Database.saveDeviceRevocation accountId deviceId last.revocationCounter
            last.revocation).run
              ((saveAll accountId deviceId calls database).opened last.now [])).2 := by
        rw [saveAll, List.foldl_append]
        rfl
      rw [step, find_saved]
      by_cases empty : calls = []
      · subst empty
        refine ⟨last, .append_of_le nofun, _, rfl, ?_⟩
        have absent : (saveAll accountId deviceId [] database).storage.deviceRevocations.find
            (accountId, deviceId) = none := fresh
        simp [Storage.mergeRevocation, DeviceRevocationRecord.device, absent]
      · obtain ⟨call, greatest, row, found, counter, blob⟩ := callsIH empty
        simp only [Storage.mergeRevocation, DeviceRevocationRecord.device, found, counter]
        split
        · next atLeast =>
            exact ⟨last, .append_of_le fun other member =>
              le_trans (greatest.le member) atLeast, _, rfl, rfl, rfl⟩
        · next less =>
            exact ⟨call, greatest.append_of_lt (lt_of_not_ge less), _, rfl, rfl, blob⟩

/-- The calls whose counters fit the column. -/
def fitting (calls : List RevocationCall) : List RevocationCall :=
  calls.filter fun call => call.revocationCounter.toNat < 2 ^ 63

theorem mem_fitting {call : RevocationCall} :
    call ∈ fitting calls ↔ call ∈ calls ∧ Representable call.revocationCounter := by
  rw [fitting, List.mem_filter, decide_eq_true_iff, Representable]

/-- Numbers that all fit, or none of which fits, are compared as they should. -/
theorem asI64_le_asI64_of_alike {first second : UInt64}
    (alike : Representable first ↔ Representable second) :
    asI64 first ≤ asI64 second ↔ first.toNat ≤ second.toNat := by
  by_cases fits : Representable first
  · exact (asI64_le_asI64 fits (alike.mp fits)).trans UInt64.le_iff_toNat_le
  · rw [asI64_of_not_representable fits, asI64_of_not_representable (mt alike.mpr fits)]
    omega

/-- Where a counter fits, the greatest signed counter is the greatest that fits. -/
theorem greatest_fitting {call : RevocationCall}
    (greatest : LastGreatest (fun call => asI64 call.revocationCounter) calls call)
    (some : fitting calls ≠ []) :
    LastGreatest RevocationCall.magnitude (fitting calls) call := by
  obtain ⟨other, member⟩ := List.exists_mem_of_ne_nil _ some
  obtain ⟨inCalls, otherFits⟩ := mem_fitting.mp member
  have nonneg : 0 ≤ asI64 other.revocationCounter := by
    rw [otherFits.asI64_eq]
    exact Int.natCast_nonneg _
  have fits : Representable call.revocationCounter :=
    representable_of_asI64_nonneg (le_trans nonneg (greatest.le inCalls))
  have kept : LastGreatest (fun call => asI64 call.revocationCounter) (fitting calls) call :=
    greatest.filter (decide_eq_true fits)
  apply kept.congr
  intro first firstMember second secondMember
  exact asI64_le_asI64_of_alike (iff_of_true (mem_fitting.mp firstMember).2
    (mem_fitting.mp secondMember).2)

/-- Where no counter fits, the order is the right one among them. -/
theorem greatest_of_none_fitting {call : RevocationCall}
    (greatest : LastGreatest (fun call => asI64 call.revocationCounter) calls call)
    (none : fitting calls = []) : LastGreatest RevocationCall.magnitude calls call := by
  have beyond : ∀ call ∈ calls, ¬Representable call.revocationCounter := by
    intro call member fits
    have listed := mem_fitting.mpr ⟨member, fits⟩
    rw [none] at listed
    cases listed
  apply greatest.congr
  intro first firstMember second secondMember
  exact asI64_le_asI64_of_alike (iff_of_false (beyond first firstMember)
    (beyond second secondMember))

/-- The blob that is stored is that of the last call with the greatest counter exactly if no
counter fits, or the last call with the greatest counter that fits has the same blob. -/
theorem stored_greatest_iff
    (fresh : database.storage.deviceRevocations.find (accountId, deviceId) = none) :
    (∀ greatest, LastGreatest RevocationCall.magnitude calls greatest →
        storedFor accountId deviceId (saveAll accountId deviceId calls database) =
          some greatest.revocation) ↔
      ∀ greatest fits, LastGreatest RevocationCall.magnitude calls greatest →
        LastGreatest RevocationCall.magnitude (fitting calls) fits →
          fits.revocation = greatest.revocation := by
  by_cases empty : calls = []
  · subst empty
    exact iff_of_true (fun _ greatest => absurd greatest.mem List.not_mem_nil)
      fun _ _ greatest => absurd greatest.mem List.not_mem_nil
  obtain ⟨stored, signed, row, found, -, blob⟩ := find_saveAll fresh empty
  have isStored : storedFor accountId deviceId (saveAll accountId deviceId calls database) =
      some stored.revocation := by
    rw [storedFor, found, Option.map_some, blob]
  rw [isStored]
  by_cases none : fitting calls = []
  · have greatest := greatest_of_none_fitting signed none
    refine iff_of_true (fun other isGreatest => ?_) fun _ fits _ isFitting => ?_
    · rw [greatest.unique isGreatest]
    · rw [none] at isFitting
      exact absurd isFitting.mem List.not_mem_nil
  · have isFitting := greatest_fitting signed none
    constructor
    · intro keeps greatest fits isGreatest alsoFitting
      rw [alsoFitting.unique isFitting]
      exact Option.some.inj (keeps greatest isGreatest)
    · intro same greatest isGreatest
      exact congrArg some (same greatest stored isGreatest isFitting)

end RevocationCall

/-! ## Envelopes -/

namespace MailboxServer

open MailboxEnvelopes

variable {store : MailboxStorage} {envelope : MailboxEnvelopeRecord} {expiry : UInt64}

/-- The envelope has a pending row. -/
def Waits (envelope : MailboxEnvelopeRecord) (store : MailboxStorage) : Prop :=
  ∃ row ∈ store.envelopes, row.envelope = envelope ∧ row.status = .pending

/-- A request before the expiry that does not acknowledge the envelope. -/
def Spares (envelope : MailboxEnvelopeRecord) (event : MailboxRequest × MailboxMoment) : Prop :=
  event.1 ≠ .acknowledge envelope.messageId ∧
    ∀ expiry ∈ envelope.expiresAtUnixSecs, event.2.now < expiry

/-- A fetch that is not interrupted returns the envelope. -/
def Fetchable (envelope : MailboxEnvelopeRecord) (now : UInt64) (store : MailboxStorage) : Prop :=
  ∃ records after, (MailboxStorage.fetchPending envelope.recipientToken now).run
    (store.opened []) = (.ok records, after) ∧ envelope ∈ records

theorem fetchable_iff {now : UInt64} :
    Fetchable envelope now store ↔ Waits envelope store ∧ ¬envelope.Overdue now := by
  have fetched : (MailboxStorage.fetchPending envelope.recipientToken now).run
      (store.opened []) =
        (.ok ((store.envelopes.expireOverdue now).pendingFor envelope.recipientToken now),
          { store with envelopes := store.envelopes.expireOverdue now, interruptions := [] }) :=
    rfl
  constructor
  · rintro ⟨records, after, run, listed⟩
    rw [fetched] at run
    cases run
    obtain ⟨row, member, same, -, pending, current⟩ := mem_fetched.mp listed
    exact ⟨⟨row, member, same, pending⟩, current⟩
  · rintro ⟨⟨row, member, same, pending⟩, current⟩
    exact ⟨_, _, fetched, mem_fetched.mpr ⟨row, member, same, rfl, pending, current⟩⟩

namespace Waits

theorem expireOverdue {after : MailboxStorage} {now : UInt64} (waits : Waits envelope store)
    (current : ¬envelope.Overdue now) (rows : after.envelopes = store.envelopes.expireOverdue now) :
    Waits envelope after := by
  obtain ⟨row, member, same, pending⟩ := waits
  refine ⟨row, ?_, same, pending⟩
  rw [rows]
  exact (mem_expireOverdue_of_pending pending).mpr ⟨member, same ▸ current⟩

theorem onlyExpires {after : MailboxStorage} {now : UInt64} (waits : Waits envelope store)
    (current : ¬envelope.Overdue now) (expires : store.OnlyExpires now after) :
    Waits envelope after := by
  rcases expires with ⟨rows, -⟩ | ⟨rows, -⟩
  · exact waits.expireOverdue current rows
  · rw [Waits, rows]
    exact waits

/-- A request that does not acknowledge the envelope leaves it pending, unless the statement
that expires rows finds it overdue. -/
theorem handle {server : MailboxServer} {request : MailboxRequest} {moment : MailboxMoment}
    (waits : Waits envelope server.store) (current : ¬envelope.Overdue moment.now)
    (other : request ≠ .acknowledge envelope.messageId) :
    Waits envelope (server.handle request moment).2 := by
  have opened : Waits envelope (server.store.opened moment.interruptions) := waits
  cases request with
  | deposit new =>
      have effect := MailboxStorage.deposit_ensures (server.store.opened moment.interruptions)
        (new.toRecord moment.createdAt) moment.now
      simp only [MailboxServer.handle, handleMailboxRequest]
      split
      · next inserted after outcome =>
          have kept := effect.of_ok outcome
          split at kept
          · obtain ⟨-, -, rows, -⟩ := kept
            obtain ⟨row, member, same, pending⟩ := opened
            refine ⟨row, ?_, same, pending⟩
            rw [rows]
            apply Table.mem_insertOrIgnore.mpr
            exact .inl ((mem_expireOverdue_of_pending pending).mpr ⟨member, same ▸ current⟩)
          · exact opened.expireOverdue current kept.2.1
      · next error after outcome =>
          exact opened.onlyExpires current ((effect.of_error outcome).imp_right And.right)
  | fetch recipientToken =>
      have effect := MailboxStorage.fetchPending_ensures
        (server.store.opened moment.interruptions) recipientToken moment.now
      simp only [MailboxServer.handle, handleMailboxRequest]
      split
      · next records after outcome =>
          exact opened.expireOverdue current (effect.of_ok outcome).2.1
      · next error after outcome =>
          exact opened.onlyExpires current (effect.of_error outcome)
  | acknowledge messageId =>
      have effect := MailboxStorage.acknowledgeRetrieval_ensures
        (server.store.opened moment.interruptions) messageId moment.now
      obtain ⟨row, member, same, pending⟩ := opened
      simp only [MailboxServer.handle, handleMailboxRequest]
      split
      · next after outcome =>
          refine ⟨row, ?_, same, pending⟩
          rw [(effect.of_ok outcome).1]
          apply Table.mem_update_of_not _ member
          apply decide_eq_false
          rintro rfl
          exact other (by rw [← same]; rfl)
      · next error after outcome =>
          refine ⟨row, ?_, same, pending⟩
          rw [(effect.of_error outcome).1]
          exact member

/-- So does every run of such requests. -/
theorem run {server : MailboxServer} {events : List (MailboxRequest × MailboxMoment)}
    (waits : Waits envelope server.store)
    (spared : ∀ event ∈ events, event.1 ≠ .acknowledge envelope.messageId ∧
      ¬envelope.Overdue event.2.now) :
    Waits envelope (requests.run server events).store := by
  induction events generalizing server with
  | nil => exact waits
  | cons event events eventsIH =>
      obtain ⟨other, current⟩ := spared event List.mem_cons_self
      have stillWaits : Waits envelope (server.next event).store := waits.handle current other
      exact eventsIH stillWaits fun later member => spared later (List.mem_cons_of_mem _ member)

end Waits

theorem overdue_iff_of_representable {now : UInt64}
    (fits : ∀ expiry ∈ envelope.expiresAtUnixSecs, Representable expiry)
    (before : ∀ expiry ∈ envelope.expiresAtUnixSecs, now < expiry) : ¬envelope.Overdue now := by
  rintro ⟨expiry, has, overdue⟩
  have order := UInt64.lt_iff_toNat_lt.mp (before expiry has)
  have expiryFits := fits expiry has
  have nowFits : Representable now := by
    rw [Representable] at expiryFits ⊢
    omega
  rw [asI64_le_asI64 expiryFits nowFits] at overdue
  exact absurd (before expiry has) (UInt64.not_lt.mpr overdue)

/-- An envelope that was inserted can be fetched at all times before its expiry, whatever
else is requested before it, exactly if its expiry fits the column. -/
theorem inserted_fetchable_iff {now : UInt64} {after : MailboxStorage}
    (deposits : (MailboxStorage.deposit envelope now).run store = (.ok true, after)) :
    (∀ events, (∀ event ∈ events, Spares envelope event) →
        ∀ later, (∀ expiry ∈ envelope.expiresAtUnixSecs, later < expiry) →
          Fetchable envelope later (requests.run ⟨after, []⟩ events).store) ↔
      ∀ expiry ∈ envelope.expiresAtUnixSecs, Representable expiry := by
  have waits : Waits envelope after := by
    have effect := (MailboxStorage.deposit_ensures store envelope now).of_ok deposits
    rw [if_pos rfl] at effect
    obtain ⟨absent, -, rows, -⟩ := effect
    refine ⟨⟨envelope, .pending, none⟩, ?_, rfl, rfl⟩
    rw [rows]
    exact Table.mem_insertOrIgnore.mpr (.inr ⟨rfl, absent⟩)
  constructor
  · intro fetchable expiry has
    by_contra beyond
    have positive : ∀ other ∈ envelope.expiresAtUnixSecs, 0 < other := by
      intro other alsoHas
      cases has.symm.trans alsoHas
      rw [UInt64.pos_iff_ne_zero]
      rintro rfl
      exact beyond (by unfold Representable; decide)
    have current := (fetchable_iff.mp (fetchable [] nofun 0 positive)).2
    apply current
    refine ⟨expiry, has, ?_⟩
    have zero : asI64 0 = 0 := by decide
    have bound := expiry.toNat_lt
    rw [asI64_of_not_representable beyond, zero]
    omega
  · intro fits events spared later before
    have kept : Waits envelope (requests.run ⟨after, []⟩ events).store :=
      waits.run fun event member => ⟨(spared event member).1,
        overdue_iff_of_representable fits (spared event member).2⟩
    exact fetchable_iff.mpr ⟨kept, overdue_iff_of_representable fits before⟩

end MailboxServer

/-- Where exactly the unsigned order survives the columns: for an event whose counter and
the earlier ones of its device fit, or whose entry is zero; for revocations none of whose
counters fits, or where the last greatest counter that fits has the blob of the greatest; and
for an expiry that fits. -/
theorem unsigned_order_survives_iff {database after : Database} {event : EventRecord}
    {inserted : Bool} (appends : (Database.appendEvent event).run database = (.ok inserted, after))
    {revoking : Database} {accountId deviceId : String} (calls : List RevocationCall)
    (fresh : revoking.storage.deviceRevocations.find (accountId, deviceId) = none)
    {store filled : MailboxStorage} {envelope : MailboxEnvelopeRecord} {now : UInt64}
    (deposits : (MailboxStorage.deposit envelope now).run store = (.ok true, filled)) :
    ((∀ conversationId deviceId, database.storage.entryOf conversationId deviceId ≤
        after.storage.entryOf conversationId deviceId) ↔
      database.storage.entryOf event.conversationId event.deviceId = 0 ∨
        ((database.storage.withEvent event).CountersFit event.conversationId event.deviceId ∧
          (database.storage.withEvent event).HasPrefix event.conversationId event.deviceId
            (database.storage.entryOf event.conversationId event.deviceId))) ∧
    ((∀ greatest, LastGreatest RevocationCall.magnitude calls greatest →
        RevocationCall.storedFor accountId deviceId
          (RevocationCall.saveAll accountId deviceId calls revoking) =
            some greatest.revocation) ↔
      ∀ greatest fits, LastGreatest RevocationCall.magnitude calls greatest →
        LastGreatest RevocationCall.magnitude (RevocationCall.fitting calls) fits →
          fits.revocation = greatest.revocation) ∧
    ((∀ events, (∀ event ∈ events, MailboxServer.Spares envelope event) →
        ∀ later, (∀ expiry ∈ envelope.expiresAtUnixSecs, later < expiry) →
          MailboxServer.Fetchable envelope later
            (MailboxServer.requests.run ⟨filled, []⟩ events).store) ↔
      ∀ expiry ∈ envelope.expiresAtUnixSecs, Representable expiry) :=
  ⟨Database.appendEvent_lowers_nothing_iff appends, RevocationCall.stored_greatest_iff fresh,
    MailboxServer.inserted_fetchable_iff deposits⟩

namespace Symbolic

/-- The first number that does not fit. -/
def beyondColumns : UInt64 := 9223372036854775808

/-- The first event of Alice's device is stored. -/
def oneEventStore : Database :=
  ((Database.appendEvent (numberedEvent "conversation" 1)).run emptyStore).2

def revocationCalls (first second : UInt64) : List RevocationCall :=
  [⟨first, [1], 0⟩, ⟨second, [2], 0⟩]

def envelopeUntil (expiry : UInt64) : MailboxEnvelopeRecord :=
  ⟨"letter", "recipient", [1], 0, some expiry⟩

def depositUntil (expiry : UInt64) : Except MailboxError Bool × MailboxStorage :=
  (MailboxStorage.deposit (envelopeUntil expiry) 0).run ⟨.empty, 4, []⟩

theorem unsigned_order_survives_small :
    (oneEventStore.storage.entryOf "conversation" "AliceDevice" ≤
      ((Database.appendEvent (numberedEvent "conversation" 2)).run
        oneEventStore).2.storage.entryOf "conversation" "AliceDevice") ∧
    RevocationCall.storedFor "account" "phone"
      (RevocationCall.saveAll "account" "phone" (revocationCalls 2 1) emptyStore) = some [1] ∧
    MailboxServer.Fetchable (envelopeUntil 200) 100 (depositUntil 200).2 := by
  obtain ⟨appends, revokes, deposits⟩ := unsigned_order_survives_iff
    (show (Database.appendEvent (numberedEvent "conversation" 2)).run oneEventStore =
      (.ok true, _) from rfl)
    (revocationCalls 2 1)
    (show emptyStore.storage.deviceRevocations.find ("account", "phone") = none from rfl)
    (Prod.ext rfl rfl : depositUntil 200 = (.ok true, (depositUntil 200).2))
  refine ⟨appends.mpr (.inr ⟨?_, ?_⟩) "conversation" "AliceDevice",
    revokes.mpr ?_ ⟨2, [1], 0⟩ ⟨[], [⟨1, [2], 0⟩], rfl, nofun, ?_⟩,
    deposits.mpr ?_ [] nofun 100 ?_⟩
  · rintro counter ⟨event, member, -, -, rfl⟩
    have rows : (oneEventStore.storage.withEvent
      (numberedEvent "conversation" 2)).eventHistory.rows =
        [numberedEvent "conversation" 1, numberedEvent "conversation" 2] := rfl
    rw [Table.mem_def, rows, List.mem_cons, List.mem_singleton] at member
    unfold Representable
    rcases member with rfl | rfl <;> decide
  · intro counter positive below
    have entry : oneEventStore.storage.entryOf "conversation" "AliceDevice" = 1 := by
      decide +kernel
    have first : counter = 1 := by
      change counter ≤ oneEventStore.storage.entryOf "conversation" "AliceDevice" at below
      rw [entry] at below
      grind
    exact ⟨numberedEvent "conversation" 1, .head _, rfl, rfl, first.symm⟩
  · intro greatest fits isGreatest isFitting
    have fitting : RevocationCall.fitting (revocationCalls 2 1) = revocationCalls 2 1 := rfl
    rw [fitting] at isFitting
    rw [isFitting.unique isGreatest]
  · intro other member
    rw [List.mem_singleton.mp member]
    decide
  · rintro expiry ⟨⟩
    unfold Representable
    decide
  · rintro expiry ⟨⟩
    decide

/-- The entry of Alice's device falls from one to zero, the revocation with the greater
counter gives way, and the envelope expires at once. -/
theorem unsigned_order_lost :
    (oneEventStore.storage.entryOf "conversation" "AliceDevice" = 1 ∧
      ((Database.appendEvent (numberedEvent "conversation" beyondColumns)).run
        oneEventStore).1 = .ok true ∧
      ((Database.appendEvent (numberedEvent "conversation" beyondColumns)).run
        oneEventStore).2.storage.entryOf "conversation" "AliceDevice" = 0) ∧
    RevocationCall.storedFor "account" "phone" (RevocationCall.saveAll "account" "phone"
      (revocationCalls beyondColumns 1) emptyStore) = some [2] ∧
    ((depositUntil beyondColumns).1 = .ok true ∧
      ((MailboxStorage.fetchPending "recipient" 100).run
        (depositUntil beyondColumns).2).1 = .ok []) := by
  decide +kernel

end Symbolic

end CipherMesh
