import CipherMesh.Mailbox.LifeCycle

/-!
# Mailbox requests

What the mailbox answers to any client.  It replies that an envelope was deposited also
when it kept another row that has the id, so a reply means that the envelope is there to
be fetched only if that row holds the same envelope and lasts as long.
-/

namespace CipherMesh

open Foundation
open Foundation.Mutation
open MailboxEnvelopes

structure OfflineEnvelope where
  recipientToken : String
  messageId : String
  encryptedPayload : Bytes
  expiresAtUnixSecs : Option UInt64
  deriving DecidableEq

inductive MailboxRequest where
  | deposit (envelope : OfflineEnvelope)
  | fetch (recipientToken : String)
  | acknowledge (messageId : String)
  deriving DecidableEq

inductive MailboxResponse where
  | deposited (messageId : String)
  | pending (envelopes : List OfflineEnvelope)
  | acknowledged (messageId : String)
  | error (text : String)
  deriving DecidableEq

def OfflineEnvelope.fromRecord (record : MailboxEnvelopeRecord) : OfflineEnvelope where
  recipientToken := record.recipientToken
  messageId := record.messageId
  encryptedPayload := record.encryptedPayload
  expiresAtUnixSecs := record.expiresAtUnixSecs

/-- When a request is handled: the two readings of the clock, which statements fail, and
with which text. -/
structure MailboxMoment where
  createdAt : UInt64
  now : UInt64
  interruptions : List Bool
  interruption : String

def MailboxError.text (interruption : String) : MailboxError → String
  | .full => "mailbox storage is full"
  | .interrupted => interruption

def OfflineEnvelope.toRecord (createdAt : UInt64) (envelope : OfflineEnvelope) :
    MailboxEnvelopeRecord where
  messageId := envelope.messageId
  recipientToken := envelope.recipientToken
  encryptedPayload := envelope.encryptedPayload
  createdAtUnixSecs := createdAt
  expiresAtUnixSecs := envelope.expiresAtUnixSecs

def handleMailboxRequest (moment : MailboxMoment) (store : MailboxStorage) :
    MailboxRequest → MailboxResponse × MailboxStorage
  | .deposit envelope =>
      match (MailboxStorage.deposit (envelope.toRecord moment.createdAt) moment.now).run store with
      | (.ok _, store) => (.deposited envelope.messageId, store)
      | (.error error, store) => (.error (error.text moment.interruption), store)
  | .fetch recipientToken =>
      match (MailboxStorage.fetchPending recipientToken moment.now).run store with
      | (.ok records, store) => (.pending (records.map .fromRecord), store)
      | (.error error, store) => (.error (error.text moment.interruption), store)
  | .acknowledge messageId =>
      match (MailboxStorage.acknowledgeRetrieval messageId moment.now).run store with
      | (.ok _, store) => (.acknowledged messageId, store)
      | (.error error, store) => (.error (error.text moment.interruption), store)

/-- A mailbox and the entries that clients have acknowledged. -/
structure MailboxServer where
  store : MailboxStorage
  acknowledged : List MailboxEnvelopeRecord

namespace MailboxServer

def handle (server : MailboxServer) (request : MailboxRequest) (moment : MailboxMoment) :
    MailboxResponse × MailboxStorage :=
  handleMailboxRequest moment (server.store.opened moment.interruptions) request

/-- The entries that the request acknowledges. -/
def retires (server : MailboxServer) : MailboxRequest → MailboxResponse → List MailboxEnvelopeRecord
  | .acknowledge messageId, .acknowledged _ =>
      (server.store.envelopes.rows.filter fun row => row.messageId = messageId).map
        MailboxRow.envelope
  | _, _ => []

def next (server : MailboxServer) (event : MailboxRequest × MailboxMoment) : MailboxServer :=
  let (response, store) := server.handle event.1 event.2
  { store, acknowledged := server.acknowledged ++ server.retires event.1 response }

/-- All runs of an empty mailbox, by any clients and at any times. -/
def requests : System MailboxServer (MailboxRequest × MailboxMoment) where
  initial server := server.store.envelopes = .empty ∧ server.acknowledged = []
  permitted _ _ := True
  next := next

end MailboxServer

/-! ## What a fetch finds -/

namespace MailboxEnvelopes

variable {envelopes : MailboxEnvelopes} {now later : UInt64} {row : MailboxRow}

theorem mem_expireOverdue :
    row ∈ envelopes.expireOverdue now ↔
      ∃ old ∈ envelopes, row = if old.status = .pending ∧ old.envelope.Overdue now then
        { old with status := .expired } else old := by
  refine Table.mem_update.trans ?_
  simp only [decide_eq_true_eq]
  exact exists_congr fun old => and_congr_right fun _ => eq_comm

theorem mem_expireOverdue_of_pending (pending : row.status = .pending) :
    row ∈ envelopes.expireOverdue now ↔ row ∈ envelopes ∧ ¬ row.envelope.Overdue now := by
  rw [mem_expireOverdue]
  constructor
  · rintro ⟨old, member, rfl⟩
    split at pending
    · cases pending
    · next current =>
        rw [if_neg current]
        exact ⟨member, fun overdue => current ⟨pending, overdue⟩⟩
  · rintro ⟨member, current⟩
    exact ⟨row, member, by rw [if_neg fun expires => current expires.2]⟩

theorem mem_expireOverdue_of_delivered (delivered : row.status = .delivered) :
    row ∈ envelopes.expireOverdue now ↔ row ∈ envelopes := by
  rw [mem_expireOverdue]
  constructor
  · rintro ⟨old, member, rfl⟩
    split at delivered
    · cases delivered
    · next current => rwa [if_neg current]
  · intro member
    refine ⟨row, member, ?_⟩
    rw [if_neg fun expires => by rw [expires.1] at delivered; cases delivered]

theorem contains_expireOverdue {messageId : String} :
    (envelopes.expireOverdue now).Contains messageId ↔ envelopes.Contains messageId :=
  Table.contains_update _

/-- The envelope has a delivered row. -/
def Delivered (record : MailboxEnvelopeRecord) (envelopes : MailboxEnvelopes) : Prop :=
  ∃ row ∈ envelopes, row.envelope = record ∧ row.status = .delivered

variable {record : MailboxEnvelopeRecord}

theorem delivered_expireOverdue :
    (envelopes.expireOverdue now).Delivered record ↔ envelopes.Delivered record := by
  constructor
  · rintro ⟨row, member, same, delivered⟩
    exact ⟨row, (mem_expireOverdue_of_delivered delivered).mp member, same, delivered⟩
  · rintro ⟨row, member, same, delivered⟩
    exact ⟨row, (mem_expireOverdue_of_delivered delivered).mpr member, same, delivered⟩

theorem delivered_insertOrIgnore {new : MailboxEnvelopeRecord} :
    MailboxEnvelopes.Delivered record (envelopes.insertOrIgnore ⟨new, .pending, none⟩) ↔
      envelopes.Delivered record := by
  constructor
  · rintro ⟨row, member, same, delivered⟩
    rcases Table.mem_insertOrIgnore.mp member with old | ⟨rfl, _⟩
    · exact ⟨row, old, same, delivered⟩
    · cases delivered
  · rintro ⟨row, member, same, delivered⟩
    exact ⟨row, Table.mem_insertOrIgnore.mpr (.inl member), same, delivered⟩

theorem delivered_markDelivered {messageId : String} :
    (envelopes.markDelivered messageId now).Delivered record ↔
      envelopes.Delivered record ∨
        ∃ row ∈ envelopes, row.messageId = messageId ∧ row.envelope = record := by
  constructor
  · rintro ⟨row, member, rfl, delivered⟩
    obtain ⟨old, oldMember, rfl⟩ := Table.mem_update.mp member
    split at delivered
    · next marked =>
        rw [if_pos marked]
        exact .inr ⟨old, oldMember, of_decide_eq_true marked, rfl⟩
    · next other =>
        rw [if_neg other]
        exact .inl ⟨old, oldMember, rfl, delivered⟩
  · rintro (⟨row, member, rfl, delivered⟩ | ⟨row, member, same, rfl⟩)
    · refine ⟨_, Table.mem_update.mpr ⟨row, member, rfl⟩, ?_⟩
      split
      · exact ⟨rfl, rfl⟩
      · exact ⟨rfl, delivered⟩
    · refine ⟨_, Table.mem_update.mpr ⟨row, member, rfl⟩, ?_⟩
      rw [if_pos (decide_eq_true same)]
      exact ⟨rfl, rfl⟩

/-- A fetch returns what is pending and not overdue. -/
theorem mem_fetched {recipientToken : String} :
    record ∈ (envelopes.expireOverdue now).pendingFor recipientToken now ↔
      ∃ row ∈ envelopes, row.envelope = record ∧ record.recipientToken = recipientToken ∧
        row.status = .pending ∧ ¬ record.Overdue now := by
  rw [pendingFor, List.mem_map]
  simp only [Table.mem_select, decide_eq_true_eq]
  constructor
  · rintro ⟨row, ⟨member, token, pending, current⟩, rfl⟩
    exact ⟨row, ((mem_expireOverdue_of_pending pending).mp member).1, rfl, token, pending, current⟩
  · rintro ⟨row, member, rfl, token, pending, current⟩
    exact ⟨row, ⟨(mem_expireOverdue_of_pending pending).mpr ⟨member, current⟩, token, pending,
      current⟩, rfl⟩

end MailboxEnvelopes

namespace MailboxServer

/-- An entry for the recipient with the id and the payload. -/
def Carries (record : MailboxEnvelopeRecord) (envelope : OfflineEnvelope) : Prop :=
  record.messageId = envelope.messageId ∧ record.recipientToken = envelope.recipientToken ∧
    record.encryptedPayload = envelope.encryptedPayload

/-- A time before the envelope expires. -/
def Before (now : UInt64) (envelope : OfflineEnvelope) : Prop :=
  ∀ expiry ∈ envelope.expiresAtUnixSecs, now < expiry

/-- A fetch at any time before the envelope expires returns an entry with its id and
payload. -/
def Available (envelope : OfflineEnvelope) (store : MailboxStorage) : Prop :=
  ∀ moment, moment.interruptions = [] → Before moment.now envelope →
    ∃ entries after,
      handleMailboxRequest moment (store.opened moment.interruptions)
        (.fetch envelope.recipientToken) = (.pending entries, after) ∧
      ∃ entry ∈ entries, entry.messageId = envelope.messageId ∧
        entry.encryptedPayload = envelope.encryptedPayload

/-- Once deposited the envelope is available, unless it was acknowledged already. -/
def Stores (server : MailboxServer) (envelope : OfflineEnvelope) (after : MailboxStorage) : Prop :=
  Available envelope after ∨ ∃ record ∈ server.acknowledged, Carries record envelope

/-- The expiry lasts as long as the one of another envelope. -/
def Outlasts (record : MailboxEnvelopeRecord) (envelope : OfflineEnvelope) : Prop :=
  ∀ expiry ∈ record.expiresAtUnixSecs, Representable expiry ∧
    ∃ other ∈ envelope.expiresAtUnixSecs, other ≤ expiry

/-- The id is new and the expiry fits, or the row with the id holds the same envelope and is
delivered or lasts as long, or the envelope has no time before its expiry. -/
def Honours (envelopes : MailboxEnvelopes) (now : UInt64) (envelope : OfflineEnvelope) : Prop :=
  (¬ envelopes.Contains envelope.messageId ∧
    ∀ expiry ∈ envelope.expiresAtUnixSecs, Representable expiry) ∨
  (∃ row ∈ envelopes, Carries row.envelope envelope ∧
    (row.status = .delivered ∨
      row.status = .pending ∧ ¬ row.envelope.Overdue now ∧ Outlasts row.envelope envelope)) ∨
  envelope.expiresAtUnixSecs = some 0

/-- The acknowledged entries are those of the delivered rows. -/
def Marks (server : MailboxServer) : Prop :=
  ∀ record, record ∈ server.acknowledged ↔ server.store.envelopes.Delivered record

/-! ## How long a row lasts -/

theorem exists_before {envelope : OfflineEnvelope}
    (positive : envelope.expiresAtUnixSecs ≠ some 0) :
    ∃ now, Before now envelope := by
  refine ⟨0, fun expiry has => ?_⟩
  rw [UInt64.pos_iff_ne_zero]
  rintro rfl
  exact positive has

theorem asI64_lt (seconds : UInt64) : asI64 seconds < 2 ^ 63 :=
  BitVec.toInt_lt

/-- A row that is not overdue before an envelope expires is one that outlasts it. -/
theorem outlasts_iff {record : MailboxEnvelopeRecord} {envelope : OfflineEnvelope}
    (positive : envelope.expiresAtUnixSecs ≠ some 0) :
    (∀ now, Before now envelope → ¬ record.Overdue now) ↔ Outlasts record envelope := by
  constructor
  · intro current expiry has
    have later : ∀ now, Before now envelope → asI64 now < asI64 expiry := fun now before =>
      Int.not_le.mp fun overdue => current now before ⟨expiry, has, overdue⟩
    have bounded : ¬ Before 9223372036854775807 envelope := by
      intro before
      have order := later _ before
      have bound := asI64_lt expiry
      have last : asI64 9223372036854775807 = 2 ^ 63 - 1 := by decide
      omega
    cases expires : envelope.expiresAtUnixSecs with
    | none => exact absurd (by simp [Before, expires]) bounded
    | some other =>
        have positiveNat : 0 < other.toNat := by
          rw [← UInt64.toNat_zero, ← UInt64.lt_iff_toNat_lt, UInt64.pos_iff_ne_zero]
          rintro rfl
          exact positive expires
        have one : other.toNat - 1 = (other - 1).toNat :=
          (UInt64.toNat_sub_of_le other 1 (UInt64.le_iff_toNat_le.mpr positiveNat)).symm
        have fits : Representable (other - 1) := by
          rw [Representable, ← one]
          by_contra large
          refine bounded fun last has => ?_
          cases expires.symm.trans has
          rw [UInt64.lt_iff_toNat_lt]
          have last : (9223372036854775807 : UInt64).toNat = 2 ^ 63 - 1 := by decide
          omega
        have order := later (other - 1) fun last has => by
          cases expires.symm.trans has
          rw [UInt64.lt_iff_toNat_lt]
          omega
        rw [fits.asI64_eq] at order
        have expiryFits : Representable expiry := representable_of_asI64_nonneg (by omega)
        rw [expiryFits.asI64_eq] at order
        exact ⟨expiryFits, other, rfl, UInt64.le_iff_toNat_le.mpr (by omega)⟩
  · rintro outlasts now before ⟨expiry, has, overdue⟩
    obtain ⟨fits, other, otherHas, order⟩ := outlasts expiry has
    have nowFits : Representable now := by
      have := UInt64.lt_iff_toNat_lt.mp (before other otherHas)
      have := UInt64.le_iff_toNat_le.mp order
      rw [Representable] at fits ⊢
      omega
    rw [asI64_le_asI64 fits nowFits] at overdue
    exact absurd (before other otherHas) (UInt64.not_lt.mpr (UInt64.le_trans order overdue))

theorem available_iff {envelope : OfflineEnvelope} {store : MailboxStorage} :
    Available envelope store ↔ ∀ now, Before now envelope →
      ∃ row ∈ store.envelopes, Carries row.envelope envelope ∧ row.status = .pending ∧
        ¬ row.envelope.Overdue now := by
  have found : ∀ moment : MailboxMoment, moment.interruptions = [] →
      handleMailboxRequest moment (store.opened moment.interruptions)
        (.fetch envelope.recipientToken) =
      (.pending (((store.envelopes.expireOverdue moment.now).pendingFor envelope.recipientToken
        moment.now).map .fromRecord), { store with
          envelopes := store.envelopes.expireOverdue moment.now, interruptions := [] }) := by
    intro moment undisturbed
    rw [undisturbed]
    rfl
  constructor
  · intro available now before
    obtain ⟨entries, after, fetched, entry, member, sameId, samePayload⟩ :=
      available ⟨now, now, [], ""⟩ rfl before
    rw [found _ rfl] at fetched
    cases fetched
    obtain ⟨record, listed, rfl⟩ := List.mem_map.mp member
    obtain ⟨row, rowMember, rfl, token, pending, current⟩ := mem_fetched.mp listed
    exact ⟨row, rowMember, ⟨sameId, token, samePayload⟩, pending, current⟩
  · intro kept moment undisturbed before
    obtain ⟨row, member, ⟨sameId, token, samePayload⟩, pending, current⟩ := kept moment.now before
    refine ⟨_, _, found moment undisturbed, .fromRecord row.envelope, ?_, sameId, samePayload⟩
    exact List.mem_map_of_mem (mem_fetched.mpr ⟨row, member, rfl, token, pending, current⟩)

/-! ## Runs -/

variable {server : MailboxServer} {envelope : OfflineEnvelope} {moment : MailboxMoment}

theorem delivered_of_onlyExpires {before after : MailboxStorage} {now : UInt64}
    (expires : before.OnlyExpires now after) (record : MailboxEnvelopeRecord) :
    after.envelopes.Delivered record ↔ before.envelopes.Delivered record := by
  rcases expires with ⟨rows, _⟩ | ⟨rows, _⟩
  · rw [rows, delivered_expireOverdue]
  · rw [rows]

/-- The delivered rows after a request are those from before and those that it acknowledges. -/
theorem delivered_handle (server : MailboxServer) (request : MailboxRequest)
    (moment : MailboxMoment) (record : MailboxEnvelopeRecord) :
    (server.handle request moment).2.envelopes.Delivered record ↔
      server.store.envelopes.Delivered record ∨
        record ∈ server.retires request (server.handle request moment).1 := by
  cases request with
  | deposit envelope =>
      have effect := MailboxStorage.deposit_ensures (server.store.opened moment.interruptions)
        (envelope.toRecord moment.createdAt) moment.now
      simp only [handle, handleMailboxRequest, retires, List.not_mem_nil, or_false]
      split
      · next inserted after outcome =>
          have kept := effect.of_ok outcome
          split at kept
          · obtain ⟨_, _, rows, _⟩ := kept
            rw [rows]
            exact delivered_insertOrIgnore.trans delivered_expireOverdue
          · exact delivered_of_onlyExpires (.inl kept.2) record
      · next error after outcome =>
          exact delivered_of_onlyExpires ((effect.of_error outcome).imp_right And.right) record
  | fetch recipientToken =>
      have effect := MailboxStorage.fetchPending_ensures (server.store.opened moment.interruptions)
        recipientToken moment.now
      simp only [handle, handleMailboxRequest, retires, List.not_mem_nil, or_false]
      split
      · next records after outcome =>
          exact delivered_of_onlyExpires (.inl (effect.of_ok outcome).2) record
      · next error after outcome =>
          exact delivered_of_onlyExpires (effect.of_error outcome) record
  | acknowledge messageId =>
      have effect := MailboxStorage.acknowledgeRetrieval_ensures
        (server.store.opened moment.interruptions) messageId moment.now
      simp only [handle, handleMailboxRequest]
      split
      · next after outcome =>
          rw [(effect.of_ok outcome).1, delivered_markDelivered]
          simp [retires, Table.mem_def, and_assoc, MailboxStorage.opened]
      · next error after outcome =>
          rw [(effect.of_error outcome).1]
          simp [retires, MailboxStorage.opened]

theorem marks_next (marks : Marks server) (event : MailboxRequest × MailboxMoment) :
    Marks (server.next event) := by
  intro record
  rw [next, List.mem_append, marks record]
  exact (delivered_handle server event.1 event.2 record).symm

theorem marks_of_reachable (reachable : requests.Reachable server) : Marks server := by
  refine reachable.invariant Marks ?_ fun _ event marks _ => marks_next marks event
  rintro start ⟨empty, none⟩ record
  rw [empty, none]
  refine iff_of_false List.not_mem_nil ?_
  rintro ⟨row, member, _⟩
  exact Table.notMem_empty member

/-- A row with the id that a deposit leaves is the new one or an old one. -/
theorem deposited_rows {id : String} {after : MailboxStorage}
    (deposited : server.handle (.deposit envelope) moment = (.deposited id, after)) :
    if server.store.envelopes.Contains envelope.messageId then
      after.envelopes = server.store.envelopes.expireOverdue moment.now
    else after.envelopes = (server.store.envelopes.expireOverdue moment.now).insertOrIgnore
      ⟨envelope.toRecord moment.createdAt, .pending, none⟩ := by
  have effect := MailboxStorage.deposit_ensures (server.store.opened moment.interruptions)
    (envelope.toRecord moment.createdAt) moment.now
  simp only [handle, handleMailboxRequest] at deposited
  split at deposited
  · next inserted reached outcome =>
      cases deposited
      have kept := effect.of_ok outcome
      split at kept
      · obtain ⟨absent, _, rows, _⟩ := kept
        rw [contains_expireOverdue] at absent
        split
        · next known => exact absurd known absent
        · exact rows
      · obtain ⟨present, rows, _⟩ := kept
        rw [contains_expireOverdue] at present
        split
        · exact rows
        · next unknown => exact absurd present unknown
  · cases deposited

/-- Where a row has the id already, that row decides. -/
theorem stores_iff_of_known (marks : Marks server)
    (positive : envelope.expiresAtUnixSecs ≠ some 0) {after : MailboxStorage}
    (present : server.store.envelopes.Contains envelope.messageId)
    (rows : after.envelopes = server.store.envelopes.expireOverdue moment.now) :
    server.Stores envelope after ↔ Honours server.store.envelopes moment.now envelope := by
  rw [Stores, available_iff, rows]
  constructor
  · rintro (kept | ⟨record, acknowledged, carries⟩)
    · obtain ⟨now, before⟩ := exists_before positive
      obtain ⟨row, member, carries, pending, _⟩ := kept now before
      obtain ⟨old, current⟩ := (mem_expireOverdue_of_pending pending).mp member
      refine .inr (.inl ⟨row, old, carries, .inr ⟨pending, current, ?_⟩⟩)
      refine (outlasts_iff positive).mp fun later laterBefore => ?_
      obtain ⟨other, otherMember, otherCarries, otherPending, otherCurrent⟩ :=
        kept later laterBefore
      rwa [Table.eq_of_key_eq member otherMember (carries.1.trans otherCarries.1.symm)]
    · obtain ⟨row, member, rfl, delivered⟩ := (marks record).mp acknowledged
      exact .inr (.inl ⟨row, member, carries, .inl delivered⟩)
  · rintro (⟨absent, _⟩ |
      ⟨row, member, carries, delivered | ⟨pending, current, outlasts⟩⟩ | zero)
    · exact absurd present absent
    · exact .inr ⟨row.envelope, (marks _).mpr ⟨row, member, rfl, delivered⟩, carries⟩
    · exact .inl fun now before => ⟨row,
        (mem_expireOverdue_of_pending pending).mpr ⟨member, current⟩, carries, pending,
        (outlasts_iff positive).mpr outlasts now before⟩
    · exact absurd zero positive

/-- Where the id is new, the expiry of the new row decides. -/
theorem stores_iff_of_new (marks : Marks server)
    (positive : envelope.expiresAtUnixSecs ≠ some 0) {after : MailboxStorage}
    (absent : ¬ server.store.envelopes.Contains envelope.messageId)
    (rows : after.envelopes = (server.store.envelopes.expireOverdue moment.now).insertOrIgnore
      ⟨envelope.toRecord moment.createdAt, .pending, none⟩) :
    server.Stores envelope after ↔ Honours server.store.envelopes moment.now envelope := by
  have lasts : (∀ now, Before now envelope →
      ¬ (envelope.toRecord moment.createdAt).Overdue now) ↔
      Outlasts (envelope.toRecord moment.createdAt) envelope := outlasts_iff positive
  have unknown : ∀ row ∈ server.store.envelopes, ¬ Carries row.envelope envelope :=
    fun row member carries => absent ⟨row, member, carries.1⟩
  rw [Stores, available_iff, rows]
  constructor
  · rintro (kept | ⟨record, acknowledged, carries⟩)
    · refine .inl ⟨absent, fun expiry has => ?_⟩
      refine (lasts.mp (fun now before => ?_) expiry has).1
      obtain ⟨row, member, carries, pending, current⟩ := kept now before
      rcases Table.mem_insertOrIgnore.mp member with old | ⟨rfl, _⟩
      · exact absurd carries (unknown row ((mem_expireOverdue_of_pending pending).mp old).1)
      · exact current
    · obtain ⟨row, member, rfl, _⟩ := (marks record).mp acknowledged
      exact absurd carries (unknown row member)
  · rintro (⟨_, fits⟩ | ⟨row, member, carries, _⟩ | zero)
    · refine .inl fun now before => ⟨⟨envelope.toRecord moment.createdAt, .pending, none⟩,
        Table.mem_insertOrIgnore.mpr (.inr ⟨rfl, mt contains_expireOverdue.mp absent⟩),
        ⟨rfl, rfl, rfl⟩, rfl, ?_⟩
      refine lasts.mpr (fun expiry has => ⟨fits expiry has, expiry, has, ?_⟩) now before
      exact UInt64.le_refl expiry
    · exact absurd carries (unknown row member)
    · exact absurd zero positive

/-- In every run, an envelope that is reported as deposited is stored exactly when its id
is new and its expiry fits, or the row with the id honours it. -/
theorem deposited_stored_iff (reachable : requests.Reachable server) {id : String}
    {after : MailboxStorage}
    (deposited : server.handle (.deposit envelope) moment = (.deposited id, after)) :
    server.Stores envelope after ↔ Honours server.store.envelopes moment.now envelope := by
  have marks := marks_of_reachable reachable
  by_cases positive : envelope.expiresAtUnixSecs = some 0
  · rw [Stores, available_iff]
    exact iff_of_true (.inl fun now before => absurd (before 0 positive) UInt64.not_lt_zero)
      (.inr (.inr positive))
  have rows := deposited_rows deposited
  split at rows
  · next present => exact stores_iff_of_known marks positive present rows
  · next absent => exact stores_iff_of_new marks positive absent rows

end MailboxServer

/-! ## A deposit that is not stored -/

namespace Symbolic

open MailboxServer

def emptyServer : MailboxServer := ⟨⟨.empty, 4, []⟩, []⟩

def mailboxMoment (now : UInt64) : MailboxMoment := ⟨now, now, [], ""⟩

/-- The same letter for another time. -/
def letterUntil (expiry : UInt64) : OfflineEnvelope := ⟨"recipient", "letter", [1], some expiry⟩

/-- The first copy has expired when the letter is deposited again. -/
def expiredServer : MailboxServer :=
  requests.run emptyServer [(.deposit (letterUntil 200), mailboxMoment 100)]

theorem retried_letter_lost :
    requests.Reachable expiredServer ∧
      (expiredServer.handle (.deposit (letterUntil 400)) (mailboxMoment 300)).1 =
        .deposited "letter" ∧
      ¬ expiredServer.Stores (letterUntil 400)
        (expiredServer.handle (.deposit (letterUntil 400)) (mailboxMoment 300)).2 := by
  have permits : requests.Permits emptyServer [(.deposit (letterUntil 200), mailboxMoment 100)] :=
    ⟨trivial, trivial⟩
  refine ⟨⟨emptyServer, ⟨rfl, rfl⟩, permits.reaches⟩, by decide +kernel, ?_⟩
  rintro (available | ⟨record, acknowledged, _⟩)
  · obtain ⟨entries, after, fetched, entry, member, _⟩ :=
      available (mailboxMoment 300) rfl (by rintro expiry ⟨⟩; decide)
    have noEntries : .pending entries = MailboxResponse.pending [] :=
      (congrArg Prod.fst fetched).symm.trans (by decide +kernel)
    cases noEntries
    cases member
  · have none : expiredServer.acknowledged = [] := by decide +kernel
    rw [none] at acknowledged
    cases acknowledged

theorem letter_stored :
    emptyServer.Stores (letterUntil 200)
      (emptyServer.handle (.deposit (letterUntil 200)) (mailboxMoment 100)).2 := by
  have reachable : requests.Reachable emptyServer := ⟨emptyServer, ⟨rfl, rfl⟩, .refl⟩
  refine (deposited_stored_iff reachable (show emptyServer.handle (.deposit (letterUntil 200))
    (mailboxMoment 100) = (.deposited "letter", _) from rfl)).mpr (.inl ⟨?_, ?_⟩)
  · decide
  · rintro expiry ⟨⟩
    unfold Representable
    decide

end Symbolic

end CipherMesh
