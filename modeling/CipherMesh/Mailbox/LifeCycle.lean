import CipherMesh.Foundation.Reachability
import CipherMesh.Mailbox.Storage

/-!
# The life of an envelope in the mailbox

A run is a sequence of calls with a clock that does not go back.  Its history
records which deposits were accepted and which ids were acknowledged; the rows of
the mailbox represent the history, which determines what every fetch returns.
-/

namespace CipherMesh

open Foundation
open Foundation.Mutation
open MailboxEnvelopes

/-- Call a method of the mailbox; every call may be interrupted at any statement. -/
inductive MailboxEvent where
  | deposit (envelope : MailboxEnvelopeRecord) (now : UInt64) (interruptions : List Bool)
  | fetchPending (recipientToken : String) (now : UInt64) (interruptions : List Bool)
  | acknowledgeRetrieval (messageId : String) (now : UInt64) (interruptions : List Bool)
  | expire (now : UInt64) (interruptions : List Bool)

namespace MailboxEvent

def now : MailboxEvent → UInt64
  | deposit _ now _ | fetchPending _ now _ | acknowledgeRetrieval _ now _ | expire now _ => now

end MailboxEvent

inductive MailboxEntry where
  | stored (envelope : MailboxEnvelopeRecord)
  | acknowledged (messageId : String)
  deriving DecidableEq

structure MailboxRun where
  mailbox : MailboxStorage
  clock : UInt64
  history : List MailboxEntry

namespace MailboxEnvelopeRecord

/-- The expiry of the envelope has passed. -/
def ExpiredBy (envelope : MailboxEnvelopeRecord) (now : UInt64) : Prop :=
  ∃ expiry ∈ envelope.expiresAtUnixSecs, expiry ≤ now

def HasRepresentableExpiry (envelope : MailboxEnvelopeRecord) : Prop :=
  ∀ expiry ∈ envelope.expiresAtUnixSecs, Representable expiry

variable {envelope : MailboxEnvelopeRecord} {now later : UInt64}

theorem overdue_iff (fits : envelope.HasRepresentableExpiry) (nowFits : Representable now) :
    envelope.Overdue now ↔ envelope.ExpiredBy now :=
  exists_congr fun expiry => and_congr_right fun has => asI64_le_asI64 (fits expiry has) nowFits

theorem ExpiredBy.mono (expired : envelope.ExpiredBy now) (order : now ≤ later) :
    envelope.ExpiredBy later := by
  obtain ⟨expiry, has, passed⟩ := expired
  exact ⟨expiry, has, UInt64.le_trans passed order⟩

end MailboxEnvelopeRecord

namespace MailboxStorage

def opened (mailbox : MailboxStorage) (interruptions : List Bool) : MailboxStorage :=
  { mailbox with interruptions }

end MailboxStorage

namespace MailboxRun

/-- The envelope was stored and later acknowledged. -/
def Retired (history : List MailboxEntry) (envelope : MailboxEnvelopeRecord) : Prop :=
  ∃ earlier later, history = earlier ++ later ∧ .stored envelope ∈ earlier ∧
    .acknowledged envelope.messageId ∈ later

def next (run : MailboxRun) : MailboxEvent → MailboxRun
  | .deposit envelope now interruptions =>
      match (MailboxStorage.deposit envelope now).run (run.mailbox.opened interruptions) with
      | (.ok true, mailbox) =>
          { mailbox, clock := now, history := run.history ++ [.stored envelope] }
      | (_, mailbox) => { run with mailbox, clock := now }
  | .fetchPending recipientToken now interruptions =>
      { run with
        mailbox := ((MailboxStorage.fetchPending recipientToken now).run
          (run.mailbox.opened interruptions)).2
        clock := now }
  | .acknowledgeRetrieval messageId now interruptions =>
      match (MailboxStorage.acknowledgeRetrieval messageId now).run
        (run.mailbox.opened interruptions) with
      | (.ok (), mailbox) =>
          { mailbox, clock := now, history := run.history ++ [.acknowledged messageId] }
      | (_, mailbox) => { run with mailbox, clock := now }
  | .expire now interruptions =>
      { run with
        mailbox := ((MailboxStorage.expire now).run (run.mailbox.opened interruptions)).2
        clock := now }

/-- The runs of a new mailbox: the clock does not go back and the times fit. -/
def lifeCycle (capacity : Nat) : System MailboxRun MailboxEvent where
  initial run := run.mailbox.envelopes = .empty ∧
    run.mailbox.maxPendingEnvelopes = capacity ∧ run.history = []
  permitted run event := run.clock ≤ event.now ∧ Representable event.now ∧
    match event with
    | .deposit envelope _ _ => envelope.HasRepresentableExpiry
    | _ => True
  next := next

/-! ## The rows represent the history -/

structure Represents (capacity : Nat) (envelopes : MailboxEnvelopes) (clock : UInt64)
    (history : List MailboxEntry) : Prop where
  withinCapacity : envelopes.pendingCount ≤ capacity
  stored : ∀ envelope, .stored envelope ∈ history ↔ ∃ row ∈ envelopes, row.envelope = envelope
  pending : ∀ row ∈ envelopes, row.status = .pending → ¬ Retired history row.envelope
  settled : ∀ row ∈ envelopes, row.status ≠ .pending →
    Retired history row.envelope ∨ row.envelope.ExpiredBy clock
  representable : ∀ row ∈ envelopes, row.envelope.HasRepresentableExpiry

variable {capacity : Nat} {envelopes : MailboxEnvelopes} {clock now : UInt64}
variable {history : List MailboxEntry}

/-- A retirement is old or happens at the end of the history. -/
private theorem retired_append {entry : MailboxEntry} {envelope : MailboxEnvelopeRecord} :
    Retired (history ++ [entry]) envelope ↔
      Retired history envelope ∨
        (.stored envelope ∈ history ∧ entry = .acknowledged envelope.messageId) := by
  constructor
  · rintro ⟨earlier, later, split, stored, acknowledged⟩
    rcases List.eq_nil_or_concat later with rfl | ⟨middle, last, rfl⟩
    · cases acknowledged
    · rw [List.concat_eq_append, ← List.append_assoc] at split
      obtain ⟨rfl, sameLast⟩ := List.append_inj' split rfl
      rw [List.concat_eq_append, List.mem_append, List.mem_singleton] at acknowledged
      rcases acknowledged with inMiddle | isLast
      · exact .inl ⟨earlier, middle, rfl, stored, inMiddle⟩
      · refine .inr ⟨List.mem_append_left _ stored, ?_⟩
        rw [isLast]
        exact List.singleton_inj.mp sameLast
  · rintro (⟨earlier, later, rfl, stored, acknowledged⟩ | ⟨stored, rfl⟩)
    · exact ⟨earlier, later ++ [entry], by rw [List.append_assoc], stored,
        List.mem_append_left _ acknowledged⟩
    · exact ⟨history, _, rfl, stored, List.mem_singleton_self _⟩

theorem retired_append_stored {envelope new : MailboxEnvelopeRecord} :
    Retired (history ++ [.stored new]) envelope ↔ Retired history envelope := by
  simp [retired_append]

theorem retired_append_acknowledged {envelope : MailboxEnvelopeRecord} {messageId : String} :
    Retired (history ++ [.acknowledged messageId]) envelope ↔
      Retired history envelope ∨
        (.stored envelope ∈ history ∧ messageId = envelope.messageId) := by
  simp [retired_append]

/-- An update that makes no row pending does not add to the pending rows. -/
theorem pendingCount_update_le {condition : MailboxRow → Bool} {change : MailboxRow → MailboxRow}
    (keepsKey : ∀ row, (change row).messageId = row.messageId)
    (settles : ∀ row, (change row).status ≠ .pending) :
    MailboxEnvelopes.pendingCount (envelopes.update condition change keepsKey) ≤
      MailboxEnvelopes.pendingCount envelopes := by
  rw [MailboxEnvelopes.pendingCount, MailboxEnvelopes.pendingCount, Table.update, List.countP_map]
  apply List.countP_mono_left
  intro row _ pending
  simp only [Function.comp_apply, decide_eq_true_eq] at pending ⊢
  split at pending
  · exact absurd pending (settles row)
  · exact pending

theorem pendingCount_insertOrIgnore_le (row : MailboxRow) :
    MailboxEnvelopes.pendingCount (envelopes.insertOrIgnore row) ≤
      MailboxEnvelopes.pendingCount envelopes + 1 := by
  unfold Table.insertOrIgnore
  split
  · exact Nat.le_succ _
  · rw [MailboxEnvelopes.pendingCount, List.countP_append]
    exact Nat.add_le_add_left List.countP_le_length _

namespace Represents

theorem mem_unique (represents : Represents capacity envelopes clock history)
    {first second : MailboxEnvelopeRecord} (firstStored : .stored first ∈ history)
    (secondStored : .stored second ∈ history) (same : first.messageId = second.messageId) :
    first = second := by
  obtain ⟨row, member, rfl⟩ := (represents.stored first).mp firstStored
  obtain ⟨other, otherMember, rfl⟩ := (represents.stored second).mp secondStored
  rw [Table.eq_of_key_eq member otherMember same]

theorem later (represents : Represents capacity envelopes clock history) (order : clock ≤ now) :
    Represents capacity envelopes now history where
  __ := represents
  settled row member notPending :=
    (represents.settled row member notPending).imp_right fun expired => expired.mono order

/-- An update that settles rows for a reason in the history or on the clock. -/
theorem settle (represents : Represents capacity envelopes clock history) (order : clock ≤ now)
    {later : List MailboxEntry} {condition : MailboxRow → Bool}
    (change : MailboxRow → MailboxRow)
    (keepsEnvelope : ∀ row, (change row).envelope = row.envelope)
    (settles : ∀ row, (change row).status ≠ .pending)
    (sameStored : ∀ envelope, .stored envelope ∈ later ↔ .stored envelope ∈ history)
    (keepsRetired : ∀ envelope, Retired history envelope → Retired later envelope)
    (reason : ∀ row ∈ envelopes, condition row = true →
      Retired later row.envelope ∨ row.envelope.ExpiredBy now)
    (retires : ∀ row ∈ envelopes, condition row = false → Retired later row.envelope →
      Retired history row.envelope) :
    Represents capacity (envelopes.update condition change fun row => by
      rw [MailboxRow.messageId, keepsEnvelope]; rfl) now later where
  withinCapacity := (pendingCount_update_le _ settles).trans represents.withinCapacity
  stored envelope := by
    rw [sameStored, represents.stored]
    constructor
    · rintro ⟨row, member, rfl⟩
      refine ⟨_, Table.mem_update.mpr ⟨row, member, rfl⟩, ?_⟩
      split
      · exact keepsEnvelope row
      · rfl
    · rintro ⟨_, member, rfl⟩
      obtain ⟨row, rowMember, rfl⟩ := Table.mem_update.mp member
      refine ⟨row, rowMember, ?_⟩
      split
      · exact (keepsEnvelope row).symm
      · rfl
  pending := by
    rintro _ member pending retired
    obtain ⟨row, rowMember, rfl⟩ := Table.mem_update.mp member
    split at pending
    · exact settles row pending
    · next other =>
        rw [if_neg other] at retired
        exact represents.pending row rowMember pending
          (retires row rowMember (Bool.eq_false_iff.mpr other) retired)
  settled := by
    rintro _ member notPending
    obtain ⟨row, rowMember, rfl⟩ := Table.mem_update.mp member
    split at notPending
    · next chosen =>
        rw [if_pos chosen, keepsEnvelope]
        exact reason row rowMember chosen
    · next other =>
        rw [if_neg other]
        exact (represents.settled row rowMember notPending).imp (keepsRetired _)
          fun expired => expired.mono order
  representable := by
    rintro _ member
    obtain ⟨row, rowMember, rfl⟩ := Table.mem_update.mp member
    split
    · rw [keepsEnvelope]
      exact represents.representable row rowMember
    · exact represents.representable row rowMember

theorem expireOverdue (represents : Represents capacity envelopes clock history)
    (order : clock ≤ now) (nowFits : Representable now) :
    Represents capacity (envelopes.expireOverdue now) now history := by
  rw [MailboxEnvelopes.expireOverdue]
  refine represents.settle order (fun row => { row with status := .expired }) (fun _ => rfl)
    (fun _ => nofun) (fun _ => Iff.rfl) (fun _ => id) (fun row member chosen => ?_) fun _ _ _ => id
  have overdue := (of_decide_eq_true chosen).2
  exact .inr ((MailboxEnvelopeRecord.overdue_iff (represents.representable row member)
    nowFits).mp overdue)

theorem markDelivered (represents : Represents capacity envelopes clock history)
    (order : clock ≤ now) (messageId : String) :
    Represents capacity (envelopes.markDelivered messageId now) now
      (history ++ [.acknowledged messageId]) := by
  rw [MailboxEnvelopes.markDelivered]
  refine represents.settle order
    (fun row => { row with status := .delivered, deliveredAtUnixSecs := some now })
    (fun _ => rfl) (fun _ => nofun) (fun _ => by simp)
    (fun _ retired => retired_append_acknowledged.mpr (.inl retired))
    (fun row member chosen => ?_) fun row member other retired => ?_
  · have same : row.messageId = messageId := of_decide_eq_true chosen
    exact .inl (retired_append_acknowledged.mpr
      (.inr ⟨(represents.stored _).mpr ⟨row, member, rfl⟩, same.symm⟩))
  · have different : row.messageId ≠ messageId := of_decide_eq_false other
    rcases retired_append_acknowledged.mp retired with before | ⟨_, same⟩
    · exact before
    · exact absurd same.symm different

/-- A new envelope becomes a pending row. -/
theorem insertOrIgnore (represents : Represents capacity envelopes clock history)
    {envelope : MailboxEnvelopeRecord} (fits : envelope.HasRepresentableExpiry)
    (absent : ¬ envelopes.Contains envelope.messageId)
    (room : envelopes.pendingCount < capacity) :
    Represents capacity (envelopes.insertOrIgnore ⟨envelope, .pending, none⟩) clock
      (history ++ [.stored envelope]) where
  withinCapacity := (pendingCount_insertOrIgnore_le _).trans room
  stored other := by
    rw [List.mem_append, List.mem_singleton, represents.stored, MailboxEntry.stored.injEq]
    constructor
    · rintro (⟨row, member, rfl⟩ | rfl)
      · exact ⟨row, Table.mem_insertOrIgnore.mpr (.inl member), rfl⟩
      · exact ⟨_, Table.mem_insertOrIgnore.mpr (.inr ⟨rfl, absent⟩), rfl⟩
    · rintro ⟨row, member, rfl⟩
      rcases Table.mem_insertOrIgnore.mp member with old | ⟨rfl, _⟩
      · exact .inl ⟨row, old, rfl⟩
      · exact .inr rfl
  pending row member pending := by
    rw [retired_append_stored]
    rcases Table.mem_insertOrIgnore.mp member with old | ⟨rfl, _⟩
    · exact represents.pending row old pending
    · rintro ⟨earlier, later, rfl, stored, _⟩
      obtain ⟨row, rowMember, same⟩ :=
        (represents.stored envelope).mp (List.mem_append_left _ stored)
      exact absent ⟨row, rowMember, by rw [MailboxRow.messageId, same]⟩
  settled row member notPending := by
    rw [retired_append_stored]
    rcases Table.mem_insertOrIgnore.mp member with old | ⟨rfl, _⟩
    · exact represents.settled row old notPending
    · exact absurd rfl notPending
  representable row member := by
    rcases Table.mem_insertOrIgnore.mp member with old | ⟨rfl, _⟩
    · exact represents.representable row old
    · exact fits

/-- What a fetch returns is what the history says is left. -/
theorem mem_pendingFor (represents : Represents capacity envelopes clock history)
    (nowFits : Representable now) (order : clock ≤ now) {recipientToken : String}
    {envelope : MailboxEnvelopeRecord} :
    envelope ∈ envelopes.pendingFor recipientToken now ↔
      .stored envelope ∈ history ∧ envelope.recipientToken = recipientToken ∧
        ¬ Retired history envelope ∧ ¬ envelope.ExpiredBy now := by
  rw [pendingFor, List.mem_map]
  constructor
  · rintro ⟨row, selected, rfl⟩
    rw [Table.mem_select, decide_eq_true_eq] at selected
    obtain ⟨member, token, pending, current⟩ := selected
    refine ⟨(represents.stored _).mpr ⟨row, member, rfl⟩, token,
      represents.pending row member pending, ?_⟩
    rwa [← MailboxEnvelopeRecord.overdue_iff (represents.representable row member) nowFits]
  · rintro ⟨stored, token, notRetired, current⟩
    obtain ⟨row, member, rfl⟩ := (represents.stored envelope).mp stored
    have pending : row.status = .pending := by
      by_contra notPending
      rcases represents.settled row member notPending with retired | expired
      · exact notRetired retired
      · exact current (expired.mono order)
    refine ⟨row, Table.mem_select.mpr ⟨member, decide_eq_true ⟨token, pending, ?_⟩⟩, rfl⟩
    rwa [MailboxEnvelopeRecord.overdue_iff (represents.representable row member) nowFits]

end Represents

theorem nodup_pendingFor (recipientToken : String) (now : UInt64) :
    ((envelopes.pendingFor recipientToken now).map MailboxEnvelopeRecord.messageId).Nodup := by
  rw [pendingFor, List.map_map]
  have distinct : ((envelopes.rows.filter fun row => decide (row.envelope.recipientToken =
      recipientToken ∧ row.status = .pending ∧ ¬ row.envelope.Overdue now)).map
        MailboxRow.messageId).Nodup :=
    envelopes.unique.sublist (List.filter_sublist.map _)
  exact ((List.perm_insertionSort _ _).map _).nodup_iff.mpr distinct

/-! ## Runs -/

/-- The rows represent the history, under the capacity the mailbox was opened with. -/
def Sound (capacity : Nat) (run : MailboxRun) : Prop :=
  run.mailbox.maxPendingEnvelopes = capacity ∧
    Represents capacity run.mailbox.envelopes run.clock run.history

theorem sound_initial {run : MailboxRun} (initial : (lifeCycle capacity).initial run) :
    Sound capacity run := by
  obtain ⟨empty, opened, new⟩ := initial
  refine ⟨opened, ?_⟩
  rw [empty, new]
  refine ⟨Nat.zero_le _, fun envelope => ?_, ?_, ?_, ?_⟩
  · simp
  all_goals exact fun row member => absurd member Table.notMem_empty

variable {run : MailboxRun} {after : MailboxStorage} {interruptions : List Bool}

theorem Sound.onlyExpires (interruptions : List Bool) (sound : Sound capacity run)
    (order : run.clock ≤ now) (nowFits : Representable now)
    (expires : (run.mailbox.opened interruptions).OnlyExpires now after) :
    Sound capacity { run with mailbox := after, clock := now } := by
  obtain ⟨sameCapacity, represents⟩ := sound
  rcases expires with ⟨rows, opened⟩ | ⟨rows, opened⟩
  · refine ⟨opened.trans sameCapacity, ?_⟩
    rw [rows]
    exact represents.expireOverdue order nowFits
  · refine ⟨opened.trans sameCapacity, ?_⟩
    rw [rows]
    exact represents.later order

theorem Sound.next (sound : Sound capacity run) {event : MailboxEvent}
    (permitted : (lifeCycle capacity).permitted run event) :
    Sound capacity ((lifeCycle capacity).next run event) := by
  obtain ⟨order, nowFits, fits⟩ := permitted
  cases event with
  | deposit envelope now interruptions =>
      have effect := MailboxStorage.deposit_ensures (run.mailbox.opened interruptions)
        envelope now
      simp only [lifeCycle, MailboxRun.next]
      split
      · next after outcome =>
          obtain ⟨absent, room, rows, opened⟩ := effect.of_ok outcome
          refine ⟨opened.trans sound.1, ?_⟩
          rw [rows]
          exact (sound.2.expireOverdue order nowFits).insertOrIgnore fits absent
            (sound.1 ▸ room)
      · next result after refused outcome =>
          refine sound.onlyExpires interruptions order nowFits ?_
          match result with
          | .ok true => exact absurd rfl refused
          | .ok false => exact .inl (effect.of_ok outcome).2
          | .error _ => exact (effect.of_error outcome).imp_right And.right
  | fetchPending recipientToken now interruptions =>
      have effect := MailboxStorage.fetchPending_ensures (run.mailbox.opened interruptions)
        recipientToken now
      have expires : (MailboxStorage.fetchPending recipientToken now).Ensures
          (run.mailbox.opened interruptions)
          (fun _ => (run.mailbox.opened interruptions).OnlyExpires now)
          (fun _ => (run.mailbox.opened interruptions).OnlyExpires now) :=
        effect.mono (fun _ _ outcome => .inl outcome.2) fun _ _ => id
      exact sound.onlyExpires interruptions order nowFits expires.reached
  | acknowledgeRetrieval messageId now interruptions =>
      have effect := MailboxStorage.acknowledgeRetrieval_ensures (run.mailbox.opened interruptions)
        messageId now
      simp only [lifeCycle, MailboxRun.next]
      split
      · next after outcome =>
          obtain ⟨rows, opened⟩ := effect.of_ok outcome
          refine ⟨opened.trans sound.1, ?_⟩
          rw [rows]
          exact sound.2.markDelivered order messageId
      · next result after refused outcome =>
          refine sound.onlyExpires interruptions order nowFits ?_
          match result with
          | .ok () => exact absurd rfl refused
          | .error _ => exact .inr (effect.of_error outcome)
  | expire now interruptions =>
      have effect := MailboxStorage.expire_ensures (run.mailbox.opened interruptions)
        now
      have expires : (MailboxStorage.expire now).Ensures (run.mailbox.opened interruptions)
          (fun _ => (run.mailbox.opened interruptions).OnlyExpires now)
          (fun _ => (run.mailbox.opened interruptions).OnlyExpires now) :=
        effect.mono (fun _ _ => .inl) fun _ _ outcome => .inr outcome.2
      exact sound.onlyExpires interruptions order nowFits expires.reached

theorem sound_of_reachable (reachable : (lifeCycle capacity).Reachable run) :
    Sound capacity run :=
  reachable.invariant (Sound capacity) (fun _ => sound_initial) fun _ _ sound => sound.next

/-- A fetch lists each envelope that the history says is left exactly once. -/
theorem Sound.fetchPending (sound : Sound capacity run) (order : run.clock ≤ now)
    (nowFits : Representable now) {recipientToken : String}
    {records : List MailboxEnvelopeRecord}
    (fetched : (MailboxStorage.fetchPending recipientToken now).run
      (run.mailbox.opened interruptions) = (.ok records, after)) :
    (records.map MailboxEnvelopeRecord.messageId).Nodup ∧
      ∀ envelope, envelope ∈ records ↔
        .stored envelope ∈ run.history ∧ envelope.recipientToken = recipientToken ∧
          ¬ Retired run.history envelope ∧ ¬ envelope.ExpiredBy now := by
  obtain ⟨rfl, _⟩ := (MailboxStorage.fetchPending_ensures _ recipientToken now).of_ok fetched
  exact ⟨nodup_pendingFor _ _, fun envelope =>
    (sound.2.expireOverdue order nowFits).mem_pendingFor nowFits (UInt64.le_refl now)⟩

/-- The life cycle of an envelope.  The capacity is kept.  A fetch succeeds unless a
statement fails, and returns exactly the envelopes of the recipient that were stored, not
acknowledged since and not expired, each once; the id of a stored envelope that was
acknowledged or has expired is not among them.  A refused deposit only expires rows. -/
theorem envelope_life_cycle (reachable : (lifeCycle capacity).Reachable run) :
    run.mailbox.envelopes.pendingCount ≤ capacity ∧
    (∀ recipientToken now interruptions, run.clock ≤ now → Representable now →
      (interruptions = [] → ∃ records after,
        (MailboxStorage.fetchPending recipientToken now).run
          (run.mailbox.opened interruptions) = (.ok records, after)) ∧
      ∀ records after,
        (MailboxStorage.fetchPending recipientToken now).run
          (run.mailbox.opened interruptions) = (.ok records, after) →
        (records.map MailboxEnvelopeRecord.messageId).Nodup ∧
        (∀ envelope, envelope ∈ records ↔
          .stored envelope ∈ run.history ∧ envelope.recipientToken = recipientToken ∧
            ¬ Retired run.history envelope ∧ ¬ envelope.ExpiredBy now) ∧
        ∀ envelope, .stored envelope ∈ run.history →
          Retired run.history envelope ∨ envelope.ExpiredBy now →
          envelope.messageId ∉ records.map MailboxEnvelopeRecord.messageId) ∧
    ∀ envelope now interruptions result after,
      (MailboxStorage.deposit envelope now).run (run.mailbox.opened interruptions) =
        (result, after) →
      result ≠ .ok true →
      after.envelopes = run.mailbox.envelopes.expireOverdue now ∨
        (result = .error .interrupted ∧ after.envelopes = run.mailbox.envelopes) := by
  have sound := sound_of_reachable reachable
  refine ⟨sound.2.withinCapacity, ?_, ?_⟩
  · intro recipientToken now interruptions order nowFits
    refine ⟨?_, fun records after fetched => ?_⟩
    · rintro rfl
      exact ⟨_, _, rfl⟩
    · obtain ⟨distinct, exactly⟩ := sound.fetchPending order nowFits fetched
      refine ⟨distinct, exactly, fun envelope stored gone listed => ?_⟩
      obtain ⟨other, member, sameId⟩ := List.mem_map.mp listed
      obtain ⟨otherStored, _, notRetired, current⟩ := (exactly other).mp member
      obtain rfl := sound.2.mem_unique otherStored stored sameId
      exact gone.elim notRetired current
  · intro envelope now interruptions result after outcome refused
    have effect := MailboxStorage.deposit_ensures (run.mailbox.opened interruptions)
      envelope now
    match result with
    | .ok true => exact absurd rfl refused
    | .ok false => exact .inl (effect.of_ok outcome).2.1
    | .error _ =>
        exact (effect.of_error outcome).imp And.left fun stopped =>
          ⟨congrArg Except.error stopped.1, stopped.2.1⟩

end MailboxRun

namespace Symbolic

open MailboxRun

def greetingEnvelope : MailboxEnvelopeRecord :=
  ⟨"message-1", "recipient", [1, 2, 3], 10, some 200⟩

/-- A new mailbox with room for four envelopes. -/
def newMailbox : MailboxRun := ⟨⟨.empty, 4, []⟩, 0, []⟩

def greetingDeposited : MailboxRun :=
  (lifeCycle 4).run newMailbox [.deposit greetingEnvelope 100 []]

/-- A deposited envelope is fetched by its recipient before it expires. -/
theorem greeting_fetched : ∃ records after,
    (MailboxStorage.fetchPending "recipient" 150).run (greetingDeposited.mailbox.opened []) =
      (.ok records, after) ∧ greetingEnvelope ∈ records := by
  have permits : (lifeCycle 4).Permits newMailbox [.deposit greetingEnvelope 100 []] := by
    refine ⟨⟨by decide, by unfold Representable MailboxEvent.now; decide, ?_⟩, trivial⟩
    rintro expiry ⟨⟩
    unfold Representable
    decide
  obtain ⟨_, fetches, _⟩ := envelope_life_cycle
    (show (lifeCycle 4).Reachable greetingDeposited from
      ⟨newMailbox, ⟨rfl, rfl, rfl⟩, permits.reaches⟩)
  obtain ⟨succeeds, exactly⟩ := fetches "recipient" 150 [] (by decide) (by
    unfold Representable
    decide)
  obtain ⟨records, after, fetched⟩ := succeeds rfl
  refine ⟨records, after, fetched, ((exactly records after fetched).2.1 _).mpr ?_⟩
  refine ⟨by decide, rfl, ?_, ?_⟩
  · rintro ⟨earlier, later, split, stored, acknowledged⟩
    have member := List.mem_append_right earlier acknowledged
    rw [← split] at member
    revert member
    decide
  · rintro ⟨expiry, ⟨⟩, passed⟩
    revert passed
    decide

end Symbolic

end CipherMesh
