import CipherMesh.Storage.Database
import Mathlib.Data.Prod.Lex
import Mathlib.Data.String.Basic

/-!
# The mailbox

The mailbox keeps encrypted envelopes for recipients that are offline.  A row is
pending until its retrieval is acknowledged or its expiry has passed, and stays in
the table afterwards, so that its id is never accepted again.
-/

namespace CipherMesh

open Foundation
open Foundation.Mutation

structure MailboxEnvelopeRecord where
  messageId : String
  recipientToken : String
  encryptedPayload : Bytes
  createdAtUnixSecs : UInt64
  expiresAtUnixSecs : Option UInt64
  deriving DecidableEq

inductive MailboxStatus where
  | pending
  | delivered
  | expired
  deriving DecidableEq, Repr

/-- A row of `mailbox_envelopes`: the columns of the envelope and its status. -/
structure MailboxRow where
  envelope : MailboxEnvelopeRecord
  status : MailboxStatus
  deliveredAtUnixSecs : Option UInt64
  deriving DecidableEq

def MailboxRow.messageId (row : MailboxRow) : String := row.envelope.messageId

abbrev MailboxEnvelopes := Table MailboxRow.messageId

/-- The expiry that a comparison of SQL integers finds at or before `now`. -/
def MailboxEnvelopeRecord.Overdue (envelope : MailboxEnvelopeRecord) (now : UInt64) : Prop :=
  ∃ expiry ∈ envelope.expiresAtUnixSecs, asI64 expiry ≤ asI64 now

instance (envelope : MailboxEnvelopeRecord) (now : UInt64) : Decidable (envelope.Overdue now) :=
  inferInstanceAs (Decidable (∃ expiry ∈ envelope.expiresAtUnixSecs, _))

namespace MailboxEnvelopes

/-- `UPDATE` of the pending rows whose expiry has passed. -/
def expireOverdue (now : UInt64) (envelopes : MailboxEnvelopes) : MailboxEnvelopes :=
  envelopes.update (fun row => row.status = .pending ∧ row.envelope.Overdue now)
    (fun row => { row with status := .expired }) fun _ => rfl

def markDelivered (messageId : String) (now : UInt64) (envelopes : MailboxEnvelopes) :
    MailboxEnvelopes :=
  envelopes.update (fun row => row.messageId = messageId)
    (fun row => { row with status := .delivered, deliveredAtUnixSecs := some now }) fun _ => rfl

/-- `SELECT COUNT(*) … WHERE status = 'pending'`. -/
def pendingCount (envelopes : MailboxEnvelopes) : Nat :=
  envelopes.rows.countP fun row => row.status = .pending

/-- The order of `ORDER BY created_at_unix_secs, message_id`. -/
def order (row : MailboxRow) : Int ×ₗ String :=
  toLex (asI64 row.envelope.createdAtUnixSecs, row.messageId)

def pendingFor (recipientToken : String) (now : UInt64) (envelopes : MailboxEnvelopes) :
    List MailboxEnvelopeRecord :=
  (envelopes.select (fun row => row.envelope.recipientToken = recipientToken ∧
    row.status = .pending ∧ ¬ row.envelope.Overdue now) order).map MailboxRow.envelope

end MailboxEnvelopes

/-- An open mailbox; `interruptions` tells which of the statements to come fail. -/
structure MailboxStorage where
  envelopes : MailboxEnvelopes
  maxPendingEnvelopes : Nat
  interruptions : List Bool

inductive MailboxError where
  | interrupted
  | full
  deriving DecidableEq, Repr

abbrev MailboxStorageResult := Mutation MailboxStorage MailboxError

namespace MailboxStorage

open MailboxEnvelopes

variable {Result : Type}

/-- Run one SQL statement. -/
def statement (effect : MailboxEnvelopes → Result × MailboxEnvelopes) :
    MailboxStorageResult Result := fun mailbox =>
  let next := { mailbox with interruptions := mailbox.interruptions.tail }
  if mailbox.interruptions.head? = some true then (.error .interrupted, next)
  else
    (.ok (effect mailbox.envelopes).1, { next with envelopes := (effect mailbox.envelopes).2 })

def query (read : MailboxEnvelopes → Result) : MailboxStorageResult Result :=
  statement fun envelopes => (read envelopes, envelopes)

def execute (write : MailboxEnvelopes → MailboxEnvelopes) : MailboxStorageResult Unit :=
  statement fun envelopes => ((), write envelopes)

def expire (now : UInt64) : MailboxStorageResult Unit :=
  execute (expireOverdue now)

def pendingCount : MailboxStorageResult Nat :=
  query MailboxEnvelopes.pendingCount

def hasEnvelope (messageId : String) : MailboxStorageResult Bool :=
  query fun envelopes => decide (envelopes.Contains messageId)

/-- Whether the envelope would exceed the capacity; an id that is known would not. -/
def exceedsCapacity (envelope : MailboxEnvelopeRecord) : MailboxStorageResult Bool := do
  let mailbox ← get
  let count ← pendingCount
  if mailbox.maxPendingEnvelopes ≤ count then
    return !(← hasEnvelope envelope.messageId)
  else return false

/-- `INSERT OR IGNORE` as a pending row, and whether a row was inserted. -/
def insertPending (envelope : MailboxEnvelopeRecord) : MailboxStorageResult Bool :=
  statement fun envelopes =>
    (decide ¬ envelopes.Contains envelope.messageId,
      envelopes.insertOrIgnore ⟨envelope, .pending, none⟩)

def deposit (envelope : MailboxEnvelopeRecord) (now : UInt64) : MailboxStorageResult Bool := do
  expire now
  if ← exceedsCapacity envelope then fail .full
  else insertPending envelope

def fetchPending (recipientToken : String) (now : UInt64) :
    MailboxStorageResult (List MailboxEnvelopeRecord) := do
  expire now
  query (pendingFor recipientToken now)

def acknowledgeRetrieval (messageId : String) (now : UInt64) : MailboxStorageResult Unit :=
  execute (markDelivered messageId now)

/-! ## Effects -/

variable {mailbox : MailboxStorage}
variable {returned : Result → MailboxStorage → Prop} {failed : MailboxError → MailboxStorage → Prop}

/-- The mailbox after a statement that left these rows. -/
def advance (mailbox : MailboxStorage) (envelopes : MailboxEnvelopes) : MailboxStorage :=
  { mailbox with envelopes, interruptions := mailbox.interruptions.tail }

@[simp] theorem advance_envelopes (envelopes : MailboxEnvelopes) :
    (mailbox.advance envelopes).envelopes = envelopes := rfl

@[simp] theorem advance_maxPendingEnvelopes (envelopes : MailboxEnvelopes) :
    (mailbox.advance envelopes).maxPendingEnvelopes = mailbox.maxPendingEnvelopes := rfl

theorem ensures_statement {effect : MailboxEnvelopes → Result × MailboxEnvelopes}
    (interrupted : failed .interrupted (mailbox.advance mailbox.envelopes))
    (completed : returned (effect mailbox.envelopes).1
      (mailbox.advance (effect mailbox.envelopes).2)) :
    (statement effect).Ensures mailbox returned failed := by
  unfold Ensures Mutation.run statement
  dsimp only
  split
  · next stop => split at stop <;> grind [advance]
  · next stop => split at stop <;> grind [advance]

/-- What a call did to the rows: the capacity is never changed. -/
def Leaves (mailbox : MailboxStorage) (envelopes : MailboxEnvelopes) (after : MailboxStorage) :
    Prop :=
  after.envelopes = envelopes ∧ after.maxPendingEnvelopes = mailbox.maxPendingEnvelopes

/-- A call that at most expired what is overdue. -/
def OnlyExpires (mailbox : MailboxStorage) (now : UInt64) (after : MailboxStorage) : Prop :=
  mailbox.Leaves (expireOverdue now mailbox.envelopes) after ∨
    mailbox.Leaves mailbox.envelopes after

theorem expire_ensures (mailbox : MailboxStorage) (now : UInt64) :
    (expire now).Ensures mailbox
      (fun _ => mailbox.Leaves (expireOverdue now mailbox.envelopes))
      (fun error after => error = .interrupted ∧ mailbox.Leaves mailbox.envelopes after) := by
  rw [expire, execute]
  exact ensures_statement ⟨rfl, rfl, rfl⟩ ⟨rfl, rfl⟩

theorem acknowledgeRetrieval_ensures (mailbox : MailboxStorage) (messageId : String)
    (now : UInt64) :
    (acknowledgeRetrieval messageId now).Ensures mailbox
      (fun _ => mailbox.Leaves (markDelivered messageId now mailbox.envelopes))
      (fun _ => mailbox.Leaves mailbox.envelopes) := by
  rw [acknowledgeRetrieval, execute]
  exact ensures_statement ⟨rfl, rfl⟩ ⟨rfl, rfl⟩

theorem exceedsCapacity_ensures (envelope : MailboxEnvelopeRecord) :
    (exceedsCapacity envelope).Ensures mailbox
      (fun exceeds after => mailbox.Leaves mailbox.envelopes after ∧
        (exceeds = false → mailbox.envelopes.pendingCount < mailbox.maxPendingEnvelopes ∨
          mailbox.envelopes.Contains envelope.messageId))
      (fun error after => error = .interrupted ∧ mailbox.Leaves mailbox.envelopes after) := by
  rw [exceedsCapacity, ensures_bind, ensures_get, ensures_bind]
  refine ensures_statement ⟨rfl, rfl, rfl⟩ ?_
  rw [ensures_ite]
  refine ⟨fun _ => ?_, fun room => ⟨⟨rfl, rfl⟩, fun _ => .inl (Nat.lt_of_not_le room)⟩⟩
  rw [ensures_bind]
  refine ensures_statement ⟨rfl, rfl, rfl⟩ ⟨⟨rfl, rfl⟩, fun known => .inr ?_⟩
  exact of_decide_eq_true (Bool.not_inj known)

/-- A deposit first expires what is overdue; only when it returns that the envelope was
inserted does it change anything else, and otherwise the id is known. -/
theorem deposit_ensures (mailbox : MailboxStorage) (envelope : MailboxEnvelopeRecord)
    (now : UInt64) :
    (deposit envelope now).Ensures mailbox
      (fun inserted after =>
        if inserted then
          ¬ (expireOverdue now mailbox.envelopes).Contains envelope.messageId ∧
          (expireOverdue now mailbox.envelopes).pendingCount < mailbox.maxPendingEnvelopes ∧
          mailbox.Leaves ((expireOverdue now mailbox.envelopes).insertOrIgnore
            ⟨envelope, .pending, none⟩) after
        else (expireOverdue now mailbox.envelopes).Contains envelope.messageId ∧
          mailbox.Leaves (expireOverdue now mailbox.envelopes) after)
      (fun error after => mailbox.Leaves (expireOverdue now mailbox.envelopes) after ∨
        (error = .interrupted ∧ mailbox.Leaves mailbox.envelopes after)) := by
  rw [deposit, ensures_bind]
  refine (expire_ensures mailbox now).mono (fun _ expired leaves => ?_) fun _ _ => .inr
  obtain ⟨rows, capacity⟩ := leaves
  rw [ensures_bind]
  refine (exceedsCapacity_ensures envelope).mono (fun exceeds checked outcome => ?_)
    fun _ _ stopped => .inl ⟨stopped.2.1.trans rows, stopped.2.2.trans capacity⟩
  obtain ⟨⟨sameRows, sameCapacity⟩, room⟩ := outcome
  rw [rows] at sameRows room
  rw [capacity] at sameCapacity room
  rw [ensures_ite]
  refine ⟨fun _ => .inl ⟨sameRows, sameCapacity⟩, fun fits => ?_⟩
  refine ensures_statement (.inl ⟨sameRows, sameCapacity⟩) ?_
  dsimp only
  by_cases known : (expireOverdue now mailbox.envelopes).Contains envelope.messageId
  · rw [sameRows, decide_eq_false (not_not_intro known), if_neg Bool.false_ne_true,
      Table.insertOrIgnore_of_contains known]
    exact ⟨known, rfl, sameCapacity⟩
  · rw [sameRows, decide_eq_true known, if_pos rfl]
    exact ⟨known, (room (by simpa using fits)).resolve_right known, rfl, sameCapacity⟩

theorem fetchPending_ensures (mailbox : MailboxStorage) (recipientToken : String)
    (now : UInt64) :
    (fetchPending recipientToken now).Ensures mailbox
      (fun records after =>
        records = pendingFor recipientToken now (expireOverdue now mailbox.envelopes) ∧
          mailbox.Leaves (expireOverdue now mailbox.envelopes) after)
      (fun _ => mailbox.OnlyExpires now) := by
  rw [fetchPending, ensures_bind]
  refine (expire_ensures mailbox now).mono (fun _ expired leaves => ?_)
    fun _ _ stopped => .inr stopped.2
  obtain ⟨rows, capacity⟩ := leaves
  exact ensures_statement (.inl ⟨rows, capacity⟩) ⟨by rw [rows], rows, capacity⟩

end MailboxStorage

end CipherMesh
