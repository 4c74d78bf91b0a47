import CipherMesh.Chat.History
import CipherMesh.Crypto.Symbolic
import CipherMesh.Foundation.Hex
import Mathlib.Data.Set.Function

/-!
# Ids of messages

An id is the hash of four fields written one after the other.  Where the conversation ids
are equally long and the counters are both present or both absent, equal ids come from equal
fields; the boundaries of the fields can shift otherwise.  A row whose id is taken is not
inserted.
-/

namespace CipherMesh

open Foundation
open Foundation.Mutation

variable {P : Primitives}

/-- The arguments of `chat_message_id`. -/
structure MessageKey where
  conversationId : String
  direction : MessageDirection
  protocolCounter : Option UInt64
  ciphertext : Bytes
  deriving DecidableEq

namespace MessageKey

def messageId (P : Primitives) (key : MessageKey) : String :=
  chatMessageId P key.conversationId key.direction (key.protocolCounter.map UInt64.toNat)
    key.ciphertext

def counterBytes : Option UInt64 → Bytes
  | none => []
  | some counter => .bigEndian 8 counter.toNat

/-- The bytes that are hashed. -/
def hashed (key : MessageKey) : Bytes :=
  .ofText "ciphermesh.local-history.v1" ++ .ofText key.conversationId ++ key.direction.bytes ++
    counterBytes key.protocolCounter ++ key.ciphertext

theorem messageId_eq (key : MessageKey) :
    key.messageId P = Bytes.hexEncode ((P.sha256 key.hashed).take 16) := by
  cases key with
  | mk conversationId direction protocolCounter ciphertext => cases protocolCounter <;> rfl

/-- The fields stand at the same places in the hashed bytes. -/
def SameLayout (first second : MessageKey) : Prop :=
  (Bytes.ofText first.conversationId).length = (Bytes.ofText second.conversationId).length ∧
    first.protocolCounter.isSome = second.protocolCounter.isSome

/-- The two words begin with different letters. -/
theorem direction_injective {first second : MessageDirection} {rest otherRest : Bytes}
    (same : first.bytes ++ rest = second.bytes ++ otherRest) :
    first = second ∧ rest = otherRest := by
  have sent : MessageDirection.sent.bytes = [115, 101, 110, 116] := by decide +kernel
  have received : MessageDirection.received.bytes = [114, 101, 99, 101, 105, 118, 101, 100] := by
    decide +kernel
  cases first with
  | sent =>
      cases second with
      | sent => exact ⟨rfl, List.append_cancel_left same⟩
      | received => simp [sent, received] at same
  | received =>
      cases second with
      | sent => simp [sent, received] at same
      | received => exact ⟨rfl, List.append_cancel_left same⟩

theorem counter_injective {first second : Option UInt64} {rest otherRest : Bytes}
    (present : first.isSome = second.isSome)
    (same : counterBytes first ++ rest = counterBytes second ++ otherRest) :
    first = second ∧ rest = otherRest := by
  cases first with
  | none =>
      cases second with
      | none => exact ⟨rfl, same⟩
      | some counter => cases present
  | some counter =>
      cases second with
      | none => cases present
      | some other =>
          obtain ⟨digits, restSame⟩ := List.append_inj same (by simp [counterBytes])
          have number := Bytes.bigEndian_injective (UInt64.toNat_lt _) (UInt64.toNat_lt _) digits
          exact ⟨congrArg some (UInt64.toNat_inj.mp number), restSame⟩

/-- In one layout the hashed bytes determine the fields. -/
theorem eq_of_hashed_eq {first second : MessageKey} (layout : first.SameLayout second)
    (same : first.hashed = second.hashed) : first = second := by
  simp only [hashed, List.append_assoc, List.append_cancel_left_eq] at same
  obtain ⟨conversation, fields⟩ := List.append_inj same layout.1
  obtain ⟨direction, fields⟩ := direction_injective fields
  obtain ⟨counter, ciphertext⟩ := counter_injective layout.2 fields
  cases first
  cases second
  simp only [mk.injEq]
  exact ⟨Bytes.ofText_injective conversation, direction, counter, ciphertext⟩

/-- Ids are equal when the hashed bytes are, and only then if the hash has no collision on
the inputs that occur. -/
theorem messageId_eq_iff {inputs : Set Bytes}
    (injective : Set.InjOn (fun bytes => (P.sha256 bytes).take 16) inputs)
    {first second : MessageKey} (occurs : first.hashed ∈ inputs)
    (otherOccurs : second.hashed ∈ inputs) :
    first.messageId P = second.messageId P ↔ first.hashed = second.hashed := by
  rw [messageId_eq, messageId_eq, Bytes.hexEncode_injective.eq_iff]
  exact injective.eq_iff occurs otherOccurs

end MessageKey

/-- A row that is not inserted has the id of a row that was stored, and nothing changes. -/
theorem insertMessage_dropped {record : MessageRecord} {database after : Database}
    (returned : (Database.insertMessage record).run database = (.ok (), after))
    (dropped : record ∉ after.storage.messages) :
    (∃ stored ∈ database.storage.messages, stored.messageId = record.messageId) ∧
      after.storage = database.storage := by
  have inserted : after.storage = database.storage.withMessage record := by
    have ensures : (Database.insertMessage record).Ensures database
        (fun _ reached => reached.storage = database.storage.withMessage record)
        (fun _ _ => True) := Database.ensures_execute trivial rfl
    exact ensures.of_ok returned
  by_cases present : database.storage.messages.Contains record.messageId
  · refine ⟨present, ?_⟩
    rw [inserted, Storage.withMessage, Table.insertOrIgnore_of_contains present]
  · rw [inserted] at dropped
    exact absurd (Table.mem_insertOrIgnore.mpr (.inr ⟨rfl, present⟩)) dropped

/-- Without a collision of the hash, equal ids come from equal hashed bytes, and in one layout
from equal fields.  A row is dropped only for a stored row with its id, which stays; when both
ids were computed from fields in one layout, then from the same fields. -/
theorem messageId_determines {inputs : Set Bytes}
    (injective : Set.InjOn (fun bytes => (P.sha256 bytes).take 16) inputs) :
    (∀ first second : MessageKey, first.hashed ∈ inputs → second.hashed ∈ inputs →
      first.messageId P = second.messageId P →
        first.hashed = second.hashed ∧ (first.SameLayout second → first = second)) ∧
    ∀ (record : MessageRecord) (database after : Database),
      (Database.insertMessage record).run database = (.ok (), after) →
        record ∉ after.storage.messages →
          after.storage = database.storage ∧
            ∃ stored ∈ database.storage.messages, stored.messageId = record.messageId ∧
              ∀ first second : MessageKey, first.hashed ∈ inputs → second.hashed ∈ inputs →
                stored.messageId = first.messageId P → record.messageId = second.messageId P →
                  first.SameLayout second → first = second := by
  constructor
  · intro first second occurs otherOccurs same
    have hashed := (MessageKey.messageId_eq_iff injective occurs otherOccurs).mp same
    exact ⟨hashed, fun layout => MessageKey.eq_of_hashed_eq layout hashed⟩
  · intro record database after returned dropped
    obtain ⟨⟨stored, member, same⟩, unchanged⟩ := insertMessage_dropped returned dropped
    refine ⟨unchanged, stored, member, same, ?_⟩
    intro first second occurs otherOccurs named otherNamed layout
    apply MessageKey.eq_of_hashed_eq layout
    rw [← MessageKey.messageId_eq_iff injective occurs otherOccurs, ← named, ← otherNamed, same]

/-! ## Shifted boundaries -/

namespace Symbolic

/-- The keys differ and have one id, although the hash has no collision on their inputs. -/
def Collide (first second : MessageKey) : Prop :=
  first ≠ second ∧ first.messageId primitives = second.messageId primitives ∧
    Set.InjOn (fun bytes => (primitives.sha256 bytes).take 16) {first.hashed, second.hashed}

theorem collide_of_hashed_eq {first second : MessageKey} (different : first ≠ second)
    (same : first.hashed = second.hashed) : Collide first second := by
  refine ⟨different, ?_, ?_⟩
  · rw [MessageKey.messageId_eq, MessageKey.messageId_eq, same]
  · rw [same, Set.pair_eq_singleton]
    exact Set.injOn_singleton _ _

/-- The entry of the history for a message without an id of its own. -/
def entryOf (key : MessageKey) : ChatHistoryEntry where
  messageId := none
  conversationId := key.conversationId
  senderDisplayName := "Alice"
  peerDisplayName := "Bob"
  direction := key.direction
  status := .sent
  protocolCounter := key.protocolCounter.map UInt64.toNat
  ciphertext := key.ciphertext
  plaintext := "hello"

/-- The conversations and times of the history after both were persisted, one second apart. -/
def persistedBoth (first second : MessageKey) : List (String × UInt64) :=
  let stored := ((persistChatMessage primitives (entryOf first)).run ⟨.empty, 1, []⟩).2
  let both := ((persistChatMessage primitives (entryOf second)).run (stored.opened 2 [])).2
  both.storage.messages.rows.map fun row => (row.conversationId, row.createdAtUnixSecs)

/-- The word for the direction is read as the end of the conversation id. -/
def shortKey : MessageKey := ⟨"a", .sent, none, .ofText "sentx"⟩
def longKey : MessageKey := ⟨"asent", .sent, none, .ofText "x"⟩

/-- The counter is read as the start of the ciphertext. -/
def countedKey : MessageKey := ⟨"chat", .sent, some 1, .ofText "x"⟩
def uncountedKey : MessageKey := ⟨"chat", .sent, none, .bigEndian 8 1 ++ .ofText "x"⟩

/-- Different messages get one id, and a row that differs from the stored one is dropped: that
of another conversation, and that of the same message one second later. -/
theorem messageIds_collide :
    Collide shortKey longKey ∧ Collide countedKey uncountedKey ∧
      persistedBoth shortKey longKey = [("a", 1)] ∧
      persistedBoth shortKey shortKey = [("a", 1)] ∧
      (entryOf longKey).record primitives 2 ≠ (entryOf shortKey).record primitives 1 ∧
      (entryOf shortKey).record primitives 2 ≠ (entryOf shortKey).record primitives 1 := by
  refine ⟨collide_of_hashed_eq (by decide) (by decide +kernel),
    collide_of_hashed_eq (by decide) (by decide +kernel), by decide +kernel, by decide +kernel,
    ?_, ?_⟩
  · intro same
    exact absurd (congrArg MessageRecord.conversationId same) (by decide +kernel)
  · intro same
    exact absurd (congrArg MessageRecord.createdAtUnixSecs same) (by decide +kernel)

/-- The history of one message. -/
def shortStore : Database :=
  ((persistChatMessage primitives (entryOf shortKey)).run ⟨.empty, 1, []⟩).2

/-- The same message in another conversation. -/
def otherKey : MessageKey := ⟨"b", .sent, none, .ofText "sentx"⟩

/-- The truncated hash tells the two messages apart.  When the first one is persisted again, a
row stays whose id comes from the fields of no other message in its layout. -/
theorem shortKey_determined :
    shortKey.messageId primitives ≠ otherKey.messageId primitives ∧
      ∃ stored ∈ shortStore.storage.messages, stored.messageId = shortKey.messageId primitives ∧
        ∀ key : MessageKey, key.hashed = shortKey.hashed ∨ key.hashed = otherKey.hashed →
          key.SameLayout shortKey → stored.messageId = key.messageId primitives →
            key = shortKey := by
  have separates : (primitives.sha256 shortKey.hashed).take 16 ≠
      (primitives.sha256 otherKey.hashed).take 16 := by decide +kernel
  have injective : Set.InjOn (fun bytes => (primitives.sha256 bytes).take 16)
      {shortKey.hashed, otherKey.hashed} := Set.injOn_pair.mpr fun same => absurd same separates
  have determines := messageId_determines injective
  have occurs : shortKey.hashed ∈ ({shortKey.hashed, otherKey.hashed} : Set Bytes) := .inl rfl
  constructor
  · intro same
    have hashed := (determines.1 shortKey otherKey occurs (.inr rfl) same).1
    exact separates (congrArg (fun bytes => (primitives.sha256 bytes).take 16) hashed)
  · obtain ⟨-, stored, member, same, fields⟩ := determines.2
      ((entryOf shortKey).record primitives 2) (shortStore.opened 2 []) _ rfl
      (by rw [Table.mem_def]; decide +kernel)
    refine ⟨stored, member, same, fun key hashed layout named => ?_⟩
    exact fields key shortKey hashed occurs named rfl layout

end Symbolic

end CipherMesh
