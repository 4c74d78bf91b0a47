import CipherMesh.Foundation.Collections
import CipherMesh.Storage.Database
import Mathlib.Data.Prod.Lex
import Mathlib.Data.String.Basic

/-!
# The event history

Events are numbered by the device that creates them.  The version vector of a
conversation stores, for each device, the contiguous prefix of its events that is
present; a peer answers a vector with the events beyond it.
-/

namespace CipherMesh

open Foundation
open Foundation.Mutation

abbrev VersionVector := Finmap fun _ : String => UInt64

namespace Storage

/-- The order of `ORDER BY device_id, counter`. -/
def eventOrder (event : EventRecord) : String ×ₗ Int :=
  toLex (event.deviceId, asI64 event.counter)

theorem position_eq_of_eventOrder_eq (first second : EventRecord)
    (same : eventOrder first = eventOrder second) : first.position = second.position := by
  have parts := Prod.ext_iff.mp (toLex.injective same)
  exact Prod.ext parts.1 (asI64_injective parts.2)

/-- The events of a conversation in order. -/
def eventsOf (conversationId : String) (storage : Storage) : List EventRecord :=
  storage.eventHistory.select (fun event => event.conversationId = conversationId) eventOrder

/-- The counters of a device in a conversation in order. -/
def countersOf (conversationId deviceId : String) (storage : Storage) : List UInt64 :=
  (storage.eventHistory.select
    (fun event => event.conversationId = conversationId ∧ event.deviceId = deviceId)
    fun event => asI64 event.counter).map EventRecord.counter

/-- The loop of `refresh_vector_for_device`: how far the counters continue the prefix
without a gap. -/
def contiguousFrom (contiguous : UInt64) : List UInt64 → UInt64
  | [] => contiguous
  | counter :: counters =>
      if counter = contiguous + 1 then contiguousFrom counter counters
      else if counter > contiguous + 1 then contiguous
      else contiguousFrom contiguous counters

/-- The events beyond a vector. -/
def missingEvents (conversationId : String) (peerVector : VersionVector)
    (storage : Storage) : List EventRecord :=
  (storage.eventsOf conversationId).filter fun event =>
    event.counter > (peerVector.lookup event.deviceId).getD 0

def vectorOf (conversationId : String) (storage : Storage) : VersionVector :=
  collect ((storage.versionVectors.rows.filter fun entry =>
    entry.conversationId = conversationId).map fun entry =>
      (entry.deviceId, entry.contiguousCounter))

/-- The counter that a device uses next, which starts at one. -/
def nextCounterOf (deviceId : String) (storage : Storage) : Int64 :=
  ((storage.deviceCounters.find deviceId).map DeviceCounter.nextCounter).getD 1

section

variable {storage : Storage} {conversationId deviceId : String}

theorem mem_of_lookup_vectorOf {last : UInt64}
    (found : (storage.vectorOf conversationId).lookup deviceId = some last) :
    ⟨conversationId, deviceId, last⟩ ∈ storage.versionVectors := by
  have listed := mem_of_lookup_collect found
  simp only [List.mem_map, List.mem_filter, decide_eq_true_eq, Prod.mk.injEq] at listed
  obtain ⟨entry, ⟨member, rfl⟩, rfl, rfl⟩ := listed
  exact member

theorem exists_lookup_vectorOf
    (present : storage.versionVectors.Contains (conversationId, deviceId)) :
    ∃ last, (storage.vectorOf conversationId).lookup deviceId = some last := by
  obtain ⟨entry, member, same⟩ := present
  obtain ⟨rfl, rfl⟩ := Prod.mk.inj same
  have listed : (entry.deviceId, entry.contiguousCounter) ∈
      (storage.versionVectors.rows.filter fun other =>
        other.conversationId = entry.conversationId).map fun other =>
          (other.deviceId, other.contiguousCounter) :=
    List.mem_map_of_mem (List.mem_filter.mpr ⟨member, decide_eq_true rfl⟩)
  exact exists_lookup_collect listed

theorem lookup_vectorOf (conversationId deviceId : String) :
    (storage.vectorOf conversationId).lookup deviceId =
      (storage.versionVectors.find (conversationId, deviceId)).map
        VersionEntry.contiguousCounter := by
  cases found : storage.versionVectors.find (conversationId, deviceId) with
  | none =>
      have absent := Table.find_eq_none.mp found
      cases listed : (storage.vectorOf conversationId).lookup deviceId with
      | none => rfl
      | some last => exact absurd ⟨_, mem_of_lookup_vectorOf listed, rfl⟩ absent
  | some entry =>
      obtain ⟨member, same⟩ := Table.find_eq_some.mp found
      obtain ⟨last, listed⟩ := exists_lookup_vectorOf ⟨entry, member, same⟩
      have isEntry := Table.eq_of_key_eq (mem_of_lookup_vectorOf listed) member same.symm
      rw [listed, ← isEntry]
      rfl

end

end Storage

namespace Database

open Storage

/-- Allocate the next counter of a device, across all conversations. -/
def nextLocalEventCounter (deviceId : String) : StorageResult UInt64 :=
  transaction do
    let current ← query (nextCounterOf deviceId)
    let entry : DeviceCounter := ⟨deviceId, current + 1⟩
    execute fun storage =>
      { storage with deviceCounters := storage.deviceCounters.upsert entry }
    return current.toUInt64

def refreshVectorForDevice (conversationId deviceId : String) : StorageResult Unit := do
  let counters ← query (countersOf conversationId deviceId)
  let entry : VersionEntry :=
    ⟨conversationId, deviceId, contiguousFrom 0 counters⟩
  execute fun storage =>
    { storage with versionVectors := storage.versionVectors.upsert entry }

/-- Insert an event unless its position is taken, and return whether it was inserted. -/
def appendEvent (event : EventRecord) : StorageResult Bool := do
  let inserted ← statement fun storage =>
    .ok (decide ¬ storage.eventHistory.Contains event.position,
      { storage with eventHistory := storage.eventHistory.insertOrIgnore event })
  refreshVectorForDevice event.conversationId event.deviceId
  return inserted

/-- Append the events in order and count the inserted ones. -/
def appendEvents : List EventRecord → StorageResult Nat
  | [] => return 0
  | event :: events => do
      let inserted ← appendEvent event
      let count ← appendEvents events
      return (if inserted then count + 1 else count)

def versionVector (conversationId : String) : StorageResult VersionVector :=
  query (vectorOf conversationId)

def missingEventsFor (conversationId : String) (peerVector : VersionVector) :
    StorageResult (List EventRecord) :=
  query (missingEvents conversationId peerVector)

end Database

/-! ## Members -/

theorem Representable.toNat_add_one {counter : UInt64} (fits : Representable counter) :
    (counter + 1).toNat = counter.toNat + 1 := by
  rw [Representable] at fits
  rw [UInt64.toNat_add, UInt64.toNat_one]
  omega

namespace Storage

variable {storage : Storage} {conversationId deviceId : String} {event : EventRecord}

@[simp] theorem mem_eventsOf :
    event ∈ storage.eventsOf conversationId ↔
      event ∈ storage.eventHistory ∧ event.conversationId = conversationId := by
  simp [eventsOf]

/-- The same events of a conversation are listed in the same order. -/
theorem missingEvents_congr {other : Storage} {peerVector : VersionVector}
    (sameEvents : ∀ event, event.conversationId = conversationId →
      (event ∈ storage.eventHistory ↔ event ∈ other.eventHistory)) :
    storage.missingEvents conversationId peerVector =
      other.missingEvents conversationId peerVector := by
  rw [missingEvents, missingEvents, eventsOf, eventsOf,
    Table.select_eq_select fun row other _ _ => position_eq_of_eventOrder_eq row other]
  intro event here
  exact sameEvents event (by simpa using here)

/-- The same events of a device in a conversation have the same counters. -/
theorem countersOf_congr {other : Storage}
    (sameEvents : ∀ event, event.conversationId = conversationId → event.deviceId = deviceId →
      (event ∈ storage.eventHistory ↔ event ∈ other.eventHistory)) :
    storage.countersOf conversationId deviceId = other.countersOf conversationId deviceId := by
  rw [countersOf, countersOf, Table.select_eq_select]
  · intro row other chosen otherChosen same
    have device := (of_decide_eq_true chosen).2.trans (of_decide_eq_true otherChosen).2.symm
    exact Prod.ext device (asI64_injective same)
  · intro event chosen
    obtain ⟨conversation, device⟩ := of_decide_eq_true chosen
    exact sameEvents event conversation device

theorem mem_countersOf {counter : UInt64} :
    counter ∈ storage.countersOf conversationId deviceId ↔
      ∃ event ∈ storage.eventHistory, event.conversationId = conversationId ∧
        event.deviceId = deviceId ∧ event.counter = counter := by
  simp [countersOf, and_assoc]

theorem mem_missingEvents {peerVector : VersionVector} :
    event ∈ storage.missingEvents conversationId peerVector ↔
      (event ∈ storage.eventHistory ∧ event.conversationId = conversationId) ∧
        (peerVector.lookup event.deviceId).getD 0 < event.counter := by
  simp [missingEvents]

/-- The loop returns a prefix it has seen, wherever it stops. -/
theorem seen_of_le_contiguousFrom (seen : UInt64 → Prop) {contiguous counter : UInt64}
    {counters : List UInt64}
    (before : ∀ counter, 0 < counter → counter ≤ contiguous → seen counter)
    (listed : ∀ counter ∈ counters, seen counter) (positive : 0 < counter)
    (below : counter ≤ contiguousFrom contiguous counters) : seen counter := by
  induction counters generalizing contiguous with
  | nil => exact before counter positive below
  | cons head tail tailIH =>
      have tailListed : ∀ counter ∈ tail, seen counter :=
        fun counter member => listed counter (List.mem_cons_of_mem _ member)
      rw [contiguousFrom] at below
      split at below
      · next continues =>
          refine tailIH ?_ tailListed below
          intro other otherPositive otherBelow
          rcases UInt64.le_iff_lt_or_eq.mp otherBelow with less | rfl
          · apply before other otherPositive
            rw [continues] at less
            grind
          · exact listed _ List.mem_cons_self
      · split at below
        · exact before counter positive below
        · exact tailIH before tailListed below

/-- From zero on, the loop counts only what it sees. -/
theorem mem_of_le_contiguousFrom {counter : UInt64} {counters : List UInt64}
    (positive : 0 < counter) (below : counter ≤ contiguousFrom 0 counters) :
    counter ∈ counters := by
  refine seen_of_le_contiguousFrom (· ∈ counters) ?_ (fun _ => id) positive below
  intro other otherPositive otherBelow
  exact absurd (UInt64.lt_of_lt_of_le otherPositive otherBelow) (UInt64.lt_irrefl 0)

/-- The loop does not stop within a prefix that it sees in order. -/
theorem le_contiguousFrom {contiguous last : UInt64} {counters : List UInt64}
    (sorted : counters.Pairwise (· ≤ ·)) (startFits : Representable contiguous)
    (fits : ∀ counter ∈ counters, Representable counter)
    (listed : ∀ counter, contiguous < counter → counter ≤ last → counter ∈ counters) :
    last ≤ contiguousFrom contiguous counters := by
  induction counters generalizing contiguous with
  | nil =>
      by_contra beyond
      exact List.not_mem_nil (listed last (UInt64.not_le.mp beyond) (UInt64.le_refl last))
  | cons head tail tailIH =>
      have next := startFits.toNat_add_one
      have tailFits : ∀ counter ∈ tail, Representable counter :=
        fun counter member => fits counter (List.mem_cons_of_mem _ member)
      rw [contiguousFrom]
      split
      · next continues =>
          refine tailIH sorted.of_cons (fits head List.mem_cons_self) tailFits ?_
          intro counter above below
          rw [continues, UInt64.lt_iff_toNat_lt, next] at above
          have member := listed counter (UInt64.lt_iff_toNat_lt.mpr (by omega)) below
          rcases List.mem_cons.mp member with rfl | inTail
          · rw [continues, next] at above
            omega
          · exact inTail
      · next other =>
          split
          · next gap =>
              by_contra beyond
              rw [UInt64.not_le, UInt64.lt_iff_toNat_lt] at beyond
              have member := listed (contiguous + 1) (UInt64.lt_iff_toNat_lt.mpr (by omega))
                (UInt64.le_iff_toNat_le.mpr (by omega))
              rcases List.mem_cons.mp member with same | inTail
              · exact other same.symm
              · exact absurd gap (UInt64.not_lt.mpr (List.rel_of_pairwise_cons sorted inTail))
          · next noGap =>
              refine tailIH sorted.of_cons startFits tailFits fun counter above below => ?_
              rcases List.mem_cons.mp (listed counter above below) with rfl | inTail
              · exfalso
                rw [gt_iff_lt, UInt64.lt_iff_toNat_lt] at noGap
                rw [UInt64.lt_iff_toNat_lt] at above
                exact other (UInt64.toNat_inj.mp (by omega))
              · exact inTail

end Storage

end CipherMesh
