import CipherMesh.Link.Window
import Mathlib.Data.Finset.Card

/-!
# How far an end lags behind

Every number that a receiving chain has passed was consumed or has a stored key.  So the
room that is left in the skip window depends only on how many of the messages sent before
were never decrypted, whatever the order in which the others came.
-/

namespace CipherMesh

open Foundation
open Foundation.Mutation
open RatchetSession

variable {P : Primitives}

namespace RatchetSession

variable {session : RatchetSession P} {epoch : Epoch P}

theorem Covered.recvCount_eq (covered : session.Covered) (wf : session.WellFormed) :
    session.recvCount =
      session.consumedMessageNumbers.card + session.skippedMessageKeys.keys.card := by
  have passed : Finset.range session.recvCount =
      session.consumedMessageNumbers ∪ session.skippedMessageKeys.keys := by
    ext number
    rw [Finset.mem_range, Finset.mem_union, Finmap.mem_keys]
    constructor
    · exact covered number
    · rintro (consumed | stored)
      · exact wf.consumed_lt consumed
      · exact wf.skipped_lt stored
  have apart : Disjoint session.consumedMessageNumbers session.skippedMessageKeys.keys :=
    Finset.disjoint_left.mpr fun _ consumed stored =>
      wf.consumed_not_skipped consumed (Finmap.mem_keys.mp stored)
  rw [← Finset.card_union_of_disjoint apart, ← passed, Finset.card_range]

/-- A genuine message moves the receive counter at most past its own number. -/
theorem Genuine.recvCount_decrypt_le (correct : P.AeadCorrect) {message : RatchetMessage P}
    {text : String} (invariant : session.AtEpoch epoch)
    (genuine : session.Genuine epoch message text) :
    ((decrypt message).run session).2.recvCount ≤ max session.recvCount (message.number + 1) := by
  rcases genuine.decrypt_cases correct invariant with
    ⟨_, run⟩ | ⟨_, _, taken, run⟩ | ⟨⟨_, _, noRoom⟩, run⟩
  · rw [run]
    exact Nat.le_max_left _ _
  · rw [run]
    cases taken with
    | stored unconsumed present => exact Nat.le_max_left _ _
    | reached unconsumed absent ahead room =>
        change session.recvCount + (message.number - session.recvCount) + 1 ≤ _
        omega
  · rw [run]
    change session.recvCount + (maxSkippedMessageKeys - _) ≤ _
    omega

end RatchetSession

namespace Link

variable {link : Link P} {rootKey : P.Block} {keys : RatchetRole → X25519KeyPair P}
variable {side : RatchetRole}

/-- A message ahead is in the window exactly if at most eight before it were never decrypted. -/
theorem InStep.withinSkipWindow_iff (inStep : InStep rootKey keys link) {number : Nat}
    (ahead : (link.sessions side).recvCount ≤ number) :
    WithinSkipWindow (link.sessions side) number ↔
      number ≤ (link.sessions side).consumedMessageNumbers.card + maxSkippedMessageKeys := by
  have passed := (inStep.covered side).recvCount_eq (inStep.atEpoch side).toWellFormed
  rw [WithinSkipWindow]
  omega

section

variable {message : RatchetMessage P} {text : String}

/-- A number ahead was not consumed. -/
theorem InStep.notMem_consumed (inStep : InStep rootKey keys link) {number : Nat}
    (ahead : (link.sessions side).recvCount ≤ number) :
    number ∉ (link.sessions side).consumedMessageNumbers := fun consumed =>
  absurd ((inStep.atEpoch side).toWellFormed.consumed_lt consumed) (Nat.not_lt.mpr ahead)

/-- A message ahead that is near enough is decrypted. -/
theorem InStep.decrypt_ahead (correct : P.AeadCorrect) (inStep : InStep rootKey keys link)
    (sent : (message, text) ∈ link.produced side.peer)
    (ahead : (link.sessions side).recvCount ≤ message.number)
    (near : message.number ≤
      (link.sessions side).consumedMessageNumbers.card + maxSkippedMessageKeys) :
    ((decrypt message).run (link.sessions side)).1 = .ok text ∧
      ((link.next (.deliver side message)).sessions side).consumedMessageNumbers.card =
        (link.sessions side).consumedMessageNumbers.card + 1 ∧
        ((link.next (.deliver side message)).sessions side).recvCount ≤ message.number + 1 := by
  have genuine := inStep.genuine sent
  have unconsumed := inStep.notMem_consumed ahead
  have success := inStep.decrypt_first correct sent
    (fun accepted => unconsumed (inStep.accepted accepted).2)
    ((inStep.withinSkipWindow_iff ahead).mpr near)
  rw [sessions_deliver, if_pos rfl]
  refine ⟨success, ?_, ?_⟩
  · rcases genuine.decrypt_progress correct (inStep.atEpoch side) with
      ⟨_, numbers⟩ | ⟨⟨error, failure⟩, _⟩
    · rw [numbers, Finset.card_insert_of_notMem unconsumed]
    · rw [failure] at success
      cases success
  · have moved := genuine.recvCount_decrypt_le correct (inStep.atEpoch side)
    omega

end

/-- A receive counter never passes the send counter of the other end. -/
theorem recvCount_le_sendCount (commutes : P.DhCommutes) (correct : P.AeadCorrect)
    (reachable : genuineDelivery.Reachable link) (side : RatchetRole) :
    (link.sessions side).recvCount ≤ (link.sessions side.peer).sendCount := by
  obtain ⟨first, initial, run⟩ := reachable
  let bounded := fun link : Link P => genuineDelivery.Reachable link ∧
    ∀ side, (link.sessions side).recvCount ≤ (link.sessions side.peer).sendCount
  suffices bounded link from this.2 side
  refine run.invariant ⟨⟨first, initial, .refl⟩, fun side => ?_⟩ ?_
  · obtain ⟨sessions, established, rfl⟩ := initial
    obtain ⟨_, _, fresh⟩ := established.freshPair commutes
    rw [start_sessions, fresh.fresh]
    exact Nat.zero_le _
  · rintro state event ⟨⟨start, began, before⟩, below⟩ permitted
    refine ⟨⟨start, began, .step event before permitted⟩, fun side => ?_⟩
    obtain ⟨_, _, inStep⟩ := inStep_of_reachable commutes correct ⟨start, began, before⟩
    have holds := below side
    cases event with
    | encrypt sender text =>
        have kept := state.frame_encrypt sender text side.peer
        refine Nat.le_trans (Nat.le_of_eq ?_) (holds.trans kept.2.2.2.2)
        change ((state.next (.encrypt sender text)).sessions side).recvCount = _
        rw [sessions_encrypt]
        split <;> rfl
    | deliver receiver message =>
        obtain ⟨text, sent⟩ := permitted
        have genuine := inStep.genuine sent
        have kept := (inStep.frame_deliver genuine side.peer).2.1
        change ((state.next (.deliver receiver message)).sessions side).recvCount ≤
          ((state.next (.deliver receiver message)).sessions side.peer).sendCount
        rw [kept, sessions_deliver]
        split
        · next here =>
            subst here
            have moved := genuine.recvCount_decrypt_le correct (inStep.atEpoch side)
            have numbered := inStep.number_lt sent
            omega
        · exact holds
    | rotate sender generated => exact permitted.elim

end Link

end CipherMesh
