import CipherMesh.Foundation.Reachability

/-!
# Numbers that survive a crash

A sequencer gives each entry the next number.  It keeps that number in memory and saves the
one after it together with the entry.  A number may also be drawn in vain, and after a crash
the sequencer goes on from the saved one.  No number is given twice: the entries have
increasing numbers, all below the saved one.
-/

namespace Foundation

universe u

structure Sequencer (Entry : Type u) where
  memory : Nat
  saved : Nat
  issued : List (Nat × Entry)

inductive SequencerEvent (Entry : Type u) where
  /-- A number is used up for nothing. -/
  | draw
  | issue (entry : Entry)
  | crash

namespace Sequencer

variable {Entry : Type u}

def start : Sequencer Entry := ⟨0, 0, []⟩

def next (sequencer : Sequencer Entry) : SequencerEvent Entry → Sequencer Entry
  | .draw => { sequencer with memory := sequencer.memory + 1 }
  | .issue entry =>
      { memory := sequencer.memory + 1
        saved := sequencer.memory + 1
        issued := sequencer.issued ++ [(sequencer.memory, entry)] }
  | .crash => { sequencer with memory := sequencer.saved }

/-- All runs: any event may happen at any time. -/
def runs : System (Sequencer Entry) (SequencerEvent Entry) where
  initial sequencer := sequencer = start
  permitted _ _ := True
  next := next

/-- The numbers increase up to the saved one. -/
structure Increasing (sequencer : Sequencer Entry) : Prop where
  saved_le_memory : sequencer.saved ≤ sequencer.memory
  issued_lt_saved : ∀ entry ∈ sequencer.issued, entry.1 < sequencer.saved
  increasing : sequencer.issued.Pairwise fun first second => first.1 < second.1

theorem Increasing.start : (start : Sequencer Entry).Increasing where
  saved_le_memory := Nat.le_refl 0
  issued_lt_saved _ member := nomatch member
  increasing := .nil

theorem Increasing.next {sequencer : Sequencer Entry} (increasing : sequencer.Increasing)
    (event : SequencerEvent Entry) : (sequencer.next event).Increasing := by
  cases event with
  | draw =>
      exact { increasing with saved_le_memory := Nat.le_succ_of_le increasing.saved_le_memory }
  | issue entry =>
      have below : ∀ old ∈ sequencer.issued, old.1 < sequencer.memory := fun old member =>
        Nat.lt_of_lt_of_le (increasing.issued_lt_saved old member) increasing.saved_le_memory
      refine ⟨Nat.le_refl _, fun other member => ?_, ?_⟩
      · rcases List.mem_append.mp member with old | new
        · exact Nat.lt_succ_of_lt (below other old)
        · rw [List.mem_singleton.mp new]
          exact Nat.lt_succ_self _
      · refine List.pairwise_append.mpr ⟨increasing.increasing, List.pairwise_singleton _ _, ?_⟩
        intro old member new isNew
        rw [List.mem_singleton.mp isNew]
        exact below old member
  | crash => exact { increasing with saved_le_memory := Nat.le_refl _ }

theorem increasing_of_reachable {sequencer : Sequencer Entry}
    (reachable : runs.Reachable sequencer) : sequencer.Increasing := by
  refine reachable.invariant Increasing ?_ fun _ event increasing _ => increasing.next event
  rintro _ rfl
  exact .start

end Sequencer

end Foundation
