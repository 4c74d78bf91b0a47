import CipherMesh.Foundation.Reachability
import Mathlib.Algebra.BigOperators.Group.Finset.Basic
import Mathlib.Algebra.Order.BigOperators.Group.Finset

/-!
# Queues drained over FIFO links

Every end has handed its queue to a link that neither loses nor reorders.  An end takes
the items of its partner in order and confirms each one that it accepts; it stops for
good at the first one that it refuses, and then takes no confirmations either.  Every
run is finite, and when nothing more can happen everything is confirmed exactly if every
item is accepted.
-/

namespace Foundation

universe u

/-- `taken` counts the items of the partner that an end accepted, `confirmed` the items of
its own whose confirmation has arrived. -/
structure Drain (End : Type u) where
  taken : End → Nat
  confirmed : End → Nat
  running : End → Bool

inductive DrainEvent (End : Type u) where
  | item (taker : End)
  | confirmation (owner : End)
  deriving DecidableEq

namespace Drain

variable {End : Type u}

/-- `partner` sends `items taker` items to `taker`. -/
structure Setting (End : Type u) where
  partner : End → End
  items : End → Nat
  accepts : End → Nat → Bool
  partner_partner : ∀ taker, partner (partner taker) = taker

def start : Drain End := ⟨fun _ => 0, fun _ => 0, fun _ => true⟩

section

variable [DecidableEq End] (setting : Setting End)

def next (drain : Drain End) : DrainEvent End → Drain End
  | .item taker =>
      if setting.accepts taker (drain.taken taker) then
        { drain with taken := Function.update drain.taken taker (drain.taken taker + 1) }
      else { drain with running := Function.update drain.running taker false }
  | .confirmation owner =>
      { drain with
        confirmed := Function.update drain.confirmed owner (drain.confirmed owner + 1) }

def runs : System (Drain End) (DrainEvent End) where
  initial drain := drain = start
  permitted drain
    | .item taker => drain.running taker = true ∧ drain.taken taker < setting.items taker
    | .confirmation owner =>
        drain.running owner = true ∧
          drain.confirmed owner < drain.taken (setting.partner owner)
  next := next setting

end

/-- What was taken was accepted, in order and up to the item that stopped the end. -/
structure InOrder (setting : Setting End) (drain : Drain End) : Prop where
  accepted : ∀ taker, ∀ number < drain.taken taker, setting.accepts taker number = true
  taken_le : ∀ taker, drain.taken taker ≤ setting.items taker
  confirmed_le : ∀ owner, drain.confirmed owner ≤ drain.taken (setting.partner owner)
  stopped : ∀ taker, drain.running taker = false →
    drain.taken taker < setting.items taker ∧
      setting.accepts taker (drain.taken taker) = false

variable {setting : Setting End} {drain : Drain End}

theorem InOrder.start : InOrder setting (start : Drain End) where
  accepted _ number below := absurd below (Nat.not_lt_zero number)
  taken_le _ := Nat.zero_le _
  confirmed_le _ := Nat.le_refl 0
  stopped _ stops := by cases stops

section

variable [DecidableEq End]

/-- One more item is taken. -/
theorem InOrder.take (inOrder : InOrder setting drain) {taker : End}
    (runs : drain.running taker = true) (more : drain.taken taker < setting.items taker)
    (accepts : setting.accepts taker (drain.taken taker) = true) :
    InOrder setting
      { drain with taken := Function.update drain.taken taker (drain.taken taker + 1) } where
  accepted other number below := by
    dsimp only at below
    rcases eq_or_ne other taker with rfl | different
    · rw [Function.update_self] at below
      rcases Nat.lt_succ_iff_lt_or_eq.mp below with before | rfl
      · exact inOrder.accepted other number before
      · exact accepts
    · rw [Function.update_of_ne different] at below
      exact inOrder.accepted other number below
  taken_le other := by
    dsimp only
    rcases eq_or_ne other taker with rfl | different
    · rw [Function.update_self]
      exact more
    · rw [Function.update_of_ne different]
      exact inOrder.taken_le other
  confirmed_le owner := by
    refine (inOrder.confirmed_le owner).trans ?_
    dsimp only
    rcases eq_or_ne (setting.partner owner) taker with same | different
    · rw [same, Function.update_self]
      exact Nat.le_succ _
    · rw [Function.update_of_ne different]
  stopped other stops := by
    dsimp only at stops ⊢
    have different : other ≠ taker := by
      rintro rfl
      rw [runs] at stops
      cases stops
    rw [Function.update_of_ne different]
    exact inOrder.stopped other stops

/-- An end stops at an item that it refuses. -/
theorem InOrder.stop (inOrder : InOrder setting drain) {taker : End}
    (more : drain.taken taker < setting.items taker)
    (refuses : setting.accepts taker (drain.taken taker) = false) :
    InOrder setting { drain with running := Function.update drain.running taker false } where
  accepted := inOrder.accepted
  taken_le := inOrder.taken_le
  confirmed_le := inOrder.confirmed_le
  stopped other stops := by
    dsimp only at stops
    rcases eq_or_ne other taker with rfl | different
    · exact ⟨more, refuses⟩
    · rw [Function.update_of_ne different] at stops
      exact inOrder.stopped other stops

theorem InOrder.confirm (inOrder : InOrder setting drain) {owner : End}
    (more : drain.confirmed owner < drain.taken (setting.partner owner)) :
    InOrder setting { drain with
      confirmed := Function.update drain.confirmed owner (drain.confirmed owner + 1) } where
  accepted := inOrder.accepted
  taken_le := inOrder.taken_le
  confirmed_le other := by
    dsimp only
    rcases eq_or_ne other owner with rfl | different
    · rw [Function.update_self]
      exact more
    · rw [Function.update_of_ne different]
      exact inOrder.confirmed_le other
  stopped := inOrder.stopped

theorem InOrder.next (inOrder : InOrder setting drain) {event : DrainEvent End}
    (permitted : (runs setting).permitted drain event) :
    InOrder setting (drain.next setting event) := by
  cases event with
  | item taker =>
      obtain ⟨runs, more⟩ := permitted
      rw [Drain.next]
      split
      · next accepts => exact inOrder.take runs more accepts
      · next refuses => exact inOrder.stop more (Bool.eq_false_iff.mpr refuses)
  | confirmation owner => exact inOrder.confirm permitted.2

theorem inOrder_of_reaches (run : (runs setting).Reaches start drain) : InOrder setting drain :=
  run.invariant .start fun _ _ inOrder permitted => inOrder.next permitted

/-- When nothing more can happen, all is confirmed exactly if all is accepted. -/
theorem confirmed_iff_of_settled (run : (runs setting).Reaches start drain)
    (settled : ∀ event, ¬ (runs setting).permitted drain event) :
    (∀ owner, drain.confirmed owner = setting.items (setting.partner owner)) ↔
      ∀ taker, ∀ number < setting.items taker, setting.accepts taker number = true := by
  have inOrder := inOrder_of_reaches run
  constructor
  · intro confirmed taker number below
    apply inOrder.accepted
    have all := confirmed (setting.partner taker)
    have enough := inOrder.confirmed_le (setting.partner taker)
    rw [setting.partner_partner] at all enough
    omega
  · intro accepts owner
    have running : ∀ taker, drain.running taker = true := by
      intro taker
      by_contra stops
      obtain ⟨more, refuses⟩ := inOrder.stopped taker (Bool.eq_false_iff.mpr stops)
      rw [accepts taker _ more] at refuses
      cases refuses
    have taken : drain.taken (setting.partner owner) = setting.items (setting.partner owner) := by
      refine Nat.le_antisymm (inOrder.taken_le _) (Nat.le_of_not_lt fun more => ?_)
      exact settled (.item (setting.partner owner)) ⟨running _, more⟩
    rw [← taken]
    refine Nat.le_antisymm (inOrder.confirmed_le owner) (Nat.le_of_not_lt fun more => ?_)
    exact settled (.confirmation owner) ⟨running owner, more⟩

/-! ## Runs are finite -/

/-- The events that can still happen at an end. -/
def remainingAt (setting : Setting End) (drain : Drain End) (taker : End) : Nat :=
  (if drain.running taker then setting.items taker - drain.taken taker else 0) +
    (setting.items (setting.partner taker) - drain.confirmed taker)

def remaining [Fintype End] (setting : Setting End) (drain : Drain End) : Nat :=
  ∑ taker, remainingAt setting drain taker

theorem remainingAt_next_of_ne {event : DrainEvent End} {taker other : End}
    (here : event = .item taker ∨ event = .confirmation taker) (different : other ≠ taker) :
    remainingAt setting (drain.next setting event) other = remainingAt setting drain other := by
  rcases here with rfl | rfl
  · rw [next]
    split <;> simp only [remainingAt, Function.update_of_ne different]
  · simp only [next, remainingAt, Function.update_of_ne different]
    rfl

theorem remainingAt_next_lt (inOrder : InOrder setting drain) {event : DrainEvent End}
    (permitted : (runs setting).permitted drain event) {taker : End}
    (here : event = .item taker ∨ event = .confirmation taker) :
    remainingAt setting (drain.next setting event) taker < remainingAt setting drain taker := by
  rcases here with rfl | rfl
  · obtain ⟨running, more⟩ := permitted
    rw [next]
    split
    · simp only [remainingAt, running, Function.update_self, if_true]
      omega
    · simp only [remainingAt, running, Function.update_self, if_true, Bool.false_eq_true,
        if_false]
      omega
  · obtain ⟨_, more⟩ := permitted
    have bounded := inOrder.taken_le (setting.partner taker)
    rw [next, remainingAt, remainingAt]
    refine Nat.add_lt_add_left ?_ _
    simp only [Function.update_self]
    omega

theorem remaining_next_lt [Fintype End] (inOrder : InOrder setting drain)
    {event : DrainEvent End} (permitted : (runs setting).permitted drain event) :
    remaining setting (drain.next setting event) < remaining setting drain := by
  obtain ⟨taker, here⟩ : ∃ taker, event = .item taker ∨ event = .confirmation taker := by
    cases event with
    | item taker => exact ⟨taker, .inl rfl⟩
    | confirmation owner => exact ⟨owner, .inr rfl⟩
  have lower := remainingAt_next_lt inOrder permitted here
  refine Finset.sum_lt_sum (fun other _ => ?_) ⟨taker, Finset.mem_univ _, lower⟩
  rcases eq_or_ne other taker with rfl | different
  · exact lower.le
  · exact (remainingAt_next_of_ne here different).le

theorem length_le_remaining [Fintype End] {events : List (DrainEvent End)}
    (inOrder : InOrder setting drain) (permits : (runs setting).Permits drain events) :
    events.length ≤ remaining setting drain := by
  induction events generalizing drain with
  | nil => exact Nat.zero_le _
  | cons event events eventsIH =>
      have rest := eventsIH (inOrder.next permits.1) permits.2
      exact Nat.lt_of_le_of_lt rest (remaining_next_lt inOrder permits.1)

end

end Drain

end Foundation
