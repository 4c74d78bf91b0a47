import Mathlib.Logic.Basic
import Mathlib.Tactic.Common

/-!
# Reachable states of an event system

A system lists its initial states, says which events each state permits and
computes the state after an event.  All nondeterminism is in the choice of
events, so a run is a list of events and can be evaluated.  The rules below turn
a property of one step into a property of every run.
-/

namespace Foundation

universe u v w x

/-- Initial states, permitted events and the effect of an event. -/
structure System (State : Type u) (Event : Type v) where
  initial : State → Prop
  permitted : State → Event → Prop
  next : State → Event → State

namespace System

variable {State : Type u} {Event : Type v}

/-- `system.Reaches start state`: a run of permitted events leads from `start`
to `state`. -/
inductive Reaches (system : System State Event) (start : State) : State → Prop where
  | refl : Reaches system start start
  | step {state : State} (event : Event) :
      Reaches system start state → system.permitted state event →
      Reaches system start (system.next state event)

/-- The states of the runs that start in an initial state. -/
def Reachable (system : System State Event) (state : State) : Prop :=
  ∃ start, system.initial start ∧ system.Reaches start state

namespace Reaches

variable {system : System State Event} {start middle state : State}

theorem trans (first : system.Reaches start middle) (second : system.Reaches middle state) :
    system.Reaches start state := by
  induction second with
  | refl => exact first
  | step event _ allowed reached => exact .step event reached allowed

/-- The invariant rule: what holds at the start and survives every permitted
step holds wherever a run leads. -/
theorem invariant {property : State → Prop} (run : system.Reaches start state)
    (base : property start)
    (preserved : ∀ state event, property state → system.permitted state event →
      property (system.next state event)) :
    property state := by
  induction run with
  | refl => exact base
  | step event _ allowed holds => exact preserved _ event holds allowed

/-- Permitting more events reaches more states. -/
theorem mono {larger : System State Event} (sameNext : larger.next = system.next)
    (weaker : ∀ state event, system.permitted state event → larger.permitted state event)
    (run : system.Reaches start state) : larger.Reaches start state := by
  induction run with
  | refl => exact .refl
  | step event _ allowed reached =>
      have extended := Reaches.step event reached (weaker _ event allowed)
      rwa [sameNext] at extended

end Reaches

/-- The simulation rule.  If every permitted step between related states is
matched by a run of the abstract system that ends in a related state, then so is
every run. -/
theorem simulates {Abstract : Type w} {AbstractEvent : Type x}
    {concrete : System State Event} {abstract : System Abstract AbstractEvent}
    {relation : State → Abstract → Prop}
    (matching : ∀ state event image, relation state image → concrete.permitted state event →
      ∃ reached, abstract.Reaches image reached ∧ relation (concrete.next state event) reached)
    {start state : State} {image : Abstract} (related : relation start image)
    (run : concrete.Reaches start state) :
    ∃ reached, abstract.Reaches image reached ∧ relation state reached := by
  induction run with
  | refl => exact ⟨image, .refl, related⟩
  | step event _ allowed holds =>
      obtain ⟨middle, before, middleRelated⟩ := holds
      obtain ⟨reached, after, reachedRelated⟩ := matching _ event middle middleRelated allowed
      exact ⟨reached, before.trans after, reachedRelated⟩

/-- Every reachable state satisfies an inductive invariant. -/
theorem Reachable.invariant {system : System State Event} {state : State}
    (reachable : system.Reachable state) (property : State → Prop)
    (base : ∀ start, system.initial start → property start)
    (preserved : ∀ state event, property state → system.permitted state event →
      property (system.next state event)) :
    property state := by
  obtain ⟨start, initial, run⟩ := reachable
  exact run.invariant (base start initial) preserved

/-- The runs of the system whose events all meet a condition. -/
def restrict (system : System State Event) (condition : State → Event → Prop) :
    System State Event :=
  { system with
    permitted := fun state event => system.permitted state event ∧ condition state event }

instance {system : System State Event} {condition : State → Event → Prop} (state : State)
    (event : Event) [Decidable (system.permitted state event)]
    [Decidable (condition state event)] :
    Decidable ((system.restrict condition).permitted state event) :=
  inferInstanceAs (Decidable (_ ∧ _))

/-- Execute a list of events. -/
def run (system : System State Event) (start : State) (events : List Event) : State :=
  events.foldl system.next start

/-- Every event of the list is permitted where it happens. -/
def Permits (system : System State Event) : State → List Event → Prop
  | _, [] => True
  | start, event :: events =>
      system.permitted start event ∧ system.Permits (system.next start event) events

instance decidablePermits {system : System State Event}
    [∀ state event, Decidable (system.permitted state event)] :
    ∀ start events, Decidable (system.Permits start events)
  | _, [] => .isTrue trivial
  | start, event :: events =>
      @instDecidableAnd _ _ _ (decidablePermits (system.next start event) events)

/-- A permitted list of events is a run. -/
theorem Permits.reaches {system : System State Event} {events : List Event} :
    ∀ {start : State}, system.Permits start events →
      system.Reaches start (system.run start events) := by
  induction events with
  | nil => exact fun _ => .refl
  | cons event events reaches =>
      intro start permits
      exact (Reaches.step event .refl permits.1).trans (reaches permits.2)

/-- The lockstep rule.  If every permitted step between related states has a permitted
image, then so has every permitted list of events. -/
theorem Permits.image {Abstract : Type w} {AbstractEvent : Type x}
    {concrete : System State Event} {abstract : System Abstract AbstractEvent}
    {relation : State → Abstract → Prop} {image : Event → AbstractEvent}
    (matching : ∀ state drawn event, relation state drawn → concrete.permitted state event →
      abstract.permitted drawn (image event) ∧
        relation (concrete.next state event) (abstract.next drawn (image event)))
    {events : List Event} {start : State} {drawn : Abstract} (related : relation start drawn)
    (permits : concrete.Permits start events) :
    abstract.Permits drawn (events.map image) ∧
      relation (concrete.run start events) (abstract.run drawn (events.map image)) := by
  induction events generalizing start drawn with
  | nil => exact ⟨trivial, related⟩
  | cons event events eventsIH =>
      obtain ⟨permitted, reached⟩ := matching _ _ event related permits.1
      obtain ⟨rest, last⟩ := eventsIH reached permits.2
      exact ⟨⟨permitted, rest⟩, last⟩

end System

end Foundation
