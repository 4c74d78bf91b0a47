import CipherMesh.Foundation.Reachability
import Mathlib.Data.Fintype.Basic
import Mathlib.Data.Set.Insert

/-!
# Gossip

Nodes hold items, and in a contact two nodes exchange what they hold.  Whoever is informed
by the contacts of a run, directly or through others, holds at the end what the origin held
at the start, whatever else happens in between.
-/

namespace Foundation

universe u v w x

variable {State : Type u} {Event : Type v} {Node : Type w} {Item : Type x}

/-- A contact informs both nodes if it involves an informed one. -/
def spread [DecidableEq Node] (nodes : Finset Node) (contact : Node × Node) : Finset Node :=
  if contact.1 ∈ nodes ∨ contact.2 ∈ nodes then insert contact.1 (insert contact.2 nodes)
  else nodes

/-- The nodes that have heard from the origin after the contacts, oldest first. -/
def informed [DecidableEq Node] (origin : Node) (contacts : List (Node × Node)) : Finset Node :=
  contacts.foldl spread {origin}

/-- The node has heard from all nodes. -/
structure HeardAll [DecidableEq Node] (contacts : List (Node × Node)) (node : Node) : Prop where
  heard : ∀ origin, node ∈ informed origin contacts

instance [DecidableEq Node] [Fintype Node] (contacts : List (Node × Node)) (node : Node) :
    Decidable (HeardAll contacts node) :=
  decidable_of_iff (∀ origin, node ∈ informed origin contacts) ⟨.mk, HeardAll.heard⟩

namespace System

variable (system : System State Event)

/-- The contacts that happen in a run. -/
def contacts (contact : State → Event → Option (Node × Node)) :
    State → List Event → List (Node × Node)
  | _, [] => []
  | state, event :: events =>
      (contact state event).toList ++ contacts contact (system.next state event) events

/-- No step loses an item, and a contact leaves both nodes with the items of both. -/
structure Gossips (sound : State → Prop) (holds : State → Node → Set Item)
    (contact : State → Event → Option (Node × Node)) : Prop where
  preserved : ∀ {state event}, sound state → system.permitted state event →
    sound (system.next state event)
  kept : ∀ {state event}, sound state → system.permitted state event →
    ∀ node, holds state node ⊆ holds (system.next state event) node
  shared : ∀ {state event left right}, sound state → system.permitted state event →
    contact state event = some (left, right) →
      holds state left ∪ holds state right ⊆ holds (system.next state event) left ∧
        holds state left ∪ holds state right ⊆ holds (system.next state event) right

namespace Gossips

variable {system} {sound : State → Prop} {holds : State → Node → Set Item}
  {contact : State → Event → Option (Node × Node)} [DecidableEq Node]

/-- A step spreads the items with its contact. -/
theorem spread_step (gossips : system.Gossips sound holds contact) {state : State}
    {event : Event} {nodes : Finset Node} {items : Set Item} (holding : sound state)
    (permitted : system.permitted state event)
    (everyone : ∀ node ∈ nodes, items ⊆ holds state node) :
    ∀ node ∈ (contact state event).toList.foldl spread nodes,
      items ⊆ holds (system.next state event) node := by
  have kept := gossips.kept holding permitted
  cases met : contact state event with
  | none => exact fun node member => (everyone node member).trans (kept node)
  | some pair =>
      obtain ⟨left, right⟩ := pair
      obtain ⟨leftHolds, rightHolds⟩ := gossips.shared holding permitted met
      intro node member
      simp only [Option.toList_some, List.foldl_cons, List.foldl_nil, spread] at member
      split at member
      · next involved =>
          have known : items ⊆ holds state left ∪ holds state right := by
            rcases involved with member | member
            · exact (everyone left member).trans Set.subset_union_left
            · exact (everyone right member).trans Set.subset_union_right
          rcases Finset.mem_insert.mp member with rfl | member
          · exact known.trans leftHolds
          rcases Finset.mem_insert.mp member with rfl | member
          · exact known.trans rightHolds
          · exact (everyone node member).trans (kept node)
      · exact (everyone node member).trans (kept node)

theorem spread_run (gossips : system.Gossips sound holds contact) {items : Set Item}
    {events : List Event} :
    ∀ {state : State} {nodes : Finset Node}, sound state → system.Permits state events →
      (∀ node ∈ nodes, items ⊆ holds state node) →
        ∀ node ∈ (system.contacts contact state events).foldl spread nodes,
          items ⊆ holds (system.run state events) node := by
  induction events with
  | nil => exact fun _ _ everyone => everyone
  | cons event events eventsIH =>
      intro state nodes holding permits everyone
      rw [contacts, List.foldl_append]
      exact eventsIH (gossips.preserved holding permits.1) permits.2
        (gossips.spread_step holding permits.1 everyone)

/-- An informed node holds what the origin held. -/
theorem informed_holds (gossips : system.Gossips sound holds contact) {state : State}
    {events : List Event} (holding : sound state) (permits : system.Permits state events)
    {origin node : Node}
    (member : node ∈ informed origin (system.contacts contact state events)) :
    holds state origin ⊆ holds (system.run state events) node := by
  refine gossips.spread_run holding permits (fun other single => ?_) node member
  rw [Finset.mem_singleton.mp single]

end Gossips

end System

end Foundation
