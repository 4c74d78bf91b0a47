import Mathlib.Data.List.Dedup
import Mathlib.Tactic.Common

/-!
# Folds that see a set

When the steps of the listed elements commute and repeating a step changes nothing,
the result of a fold depends only on which elements are listed.
-/

namespace Foundation

universe u v

variable {State : Type u} {Element : Type v}

/-- The steps of the elements with a property commute and are idempotent. -/
structure Mergeable (step : State → Element → State) (property : Element → Prop) : Prop where
  commute : ∀ state first second, property first → property second →
    step (step state first) second = step (step state second) first
  absorb : ∀ state element, property element →
    step (step state element) element = step state element

namespace Mergeable

variable {step : State → Element → State} {property : Element → Prop}

/-- A step that is repeated later can be left out. -/
theorem foldl_of_mem (mergeable : Mergeable step property) {element : Element}
    {elements : List Element} (holds : ∀ other ∈ elements, property other)
    (member : element ∈ elements) (state : State) :
    elements.foldl step (step state element) = elements.foldl step state := by
  induction elements generalizing state with
  | nil => cases member
  | cons head tail tailIH =>
      rw [List.foldl_cons, List.foldl_cons]
      by_cases same : element = head
      · rw [same, mergeable.absorb state head (holds head List.mem_cons_self)]
      · have inTail : element ∈ tail := List.mem_of_ne_of_mem same member
        rw [mergeable.commute state element head (holds element member)
          (holds head List.mem_cons_self)]
        exact tailIH (fun other inside => holds other (List.mem_cons_of_mem _ inside)) inTail _

theorem foldl_dedup [DecidableEq Element] (mergeable : Mergeable step property)
    {elements : List Element} (holds : ∀ element ∈ elements, property element)
    (state : State) : elements.dedup.foldl step state = elements.foldl step state := by
  induction elements generalizing state with
  | nil => rfl
  | cons head tail tailIH =>
      have tailHolds : ∀ element ∈ tail, property element :=
        fun element inside => holds element (List.mem_cons_of_mem _ inside)
      by_cases repeated : head ∈ tail
      · rw [List.dedup_cons_of_mem repeated, List.foldl_cons, tailIH tailHolds,
          mergeable.foldl_of_mem tailHolds repeated]
      · rw [List.dedup_cons_of_notMem repeated, List.foldl_cons, List.foldl_cons,
          tailIH tailHolds]

/-- Lists with the same elements fold to the same state. -/
theorem foldl_eq_foldl [DecidableEq Element] (mergeable : Mergeable step property)
    {first second : List Element} (holds : ∀ element ∈ first, property element)
    (sameElements : ∀ element, element ∈ first ↔ element ∈ second) (state : State) :
    first.foldl step state = second.foldl step state := by
  have secondHolds : ∀ element ∈ second, property element :=
    fun element inside => holds element ((sameElements element).mpr inside)
  rw [← mergeable.foldl_dedup holds, ← mergeable.foldl_dedup secondHolds]
  refine List.Perm.foldl_eq' ?_ (fun one oneIn other otherIn state => ?_) state
  · refine (List.perm_ext_iff_of_nodup (List.nodup_dedup _) (List.nodup_dedup _)).mpr ?_
    intro element
    rw [List.mem_dedup, List.mem_dedup]
    exact sameElements element
  · exact mergeable.commute state one other (holds one (List.mem_dedup.mp oneIn))
      (holds other (List.mem_dedup.mp otherIn))

end Mergeable

end Foundation
