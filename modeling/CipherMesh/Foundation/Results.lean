import Mathlib.Data.List.Forall2
import Mathlib.Tactic.Common

/-!
# Results

A function that returns early on an error succeeds when all its parts do, and a traversal
when it does so for every element of its list.
-/

namespace Foundation

variable {α β ε δ : Type}

theorem bind_eq_ok_iff {result : Except ε α} {next : α → Except ε β} {value : β} :
    result >>= next = .ok value ↔
      ∃ intermediate, result = .ok intermediate ∧ next intermediate = .ok value := by
  cases result <;> simp [bind, Except.bind]

theorem mapError_eq_ok_iff {result : Except ε α} {change : ε → δ} {value : α} :
    result.mapError change = .ok value ↔ result = .ok value := by
  cases result <;> simp [Except.mapError]

/-! ## Checks -/

section

variable {condition : Prop} [Decidable condition] {error other : ε}

theorem check_eq_ok_iff :
    (if condition then .ok () else .error error : Except ε Unit) = .ok () ↔ condition := by
  simp

theorem error_of_check
    (failed : (if condition then .ok () else .error error : Except ε Unit) = .error other) :
    other = error := by
  split at failed
  · cases failed
  · exact (Except.error.inj failed).symm

end

/-! ## Traversals -/

/-- A list is mapped to the values of its elements, or fails with the first that does. -/
theorem mapM_eq_ok_iff {convert : α → Except ε β} {list : List α} {values : List β} :
    list.mapM convert = .ok values ↔
      List.Forall₂ (fun element value => convert element = .ok value) list values := by
  induction list generalizing values with
  | nil =>
      rw [List.mapM_nil, List.forall₂_nil_left_iff]
      exact ⟨fun same => (Except.ok.inj same).symm, fun same => same ▸ rfl⟩
  | cons element list ih =>
      simp only [List.mapM_cons, List.forall₂_cons_left_iff, bind_eq_ok_iff, ih]
      constructor
      · rintro ⟨value, first, others, rest, same⟩
        exact ⟨value, others, first, rest, (Except.ok.inj same).symm⟩
      · rintro ⟨value, others, first, rest, rfl⟩
        exact ⟨value, first, others, rest, rfl⟩

/-- Every list of elements with values has a list of values. -/
theorem exists_forall₂_iff {read : α → Option β} {list : List α} :
    (∃ values, List.Forall₂ (fun element value => read element = some value) list values) ↔
      ∀ element ∈ list, (read element).isSome := by
  induction list with
  | nil => exact ⟨fun _ _ member => absurd member List.not_mem_nil, fun _ => ⟨[], .nil⟩⟩
  | cons element list ih =>
      rw [List.forall_mem_cons, ← ih]
      constructor
      · rintro ⟨_, related⟩
        cases related with
        | cons first rest => exact ⟨by rw [first]; rfl, _, rest⟩
      · rintro ⟨first, values, rest⟩
        obtain ⟨value, found⟩ := Option.isSome_iff_exists.mp first
        exact ⟨value :: values, .cons found rest⟩

end Foundation
