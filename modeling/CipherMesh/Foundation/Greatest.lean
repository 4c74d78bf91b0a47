import Mathlib.Data.List.Basic
import Mathlib.Data.List.Induction
import Mathlib.Order.Lattice
import Mathlib.Tactic.Common

/-!
# The last greatest element

Where calls replace a value unless it is greater, what stays is the last among the
greatest.  A list has at most one such element, and it only depends on the order of the
measures.
-/

namespace Foundation

universe u v w

variable {Element : Type u} {Measure : Type v} [LinearOrder Measure]

/-- No element is greater, and no later one is as great. -/
def LastGreatest (measure : Element → Measure) (list : List Element) (element : Element) : Prop :=
  ∃ before after, list = before ++ element :: after ∧
    (∀ other ∈ before, measure other ≤ measure element) ∧
    ∀ other ∈ after, measure other < measure element

namespace LastGreatest

variable {measure : Element → Measure} {list : List Element} {element other last : Element}

theorem mem (greatest : LastGreatest measure list element) : element ∈ list := by
  obtain ⟨before, after, rfl, -, -⟩ := greatest
  simp

theorem le (greatest : LastGreatest measure list element) (member : other ∈ list) :
    measure other ≤ measure element := by
  obtain ⟨before, after, rfl, upTo, below⟩ := greatest
  rcases List.mem_append.mp member with early | late
  · exact upTo other early
  · rcases List.mem_cons.mp late with rfl | later
    · exact le_refl _
    · exact le_of_lt (below other later)

/-- A call that is at least as great replaces the value. -/
theorem append_of_le (all : ∀ other ∈ list, measure other ≤ measure last) :
    LastGreatest measure (list ++ [last]) last :=
  ⟨list, [], rfl, all, nofun⟩

/-- A smaller one does not. -/
theorem append_of_lt (greatest : LastGreatest measure list element)
    (less : measure last < measure element) :
    LastGreatest measure (list ++ [last]) element := by
  obtain ⟨before, after, rfl, upTo, below⟩ := greatest
  refine ⟨before, after ++ [last], by simp, upTo, ?_⟩
  intro other member
  rcases List.mem_append.mp member with early | late
  · exact below other early
  · rw [List.mem_singleton.mp late]
    exact less

/-- The last element either is the greatest or is less than it. -/
theorem of_append (greatest : LastGreatest measure (list ++ [last]) element) :
    (element = last ∧ ∀ other ∈ list, measure other ≤ measure last) ∨
      (LastGreatest measure list element ∧ measure last < measure element) := by
  obtain ⟨before, after, same, upTo, below⟩ := greatest
  rcases List.eq_nil_or_concat after with rfl | ⟨others, final, rfl⟩
  · obtain ⟨rfl, singleton⟩ := List.append_inj' same rfl
    cases singleton
    exact .inl ⟨rfl, upTo⟩
  · rw [List.concat_eq_append] at below same
    rw [← List.cons_append, ← List.append_assoc] at same
    obtain ⟨rfl, singleton⟩ := List.append_inj' same rfl
    cases singleton
    refine .inr ⟨⟨before, others, rfl, upTo, fun other member => ?_⟩, below last (by simp)⟩
    exact below other (List.mem_append_left _ member)

theorem unique (first : LastGreatest measure list element)
    (second : LastGreatest measure list other) : element = other := by
  induction list using List.reverseRecOn with
  | nil => exact absurd first.mem List.not_mem_nil
  | append_singleton list last ih =>
      rcases first.of_append with ⟨rfl, all⟩ | ⟨firstEarlier, less⟩
      · rcases second.of_append with ⟨rfl, -⟩ | ⟨secondEarlier, less⟩
        · rfl
        · exact absurd less (not_lt_of_ge (all other secondEarlier.mem))
      · rcases second.of_append with ⟨rfl, all⟩ | ⟨secondEarlier, -⟩
        · exact absurd less (not_lt_of_ge (all element firstEarlier.mem))
        · exact ih firstEarlier secondEarlier

/-- Elements that are left out do not matter for one that stays. -/
theorem filter {keep : Element → Bool} (greatest : LastGreatest measure list element)
    (kept : keep element = true) : LastGreatest measure (list.filter keep) element := by
  obtain ⟨before, after, rfl, upTo, below⟩ := greatest
  refine ⟨before.filter keep, after.filter keep, by simp [kept], ?_, ?_⟩
  · exact fun other member => upTo other (List.mem_of_mem_filter member)
  · exact fun other member => below other (List.mem_of_mem_filter member)

/-- Only the order of the measures matters. -/
theorem congr {Other : Type w} [LinearOrder Other] {measured : Element → Other}
    (greatest : LastGreatest measure list element)
    (same : ∀ first ∈ list, ∀ second ∈ list,
      measure first ≤ measure second ↔ measured first ≤ measured second) :
    LastGreatest measured list element := by
  have member := greatest.mem
  obtain ⟨before, after, rfl, upTo, below⟩ := greatest
  refine ⟨before, after, rfl, fun other early => ?_, fun other late => ?_⟩
  · exact (same other (by simp [early]) element member).mp (upTo other early)
  · rw [← not_le, ← same element member other (by simp [late]), not_le]
    exact below other late

end LastGreatest

end Foundation
