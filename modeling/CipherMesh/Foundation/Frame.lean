import CipherMesh.Foundation.Table

/-!
# Frames of statements

A statement leaves a class of rows unchanged when none of them goes, changes or comes.
For a deletion and an update this is a condition on the rows before the statement.
-/

namespace Foundation

namespace Table

universe u v

variable {Row : Type u} {Key : Type v} {key : Row → Key}
variable {frame : Row → Prop} {before after : Table key}

/-- The tables have the same rows of this class. -/
def Unchanged (frame : Row → Prop) (before after : Table key) : Prop :=
  ∀ row, frame row → (row ∈ after ↔ row ∈ before)

namespace Unchanged

theorem refl (frame : Row → Prop) (table : Table key) : Unchanged frame table table :=
  fun _ _ => Iff.rfl

/-- A deletion leaves a class of rows when it names none of them. -/
theorem delete_iff {table : Table key} {condition : Row → Bool} :
    Unchanged frame table (table.delete condition) ↔
      ∀ row ∈ table, condition row → ¬frame row := by
  constructor
  · intro unchanged row member named framed
    have left := (mem_delete.mp ((unchanged row framed).mpr member)).2
    rw [named] at left
    cases left
  · intro apart row framed
    rw [mem_delete, and_iff_left_iff_imp]
    intro member
    by_contra named
    exact apart row member (by simpa using named) framed

/-- An update within a class of rows leaves it when the rows that it names are already as
it makes them. -/
theorem update_iff {table : Table key} {condition : Row → Bool} {change : Row → Row}
    (keepsKey : ∀ row, key (change row) = key row)
    (keepsFrame : ∀ row, frame (change row) ↔ frame row) :
    Unchanged frame table (table.update condition change keepsKey) ↔
      ∀ row ∈ table, condition row → frame row → change row = row := by
  constructor
  · intro unchanged row member named framed
    have changed : change row ∈ table.update condition change keepsKey :=
      mem_update.mpr ⟨row, member, if_pos named⟩
    have changedMember := (unchanged _ ((keepsFrame row).mpr framed)).mp changed
    exact eq_of_key_eq changedMember member (keepsKey row)
  · intro settled row framed
    constructor
    · intro member
      obtain ⟨old, oldMember, same⟩ := mem_update.mp member
      split at same
      · next named =>
          subst same
          rw [settled old oldMember named ((keepsFrame old).mp framed)]
          exact oldMember
      · exact same ▸ oldMember
    · intro member
      by_cases named : condition row
      · rw [← settled row member named framed]
        exact mem_update.mpr ⟨row, member, if_pos named⟩
      · exact mem_update_of_not keepsKey member (Bool.eq_false_of_not_eq_true named)

end Unchanged

end Table

end Foundation
