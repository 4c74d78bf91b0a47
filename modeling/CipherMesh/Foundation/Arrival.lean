import CipherMesh.Foundation.Table

/-!
# Rows in the order of arrival

A table does not remember when its rows came.  A log lists an image of every row in the
order in which the rows were inserted; a selection reads the log back exactly when the
order of the selection agrees with it.
-/

namespace Foundation

universe u v w

namespace Table

variable {Row : Type u} {Key : Type v} {Entry : Type w} {key : Row → Key}
variable {image : Row → Entry} {log : List Entry} {table : Table key}

/-- The log lists the images of the rows, each once. -/
structure Logs (image : Row → Entry) (log : List Entry) (table : Table key) : Prop where
  mem_iff : ∀ {entry}, entry ∈ log ↔ ∃ row ∈ table, image row = entry
  nodup : log.Nodup

namespace Logs

theorem empty : Logs image [] (.empty : Table key) where
  mem_iff := by simp
  nodup := List.nodup_nil

/-- A new row comes last. -/
theorem inserted [DecidableEq Key] (logs : Logs image log table)
    (determines : ∀ row other, image row = image other → key row = key other) {new : Row}
    (absent : ¬ table.Contains (key new)) :
    Logs image (log ++ [image new]) (table.insertOrIgnore new) where
  mem_iff := by
    intro entry
    rw [List.mem_append, List.mem_singleton, logs.mem_iff]
    constructor
    · rintro (⟨row, member, same⟩ | rfl)
      · exact ⟨row, mem_insertOrIgnore.mpr (.inl member), same⟩
      · exact ⟨new, mem_insertOrIgnore.mpr (.inr ⟨rfl, absent⟩), rfl⟩
    · rintro ⟨row, member, rfl⟩
      rcases mem_insertOrIgnore.mp member with old | ⟨rfl, _⟩
      · exact .inl ⟨row, old, rfl⟩
      · exact .inr rfl
  nodup := by
    refine List.nodup_append.mpr ⟨logs.nodup, List.nodup_singleton _, ?_⟩
    rintro entry member _ inNew rfl
    obtain ⟨row, rowMember, same⟩ := logs.mem_iff.mp member
    exact absent ⟨row, rowMember, determines row new (same.trans (List.mem_singleton.mp inNew))⟩

theorem ignored [DecidableEq Key] (logs : Logs image log table) {new : Row}
    (present : table.Contains (key new)) : Logs image log (table.insertOrIgnore new) := by
  rwa [insertOrIgnore_of_contains present]

/-- Changes that the image does not show leave the log. -/
theorem update (logs : Logs image log table) {condition : Row → Bool} {change : Row → Row}
    (keepsKey : ∀ row, key (change row) = key row)
    (keepsImage : ∀ row, image (change row) = image row) :
    Logs image log (table.update condition change keepsKey) where
  mem_iff := by
    intro entry
    rw [logs.mem_iff]
    constructor
    · rintro ⟨row, member, rfl⟩
      refine ⟨_, mem_update.mpr ⟨row, member, rfl⟩, ?_⟩
      split
      · exact keepsImage row
      · rfl
    · rintro ⟨row, member, rfl⟩
      obtain ⟨old, oldMember, rfl⟩ := mem_update.mp member
      refine ⟨old, oldMember, ?_⟩
      split
      · exact (keepsImage old).symm
      · rfl
  nodup := logs.nodup

theorem delete (logs : Logs image log table) {condition : Row → Bool} {deleted : Entry → Bool}
    (same : ∀ row, condition row = deleted (image row)) :
    Logs image (log.filter fun entry => !deleted entry) (table.delete condition) where
  mem_iff := by
    intro entry
    rw [List.mem_filter, logs.mem_iff]
    constructor
    · rintro ⟨⟨row, member, rfl⟩, kept⟩
      refine ⟨row, mem_delete.mpr ⟨member, ?_⟩, rfl⟩
      rw [same]
      simpa using kept
    · rintro ⟨row, member, rfl⟩
      obtain ⟨old, kept⟩ := mem_delete.mp member
      rw [same] at kept
      exact ⟨⟨row, old, rfl⟩, by simp [kept]⟩
  nodup := logs.nodup.filter _

variable {Order : Type*} [LinearOrder Order]

/-- A selection returns the rows as they came exactly when its order agrees. -/
theorem map_select_eq_iff (logs : Logs image log table) (orderOf : Entry → Order)
    {condition : Row → Bool} {wanted : Entry → Bool}
    (chosen : ∀ row, condition row = wanted (image row))
    {order : Row → Order}
    (ordered : ∀ row ∈ table, order row = orderOf (image row))
    (separates : ∀ row other, orderOf (image row) = orderOf (image other) →
      key row = key other) :
    (table.select condition order).map image = log.filter wanted ↔
      (log.filter wanted).Pairwise fun first second => orderOf first ≤ orderOf second := by
  have sorted : ((table.select condition order).map image).Pairwise fun first second =>
      orderOf first ≤ orderOf second := by
    rw [List.pairwise_map]
    refine (pairwise_select table condition order).imp_of_mem ?_
    intro first second firstMember secondMember below
    rwa [← ordered first (mem_select.mp firstMember).1,
      ← ordered second (mem_select.mp secondMember).1]
  constructor
  · intro same
    rwa [← same]
  · intro agrees
    have distinct : ((table.select condition order).map image).Nodup := by
      refine (List.nodup_map_iff_inj_on (nodup_select table condition order)).mpr ?_
      intro first firstMember second secondMember same
      exact eq_of_key_eq (mem_select.mp firstMember).1 (mem_select.mp secondMember).1
        (separates first second (congrArg orderOf same))
    refine List.Perm.eq_of_pairwise ?_ sorted agrees ?_
    · rintro _ _ member logged below above
      obtain ⟨first, firstMember, rfl⟩ := List.mem_map.mp member
      obtain ⟨second, secondMember, rfl⟩ := logs.mem_iff.mp (List.mem_filter.mp logged).1
      rw [eq_of_key_eq (mem_select.mp firstMember).1 secondMember
        (separates first second (le_antisymm below above))]
    refine (List.perm_ext_iff_of_nodup distinct (logs.nodup.filter _)).mpr fun entry => ?_
    rw [List.mem_map, List.mem_filter, logs.mem_iff]
    constructor
    · rintro ⟨row, member, rfl⟩
      obtain ⟨inTable, holds⟩ := mem_select.mp member
      exact ⟨⟨row, inTable, rfl⟩, by rw [← chosen, holds]⟩
    · rintro ⟨⟨row, inTable, rfl⟩, holds⟩
      exact ⟨row, mem_select.mpr ⟨inTable, by rw [chosen, holds]⟩, rfl⟩

end Logs

end Table

end Foundation
