import Mathlib.Data.List.Nodup
import Mathlib.Data.List.Sort
import Mathlib.Order.RelIso.Basic
import Mathlib.Tactic.Common

/-!
# Tables with a primary key

A table is a list of rows whose keys are distinct; the proof of this is part of
the table, so that no statement has to establish it again.  The operations are the
SQL statements that respect a primary key.
-/

namespace Foundation

universe u v w

/-- The rows of a table whose primary key is `key`. -/
structure Table {Row : Type u} {Key : Type v} (key : Row → Key) where
  rows : List Row
  unique : (rows.map key).Nodup

namespace Table

variable {Row : Type u} {Key : Type v} {key : Row → Key}

instance : Membership Row (Table key) where
  mem table row := row ∈ table.rows

theorem mem_def {table : Table key} {row : Row} : row ∈ table ↔ row ∈ table.rows := Iff.rfl

def empty : Table key := ⟨[], List.nodup_nil⟩

@[simp] theorem rows_empty : (empty : Table key).rows = [] := rfl

@[simp] theorem notMem_empty {row : Row} : row ∉ (empty : Table key) := List.not_mem_nil

theorem ext {first second : Table key} (same : first.rows = second.rows) : first = second := by
  cases first
  cases second
  cases same
  rfl

/-- The key determines the row. -/
theorem eq_of_key_eq {table : Table key} {first second : Row} (firstMember : first ∈ table)
    (secondMember : second ∈ table) (same : key first = key second) : first = second :=
  List.inj_on_of_nodup_map table.unique firstMember secondMember same

/-- `DELETE FROM table WHERE condition`. -/
def delete (table : Table key) (condition : Row → Bool) : Table key where
  rows := table.rows.filter fun row => !condition row
  unique := table.unique.sublist (List.filter_sublist.map key)

@[simp] theorem mem_delete {table : Table key} {condition : Row → Bool} {row : Row} :
    row ∈ table.delete condition ↔ row ∈ table ∧ condition row = false := by
  simp [delete, mem_def]

/-- None of the deleted rows is left. -/
theorem filter_delete (table : Table key) (condition : Row → Bool) :
    (table.delete condition).rows.filter condition = [] := by
  apply List.filter_eq_nil_iff.mpr
  intro row member
  exact Bool.eq_false_iff.mp (mem_delete.mp member).2

/-- `UPDATE table SET change WHERE condition`, for changes outside the key. -/
def update (table : Table key) (condition : Row → Bool) (change : Row → Row)
    (keepsKey : ∀ row, key (change row) = key row) : Table key where
  rows := table.rows.map fun row => if condition row then change row else row
  unique := by
    have sameKeys : (table.rows.map fun row => if condition row then change row else row).map
        key = table.rows.map key := by
      rw [List.map_map]
      refine List.map_congr_left fun row _ => ?_
      simp only [Function.comp_apply]
      split
      · exact keepsKey row
      · rfl
    rw [sameKeys]
    exact table.unique

theorem mem_update {table : Table key} {condition : Row → Bool} {change : Row → Row}
    {keepsKey : ∀ row, key (change row) = key row} {row : Row} :
    row ∈ table.update condition change keepsKey ↔
      ∃ before ∈ table, (if condition before then change before else before) = row :=
  List.mem_map

/-- An update leaves the other rows. -/
theorem mem_update_of_not {table : Table key} {condition : Row → Bool} {change : Row → Row}
    (keepsKey : ∀ row, key (change row) = key row) {row : Row} (member : row ∈ table)
    (other : condition row = false) : row ∈ table.update condition change keepsKey :=
  mem_update.mpr ⟨row, member, by rw [other]; rfl⟩

theorem delete_eq_self {table : Table key} {condition : Row → Bool}
    (absent : ∀ row ∈ table, condition row = false) : table.delete condition = table := by
  apply ext
  apply List.filter_eq_self.mpr
  intro row member
  simp [absent row member]

theorem delete_delete_or (table : Table key) (first second : Row → Bool) :
    (table.delete first).delete second = table.delete fun row => first row || second row := by
  apply ext
  simp only [delete, List.filter_filter, Bool.not_or, Bool.and_comm]

/-- What an update has changed is deleted all the same. -/
theorem delete_update (table : Table key) {condition : Row → Bool} {change : Row → Row}
    (keepsKey : ∀ row, key (change row) = key row)
    (keepsCondition : ∀ row, condition (change row) = condition row) :
    (table.update condition change keepsKey).delete condition = table.delete condition := by
  apply ext
  simp only [delete, update]
  induction table.rows with
  | nil => rfl
  | cons row rows ih =>
      rw [List.map_cons, List.filter_cons, List.filter_cons, ih]
      by_cases holds : condition row = true
      · simp [holds, keepsCondition]
      · simp [holds]

/-! ## Ordered selection -/

section

variable {Order : Type w} [LinearOrder Order]

/-- `SELECT * FROM table WHERE condition ORDER BY order`. -/
def select (table : Table key) (condition : Row → Bool) (order : Row → Order) : List Row :=
  (table.rows.filter condition).insertionSort fun first second => order first ≤ order second

@[simp] theorem mem_select {table : Table key} {condition : Row → Bool} {order : Row → Order}
    {row : Row} : row ∈ table.select condition order ↔ row ∈ table ∧ condition row = true := by
  rw [select, (List.perm_insertionSort _ _).mem_iff, List.mem_filter, mem_def]

theorem nodup_select (table : Table key) (condition : Row → Bool) (order : Row → Order) :
    (table.select condition order).Nodup :=
  (List.perm_insertionSort _ _).nodup_iff.mpr
    ((List.Nodup.of_map key table.unique).sublist List.filter_sublist)

/-- The keys of a selection are distinct. -/
theorem nodup_key_select (table : Table key) (condition : Row → Bool) (order : Row → Order) :
    ((table.select condition order).map key).Nodup :=
  ((List.perm_insertionSort _ _).map key).nodup_iff.mpr
    (table.unique.sublist (List.filter_sublist.map key))

theorem pairwise_select (table : Table key) (condition : Row → Bool) (order : Row → Order) :
    (table.select condition order).Pairwise fun first second => order first ≤ order second :=
  List.pairwise_insertionSort (fun first second => order first ≤ order second) _

/-- An order that tells different rows apart is strict on a selection. -/
theorem pairwise_lt_select {table : Table key} {condition : Row → Bool} {order : Row → Order}
    (separates : ∀ row other, condition row = true → condition other = true →
      order row = order other → key row = key other) :
    (table.select condition order).Pairwise fun first second => order first < order second := by
  refine ((pairwise_select table condition order).and
    (nodup_select table condition order)).imp_of_mem ?_
  intro first second firstMember secondMember related
  obtain ⟨inTable, chosen⟩ := mem_select.mp firstMember
  obtain ⟨otherInTable, otherChosen⟩ := mem_select.mp secondMember
  refine lt_of_le_of_ne related.1 fun same => related.2 ?_
  exact eq_of_key_eq inTable otherInTable (separates first second chosen otherChosen same)

/-- Selections of the same rows are equal when the order tells different rows apart. -/
theorem select_eq_select {first second : Table key} {condition : Row → Bool}
    {order : Row → Order} (separates : ∀ row other, condition row = true → condition other = true →
      order row = order other → key row = key other)
    (sameRows : ∀ row, condition row = true → (row ∈ first ↔ row ∈ second)) :
    first.select condition order = second.select condition order := by
  have sameMembers : ∀ row, row ∈ first.select condition order ↔
      row ∈ second.select condition order := by
    intro row
    rw [mem_select, mem_select]
    exact and_congr_left (sameRows row)
  refine List.Perm.eq_of_pairwise ?_ (pairwise_select _ _ _) (pairwise_select _ _ _)
    ((List.perm_ext_iff_of_nodup (nodup_select _ _ _) (nodup_select _ _ _)).mpr sameMembers)
  intro row other member otherMember below above
  obtain ⟨inFirst, chosen⟩ := mem_select.mp member
  obtain ⟨otherInFirst, otherChosen⟩ := mem_select.mp ((sameMembers other).mpr otherMember)
  exact eq_of_key_eq inFirst otherInFirst
    (separates row other chosen otherChosen (le_antisymm below above))

/-- Deleting first and selecting first is the same. -/
theorem select_delete (table : Table key) (chosen condition : Row → Bool) (order : Row → Order)
    (separates : ∀ row other, chosen row = true → chosen other = true →
      order row = order other → key row = key other) :
    (table.delete condition).select chosen order =
      (table.select chosen order).filter fun row => !condition row := by
  have sameMembers : ∀ row, row ∈ (table.delete condition).select chosen order ↔
      row ∈ (table.select chosen order).filter fun row => !condition row := by
    intro row
    simp only [mem_select, mem_delete, List.mem_filter, Bool.not_eq_true']
    exact and_right_comm
  refine List.Perm.eq_of_pairwise ?_ (pairwise_select _ _ _)
    ((pairwise_select table chosen order).sublist List.filter_sublist)
    ((List.perm_ext_iff_of_nodup (nodup_select _ _ _)
      ((nodup_select table chosen order).sublist List.filter_sublist)).mpr sameMembers)
  intro row other member otherMember below above
  obtain ⟨inTable, rowChosen⟩ := mem_select.mp member
  obtain ⟨otherInTable, otherChosen⟩ := mem_select.mp ((sameMembers other).mpr otherMember)
  exact eq_of_key_eq inTable otherInTable
    (separates row other rowChosen otherChosen (le_antisymm below above))

/-- A change outside of what the selection reads. -/
theorem select_update (table : Table key) {chosen condition : Row → Bool} {order : Row → Order}
    {change : Row → Row} (keepsKey : ∀ row, key (change row) = key row)
    (keepsChosen : ∀ row, chosen (change row) = chosen row)
    (keepsOrder : ∀ row, order (change row) = order row) :
    (table.update condition change keepsKey).select chosen order =
      (table.select chosen order).map fun row => if condition row then change row else row := by
  have changes : ∀ row, chosen (if condition row then change row else row) = chosen row ∧
      order (if condition row then change row else row) = order row := by
    intro row
    split
    · exact ⟨keepsChosen row, keepsOrder row⟩
    · exact ⟨rfl, rfl⟩
  rw [select, select, update, List.filter_map, List.map_insertionSort
    (fun first second => order first ≤ order second)
    (fun first second => order first ≤ order second)]
  · have sameChoice : (chosen ∘ fun row => if condition row then change row else row) = chosen :=
      funext fun row => (changes row).1
    rw [sameChoice]
  · intro first _ second _
    rw [(changes first).2, (changes second).2]

end

/-- Some row has the key. -/
def Contains (table : Table key) (wanted : Key) : Prop :=
  ∃ row ∈ table, key row = wanted

private theorem nodup_append_new {table : Table key} {new : Row}
    (absent : ¬ table.Contains (key new)) : ((table.rows ++ [new]).map key).Nodup := by
  rw [List.map_append, List.map_singleton]
  refine table.unique.append (List.nodup_singleton _) ?_
  intro found member same
  obtain ⟨row, rowMember, rfl⟩ := List.mem_map.mp member
  exact absent ⟨row, rowMember, List.mem_singleton.mp same⟩

/-- What an update keeps of a changed row holds of every row afterwards. -/
theorem forall_mem_update {table : Table key} {condition : Row → Bool} {change : Row → Row}
    (keepsKey : ∀ row, key (change row) = key row) {property : Row → Prop}
    (holds : ∀ row ∈ table, property row)
    (keeps : ∀ row, property row → property (change row)) :
    ∀ row ∈ table.update condition change keepsKey, property row := by
  intro row member
  obtain ⟨before, beforeMember, rfl⟩ := mem_update.mp member
  split
  · exact keeps before (holds before beforeMember)
  · exact holds before beforeMember

/-- What an update keeps of a changed row some row still has. -/
theorem exists_mem_update {table : Table key} {condition : Row → Bool} {change : Row → Row}
    (keepsKey : ∀ row, key (change row) = key row) {property : Row → Prop}
    (holds : ∃ row ∈ table, property row)
    (keeps : ∀ row, property row → property (change row)) :
    ∃ row ∈ table.update condition change keepsKey, property row := by
  obtain ⟨row, member, rowHolds⟩ := holds
  refine ⟨_, mem_update.mpr ⟨row, member, rfl⟩, ?_⟩
  split
  · exact keeps row rowHolds
  · exact rowHolds

@[simp] theorem contains_update {table : Table key} {condition : Row → Bool}
    {change : Row → Row} (keepsKey : ∀ row, key (change row) = key row) {wanted : Key} :
    (table.update condition change keepsKey).Contains wanted ↔ table.Contains wanted := by
  constructor
  · rintro ⟨row, member, rfl⟩
    obtain ⟨before, beforeMember, rfl⟩ := mem_update.mp member
    refine ⟨before, beforeMember, ?_⟩
    split
    · exact (keepsKey before).symm
    · rfl
  · rintro ⟨row, member, rfl⟩
    refine ⟨_, mem_update.mpr ⟨row, member, rfl⟩, ?_⟩
    split
    · exact keepsKey row
    · rfl

variable [DecidableEq Key]

instance (table : Table key) (wanted : Key) : Decidable (table.Contains wanted) :=
  inferInstanceAs (Decidable (∃ row ∈ table.rows, key row = wanted))

/-- The row with a key. -/
def find (table : Table key) (wanted : Key) : Option Row :=
  table.rows.find? fun row => key row = wanted

theorem find_eq_some {table : Table key} {wanted : Key} {row : Row} :
    table.find wanted = some row ↔ row ∈ table ∧ key row = wanted := by
  constructor
  · intro found
    exact ⟨List.mem_of_find?_eq_some found, by simpa using List.find?_some found⟩
  · rintro ⟨member, rfl⟩
    cases found : table.find (key row) with
    | none =>
        have absent := List.find?_eq_none.mp found row member
        simp at absent
    | some other =>
        have sameKey : key other = key row := by simpa using List.find?_some found
        rw [eq_of_key_eq (List.mem_of_find?_eq_some found) member sameKey]

theorem find_eq_none {table : Table key} {wanted : Key} :
    table.find wanted = none ↔ ¬table.Contains wanted := by
  rw [find, List.find?_eq_none]
  simp [Contains, mem_def]

/-- Exactly one row has the key of a row. -/
theorem filter_key_eq {table : Table key} {row : Row} (member : row ∈ table) :
    (table.rows.filter fun other => key other = key row) = [row] := by
  have nodup : (table.rows.filter fun other => key other = key row).Nodup :=
    (List.Nodup.of_map key table.unique).sublist List.filter_sublist
  refine List.perm_singleton.mp
    ((List.perm_ext_iff_of_nodup nodup (List.nodup_singleton row)).mpr fun other => ?_)
  rw [List.mem_filter, List.mem_singleton, decide_eq_true_iff]
  constructor
  · rintro ⟨otherMember, same⟩
    exact eq_of_key_eq otherMember member same
  · rintro rfl
    exact ⟨member, rfl⟩

/-- `INSERT OR IGNORE INTO table VALUES new`. -/
def insertOrIgnore (table : Table key) (new : Row) : Table key :=
  if present : table.Contains (key new) then table
  else ⟨table.rows ++ [new], nodup_append_new present⟩

/-- `INSERT INTO table VALUES new ON CONFLICT(key) DO UPDATE` of all other columns. -/
def upsert (table : Table key) (new : Row) : Table key :=
  if present : table.Contains (key new) then
    { rows := table.rows.map fun row => if key row = key new then new else row
      unique := by
        have sameKeys : (table.rows.map fun row => if key row = key new then new else row).map
            key = table.rows.map key := by
          rw [List.map_map]
          refine List.map_congr_left fun row _ => ?_
          simp only [Function.comp_apply]
          split
          · next same => exact same.symm
          · rfl
        rw [sameKeys]
        exact table.unique }
  else ⟨table.rows ++ [new], nodup_append_new present⟩

theorem insertOrIgnore_of_contains {table : Table key} {new : Row}
    (present : table.Contains (key new)) : table.insertOrIgnore new = table :=
  dif_pos present

theorem mem_insertOrIgnore {table : Table key} {new row : Row} :
    row ∈ table.insertOrIgnore new ↔
      row ∈ table ∨ (row = new ∧ ¬ table.Contains (key new)) := by
  unfold insertOrIgnore
  split
  · next present => simp [present]
  · next absent => simp [absent, mem_def]

theorem Contains.insertOrIgnore {table : Table key} {wanted : Key}
    (present : table.Contains wanted) (new : Row) :
    (table.insertOrIgnore new).Contains wanted := by
  obtain ⟨row, member, same⟩ := present
  exact ⟨row, mem_insertOrIgnore.mpr (.inl member), same⟩

theorem contains_insertOrIgnore (table : Table key) (new : Row) :
    (table.insertOrIgnore new).Contains (key new) := by
  by_cases present : table.Contains (key new)
  · rwa [insertOrIgnore_of_contains present]
  · exact ⟨new, mem_insertOrIgnore.mpr (.inr ⟨rfl, present⟩), rfl⟩

theorem mem_upsert {table : Table key} {new row : Row} :
    row ∈ table.upsert new ↔ row = new ∨ (row ∈ table ∧ key row ≠ key new) := by
  unfold upsert
  split
  · next present =>
      obtain ⟨old, oldMember, sameKey⟩ := present
      rw [mem_def, List.mem_map]
      constructor
      · rintro ⟨before, member, rfl⟩
        split
        · exact .inl rfl
        · next different => exact .inr ⟨member, different⟩
      · rintro (rfl | ⟨member, different⟩)
        · exact ⟨old, oldMember, if_pos sameKey⟩
        · exact ⟨row, member, if_neg different⟩
  · next absent =>
      simp only [mem_def, List.mem_append, List.mem_singleton]
      constructor
      · rintro (member | rfl)
        · exact .inr ⟨member, fun same => absent ⟨row, member, same⟩⟩
        · exact .inl rfl
      · rintro (rfl | ⟨member, _⟩)
        · exact .inr rfl
        · exact .inl member

theorem contains_upsert {table : Table key} {new : Row} {wanted : Key} :
    (table.upsert new).Contains wanted ↔ wanted = key new ∨ table.Contains wanted := by
  constructor
  · rintro ⟨row, member, rfl⟩
    rcases mem_upsert.mp member with rfl | ⟨old, _⟩
    · exact .inl rfl
    · exact .inr ⟨row, old, rfl⟩
  · rintro (rfl | ⟨row, member, rfl⟩)
    · exact ⟨new, mem_upsert.mpr (.inl rfl), rfl⟩
    · by_cases same : key row = key new
      · exact ⟨new, mem_upsert.mpr (.inl rfl), same.symm⟩
      · exact ⟨row, mem_upsert.mpr (.inr ⟨member, same⟩), rfl⟩

end Table

end Foundation
