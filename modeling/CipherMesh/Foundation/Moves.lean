import CipherMesh.Foundation.Table

/-!
# Rows that change their owner

Every row names an owner.  A move gives the rows of one owner to another, either in place
or by copies that do not replace what the other has.  Done once, a move has nothing left
to do, and afterwards the new owner has the rows of both.
-/

namespace Foundation

universe u v w

/-! ## Rows in place -/

section

variable {Row : Type u} {Owner : Type w} [DecidableEq Owner]

/-- The row, under its new owner if it was the old one's. -/
def moved (owner : Row → Owner) (rename : Row → Row) (old : Owner) (row : Row) : Row :=
  if owner row = old then rename row else row

variable {owner : Row → Owner} {rename : Row → Row} {old new : Owner} {row : Row}

theorem moved_of_owned (owned : owner row = old) : moved owner rename old row = rename row :=
  if_pos owned

theorem moved_of_other (other : owner row ≠ old) : moved owner rename old row = row :=
  if_neg other

theorem owner_moved (renames : ∀ row, owner (rename row) = new) (different : old ≠ new) :
    owner (moved owner rename old row) ≠ old := by
  rw [moved]
  split
  · rw [renames]
    exact different.symm
  · next other => exact other

variable (rows : List Row)

theorem filter_moved_old (renames : ∀ row, owner (rename row) = new) (different : old ≠ new) :
    (rows.map (moved owner rename old)).filter (fun row => owner row = old) = [] := by
  apply List.filter_eq_nil_iff.mpr
  intro row member
  obtain ⟨before, -, rfl⟩ := List.mem_map.mp member
  simpa using owner_moved renames different

theorem filter_moved_other (renames : ∀ row, owner (rename row) = new) {other : Owner}
    (notOld : other ≠ old) (notNew : other ≠ new) :
    (rows.map (moved owner rename old)).filter (fun row => owner row = other) =
      rows.filter fun row => owner row = other := by
  induction rows with
  | nil => rfl
  | cons head tail tailIH =>
      by_cases owned : owner head = old
      · have renamed : owner (rename head) ≠ other := by
          rw [renames]
          exact notNew.symm
        have elsewhere : owner head ≠ other := fun same => notOld (same ▸ owned)
        simp [moved_of_owned owned, renamed, elsewhere, tailIH]
      · simp [moved_of_other owned, List.filter_cons, tailIH]

/-- The new owner has the rows of both. -/
theorem filter_moved_new (renames : ∀ row, owner (rename row) = new) (different : old ≠ new) :
    ((rows.map (moved owner rename old)).filter fun row => owner row = new).Perm
      ((rows.filter (fun row => owner row = old) ++ rows.filter fun row => owner row = new).map
        (moved owner rename old)) := by
  induction rows with
  | nil => exact .refl _
  | cons head tail tailIH =>
      by_cases owned : owner head = old
      · have notNew : owner head ≠ new := fun same => different (owned.symm.trans same)
        simp only [List.map_cons, moved_of_owned owned, List.filter_cons, renames, owned,
          different, decide_true, decide_false, if_true, List.cons_append]
        simpa using tailIH
      · by_cases already : owner head = new
        · simp only [List.map_cons, moved_of_other owned, List.filter_cons, already,
            different.symm, decide_true, decide_false, if_true, List.map_append]
          simp only [List.map_append] at tailIH
          exact (tailIH.cons head).trans (by simpa [moved_of_other owned] using
            List.perm_middle.symm)
        · simp only [List.map_cons, moved_of_other owned, List.filter_cons, already, owned,
            decide_false]
          simpa using tailIH

end

namespace Table

variable {Row : Type u} {Key : Type v} {key : Row → Key}

/-! ## Statements that have nothing to do -/

@[simp] theorem delete_delete (table : Table key) (condition : Row → Bool) :
    (table.delete condition).delete condition = table.delete condition := by
  apply delete_eq_self
  intro row member
  exact (mem_delete.mp member).2

theorem update_update {table : Table key} {condition : Row → Bool} {change : Row → Row}
    (keepsKey : ∀ row, key (change row) = key row)
    (once : ∀ row, condition (change row) = false) :
    (table.update condition change keepsKey).update condition change keepsKey =
      table.update condition change keepsKey := by
  apply ext
  simp only [update, List.map_map]
  apply List.map_congr_left
  intro row _
  simp only [Function.comp_apply]
  split
  · simp [once]
  · rfl

/-! ## Selections -/

section

variable {Owner : Type w} [DecidableEq Owner] {Order : Type*} [LinearOrder Order]
variable {owner : Row → Owner} {rename : Row → Row} {old new : Owner}
variable {before after : Table key} (order : Row → Order)

theorem select_moved_old (rows : after.rows = before.rows.map (moved owner rename old))
    (renames : ∀ row, owner (rename row) = new) (different : old ≠ new) :
    after.select (fun row => owner row = old) order = [] := by
  rw [select, rows, filter_moved_old _ renames different]
  rfl

theorem select_moved_other (rows : after.rows = before.rows.map (moved owner rename old))
    (renames : ∀ row, owner (rename row) = new) {other : Owner} (notOld : other ≠ old)
    (notNew : other ≠ new) :
    after.select (fun row => owner row = other) order =
      before.select (fun row => owner row = other) order := by
  rw [select, select, rows, filter_moved_other _ renames notOld notNew]

theorem select_moved_new (rows : after.rows = before.rows.map (moved owner rename old))
    (renames : ∀ row, owner (rename row) = new) (different : old ≠ new) :
    (after.select (fun row => owner row = new) order).Perm
      ((before.select (fun row => owner row = old) order ++
        before.select (fun row => owner row = new) order).map (moved owner rename old)) := by
  apply (List.perm_insertionSort _ _).trans
  rw [rows]
  apply (filter_moved_new _ renames different).trans
  apply List.Perm.map
  exact ((List.perm_insertionSort _ _).append (List.perm_insertionSort _ _)).symm

end

variable [DecidableEq Key]

/-- A key is looked up in the rows that have it. -/
theorem find_congr {first second : Table key} {wanted : Key}
    (same : ∀ row, key row = wanted → (row ∈ first ↔ row ∈ second)) :
    first.find wanted = second.find wanted := by
  apply Option.ext
  intro row
  rw [find_eq_some, find_eq_some]
  exact and_congr_left (same row)

theorem find_update (table : Table key) {condition : Row → Bool} {change : Row → Row}
    (keepsKey : ∀ row, key (change row) = key row) (wanted : Key) :
    (table.update condition change keepsKey).find wanted =
      (table.find wanted).map fun row => if condition row then change row else row := by
  cases found : table.find wanted with
  | none =>
      rw [find_eq_none] at found
      exact find_eq_none.mpr (mt (contains_update keepsKey).mp found)
  | some row =>
      obtain ⟨member, rfl⟩ := find_eq_some.mp found
      refine find_eq_some.mpr ⟨mem_update.mpr ⟨row, member, rfl⟩, ?_⟩
      change key (if condition row then change row else row) = key row
      split
      · exact keepsKey row
      · rfl

theorem find_insertOrIgnore_self {table : Table key} {new : Row}
    (absent : ¬ table.Contains (key new)) : (table.insertOrIgnore new).find (key new) = some new :=
  find_eq_some.mpr ⟨mem_insertOrIgnore.mpr (.inr ⟨rfl, absent⟩), rfl⟩

theorem find_insertOrIgnore_of_ne (table : Table key) {new : Row} {wanted : Key}
    (other : wanted ≠ key new) : (table.insertOrIgnore new).find wanted = table.find wanted := by
  apply find_congr
  rintro row rfl
  rw [mem_insertOrIgnore]
  constructor
  · rintro (member | ⟨rfl, -⟩)
    · exact member
    · exact absurd rfl other
  · exact .inl

theorem find_upsert_self (table : Table key) (new : Row) :
    (table.upsert new).find (key new) = some new :=
  find_eq_some.mpr ⟨mem_upsert.mpr (.inl rfl), rfl⟩

theorem find_upsert_of_ne (table : Table key) {new : Row} {wanted : Key}
    (other : wanted ≠ key new) : (table.upsert new).find wanted = table.find wanted := by
  apply find_congr
  rintro row rfl
  rw [mem_upsert]
  constructor
  · rintro (rfl | ⟨member, -⟩)
    · exact absurd rfl other
    · exact member
  · exact fun member => .inr ⟨member, other⟩

/-! ## Copies -/

/-- `INSERT OR IGNORE INTO table` of several rows. -/
def insertAll (table : Table key) (rows : List Row) : Table key :=
  rows.foldl insertOrIgnore table

theorem insertAll_eq_self {table : Table key} {rows : List Row}
    (present : ∀ row ∈ rows, table.Contains (key row)) : table.insertAll rows = table := by
  induction rows with
  | nil => rfl
  | cons head tail tailIH =>
      have headPresent := present head List.mem_cons_self
      rw [insertAll, List.foldl_cons, insertOrIgnore_of_contains headPresent]
      exact tailIH fun row member => present row (List.mem_cons_of_mem _ member)

theorem contains_insertOrIgnore_iff {table : Table key} {new : Row} {wanted : Key} :
    (table.insertOrIgnore new).Contains wanted ↔ table.Contains wanted ∨ key new = wanted := by
  constructor
  · rintro ⟨row, member, rfl⟩
    rcases mem_insertOrIgnore.mp member with old | ⟨rfl, -⟩
    · exact .inl ⟨row, old, rfl⟩
    · exact .inr rfl
  · rintro (present | rfl)
    · exact present.insertOrIgnore new
    · exact contains_insertOrIgnore table new

theorem contains_insertAll_of_contains {table : Table key} {wanted : Key}
    (present : table.Contains wanted) (rows : List Row) :
    (table.insertAll rows).Contains wanted := by
  induction rows generalizing table with
  | nil => exact present
  | cons head tail tailIH => exact tailIH (present.insertOrIgnore head)

/-- A row is in the table afterwards if it was there, or if it is copied and its key was
free. -/
theorem mem_insertAll {table : Table key} {rows : List Row} (distinct : (rows.map key).Nodup)
    {row : Row} : row ∈ table.insertAll rows ↔
      row ∈ table ∨ (row ∈ rows ∧ ¬table.Contains (key row)) := by
  induction rows generalizing table with
  | nil => simp [insertAll]
  | cons head tail tailIH =>
      rw [List.map_cons, List.nodup_cons] at distinct
      have step : table.insertAll (head :: tail) = (table.insertOrIgnore head).insertAll tail := rfl
      have inTail : row ∈ tail → key head ≠ key row :=
        fun member same => distinct.1 (same ▸ List.mem_map_of_mem member)
      rw [step, tailIH distinct.2, mem_insertOrIgnore, contains_insertOrIgnore_iff, List.mem_cons]
      constructor
      · rintro ((old | ⟨rfl, free⟩) | ⟨member, free⟩)
        · exact .inl old
        · exact .inr ⟨.inl rfl, free⟩
        · exact .inr ⟨.inr member, fun present => free (.inl present)⟩
      · rintro (old | ⟨rfl | member, free⟩)
        · exact .inl (.inl old)
        · exact .inl (.inr ⟨rfl, free⟩)
        · exact .inr ⟨member, fun either => either.elim free (inTail member)⟩

theorem contains_insertAll {table : Table key} {rows : List Row} {row : Row}
    (member : row ∈ rows) : (table.insertAll rows).Contains (key row) := by
  induction rows generalizing table with
  | nil => cases member
  | cons head tail tailIH =>
      rcases List.mem_cons.mp member with rfl | inTail
      · have step : table.insertAll (row :: tail) = (table.insertOrIgnore row).insertAll tail := rfl
        rw [step]
        exact contains_insertAll_of_contains (contains_insertOrIgnore table row) tail
      · exact tailIH inTail

/-- The copies do not show where their condition fails. -/
theorem filter_insertAll (table : Table key) {rows : List Row} {condition : Row → Bool}
    (hidden : ∀ row ∈ rows, condition row = false) :
    (table.insertAll rows).rows.filter condition = table.rows.filter condition := by
  induction rows generalizing table with
  | nil => rfl
  | cons head tail tailIH =>
      have step : table.insertAll (head :: tail) = (table.insertOrIgnore head).insertAll tail := rfl
      rw [step, tailIH _ fun row member => hidden row (List.mem_cons_of_mem _ member)]
      unfold insertOrIgnore
      split
      · rfl
      · simp [List.filter_append, hidden head List.mem_cons_self]

end Table

end Foundation
