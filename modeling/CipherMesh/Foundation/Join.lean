import CipherMesh.Foundation.Table
import Mathlib.Data.List.Induction

/-!
# Joined queries

The left join of a list of rows with another, and the pages of a result.  Where at most
one row matches, a left join is a lookup for each row; where the offsets do not wrap, the
pages of a result follow each other.
-/

namespace Foundation

universe u v w

variable {Row : Type u} {Other : Type v} {Result : Type w}

/-- `rows LEFT JOIN others ON matching`. -/
def leftJoin (rows : List Row) (others : List Other) (matching : Row → Other → Bool) :
    List (Row × Option Other) :=
  rows.flatMap fun row =>
    match others.filter (matching row) with
    | [] => [(row, none)]
    | found => found.map fun other => (row, some other)

/-- Where at most one row matches, a left join is a lookup. -/
theorem leftJoin_eq_map {rows : List Row} {others : List Other} {matching : Row → Other → Bool}
    {found : Row → Option Other}
    (filtered : ∀ row ∈ rows, others.filter (matching row) = (found row).toList) :
    leftJoin rows others matching = rows.map fun row => (row, found row) := by
  rw [leftJoin, List.map_eq_flatMap]
  refine List.flatMap_congr fun row member => ?_
  rw [filtered row member]
  cases found row with
  | none => rfl
  | some other => rfl

/-- Of distinct rows that do not match together at most one is found. -/
theorem filter_eq_toList_find {others : List Other} {condition : Other → Bool}
    (nodup : others.Nodup)
    (unique : ∀ first ∈ others, ∀ second ∈ others,
      condition first = true → condition second = true → first = second) :
    others.filter condition = (others.find? condition).toList := by
  cases found : others.find? condition with
  | none => exact List.filter_eq_nil_iff.mpr (List.find?_eq_none.mp found)
  | some other =>
      have member := List.mem_of_find?_eq_some found
      have chosen := List.find?_some found
      refine List.perm_singleton.mp ((List.perm_ext_iff_of_nodup
        (nodup.sublist List.filter_sublist) (List.nodup_singleton other)).mpr fun row => ?_)
      rw [List.mem_filter, List.mem_singleton]
      constructor
      · intro ⟨rowMember, rowChosen⟩
        exact unique row rowMember other member rowChosen chosen
      · intro same
        rw [same]
        exact ⟨member, chosen⟩

/-- `LIMIT limit OFFSET offset`.  A negative limit is none, a negative offset is zero. -/
def limited (limit offset : Int) (rows : List Row) : List Row :=
  if limit < 0 then rows.drop offset.toNat else (rows.drop offset.toNat).take limit.toNat

theorem limited_map (limit offset : Int) (change : Row → Result) (rows : List Row) :
    limited limit offset (rows.map change) = (limited limit offset rows).map change := by
  unfold limited
  split
  · rw [List.map_drop]
  · rw [List.map_take, List.map_drop]

theorem limited_natCast (limit offset : Nat) (rows : List Row) :
    limited limit offset rows = (rows.drop offset).take limit := by
  rw [limited, if_neg (by omega)]
  rfl

theorem sublist_limited (limit offset : Int) (rows : List Row) :
    (limited limit offset rows).Sublist rows := by
  unfold limited
  split
  · exact List.drop_sublist _ _
  · exact (List.take_sublist _ _).trans (List.drop_sublist _ _)

/-- Any page with this offset lists the first row. -/
theorem mem_limited_of_offset_nonpos {limit offset : Int} {first : Row} {rows : List Row}
    (limitNonzero : limit ≠ 0) (start : offset ≤ 0) :
    first ∈ limited limit offset (first :: rows) := by
  have atStart : offset.toNat = 0 := Int.toNat_of_nonpos start
  rw [limited, atStart, List.drop_zero]
  split
  · exact List.mem_cons_self
  · next nonneg =>
      obtain ⟨size, same⟩ : ∃ size, limit.toNat = size + 1 :=
        ⟨limit.toNat - 1, by omega⟩
      rw [same, List.take_succ_cons]
      exact List.mem_cons_self

/-- Pages of one size list the first rows in order. -/
theorem flatMap_pages (size count : Nat) (rows : List Row) :
    ((List.range count).flatMap fun page => (rows.drop (page * size)).take size) =
      rows.take (count * size) := by
  induction count with
  | zero => rw [Nat.zero_mul, List.take_zero, List.range_zero, List.flatMap_nil]
  | succ count ih =>
      rw [List.range_succ, List.flatMap_append, ih, List.flatMap_singleton, Nat.succ_mul,
        List.take_add]

/-- An element of two of the parts is listed twice. -/
theorem not_nodup_flatMap {parts : Nat → List Row} {count first second : Nat} {row : Row}
    (before : first < second) (inRange : second < count) (firstMember : row ∈ parts first)
    (secondMember : row ∈ parts second) : ¬ ((List.range count).flatMap parts).Nodup := by
  intro nodup
  have disjoint := (List.nodup_flatMap.mp nodup).2
  have ordered := List.pairwise_iff_getElem.mp disjoint first second
    (by rw [List.length_range]; omega) (by rw [List.length_range]; omega) before
  rw [List.getElem_range, List.getElem_range] at ordered
  exact ordered firstMember secondMember

/-- The first row of the descending order is the last of the ascending one. -/
theorem Table.head?_descending {Key : Type v} {Order : Type w} [LinearOrder Order]
    {key : Row → Key} {table : Table key} {condition : Row → Bool} {order : Row → Order}
    (separates : ∀ row other, condition row = true → condition other = true →
      order row = order other → key row = key other) :
    ((table.rows.filter condition).insertionSort fun first second =>
        order second ≤ order first).head? = (table.select condition order).getLast? := by
  have reversed : ((table.rows.filter condition).insertionSort fun first second =>
      order second ≤ order first) = (table.select condition order).reverse := by
    refine List.Perm.eq_of_pairwise ?_ (List.pairwise_insertionSort _ _)
      (List.pairwise_reverse.mpr (pairwise_select table condition order)) ?_
    · intro row other member otherMember above below
      obtain ⟨inTable, chosen⟩ := mem_select.mp (List.mem_reverse.mp otherMember)
      rw [List.mem_insertionSort, List.mem_filter] at member
      exact eq_of_key_eq member.1 inTable
        (separates row other member.2 chosen (le_antisymm below above))
    · exact (List.perm_insertionSort _ _).trans
        ((List.perm_insertionSort _ _).symm.trans (List.reverse_perm _).symm)
  rw [reversed, List.head?_reverse]

end Foundation
