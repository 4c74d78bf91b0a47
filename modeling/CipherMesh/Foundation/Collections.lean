import Mathlib.Data.Finmap
import Mathlib.Data.List.Sort

/-!
# Ordered maps and sets

A `BTreeMap` is a finite map and a `BTreeSet` a finite set.  Iteration in key
order and collection from an iterator are the two conversions below; collecting
what was iterated gives the collection back.
-/

namespace Foundation

variable {Key Value : Type}

/-- The elements of a set in ascending order. -/
def ascending [LinearOrder Key] (keys : Finset Key) : List Key :=
  Quotient.liftOn keys.val (List.insertionSort (· ≤ ·)) fun first second permuted =>
    List.Perm.eq_of_pairwise (fun _ _ _ _ => le_antisymm)
      (List.pairwise_insertionSort _ first) (List.pairwise_insertionSort _ second)
      ((List.perm_insertionSort _ first).trans
        (permuted.trans (List.perm_insertionSort _ second).symm))

@[simp] theorem mem_ascending [LinearOrder Key] {keys : Finset Key} {key : Key} :
    key ∈ ascending keys ↔ key ∈ keys := by
  obtain ⟨elements, distinct⟩ := keys
  induction elements using Quotient.inductionOn with
  | h elements => exact (List.perm_insertionSort _ elements).mem_iff

theorem keys_insert [DecidableEq Key] (map : Finmap fun _ : Key => Value) (key : Key)
    (value : Value) : (map.insert key value).keys = insert key map.keys := by
  ext other
  simp only [Finmap.mem_keys, Finmap.mem_insert, Finset.mem_insert]

/-- Maps with the same keys and with equal values are equal. -/
theorem eq_of_mem_iff [DecidableEq Key] {first second : Finmap fun _ : Key => Value}
    (sameKeys : ∀ key, key ∈ first ↔ key ∈ second)
    (sameValues : ∀ key value other, first.lookup key = some value →
      second.lookup key = some other → value = other) : first = second := by
  refine Finmap.ext_lookup fun key => ?_
  cases found : first.lookup key with
  | none =>
      have absent : key ∉ second := fun member =>
        Finmap.lookup_eq_none.mp found ((sameKeys key).mpr member)
      rw [Finmap.lookup_eq_none.mpr absent]
  | some value =>
      have member := (sameKeys key).mp (Finmap.mem_of_lookup_eq_some found)
      obtain ⟨other, otherFound⟩ := Finmap.mem_iff.mp member
      rw [otherFound, sameValues key value other found otherFound]

/-- The entries of a map in ascending key order. -/
def entries [LinearOrder Key] (map : Finmap fun _ : Key => Value) : List (Key × Value) :=
  (ascending map.keys).filterMap fun key => (map.lookup key).map (key, ·)

theorem mem_entries [LinearOrder Key] {map : Finmap fun _ : Key => Value} {key : Key}
    {value : Value} : (key, value) ∈ entries map ↔ map.lookup key = some value := by
  simp only [entries, List.mem_filterMap, mem_ascending, Option.map_eq_some_iff, Prod.mk.injEq]
  constructor
  · rintro ⟨_, _, _, found, rfl, rfl⟩
    exact found
  · intro found
    exact ⟨key, Finmap.mem_keys.mpr (Finmap.mem_of_lookup_eq_some found), value, found, rfl, rfl⟩

/-- Collect entries; a later entry replaces an earlier one with the same key. -/
def collect [DecidableEq Key] (list : List (Key × Value)) :
    Finmap fun _ : Key => Value :=
  list.foldl (fun map entry => map.insert entry.1 entry.2) ∅

/-- What was collected under a key is an entry of the list. -/
theorem mem_of_lookup_collect [DecidableEq Key] {list : List (Key × Value)}
    {key : Key} {value : Value} (found : (collect list).lookup key = some value) :
    (key, value) ∈ list := by
  have general : ∀ (list : List (Key × Value)) (map : Finmap fun _ : Key => Value),
      (list.foldl (fun map entry => map.insert entry.1 entry.2) map).lookup key = some value →
        (key, value) ∈ list ∨ map.lookup key = some value := by
    intro list
    induction list with
    | nil => exact fun _ => .inr
    | cons head tail tailIH =>
        intro map inFold
        rcases tailIH _ inFold with inTail | inHead
        · exact .inl (List.mem_cons_of_mem _ inTail)
        · by_cases same : key = head.1
          · subst same
            rw [Finmap.lookup_insert, Option.some.injEq] at inHead
            exact .inl (by simp [← inHead])
          · rw [Finmap.lookup_insert_of_ne _ same] at inHead
            exact .inr inHead
  rcases general list ∅ found with member | inEmpty
  · exact member
  · simp at inEmpty

/-- Every listed key has a value. -/
theorem exists_lookup_collect [DecidableEq Key] {list : List (Key × Value)}
    {entry : Key × Value} (member : entry ∈ list) :
    ∃ value, (collect list).lookup entry.1 = some value := by
  have general : ∀ (list : List (Key × Value)) (map : Finmap fun _ : Key => Value),
      entry ∈ list ∨ entry.1 ∈ map →
        entry.1 ∈ list.foldl (fun map entry => map.insert entry.1 entry.2) map := by
    intro list
    induction list with
    | nil => simp
    | cons head tail tailIH =>
        intro map present
        apply tailIH
        rw [Finmap.mem_insert]
        rcases present with inList | inMap
        · rcases List.mem_cons.mp inList with rfl | inTail
          · exact .inr (.inl rfl)
          · exact .inl inTail
        · exact .inr (.inr inMap)
  exact Finmap.mem_iff.mp (general list ∅ (.inl member))

/-- Collecting the images of a list of keys under one function gives a map that
agrees with this function on the listed keys. -/
private theorem lookup_foldl_insert [DecidableEq Key] (value : Key → Option Value) (key : Key) :
    ∀ (keys : List Key) (map : Finmap fun _ : Key => Value),
      ((keys.filterMap fun key => (value key).map (key, ·)).foldl
        (fun map entry => map.insert entry.1 entry.2) map).lookup key =
      if key ∈ keys ∧ (value key).isSome then value key else map.lookup key := by
  intro keys
  induction keys with
  | nil => simp
  | cons head tail tailIH =>
      intro map
      cases present : value head with
      | none =>
          have absent : key = head → (value key).isSome = false := by
            rintro rfl
            simp [present]
          simp only [List.filterMap_cons, present, Option.map_none, tailIH, List.mem_cons]
          grind
      | some stored =>
          simp only [List.filterMap_cons, present, Option.map_some, List.foldl_cons, tailIH,
            List.mem_cons]
          rcases eq_or_ne key head with rfl | different
          · simp [present, Finmap.lookup_insert]
          · simp [different, Finmap.lookup_insert_of_ne]

@[simp] theorem collect_entries [LinearOrder Key] (map : Finmap fun _ : Key => Value) :
    collect (entries map) = map := by
  apply Finmap.ext_lookup
  intro key
  rw [collect, entries, lookup_foldl_insert]
  cases present : map.lookup key with
  | none => simp
  | some stored =>
      have member : key ∈ map.keys := by
        rw [Finmap.mem_keys, ← Finmap.lookup_isSome, present]
        rfl
      simp [member]

@[simp] theorem toFinset_ascending [LinearOrder Key] (keys : Finset Key) :
    (ascending keys).toFinset = keys := by
  ext key
  rw [List.mem_toFinset, mem_ascending]

/-- In a sorted list the first value is that of the least element that has one. -/
theorem findSome?_eq_some_iff_least {Element Order : Type} [LinearOrder Order]
    {order : Element → Order} {value : Element → Option Value} {elements : List Element}
    (sorted : elements.Pairwise fun first second => order first < order second)
    {result : Value} :
    elements.findSome? value = some result ↔
      ∃ element ∈ elements, value element = some result ∧
        ∀ other ∈ elements, (value other).isSome = true → order element ≤ order other := by
  induction elements with
  | nil => simp
  | cons head tail tailIH =>
      have after : ∀ other ∈ tail, order head < order other :=
        fun other member => List.rel_of_pairwise_cons sorted member
      rw [List.findSome?_cons]
      cases atHead : value head with
      | some found =>
          constructor
          · rintro ⟨⟩
            refine ⟨head, List.mem_cons_self, atHead, fun other member _ => ?_⟩
            rcases List.mem_cons.mp member with rfl | inTail
            · exact le_refl _
            · exact le_of_lt (after other inTail)
          · rintro ⟨element, member, valued, least⟩
            have first := least head List.mem_cons_self (by rw [atHead]; rfl)
            rcases List.mem_cons.mp member with rfl | inTail
            · exact atHead.symm.trans valued
            · exact absurd first (not_le_of_gt (after element inTail))
      | none =>
          dsimp only
          rw [tailIH sorted.of_cons]
          constructor
          · rintro ⟨element, member, valued, least⟩
            refine ⟨element, List.mem_cons_of_mem _ member, valued, ?_⟩
            intro other otherMember some
            rcases List.mem_cons.mp otherMember with rfl | inTail
            · rw [atHead] at some
              cases some
            · exact least other inTail some
          · rintro ⟨element, member, valued, least⟩
            rcases List.mem_cons.mp member with rfl | inTail
            · rw [atHead] at valued
              cases valued
            · exact ⟨element, inTail, valued, fun other otherMember =>
                least other (List.mem_cons_of_mem _ otherMember)⟩

end Foundation
