import CipherMesh.Foundation.Bytes

/-!
# Serialization formats

A serialization library is a parameter: a function to bytes that may fail and a
parser.  `RoundTrip` is its documented behaviour.
-/

namespace Foundation

/-- How the values of a type are written to bytes and read back. -/
structure Format (Value : Type) where
  serialize : Value → Option Bytes
  deserialize : Bytes → Option Value

namespace Format

variable {Value : Type}

/-- What was serialized deserializes to the same value. -/
def RoundTrip (format : Format Value) : Prop :=
  ∀ {value bytes}, format.serialize value = some bytes →
    format.deserialize bytes = some value

/-- Deserialize every byte string, or fail with the first that does not. -/
def deserializeAll (format : Format Value) (blobs : List Bytes) : Option (List Value) :=
  blobs.mapM format.deserialize

theorem mem_of_deserializeAll {format : Format Value} {blobs : List Bytes} {values : List Value}
    (deserialized : format.deserializeAll blobs = some values) {value : Value} :
    value ∈ values ↔ ∃ blob ∈ blobs, format.deserialize blob = some value := by
  induction blobs generalizing values with
  | nil =>
      cases deserialized
      simp
  | cons blob blobs blobsIH =>
      rw [deserializeAll, List.mapM_cons] at deserialized
      obtain ⟨first, firstDecoded, rest⟩ := Option.bind_eq_some_iff.mp deserialized
      obtain ⟨others, othersDecoded, same⟩ := Option.bind_eq_some_iff.mp rest
      cases same
      simp [blobsIH othersDecoded, firstDecoded, eq_comm]

/-- The format that knows the listed values only, each by its position. -/
def listed [DecidableEq Value] (values : List Value) : Format Value where
  serialize value :=
    if value ∈ values then some (List.replicate (values.idxOf value) 0) else none
  deserialize bytes := values[bytes.length]?

theorem roundTrip_listed [DecidableEq Value] (values : List Value) :
    (listed values).RoundTrip := by
  intro value bytes serialized
  simp only [listed, Option.ite_none_right_eq_some, Option.some.injEq] at serialized ⊢
  obtain ⟨member, rfl⟩ := serialized
  rw [List.length_replicate, List.getElem?_eq_getElem (List.idxOf_lt_length_of_mem member)]
  exact congrArg some (List.getElem_idxOf (List.idxOf_lt_length_of_mem member))

end Format

end Foundation
