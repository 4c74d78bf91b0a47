import CipherMesh.Foundation.Format
import Mathlib.Data.PEquiv

/-!
# Binary codecs

A codec reads a value from the front of a byte string and leaves the rest.  It reads what
it has written, and what it accepts is what it would write, so that a byte string has at
most one reading under one codec.  `rest` forgets the value: whether several fields in a
row can be read depends on the rests alone.
-/

namespace Foundation

namespace Bytes

/-- The `width` low digits of a number to the base 256, the lowest first. -/
def littleEndian : (width : Nat) → Nat → Bytes
  | 0, _ => []
  | width + 1, number => UInt8.ofNat number :: littleEndian width (number / 256)

def ofLittleEndian : Bytes → Nat
  | [] => 0
  | byte :: bytes => byte.toNat + 256 * ofLittleEndian bytes

@[simp] theorem length_littleEndian (width number : Nat) :
    (littleEndian width number).length = width := by
  induction width generalizing number with
  | zero => rfl
  | succ width widthIH => rw [littleEndian, List.length_cons, widthIH]

theorem ofLittleEndian_lt (bytes : Bytes) : ofLittleEndian bytes < 256 ^ bytes.length := by
  induction bytes with
  | nil => decide
  | cons byte bytes bytesIH =>
      have digit := byte.toNat_lt
      rw [ofLittleEndian, List.length_cons, Nat.pow_succ]
      omega

theorem ofLittleEndian_littleEndian {width number : Nat} (fits : number < 256 ^ width) :
    ofLittleEndian (littleEndian width number) = number := by
  induction width generalizing number with
  | zero =>
      rw [Nat.pow_zero, Nat.lt_one_iff] at fits
      rw [fits]
      rfl
  | succ width widthIH =>
      have rest : number / 256 < 256 ^ width :=
        Nat.div_lt_of_lt_mul (by rwa [Nat.pow_succ, Nat.mul_comm] at fits)
      rw [littleEndian, ofLittleEndian, widthIH rest, UInt8.toNat_ofNat']
      omega

theorem littleEndian_ofLittleEndian (bytes : Bytes) :
    littleEndian bytes.length (ofLittleEndian bytes) = bytes := by
  induction bytes with
  | nil => rfl
  | cons byte bytes bytesIH =>
      have digit := byte.toNat_lt
      have quotient : (byte.toNat + 256 * ofLittleEndian bytes) / 256 = ofLittleEndian bytes := by
        omega
      have low : UInt8.ofNat (byte.toNat + 256 * ofLittleEndian bytes) = byte := by
        apply UInt8.toNat_inj.mp
        rw [UInt8.toNat_ofNat']
        omega
      rw [List.length_cons, ofLittleEndian, littleEndian, quotient, low, bytesIH]

theorem ofLittleEndian_append (bytes more : Bytes) :
    ofLittleEndian (bytes ++ more) =
      ofLittleEndian bytes + 256 ^ bytes.length * ofLittleEndian more := by
  induction bytes with
  | nil => simp [ofLittleEndian]
  | cons byte bytes bytesIH =>
      rw [List.cons_append, ofLittleEndian, bytesIH, ofLittleEndian, List.length_cons,
        Nat.pow_succ', Nat.mul_add, Nat.mul_assoc, Nat.add_assoc]

end Bytes

/-- Read from the front, and write.  Both fail on what the other cannot produce. -/
structure Codec (Value : Type) where
  write : Value → Option Bytes
  read : Bytes → Option (Value × Bytes)
  read_write : ∀ {value written}, write value = some written →
    ∀ rest, read (written ++ rest) = some (value, rest)
  write_of_read : ∀ {bytes value rest}, read bytes = some (value, rest) →
    ∃ written, write value = some written ∧ bytes = written ++ rest

namespace Codec

variable {Value First Second : Type}

/-- Bytes after the value are ignored. -/
def format (codec : Codec Value) : Format Value where
  serialize := codec.write
  deserialize bytes := (codec.read bytes).map Prod.fst

/-- What is left of the bytes. -/
def rest (codec : Codec Value) (bytes : Bytes) : Option Bytes :=
  (codec.read bytes).map Prod.snd

theorem deserialize_eq_some_iff {codec : Codec Value} {bytes : Bytes} {value : Value} :
    codec.format.deserialize bytes = some value ↔
      ∃ rest, codec.read bytes = some (value, rest) := by
  constructor
  · intro read
    obtain ⟨⟨found, rest⟩, codecRead, rfl⟩ := Option.map_eq_some_iff.mp read
    exact ⟨rest, codecRead⟩
  · rintro ⟨rest, read⟩
    exact congrArg (Option.map Prod.fst) read

theorem roundTrip_format (codec : Codec Value) : codec.format.RoundTrip := by
  intro value bytes written
  have read := codec.read_write written []
  rw [List.append_nil] at read
  exact deserialize_eq_some_iff.mpr ⟨[], read⟩

theorem deserialize_eq_none_iff {codec : Codec Value} {bytes : Bytes} :
    codec.format.deserialize bytes = none ↔ ¬ (codec.rest bytes).isSome = true := by
  rw [rest, Option.isSome_map, Option.not_isSome_iff_eq_none]
  exact Option.map_eq_none_iff

/-! ## Combinators -/

/-- As many bytes. -/
def array (length : Nat) : Codec { bytes : Bytes // bytes.length = length } where
  write bytes := some bytes
  read bytes :=
    if enough : length ≤ bytes.length then
      some (⟨bytes.take length, List.length_take_of_le enough⟩, bytes.drop length)
    else none
  read_write := by
    rintro ⟨bytes, rfl⟩ _ ⟨⟩ rest
    rw [dif_pos (by simp)]
    simp
  write_of_read := by
    intro bytes value rest read
    split at read
    · cases read
      exact ⟨_, rfl, (List.take_append_drop _ _).symm⟩
    · cases read

/-- Another representation of some of the values. -/
def through (codec : Codec First) (representation : First ≃. Second) : Codec Second where
  write value := (representation.symm value).bind codec.write
  read bytes := (codec.read bytes).bind fun found =>
    (representation found.1).map fun second => (second, found.2)
  read_write := by
    intro value written serialized rest
    obtain ⟨first, represented, firstWritten⟩ := Option.bind_eq_some_iff.mp serialized
    have same := (PEquiv.eq_some_iff representation).mp represented
    rw [codec.read_write firstWritten, Option.bind_some, same, Option.map_some]
  write_of_read := by
    intro bytes value rest read
    obtain ⟨⟨first, left⟩, firstRead, mapped⟩ := Option.bind_eq_some_iff.mp read
    obtain ⟨second, represented, same⟩ := Option.map_eq_some_iff.mp mapped
    cases same
    obtain ⟨written, firstWritten, rfl⟩ := codec.write_of_read firstRead
    exact ⟨written, by rw [(PEquiv.eq_some_iff representation).mpr represented]; exact firstWritten,
      rfl⟩

/-- One value after the other. -/
def pair (first : Codec First) (second : Codec Second) : Codec (First × Second) where
  write value := (first.write value.1).bind fun written =>
    (second.write value.2).map fun more => written ++ more
  read bytes := (first.read bytes).bind fun found =>
    (second.read found.2).map fun next => ((found.1, next.1), next.2)
  read_write := by
    rintro ⟨value, other⟩ _ serialized rest
    obtain ⟨written, firstWritten, mapped⟩ := Option.bind_eq_some_iff.mp serialized
    obtain ⟨more, secondWritten, rfl⟩ := Option.map_eq_some_iff.mp mapped
    rw [List.append_assoc, first.read_write firstWritten, Option.bind_some,
      second.read_write secondWritten, Option.map_some]
  write_of_read := by
    intro bytes value rest read
    obtain ⟨⟨firstValue, left⟩, firstRead, mapped⟩ := Option.bind_eq_some_iff.mp read
    obtain ⟨⟨secondValue, right⟩, secondRead, same⟩ := Option.map_eq_some_iff.mp mapped
    cases same
    obtain ⟨written, firstWritten, rfl⟩ := first.write_of_read firstRead
    obtain ⟨more, secondWritten, rfl⟩ := second.write_of_read secondRead
    exact ⟨written ++ more, by rw [firstWritten, Option.bind_some, secondWritten]; rfl,
      (List.append_assoc _ _ _).symm⟩

/-! ## Numbers, vectors and options -/

/-- The numbers with `width` digits, the lowest first. -/
def digits (width : Nat) : { bytes : Bytes // bytes.length = width } ≃. Nat where
  toFun bytes := some (Bytes.ofLittleEndian bytes)
  invFun number :=
    if number < 256 ^ width then
      some ⟨Bytes.littleEndian width number, Bytes.length_littleEndian width number⟩
    else none
  inv := by
    rintro ⟨bytes, rfl⟩ number
    simp only [Option.ite_none_right_eq_some, Option.some.injEq, Subtype.mk.injEq]
    constructor
    · rintro ⟨fits, written⟩
      rw [← written, Bytes.ofLittleEndian_littleEndian fits]
    · rintro rfl
      exact ⟨Bytes.ofLittleEndian_lt bytes, Bytes.littleEndian_ofLittleEndian bytes⟩

/-- A number of eight bytes. -/
def uint64 : Codec Nat :=
  (array 8).through (digits 8)

/-- The length and as many bytes. -/
def sized : Codec Bytes where
  write bytes := (uint64.write bytes.length).map fun written => written ++ bytes
  read bytes := (uint64.read bytes).bind fun found =>
    if found.1 ≤ found.2.length then
      some (found.2.take found.1, found.2.drop found.1)
    else none
  read_write := by
    intro bytes _ serialized rest
    obtain ⟨written, lengthWritten, rfl⟩ := Option.map_eq_some_iff.mp serialized
    rw [List.append_assoc, uint64.read_write lengthWritten, Option.bind_some, if_pos (by simp)]
    simp
  write_of_read := by
    intro bytes value rest read
    obtain ⟨⟨length, left⟩, lengthRead, taken⟩ := Option.bind_eq_some_iff.mp read
    simp only [Option.ite_none_right_eq_some, Option.some.injEq, Prod.mk.injEq] at taken
    obtain ⟨enough, rfl, rfl⟩ := taken
    obtain ⟨written, lengthWritten, rfl⟩ := uint64.write_of_read lengthRead
    refine ⟨written ++ left.take length, ?_, ?_⟩
    · rw [List.length_take_of_le enough, lengthWritten]
      rfl
    · rw [List.append_assoc, List.take_append_drop]

/-- The texts of the bytes that are UTF-8. -/
def utf8 : Bytes ≃. String where
  toFun := Bytes.toText
  invFun text := some (Bytes.ofText text)
  inv bytes text := by
    rw [Option.some.injEq]
    constructor
    · rintro rfl
      exact Bytes.toText_ofText text
    · exact Bytes.ofText_of_toText

def text : Codec String :=
  sized.through utf8

/-- A tag, and the value unless the tag is zero. -/
def option (codec : Codec Value) : Codec (Option Value) where
  write
    | none => some [0]
    | some value => (codec.write value).map fun written => 1 :: written
  read
    | 0 :: rest => some (none, rest)
    | 1 :: bytes => (codec.read bytes).map fun found => (some found.1, found.2)
    | _ => none
  read_write := by
    rintro (_ | value) written serialized rest
    · cases serialized
      rfl
    · obtain ⟨more, valueWritten, rfl⟩ := Option.map_eq_some_iff.mp serialized
      have read := codec.read_write valueWritten rest
      exact congrArg (Option.map fun found => (some found.1, found.2)) read
  write_of_read := by
    intro bytes value rest read
    split at read
    · cases read
      exact ⟨_, rfl, rfl⟩
    · obtain ⟨⟨found, left⟩, valueRead, same⟩ := Option.map_eq_some_iff.mp read
      cases same
      obtain ⟨written, valueWritten, rfl⟩ := codec.write_of_read valueRead
      exact ⟨1 :: written, congrArg (Option.map fun written => 1 :: written) valueWritten, rfl⟩
    · cases read

/-! ## Written values -/

variable {bytes : Bytes}

theorem write_through (codec : Codec First) (representation : First ≃ Second) (value : Second) :
    (codec.through representation.toPEquiv).write value =
      codec.write (representation.symm value) :=
  rfl

theorem write_pair_eq_some {first : Codec First} {second : Codec Second} {value : First × Second} :
    (first.pair second).write value = some bytes ↔ ∃ written more,
      first.write value.1 = some written ∧ second.write value.2 = some more ∧
        bytes = written ++ more := by
  constructor
  · intro serialized
    obtain ⟨written, firstWritten, mapped⟩ := Option.bind_eq_some_iff.mp serialized
    obtain ⟨more, secondWritten, rfl⟩ := Option.map_eq_some_iff.mp mapped
    exact ⟨written, more, firstWritten, secondWritten, rfl⟩
  · rintro ⟨written, more, firstWritten, secondWritten, rfl⟩
    change Option.bind (first.write value.1) _ = _
    rw [firstWritten, Option.bind_some, secondWritten]
    rfl

theorem write_uint64_eq_some {number : Nat} :
    uint64.write number = some bytes ↔
      number < 256 ^ 8 ∧ bytes = Bytes.littleEndian 8 number := by
  change Option.bind (ite (number < 256 ^ 8) _ _) _ = _ ↔ _
  by_cases fits : number < 256 ^ 8
  · rw [if_pos fits, Option.bind_some]
    constructor
    · exact fun written => ⟨fits, (Option.some.inj written).symm⟩
    · rintro ⟨_, rfl⟩
      rfl
  · rw [if_neg fits, Option.bind_none]
    exact ⟨nofun, fun both => absurd both.1 fits⟩

theorem write_sized_eq_some {value : Bytes} :
    sized.write value = some bytes ↔
      value.length < 256 ^ 8 ∧ bytes = Bytes.littleEndian 8 value.length ++ value := by
  change Option.map _ (uint64.write value.length) = _ ↔ _
  rw [Option.map_eq_some_iff]
  constructor
  · rintro ⟨written, lengthWritten, rfl⟩
    obtain ⟨fits, rfl⟩ := write_uint64_eq_some.mp lengthWritten
    exact ⟨fits, rfl⟩
  · rintro ⟨fits, rfl⟩
    exact ⟨_, write_uint64_eq_some.mpr ⟨fits, rfl⟩, rfl⟩

/-! ## Rests -/

theorem read_through (codec : Codec First) (representation : First ≃. Second) :
    (codec.through representation).read bytes = (codec.read bytes).bind fun found =>
      (representation found.1).map fun second => (second, found.2) :=
  rfl

theorem read_pair (first : Codec First) (second : Codec Second) :
    (pair first second).read bytes = (first.read bytes).bind fun found =>
      (second.read found.2).map fun next => ((found.1, next.1), next.2) :=
  rfl

theorem read_pair_eq_some {first : Codec First} {second : Codec Second} {value : First × Second}
    {rest : Bytes} : (pair first second).read bytes = some (value, rest) ↔
      ∃ left, first.read bytes = some (value.1, left) ∧
        second.read left = some (value.2, rest) := by
  rw [read_pair]
  constructor
  · intro read
    obtain ⟨⟨found, left⟩, firstRead, mapped⟩ := Option.bind_eq_some_iff.mp read
    obtain ⟨⟨next, right⟩, secondRead, same⟩ := Option.map_eq_some_iff.mp mapped
    cases same
    exact ⟨left, firstRead, secondRead⟩
  · rintro ⟨left, firstRead, secondRead⟩
    rw [firstRead, Option.bind_some, secondRead]
    rfl

theorem read_through_eq_some {codec : Codec First} {representation : First ≃ Second}
    {value : Second} {rest : Bytes} :
    (codec.through representation.toPEquiv).read bytes = some (value, rest) ↔
      codec.read bytes = some (representation.symm value, rest) := by
  rw [read_through]
  constructor
  · intro read
    obtain ⟨⟨found, left⟩, codecRead, mapped⟩ := Option.bind_eq_some_iff.mp read
    cases mapped
    rw [codecRead, Equiv.symm_apply_apply]
  · intro read
    rw [read, Option.bind_some, Equiv.toPEquiv_apply, Equiv.apply_symm_apply]
    rfl

/-- A read value takes up what it is written to. -/
theorem length_of_read {codec : Codec Value} {value : Value} {written rest : Bytes}
    (read : codec.read bytes = some (value, rest)) (serialized : codec.write value = some written) :
    bytes.length = written.length + rest.length := by
  obtain ⟨same, valueWritten, rfl⟩ := codec.write_of_read read
  rw [serialized] at valueWritten
  cases valueWritten
  exact List.length_append

theorem length_rest_le {codec : Codec Value} {value : Value} {rest : Bytes}
    (read : codec.read bytes = some (value, rest)) : rest.length ≤ bytes.length := by
  obtain ⟨written, _, rfl⟩ := codec.write_of_read read
  rw [List.length_append]
  exact Nat.le_add_left _ _

/-- Another representation of all values reads the same bytes. -/
theorem rest_through (codec : Codec First) {representation : First ≃. Second}
    (total : ∀ first, (representation first).isSome) :
    (codec.through representation).rest bytes = codec.rest bytes := by
  rw [rest, rest, read_through]
  cases codec.read bytes with
  | none => rfl
  | some found =>
      obtain ⟨second, represented⟩ := Option.isSome_iff_exists.mp (total found.1)
      rw [Option.bind_some, represented]
      rfl

theorem rest_pair (first : Codec First) (second : Codec Second) :
    (pair first second).rest bytes = (first.rest bytes).bind second.rest := by
  rw [rest, read_pair, rest]
  cases first.read bytes with
  | none => rfl
  | some found =>
      rw [Option.bind_some, Option.map_map, Option.map_some, Option.bind_some]
      rfl

/-- The values all take up `width` bytes. -/
def Skips (codec : Codec Value) (width : Nat) : Prop :=
  ∀ bytes, codec.rest bytes = if width ≤ bytes.length then some (bytes.drop width) else none

theorem skips_array (length : Nat) : (array length).Skips length := by
  intro bytes
  change Option.map Prod.snd (dite (length ≤ bytes.length) _ _) = _
  split <;> rfl

theorem Skips.through {codec : Codec First} {width : Nat} (skips : codec.Skips width)
    {representation : First ≃. Second} (total : ∀ first, (representation first).isSome) :
    (codec.through representation).Skips width := by
  intro bytes
  rw [rest_through codec total, skips]

/-- A field is read after one of a fixed width. -/
theorem Skips.isSome_pair {first : Codec First} {second : Codec Second} {width : Nat}
    (skips : first.Skips width) : ((first.pair second).rest bytes).isSome = true ↔
      width ≤ bytes.length ∧ (second.rest (bytes.drop width)).isSome = true := by
  rw [rest_pair, skips]
  by_cases enough : width ≤ bytes.length
  · simp [enough]
  · simp [enough]

/-- The number at the front. -/
def number (bytes : Bytes) : Nat :=
  Bytes.ofLittleEndian (bytes.take 8)

theorem read_uint64 : uint64.read bytes =
    if 8 ≤ bytes.length then some (number bytes, bytes.drop 8) else none := by
  change Option.bind (dite (8 ≤ bytes.length) _ _) _ = _
  split <;> rfl

theorem skips_uint64 : uint64.Skips 8 :=
  (skips_array 8).through fun _ => rfl

theorem read_sized : sized.read bytes =
    if 8 + number bytes ≤ bytes.length then
      some ((bytes.drop 8).take (number bytes), bytes.drop (8 + number bytes))
    else none := by
  change Option.bind (uint64.read bytes) _ = _
  rw [read_uint64]
  by_cases header : 8 ≤ bytes.length
  · rw [if_pos header, Option.bind_some, List.length_drop, List.drop_drop]
    congr 1
    rw [eq_iff_iff]
    omega
  · rw [if_neg header, if_neg (by omega), Option.bind_none]

theorem rest_sized : sized.rest bytes =
    if 8 + number bytes ≤ bytes.length then some (bytes.drop (8 + number bytes)) else none := by
  rw [rest, read_sized]
  split <;> rfl

theorem rest_text : text.rest bytes =
    if 8 + number bytes ≤ bytes.length ∧
        (Bytes.toText ((bytes.drop 8).take (number bytes))).isSome then
      some (bytes.drop (8 + number bytes))
    else none := by
  rw [text, rest, read_through, read_sized]
  by_cases enough : 8 + number bytes ≤ bytes.length
  · rw [if_pos enough, Option.bind_some]
    change Option.map Prod.snd (Option.map _ (Bytes.toText _)) = _
    cases Bytes.toText ((bytes.drop 8).take (number bytes)) with
    | none => simp
    | some text => simp [enough]
  · rw [if_neg enough, if_neg fun both => enough both.1]
    rfl

/-- A text takes up its length at least. -/
theorem length_of_read_text {value : String} {rest : Bytes}
    (read : text.read bytes = some (value, rest)) : rest.length + 8 ≤ bytes.length := by
  have left : text.rest bytes = some rest := congrArg (Option.map Prod.snd) read
  rw [rest_text] at left
  split at left
  · next enough =>
      cases left
      rw [List.length_drop]
      omega
  · cases left

/-- A value that fills the bytes cannot be read again after a text. -/
theorem not_read_after_text {codec : Codec Value} {value : Value} {name : String}
    {left after rest : Bytes} (written : codec.write value = some bytes)
    (named : text.read bytes = some (name, left)) (suffix : after.length ≤ left.length) :
    ¬ codec.read after = some (value, rest) := by
  intro read
  have again := length_of_read read written
  have header := length_of_read_text named
  omega

/-- A field is read after a text. -/
theorem isSome_text_pair {second : Codec Second} :
    ((text.pair second).rest bytes).isSome = true ↔ 8 + number bytes ≤ bytes.length ∧
      (Bytes.toText ((bytes.drop 8).take (number bytes))).isSome = true ∧
        (second.rest (bytes.drop (8 + number bytes))).isSome = true := by
  rw [rest_pair, rest_text, ← and_assoc]
  split
  · next read => simp [read]
  · next unread => simp [unread]

theorem rest_option (codec : Codec Value) : (option codec).rest bytes =
    match bytes with
    | 0 :: rest => some rest
    | 1 :: bytes => codec.rest bytes
    | _ => none := by
  rcases bytes with _ | ⟨tag, bytes⟩
  · rfl
  by_cases none : tag = 0
  · subst none
    rfl
  by_cases some : tag = 1
  · subst some
    change Option.map Prod.snd (Option.map _ (codec.read bytes)) = _
    rw [Option.map_map]
    rfl
  · have other : (option codec).read (tag :: bytes) = Option.none := by
      simp [option, none, some]
    simp [rest, other, none, some]

end Codec

end Foundation
