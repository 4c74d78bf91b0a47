import Mathlib.Algebra.Group.Int.Defs
import Mathlib.Algebra.Group.Nat.Defs
import Mathlib.Logic.Basic
import Mathlib.Tactic.Common
import Mathlib.Data.List.Basic

/-!
# Byte strings

Byte slices and vectors are lists of bytes.  The text conversions are the ones of
the standard library, so decoding inverts encoding and an accepted byte string
is the encoding of the text it was decoded to.
-/

namespace Foundation

abbrev Bytes := List UInt8

namespace Bytes

/-- The UTF-8 bytes of a text. -/
def ofText (text : String) : Bytes := text.toUTF8.data.toList

/-- Decode UTF-8, failing on malformed input. -/
def toText (bytes : Bytes) : Option String := String.fromUTF8? ⟨bytes.toArray⟩

@[simp] theorem toText_ofText (text : String) : toText (ofText text) = some text := by
  have valid : (⟨(ofText text).toArray⟩ : ByteArray).IsValidUTF8 := by
    rw [ofText, Array.toArray_toList]
    exact text.isValidUTF8
  rw [toText, String.fromUTF8?, dif_pos valid]
  rfl

theorem ofText_of_toText {bytes : Bytes} {text : String}
    (decoded : toText bytes = some text) : ofText text = bytes := by
  unfold toText String.fromUTF8? at decoded
  split at decoded
  · cases decoded
    rfl
  · cases decoded

theorem ofText_injective : Function.Injective ofText := by
  intro first second equal
  have decoded := toText_ofText first
  rw [equal, toText_ofText] at decoded
  exact (Option.some.inj decoded).symm

theorem ofText_append (first second : String) :
    ofText (first ++ second) = ofText first ++ ofText second := by
  simp [ofText]

/-- The big-endian bytes of the `width` low digits of a number. -/
def bigEndian : (width : Nat) → Nat → Bytes
  | 0, _ => []
  | width + 1, number => bigEndian width (number / 256) ++ [UInt8.ofNat number]

@[simp] theorem length_bigEndian (width number : Nat) :
    (bigEndian width number).length = width := by
  induction width generalizing number with
  | zero => rfl
  | succ width widthIH => rw [bigEndian, List.length_append, widthIH, List.length_singleton]

/-- The bytes determine a number that has so many digits. -/
theorem bigEndian_injective {width number other : Nat} (fits : number < 256 ^ width)
    (otherFits : other < 256 ^ width) (same : bigEndian width number = bigEndian width other) :
    number = other := by
  induction width generalizing number other with
  | zero =>
      rw [Nat.pow_zero, Nat.lt_one_iff] at fits otherFits
      rw [fits, otherFits]
  | succ width widthIH =>
      rw [bigEndian, bigEndian] at same
      obtain ⟨high, low⟩ := List.append_inj' same rfl
      rw [Nat.pow_succ, Nat.mul_comm] at fits otherFits
      have highSame := widthIH (Nat.div_lt_of_lt_mul fits) (Nat.div_lt_of_lt_mul otherFits) high
      have lowSame := congrArg UInt8.toNat (List.singleton_inj.mp low)
      rw [UInt8.toNat_ofNat', UInt8.toNat_ofNat'] at lowSame
      omega

/-- Two lowercase hexadecimal digits for every byte. -/
def hexEncode (bytes : Bytes) : String :=
  String.ofList (bytes.flatMap fun byte =>
    [Nat.digitChar (byte.toNat / 16), Nat.digitChar (byte.toNat % 16)])

end Bytes

end Foundation
