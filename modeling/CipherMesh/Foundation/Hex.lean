import CipherMesh.Foundation.Bytes

/-!
# Hexadecimal text

Digits of radix sixteen, the integer parser of the standard library for them, and the
texts that write every byte with two digits.  Such texts are ASCII, where a character is
the same as its byte.
-/

namespace Foundation

/-! ## ASCII -/

namespace Bytes

def IsAscii (byte : UInt8) : Prop := byte.toNat < 128

instance (byte : UInt8) : Decidable (IsAscii byte) := inferInstanceAs (Decidable (_ < _))

theorem ofText_ofList (chars : List Char) :
    ofText (String.ofList chars) = chars.flatMap String.utf8EncodeChar := by
  rw [ofText, String.toUTF8_eq_toByteArray, String.toByteArray_ofList]
  exact List.toList_data_toByteArray

/-- What holds of the characters of all bytes is decided by listing them. -/
theorem forall_byte {property : UInt8 → Prop} (each : ∀ code < 256, property (.ofNat code))
    (byte : UInt8) : property byte := by
  have holds := each byte.toNat byte.toNat_lt
  rwa [UInt8.ofNat_toNat] at holds

theorem toUInt8_ofUInt8 (byte : UInt8) : (Char.ofUInt8 byte).toUInt8 = byte := by
  apply UInt8.toNat_inj.mp
  change byte.toUInt32.toUInt8.toNat = byte.toNat
  simp

theorem ofUInt8_toUInt8 {char : Char} (ascii : char.toNat < 128) :
    Char.ofUInt8 char.toUInt8 = char := by
  apply Char.ext
  apply UInt32.toNat_inj.mp
  have small : char.val.toNat < 128 := ascii
  change char.val.toUInt8.toUInt32.toNat = char.val.toNat
  rw [UInt8.toNat_toUInt32, UInt32.toNat_toUInt8]
  omega

theorem utf8EncodeChar_of_ascii {char : Char} (ascii : char.toNat < 128) :
    String.utf8EncodeChar char = [char.toUInt8] := by
  apply String.utf8EncodeChar_eq_singleton
  rw [Char.utf8Size_eq_one_iff, UInt32.le_iff_toNat_le]
  exact Nat.le_of_lt_succ ascii

/-- The bytes of an ASCII text are its characters. -/
theorem ofText_of_ascii {text : String} (ascii : ∀ char ∈ text.toList, char.toNat < 128) :
    ofText text = text.toList.map Char.toUInt8 := by
  conv_lhs => rw [← String.ofList_toList (s := text)]
  rw [ofText_ofList]
  generalize text.toList = chars at ascii ⊢
  induction chars with
  | nil => rfl
  | cons char chars ih =>
      rw [List.flatMap_cons, utf8EncodeChar_of_ascii (ascii char List.mem_cons_self),
        ih fun other member => ascii other (List.mem_cons_of_mem _ member)]
      rfl

/-- ASCII bytes are those of a text. -/
theorem ofText_map_ofUInt8 {bytes : Bytes} (ascii : ∀ byte ∈ bytes, IsAscii byte) :
    ofText (String.ofList (bytes.map Char.ofUInt8)) = bytes := by
  rw [ofText_of_ascii]
  · rw [String.toList_ofList, List.map_map]
    conv_rhs => rw [← List.map_id bytes]
    exact List.map_congr_left fun byte _ => toUInt8_ofUInt8 byte
  · intro char member
    rw [String.toList_ofList] at member
    obtain ⟨byte, byteMember, rfl⟩ := List.mem_map.mp member
    exact ascii byte byteMember

/-- A text whose bytes are ASCII has these bytes as its characters. -/
theorem toList_of_ascii {text : String} (ascii : ∀ byte ∈ ofText text, IsAscii byte) :
    text.toList = (ofText text).map Char.ofUInt8 := by
  have same := ofText_injective (ofText_map_ofUInt8 ascii)
  conv_lhs => rw [← same]
  rw [String.toList_ofList]

/-- A property of ASCII characters holds of a text when it holds of its bytes. -/
theorem forall_char_iff {property : Char → Prop}
    (ascii : ∀ char, property char → char.toNat < 128) (text : String) :
    (∀ char ∈ text.toList, property char) ↔
      ∀ byte ∈ ofText text, property (Char.ofUInt8 byte) := by
  constructor
  · intro chars byte member
    rw [ofText_of_ascii fun char charMember => ascii char (chars char charMember)] at member
    obtain ⟨char, charMember, rfl⟩ := List.mem_map.mp member
    have holds := chars char charMember
    rwa [ofUInt8_toUInt8 (ascii char holds)]
  · intro bytes char member
    rw [toList_of_ascii fun byte byteMember => ascii _ (bytes byte byteMember)] at member
    obtain ⟨byte, byteMember, rfl⟩ := List.mem_map.mp member
    exact bytes byte byteMember

end Bytes

/-! ## Digits -/

/-- `char::to_digit(16)`. -/
def toDigit16 (char : Char) : Option Nat :=
  if '0' ≤ char ∧ char ≤ '9' then some (char.toNat - '0'.toNat)
  else if 'a' ≤ char ∧ char ≤ 'f' then some (char.toNat - 'a'.toNat + 10)
  else if 'A' ≤ char ∧ char ≤ 'F' then some (char.toNat - 'A'.toNat + 10)
  else none

theorem isHexDigit_ascii {char : Char} (digit : char.isHexDigit) : char.toNat < 128 := by
  simp only [Char.isHexDigit, Char.isDigit, Bool.or_eq_true, Bool.and_eq_true, decide_eq_true_eq,
    ge_iff_le, UInt32.le_iff_toNat_le] at digit
  have code : char.toNat = char.val.toNat := rfl
  rcases digit with (digit | digit) | digit
  · have bound : char.val.toNat ≤ 57 := digit.2
    omega
  · have bound : char.val.toNat ≤ 102 := digit.2
    omega
  · have bound : char.val.toNat ≤ 70 := digit.2
    omega

/-- The digits are the hexadecimal characters. -/
theorem isSome_toDigit16 (byte : UInt8) :
    (toDigit16 (.ofUInt8 byte)).isSome = (Char.ofUInt8 byte).isHexDigit := by
  revert byte
  apply Bytes.forall_byte
  decide +kernel

/-- A digit is written as the lower case of the character that it was read from. -/
theorem digitChar_toDigit16 {byte : UInt8} {digit : Nat}
    (read : toDigit16 (.ofUInt8 byte) = some digit) :
    digit < 16 ∧ Nat.digitChar digit = (Char.ofUInt8 byte).toLower := by
  have each : ∀ byte : UInt8, ∀ digit ∈ toDigit16 (.ofUInt8 byte),
      digit < 16 ∧ Nat.digitChar digit = (Char.ofUInt8 byte).toLower := by
    apply Bytes.forall_byte
    decide +kernel
  exact each byte digit read

theorem toDigit16_digitChar {digit : Nat} (small : digit < 16) :
    (Nat.digitChar digit).toNat < 128 ∧
      toDigit16 (.ofUInt8 (Nat.digitChar digit).toUInt8) = some digit := by
  have each : ∀ digit < 16, (Nat.digitChar digit).toNat < 128 ∧
      toDigit16 (.ofUInt8 (Nat.digitChar digit).toUInt8) = some digit := by decide +kernel
  exact each digit small

/-! ## Integers -/

/-- The errors of an unsigned integer parser. -/
inductive IntErrorKind where
  | empty
  | invalidDigit
  | posOverflow
  deriving DecidableEq, Repr

/-- The value after further digits, for an integer of eight bits. -/
def parseDigits16 (value : Nat) : Bytes → Except IntErrorKind UInt8
  | [] => .ok (.ofNat value)
  | byte :: rest =>
      match toDigit16 (.ofUInt8 byte) with
      | none => .error .invalidDigit
      | some digit =>
          if value * 16 + digit < 256 then parseDigits16 (value * 16 + digit) rest
          else .error .posOverflow

/-- `u8::from_str_radix(text, 16)`.  One leading plus sign is skipped; a sign alone and a
minus sign are no digits. -/
def fromStrRadix16 (text : String) : Except IntErrorKind UInt8 :=
  match Bytes.ofText text with
  | [] => .error .empty
  | first :: rest =>
      if rest = [] ∧ (first = '+'.toUInt8 ∨ first = '-'.toUInt8) then .error .invalidDigit
      else if first = '+'.toUInt8 then parseDigits16 0 rest
      else parseDigits16 0 (first :: rest)

/-- One more digit does not overflow after at most one digit. -/
theorem parseDigits16_cons {value : Nat} (small : value < 16) (byte : UInt8) (rest : Bytes) :
    parseDigits16 value (byte :: rest) = match toDigit16 (.ofUInt8 byte) with
      | none => .error .invalidDigit
      | some digit => parseDigits16 (value * 16 + digit) rest := by
  rw [parseDigits16]
  cases read : toDigit16 (.ofUInt8 byte) with
  | none => rfl
  | some digit =>
      have digitSmall := (digitChar_toDigit16 read).1
      exact if_pos (by omega)

/-- What two bytes are as an integer: two digits, or a plus sign and a digit. -/
def valueOfPair (pair : UInt8 × UInt8) : Option UInt8 :=
  (toDigit16 (.ofUInt8 pair.2)).bind fun low =>
    if pair.1 = '+'.toUInt8 then some (.ofNat low)
    else (toDigit16 (.ofUInt8 pair.1)).map fun high => .ofNat (high * 16 + low)

theorem fromStrRadix16_pair {text : String} {pair : UInt8 × UInt8}
    (bytes : Bytes.ofText text = [pair.1, pair.2]) (value : UInt8) :
    fromStrRadix16 text = .ok value ↔ valueOfPair pair = some value := by
  rw [fromStrRadix16, bytes, valueOfPair]
  dsimp only
  rw [if_neg fun alone => List.cons_ne_nil _ _ alone.1]
  by_cases sign : pair.1 = '+'.toUInt8
  · rw [if_pos sign, parseDigits16_cons (by decide)]
    cases low : toDigit16 (.ofUInt8 pair.2) <;> simp [sign, parseDigits16]
  · rw [if_neg sign, parseDigits16_cons (by decide)]
    cases read : toDigit16 (.ofUInt8 pair.1) with
    | none => simp [sign]
    | some high =>
        have highSmall := (digitChar_toDigit16 read).1
        simp only [Nat.zero_mul, Nat.zero_add, parseDigits16_cons highSmall]
        cases low : toDigit16 (.ofUInt8 pair.2) <;> simp [sign, parseDigits16]

/-! ## Pairs of digits -/

/-- `as_chunks::<2>().0`: a last byte without partner is left out. -/
def asChunks2 : Bytes → List (UInt8 × UInt8)
  | first :: second :: rest => (first, second) :: asChunks2 rest
  | _ => []

/-- Without a last byte the chunks have every byte. -/
theorem forall_asChunks2_iff {property : UInt8 → Prop} {bytes : Bytes}
    (even : bytes.length % 2 = 0) :
    (∀ pair ∈ asChunks2 bytes, property pair.1 ∧ property pair.2) ↔
      ∀ byte ∈ bytes, property byte := by
  induction bytes using asChunks2.induct with
  | case1 first second rest ih =>
      have restEven : rest.length % 2 = 0 := by
        simp only [List.length_cons] at even
        omega
      rw [asChunks2, List.forall_mem_cons, List.forall_mem_cons, List.forall_mem_cons, and_assoc,
        ih restEven]
  | case2 bytes noPair =>
      rcases bytes with _ | ⟨first, _ | ⟨second, rest⟩⟩
      · simp [asChunks2]
      · cases even
      · exact absurd rfl (noPair first second rest)

namespace Bytes

/-- The two digits of a byte. -/
def hexPair (byte : UInt8) : UInt8 × UInt8 :=
  ((Nat.digitChar (byte.toNat / 16)).toUInt8, (Nat.digitChar (byte.toNat % 16)).toUInt8)

theorem ofText_hexEncode (bytes : Bytes) :
    ofText (hexEncode bytes) = bytes.flatMap fun byte => [(hexPair byte).1, (hexPair byte).2] := by
  have high (byte : UInt8) := toDigit16_digitChar
    (Nat.div_lt_of_lt_mul (show byte.toNat < 16 * 16 from byte.toNat_lt))
  have low (byte : UInt8) := toDigit16_digitChar
    (Nat.mod_lt byte.toNat (show 0 < 16 by decide))
  rw [ofText_of_ascii]
  · rw [hexEncode, String.toList_ofList, List.map_flatMap]
    rfl
  · intro char member
    rw [hexEncode, String.toList_ofList, List.mem_flatMap] at member
    obtain ⟨byte, -, charMember⟩ := member
    rcases List.mem_pair.mp charMember with rfl | rfl
    · exact (high byte).1
    · exact (low byte).1

theorem asChunks2_hexEncode (bytes : Bytes) :
    asChunks2 (ofText (hexEncode bytes)) = bytes.map hexPair := by
  rw [ofText_hexEncode]
  induction bytes with
  | nil => rfl
  | cons byte bytes ih =>
      rw [List.flatMap_cons, List.map_cons, ← ih]
      rfl

theorem length_hexEncode (bytes : Bytes) :
    (ofText (hexEncode bytes)).length = 2 * bytes.length := by
  rw [ofText_hexEncode]
  induction bytes with
  | nil => rfl
  | cons byte bytes ih =>
      rw [List.flatMap_cons, List.length_append, ih]
      simp only [List.length_cons, List.length_nil]
      omega

@[simp] theorem valueOfPair_hexPair (byte : UInt8) : valueOfPair (hexPair byte) = some byte := by
  revert byte
  apply forall_byte
  decide +kernel

/-- The text determines the bytes. -/
theorem hexEncode_injective : Function.Injective hexEncode := by
  intro first second same
  have pairs := congrArg (fun text => (asChunks2 (ofText text)).map valueOfPair) same
  simp only [asChunks2_hexEncode, List.map_map, Function.comp_def, valueOfPair_hexPair] at pairs
  exact List.map_injective_iff.mpr (fun _ _ => Option.some.inj) pairs

private theorem digitChar_ne_colon {digit : Nat} (small : digit < 16) :
    Nat.digitChar digit ≠ ':' := by
  have every : ∀ digit : Fin 16, Nat.digitChar digit ≠ ':' := by decide
  exact every ⟨digit, small⟩

theorem colon_notMem_hexEncode (bytes : Bytes) : ':' ∉ (hexEncode bytes).toList := by
  rw [hexEncode, String.toList_ofList]
  intro member
  obtain ⟨byte, -, digits⟩ := List.mem_flatMap.mp member
  have high : byte.toNat / 16 < 16 :=
    Nat.div_lt_of_lt_mul (show byte.toNat < 16 * 16 from byte.toNat_lt)
  have low : byte.toNat % 16 < 16 := Nat.mod_lt _ (by decide)
  rcases List.mem_pair.mp digits with same | same
  · exact digitChar_ne_colon high same.symm
  · exact digitChar_ne_colon low same.symm

end Bytes

/-- Lists are read back at the last separator. -/
theorem append_separator_inj {α : Type*} {separator : α} {first other last otherLast : List α}
    (absent : separator ∉ last) (otherAbsent : separator ∉ otherLast)
    (same : first ++ separator :: last = other ++ separator :: otherLast) :
    first = other ∧ last = otherLast := by
  rcases List.append_eq_append_iff.mp same with ⟨between, rfl, rest⟩ | ⟨between, rfl, rest⟩
  · cases between with
    | nil => exact ⟨(List.append_nil _).symm, (List.cons.inj rest).2⟩
    | cons head between =>
        rw [List.cons_append, List.cons.injEq] at rest
        exact absurd (rest.2 ▸ List.mem_append_right _ List.mem_cons_self) absent
  · cases between with
    | nil => exact ⟨List.append_nil _, (List.cons.inj rest).2.symm⟩
    | cons head between =>
        rw [List.cons_append, List.cons.injEq] at rest
        exact absurd (rest.2 ▸ List.mem_append_right _ List.mem_cons_self) otherAbsent

end Foundation
