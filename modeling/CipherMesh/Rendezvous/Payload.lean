import CipherMesh.Foundation.Format
import CipherMesh.Foundation.Hex
import CipherMesh.Foundation.Results
import CipherMesh.Handshake.Actors

/-!
# The payload of an invite

The inviter registers his signed key exchange as hexadecimal text.  The joiner decodes the
text in chunks of two bytes, each as an integer of radix sixteen, so that a plus sign passes
for a first digit.
-/

namespace CipherMesh

open Foundation

/-- The errors that the decoders box. -/
inductive PayloadError where
  | message (text : String)
  | utf8
  | parseInt (kind : IntErrorKind)
  | format
  deriving DecidableEq, Repr

/-- One chunk: `from_utf8` and then `u8::from_str_radix`. -/
def hexDecodeChunk (chunk : UInt8 × UInt8) : Except PayloadError UInt8 :=
  match Bytes.toText [chunk.1, chunk.2] with
  | none => .error .utf8
  | some text => (fromStrRadix16 text).mapError .parseInt

def hexDecode (value : String) : Except PayloadError Bytes :=
  let bytes := Bytes.ofText value
  if bytes.length % 2 ≠ 0 then .error (.message "hex value has odd length")
  else (asChunks2 bytes).mapM hexDecodeChunk

def bobExchangeFromPayload {P : Primitives} (format : Format (SignedKeyExchange P))
    (payloadHex : String) : Except PayloadError (SignedKeyExchange P) := do
  let payload ← hexDecode payloadHex
  match format.deserialize payload with
  | none => .error .format
  | some exchange => .ok exchange

/-! ## Chunks -/

def IsHexPair (chunk : UInt8 × UInt8) : Prop :=
  (Char.ofUInt8 chunk.1).isHexDigit ∧ (Char.ofUInt8 chunk.2).isHexDigit

def IsSignedDigit (chunk : UInt8 × UInt8) : Prop :=
  chunk.1 = '+'.toUInt8 ∧ (Char.ofUInt8 chunk.2).isHexDigit

theorem IsSignedDigit.not_isHexPair {chunk : UInt8 × UInt8} (signed : IsSignedDigit chunk) :
    ¬IsHexPair chunk := by
  intro digits
  have plus := digits.1
  rw [signed.1] at plus
  cases plus

theorem isSome_valueOfPair {chunk : UInt8 × UInt8} :
    (valueOfPair chunk).isSome ↔ IsHexPair chunk ∨ IsSignedDigit chunk := by
  rw [IsHexPair, IsSignedDigit, ← isSome_toDigit16, ← isSome_toDigit16, valueOfPair]
  cases second : toDigit16 (.ofUInt8 chunk.2) with
  | none => simp
  | some low =>
      by_cases plus : chunk.1 = '+'.toUInt8
      · simp [plus]
      · cases toDigit16 (.ofUInt8 chunk.1) <;> simp [plus]

/-- A chunk that has a value is ASCII. -/
theorem ascii_of_valueOfPair {chunk : UInt8 × UInt8} (value : (valueOfPair chunk).isSome) :
    ∀ byte ∈ [chunk.1, chunk.2], Bytes.IsAscii byte := by
  rw [List.forall_mem_cons, List.forall_mem_singleton]
  rcases isSome_valueOfPair.mp value with digits | signed
  · exact ⟨isHexDigit_ascii digits.1, isHexDigit_ascii digits.2⟩
  · refine ⟨?_, isHexDigit_ascii signed.2⟩
    rw [signed.1]
    decide

theorem hexDecodeChunk_eq_ok_iff {chunk : UInt8 × UInt8} {value : UInt8} :
    hexDecodeChunk chunk = .ok value ↔ valueOfPair chunk = some value := by
  rw [hexDecodeChunk]
  cases decoded : Bytes.toText [chunk.1, chunk.2] with
  | none =>
      constructor
      · intro failed
        cases failed
      · intro read
        have encoded := Bytes.ofText_map_ofUInt8
          (ascii_of_valueOfPair (Option.isSome_iff_exists.mpr ⟨value, read⟩))
        rw [← encoded, Bytes.toText_ofText] at decoded
        cases decoded
  | some text =>
      rw [← fromStrRadix16_pair (Bytes.ofText_of_toText decoded) value]
      exact mapError_eq_ok_iff

/-! ## Texts -/

theorem hexDecode_eq_ok_iff {value : String} {bytes : Bytes} :
    hexDecode value = .ok bytes ↔ (Bytes.ofText value).length % 2 = 0 ∧
      List.Forall₂ (fun chunk byte => valueOfPair chunk = some byte)
        (asChunks2 (Bytes.ofText value)) bytes := by
  rw [hexDecode]
  by_cases even : (Bytes.ofText value).length % 2 = 0
  · simp [even, mapM_eq_ok_iff, hexDecodeChunk_eq_ok_iff]
  · simp [even]

theorem hexDecode_hexEncode (bytes : Bytes) : hexDecode (Bytes.hexEncode bytes) = .ok bytes := by
  rw [hexDecode_eq_ok_iff, Bytes.length_hexEncode, Bytes.asChunks2_hexEncode]
  refine ⟨Nat.mul_mod_right 2 _, ?_⟩
  rw [List.forall₂_map_left_iff]
  exact List.forall₂_same.mpr fun byte _ => Bytes.valueOfPair_hexPair byte

theorem exists_hexDecode_iff {value : String} :
    (∃ bytes, hexDecode value = .ok bytes) ↔ (Bytes.ofText value).length % 2 = 0 ∧
      ∀ chunk ∈ asChunks2 (Bytes.ofText value), IsHexPair chunk ∨ IsSignedDigit chunk := by
  simp only [hexDecode_eq_ok_iff, exists_and_left, exists_forall₂_iff, isSome_valueOfPair]

/-- An even number of characters that are all hexadecimal digits. -/
def IsHex (value : String) : Prop :=
  (Bytes.ofText value).length % 2 = 0 ∧ ∀ char ∈ value.toList, char.isHexDigit

theorem isHex_iff {value : String} : IsHex value ↔ (Bytes.ofText value).length % 2 = 0 ∧
    ∀ chunk ∈ asChunks2 (Bytes.ofText value), IsHexPair chunk := by
  rw [IsHex]
  apply and_congr_right
  intro even
  rw [Bytes.forall_char_iff fun char => isHexDigit_ascii]
  exact (forall_asChunks2_iff even).symm

/-- Two digits are written as the lower case of the characters that they were read from. -/
theorem digits_of_valueOfPair {chunk : UInt8 × UInt8} {byte : UInt8} (digits : IsHexPair chunk)
    (read : valueOfPair chunk = some byte) :
    [Nat.digitChar (byte.toNat / 16), Nat.digitChar (byte.toNat % 16)] =
      [(Char.ofUInt8 chunk.1).toLower, (Char.ofUInt8 chunk.2).toLower] := by
  have noSign : chunk.1 ≠ '+'.toUInt8 := fun plus =>
    IsSignedDigit.not_isHexPair ⟨plus, digits.2⟩ digits
  obtain ⟨low, readLow, value⟩ := Option.bind_eq_some_iff.mp read
  rw [if_neg noSign] at value
  obtain ⟨high, readHigh, rfl⟩ := Option.map_eq_some_iff.mp value
  obtain ⟨lowSmall, writtenLow⟩ := digitChar_toDigit16 readLow
  obtain ⟨highSmall, writtenHigh⟩ := digitChar_toDigit16 readHigh
  have number : (UInt8.ofNat (high * 16 + low)).toNat = high * 16 + low := by
    rw [UInt8.toNat_ofNat']
    omega
  have quotient : (high * 16 + low) / 16 = high := by omega
  have remainder : (high * 16 + low) % 16 = low := by omega
  rw [number, quotient, remainder, writtenLow, writtenHigh]

/-- What is decoded from hexadecimal text is written as its lower case. -/
theorem hexEncode_of_hexDecode {value : String} {bytes : Bytes} (hex : IsHex value)
    (decoded : hexDecode value = .ok bytes) : Bytes.hexEncode bytes = value.toLower := by
  obtain ⟨even, related⟩ := hexDecode_eq_ok_iff.mp decoded
  have pairs := (isHex_iff.mp hex).2
  have ascii : ∀ byte ∈ Bytes.ofText value, Bytes.IsAscii byte := fun byte member =>
    isHexDigit_ascii
      ((Bytes.forall_char_iff (fun _ => isHexDigit_ascii) value).mp hex.2 byte member)
  change Bytes.hexEncode bytes = value.map Char.toLower
  rw [Bytes.hexEncode, String.map_eq_internal, Bytes.toList_of_ascii ascii, List.map_map]
  apply congrArg String.ofList
  generalize Bytes.ofText value = text at even related pairs
  clear decoded hex ascii
  induction text using asChunks2.induct generalizing bytes with
  | case1 first second rest ih =>
      rw [asChunks2] at related pairs
      cases related with
      | cons read related =>
          have restEven : rest.length % 2 = 0 := by
            simp only [List.length_cons] at even
            omega
          rw [List.flatMap_cons, digits_of_valueOfPair (pairs _ List.mem_cons_self) read,
            ih restEven related fun chunk member => pairs chunk (List.mem_cons_of_mem _ member)]
          rfl
  | case2 text noPair =>
      rcases text with _ | ⟨first, _ | ⟨second, rest⟩⟩
      · cases related
        rfl
      · cases even
      · exact absurd rfl (noPair first second rest)

/-- What was registered is what the joiner reads. -/
theorem bobExchangeFromPayload_hexEncode {P : Primitives} {format : Format (SignedKeyExchange P)}
    (roundTrip : format.RoundTrip) {exchange : SignedKeyExchange P} {payload : Bytes}
    (serialized : format.serialize exchange = some payload) :
    bobExchangeFromPayload format (Bytes.hexEncode payload) = .ok exchange := by
  rw [bobExchangeFromPayload, hexDecode_hexEncode]
  exact congrArg (fun parsed : Option (SignedKeyExchange P) =>
    (match parsed with
      | none => .error .format
      | some exchange => .ok exchange : Except PayloadError (SignedKeyExchange P)))
    (roundTrip serialized)

/-! ## What is accepted -/

/-- Hexadecimal texts and no others are decoded, and to the bytes that are written so. -/
def DecodesHex (value : String) : Prop :=
  ((∃ bytes, hexDecode value = .ok bytes) ↔ IsHex value) ∧
    ∀ bytes, hexDecode value = .ok bytes → Bytes.hexEncode bytes = value.toLower

/-- A text of digits in which a plus sign stands for the first digit of some pairs. -/
def HasSignedDigit (value : String) : Prop :=
  (Bytes.ofText value).length % 2 = 0 ∧
    (∀ chunk ∈ asChunks2 (Bytes.ofText value), IsHexPair chunk ∨ IsSignedDigit chunk) ∧
    ∃ chunk ∈ asChunks2 (Bytes.ofText value), IsSignedDigit chunk

/-- The first byte of such a pair is a character of the text. -/
theorem HasSignedDigit.plus_mem {value : String} (signed : HasSignedDigit value) :
    '+' ∈ value.toList := by
  obtain ⟨even, each, chunk, member, isSigned⟩ := signed
  have ascii : ∀ byte ∈ Bytes.ofText value, Bytes.IsAscii byte := by
    rw [← forall_asChunks2_iff even]
    intro pair pairMember
    have both := ascii_of_valueOfPair (isSome_valueOfPair.mpr (each pair pairMember))
    exact ⟨both _ (.head _), both _ (.tail _ (.head _))⟩
  by_contra absent
  have differs : ∀ byte ∈ Bytes.ofText value, byte ≠ '+'.toUInt8 := by
    rintro byte byteMember rfl
    rw [Bytes.toList_of_ascii ascii] at absent
    exact absent (List.mem_map.mpr ⟨_, byteMember, rfl⟩)
  exact ((forall_asChunks2_iff even).mpr differs chunk member).1 isSigned.1

theorem decodesHex_iff (value : String) : DecodesHex value ↔ ¬HasSignedDigit value := by
  constructor
  · rintro decodes ⟨even, each, signed, member, isSigned⟩
    have hex := decodes.1.mp (exists_hexDecode_iff.mpr ⟨even, each⟩)
    exact isSigned.not_isHexPair ((isHex_iff.mp hex).2 signed member)
  · intro unsigned
    have isHex : (∃ bytes, hexDecode value = .ok bytes) → IsHex value := by
      intro decoded
      obtain ⟨even, each⟩ := exists_hexDecode_iff.mp decoded
      refine isHex_iff.mpr ⟨even, fun chunk member => (each chunk member).resolve_right ?_⟩
      exact fun signed => unsigned ⟨even, each, chunk, member, signed⟩
    refine ⟨⟨isHex, fun hex => ?_⟩, fun bytes decoded => ?_⟩
    · obtain ⟨even, each⟩ := isHex_iff.mp hex
      exact exists_hexDecode_iff.mpr ⟨even, fun chunk member => .inl (each chunk member)⟩
    · exact hexEncode_of_hexDecode (isHex ⟨bytes, decoded⟩) decoded

/-- Decoding inverts encoding.  A text is decoded as hexadecimal exactly when no sign stands in
it for a digit, so every text without a plus sign is. -/
theorem hexDecode_decodesHex_iff (value : String) :
    (∀ bytes, hexDecode (Bytes.hexEncode bytes) = .ok bytes) ∧
      (DecodesHex value ↔ ¬HasSignedDigit value) ∧
      ('+' ∉ value.toList → DecodesHex value) :=
  ⟨hexDecode_hexEncode, decodesHex_iff value,
    fun unsigned => (decodesHex_iff value).mpr fun signed => unsigned signed.plus_mem⟩

/-- A sign and a digit are decoded, and written with two digits. -/
theorem hexDecode_signed : hexDecode "+f" = .ok [15] ∧ ¬IsHex "+f" ∧
    Bytes.hexEncode [15] = "0f" ∧ ¬DecodesHex "+f" := by
  have notHex : ¬IsHex "+f" := fun hex => absurd (hex.2 '+' (by decide)) (by decide)
  have decoded : hexDecode "+f" = .ok [15] := by
    rw [hexDecode_eq_ok_iff]
    exact ⟨by decide +kernel, .cons (by decide +kernel) .nil⟩
  exact ⟨decoded, notHex, by decide +kernel, fun decodes => notHex (decodes.1.mp ⟨_, decoded⟩)⟩

end CipherMesh
