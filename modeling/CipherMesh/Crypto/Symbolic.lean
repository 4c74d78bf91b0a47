import CipherMesh.Crypto.Primitives
import Mathlib.Data.Sym.Sym2

/-!
# Symbolic primitives

The free interpretation of the primitives: secrets are terms, a ciphertext
records what it was sealed under, a signature records the signer.  It satisfies
every assumption of `Primitives.Ideal` and evaluates, so concrete runs of the
protocol can be computed with it.
-/

namespace CipherMesh

open Foundation

namespace Symbolic

/-- Secret terms.  `nil` and `cons` build the salt and the key material. -/
inductive Block where
  | shared (ends : Sym2 Bytes)
  | hkdf (salt input : Block) (info : Bytes) (index : Nat)
  | nil
  | cons (head tail : Block)

namespace Block

/-- The equality test of terms.  The derived one does not evaluate on a shared secret
and the same secret with its ends exchanged. -/
def equals : Block → Block → Bool
  | shared ends, shared otherEnds => ends = otherEnds
  | hkdf salt input info index, hkdf otherSalt otherInput otherInfo otherIndex =>
      salt.equals otherSalt && input.equals otherInput && info = otherInfo && index = otherIndex
  | nil, nil => true
  | cons head tail, cons otherHead otherTail =>
      head.equals otherHead && tail.equals otherTail
  | _, _ => false

theorem equals_iff (first second : Block) : first.equals second = true ↔ first = second := by
  induction first generalizing second with
  | shared ends => cases second <;> simp [equals]
  | hkdf salt input info index saltIH inputIH =>
      cases second <;> simp [equals, saltIH, inputIH, and_assoc]
  | nil => cases second <;> simp [equals]
  | cons head tail headIH tailIH => cases second <;> simp [equals, headIH, tailIH]

instance : DecidableEq Block := fun first second =>
  decidable_of_iff (first.equals second = true) (equals_iff first second)

/-- The term of an optional salt. -/
def ofOption : Option Block → Block
  | none => nil
  | some salt => cons salt nil

/-- The term of a list of key material. -/
def ofList : List Block → Block
  | [] => nil
  | head :: tail => cons head (ofList tail)

theorem ofOption_injective : Function.Injective ofOption := by
  intro first second equal
  cases first <;> cases second <;> simp_all [ofOption]

theorem ofList_injective : Function.Injective ofList := by
  intro first
  induction first with
  | nil =>
      intro second equal
      cases second with
      | nil => rfl
      | cons head tail => simp [ofList] at equal
  | cons head tail tailIH =>
      intro second equal
      cases second with
      | nil => simp [ofList] at equal
      | cons otherHead otherTail =>
          simp only [ofList, cons.injEq] at equal
          rw [equal.1, tailIH equal.2]

end Block

/-- A ciphertext remembers key, nonce, associated data and message. -/
structure Ciphertext where
  key : Block
  nonce : Bytes
  aad : Bytes
  message : Bytes
  deriving DecidableEq

/-- A signature remembers the verifying key and the message. -/
structure Signature where
  signer : Bytes
  message : Bytes
  deriving DecidableEq

/-- Thirty-two bytes: the value of a polynomial in the bytes, modulo a prime and written four
times.  Truncated ids of what the runs hash differ, and only the kernel evaluates them. -/
@[irreducible] def digest (bytes : Bytes) : Bytes :=
  let value := bytes.foldl (fun value byte => (value * 257 + byte.toNat + 1) % (2 ^ 61 - 1)) 0
  (List.replicate 4 (Bytes.bigEndian 8 value)).flatten

/-- Keys are named by byte strings and a public key has the name of its private
key. -/
def primitives : Primitives where
  Block := Block
  PrivateKey := Bytes
  PublicKey := Bytes
  Ciphertext := Ciphertext
  SigningKey := Bytes
  IdentityKey := Bytes
  Signature := Signature
  blockDecidableEq := inferInstance
  publicKeyDecidableEq := inferInstance
  ciphertextDecidableEq := inferInstance
  identityKeyDecidableEq := inferInstance
  publicKey := id
  publicKeyBytes := id
  diffieHellman own peer := .shared s(own, peer)
  hkdf salt input info index := .hkdf (Block.ofOption salt) (Block.ofList input) info index
  aeadSeal key nonce aad message := some ⟨key, nonce, aad, message⟩
  aeadOpen key nonce aad ciphertext :=
    if key = ciphertext.key ∧ nonce = ciphertext.nonce ∧ aad = ciphertext.aad then
      some ciphertext.message
    else none
  verifyingKey := id
  identityKeyBytes := id
  sign key message := ⟨key, message⟩
  verify key message signature := signature = ⟨key, message⟩
  sha256 := digest

theorem dhCommutes : primitives.DhCommutes := by
  intro first second
  exact congrArg Block.shared Sym2.eq_swap

theorem dhInjective : primitives.DhInjective := by
  intro own first second equal
  exact Sym2.congr_right.mp (Block.shared.inj equal)

theorem hkdfInjective : primitives.HkdfInjective := by
  intro salt salt' input input' info info' index index' equal
  obtain ⟨saltEqual, inputEqual, infoEqual, indexEqual⟩ := Block.hkdf.inj equal
  exact ⟨Block.ofOption_injective saltEqual, Block.ofList_injective inputEqual,
    infoEqual, indexEqual⟩

theorem aeadCorrect : primitives.AeadCorrect := by
  intro key nonce aad message ciphertext sealed
  obtain rfl := Option.some.inj sealed
  exact if_pos ⟨rfl, rfl, rfl⟩

theorem aeadIdeal : primitives.AeadIdeal where
  correct := aeadCorrect
  seal_of_opened := by
    intro key nonce aad message ciphertext opened
    simp only [primitives, Option.ite_none_right_eq_some, Option.some.injEq] at opened ⊢
    obtain ⟨⟨rfl, rfl, rfl⟩, rfl⟩ := opened
    rfl
  seal_injective := by
    intro key key' nonce nonce' aad aad' message message' ciphertext sealed sealed'
    obtain rfl := Option.some.inj sealed
    obtain ⟨keyEqual, nonceEqual, aadEqual, messageEqual⟩ :=
      Ciphertext.mk.inj (Option.some.inj sealed')
    exact ⟨keyEqual.symm, nonceEqual.symm, aadEqual.symm, messageEqual.symm⟩

theorem ideal : primitives.Ideal where
  dhCommutes := dhCommutes
  hkdfInjective := hkdfInjective
  aead := aeadIdeal
  publicKeyBytes_injective := Function.injective_id

end Symbolic

end CipherMesh
