import CipherMesh.Foundation.Bytes

/-!
# Cryptographic primitives

The X25519, HKDF-SHA256, ChaCha20-Poly1305, Ed25519 and SHA-256 crates are
parameters of the model.  `Primitives` fixes their types and operations; the
assumptions a result makes about them are separate predicates, so that each
theorem names the ones it needs.

Secrets of 32 bytes are `Block`s.  HKDF returns blocks: the key `hkdf salt input
info index` is the `index`-th 32-byte block of the expanded output.
-/

namespace CipherMesh

open Foundation

/-- The error enumeration of the crate root. -/
inductive CryptoError where
  | encrypt
  | decrypt
  | keyDerivation
  | missingSessionKey
  | preKeyUnavailable
  | replay
  | signatureVerification
  | tooManySkippedMessages
  | utf8
  deriving DecidableEq, Repr

/-- The operations the code takes from cryptographic crates. -/
structure Primitives where
  Block : Type
  PrivateKey : Type
  PublicKey : Type
  Ciphertext : Type
  SigningKey : Type
  IdentityKey : Type
  Signature : Type
  blockDecidableEq : DecidableEq Block
  publicKeyDecidableEq : DecidableEq PublicKey
  ciphertextDecidableEq : DecidableEq Ciphertext
  identityKeyDecidableEq : DecidableEq IdentityKey
  /-- X25519. -/
  publicKey : PrivateKey → PublicKey
  publicKeyBytes : PublicKey → Bytes
  diffieHellman : PrivateKey → PublicKey → Block
  /-- HKDF-SHA256 with salt, input key material, info and block index. -/
  hkdf : Option Block → List Block → Bytes → Nat → Block
  /-- ChaCha20-Poly1305 with key, nonce, associated data and message. -/
  aeadSeal : Block → Bytes → Bytes → Bytes → Option Ciphertext
  aeadOpen : Block → Bytes → Bytes → Ciphertext → Option Bytes
  /-- Ed25519.  Verification includes parsing the key and the signature. -/
  verifyingKey : SigningKey → IdentityKey
  identityKeyBytes : IdentityKey → Bytes
  sign : SigningKey → Bytes → Signature
  verify : IdentityKey → Bytes → Signature → Bool
  sha256 : Bytes → Bytes

attribute [instance] Primitives.blockDecidableEq Primitives.publicKeyDecidableEq
  Primitives.ciphertextDecidableEq Primitives.identityKeyDecidableEq

namespace Primitives

variable (P : Primitives)

/-- `Hkdf::expand` into a buffer of `blocks` times 32 bytes.  The output length
is limited to 255 hash lengths. -/
def hkdfExpand (salt : Option P.Block) (input : List P.Block) (info : Bytes) (blocks : Nat) :
    Except CryptoError (Fin blocks → P.Block) :=
  if blocks ≤ 255 then .ok fun index => P.hkdf salt input info index
  else .error .keyDerivation

/-! ## Assumptions -/

/-- Both ends of an X25519 exchange compute the same secret. -/
def DhCommutes : Prop :=
  ∀ first second,
    P.diffieHellman first (P.publicKey second) = P.diffieHellman second (P.publicKey first)

/-- Secrets that one private key shares with distinct public keys are distinct. -/
def DhInjective : Prop :=
  ∀ ⦃own first second⦄,
    P.diffieHellman own (P.publicKey first) = P.diffieHellman own (P.publicKey second) →
      P.publicKey first = P.publicKey second

/-- Distinct HKDF inputs give distinct blocks. -/
def HkdfInjective : Prop :=
  ∀ ⦃salt salt' input input' info info' index index'⦄,
    P.hkdf salt input info index = P.hkdf salt' input' info' index' →
      salt = salt' ∧ input = input' ∧ info = info' ∧ index = index'

/-- Opening inverts sealing. -/
def AeadCorrect : Prop :=
  ∀ ⦃key nonce aad message ciphertext⦄,
    P.aeadSeal key nonce aad message = some ciphertext →
      P.aeadOpen key nonce aad ciphertext = some message

/-- Opening succeeds only on what was sealed under the same key, nonce and
associated data, and a ciphertext determines these. -/
structure AeadIdeal : Prop where
  correct : P.AeadCorrect
  seal_of_opened : ∀ ⦃key nonce aad message ciphertext⦄,
    P.aeadOpen key nonce aad ciphertext = some message →
      P.aeadSeal key nonce aad message = some ciphertext
  seal_injective : ∀ ⦃key key' nonce nonce' aad aad' message message' ciphertext⦄,
    P.aeadSeal key nonce aad message = some ciphertext →
      P.aeadSeal key' nonce' aad' message' = some ciphertext →
        key = key' ∧ nonce = nonce' ∧ aad = aad' ∧ message = message'

/-- The ideal primitives of the symbolic results. -/
structure Ideal : Prop where
  dhCommutes : P.DhCommutes
  hkdfInjective : P.HkdfInjective
  aead : P.AeadIdeal
  publicKeyBytes_injective : Function.Injective P.publicKeyBytes

/-- Public keys are 32 bytes each, and so are digests. -/
structure FixedWidths : Prop where
  publicKeyBytes_injective : Function.Injective P.publicKeyBytes
  identityKeyBytes_injective : Function.Injective P.identityKeyBytes
  length_publicKeyBytes : ∀ key, (P.publicKeyBytes key).length = 32
  length_identityKeyBytes : ∀ key, (P.identityKeyBytes key).length = 32
  length_sha256 : ∀ bytes, (P.sha256 bytes).length = 32

/-- A signature verifies for no message but the one that it was made for. -/
def SignaturesBind : Prop :=
  ∀ ⦃key message signer signed⦄,
    P.verify key message (P.sign signer signed) = true → message = signed

/-- What an attacker knows.  HKDF output is underivable without its inputs, so
whoever knows a block that HKDF produced knows the salt and the key material. -/
structure Knowledge where
  knows : P.Block → Prop
  salt_of_hkdf : ∀ {salt input info index}, knows (P.hkdf salt input info index) →
    ∀ key ∈ salt, knows key
  input_of_hkdf : ∀ {salt input info index}, knows (P.hkdf salt input info index) →
    ∀ key ∈ input, knows key

end Primitives

end CipherMesh
