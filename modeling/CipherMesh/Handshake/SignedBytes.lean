import CipherMesh.Foundation.Hex
import CipherMesh.Foundation.Results
import CipherMesh.Handshake.Devices

/-!
# Signed encodings

The four kinds of signed objects are signed as byte strings that start with different
contexts.  Within one kind every field has a fixed width except the device id, whose width
is what the others leave, so the bytes determine the fields although a device id may have
zero bytes itself.
-/

namespace CipherMesh

open Foundation

variable {P : Primitives}

/-! ## Layouts -/

/-- Two keys after a context. -/
theorem keys_injective (widths : P.FixedWidths) {context : Bytes}
    {identity otherIdentity : P.IdentityKey} {key otherKey : P.PublicKey}
    (same : context ++ P.identityKeyBytes identity ++ P.publicKeyBytes key =
      context ++ P.identityKeyBytes otherIdentity ++ P.publicKeyBytes otherKey) :
    identity = otherIdentity ∧ key = otherKey := by
  obtain ⟨front, keySame⟩ := List.append_inj' same
    (by rw [widths.length_publicKeyBytes, widths.length_publicKeyBytes])
  exact ⟨widths.identityKeyBytes_injective (List.append_cancel_left front),
    widths.publicKeyBytes_injective keySame⟩

/-- Two ids, each with a zero byte after it, between a context and the other fields. -/
theorem ids_injective {context fields otherFields : Bytes} {accountId otherAccountId : AccountId}
    {deviceId otherDeviceId : DeviceId}
    (accountWidth : (Bytes.ofText accountId).length = (Bytes.ofText otherAccountId).length)
    (fieldsWidth : fields.length = otherFields.length)
    (same : context ++ .ofText accountId ++ [0] ++ .ofText deviceId ++ [0] ++ fields =
      context ++ .ofText otherAccountId ++ [0] ++ .ofText otherDeviceId ++ [0] ++ otherFields) :
    accountId = otherAccountId ∧ deviceId = otherDeviceId ∧ fields = otherFields := by
  obtain ⟨front, fieldsSame⟩ := List.append_inj' same fieldsWidth
  rw [List.append_cancel_right_eq] at front
  have width : (context ++ Bytes.ofText accountId ++ [0]).length =
      (context ++ Bytes.ofText otherAccountId ++ [0]).length := by
    simp [accountWidth]
  obtain ⟨head, deviceSame⟩ := List.append_inj front width
  rw [List.append_cancel_right_eq, List.append_cancel_left_eq] at head
  exact ⟨Bytes.ofText_injective head, Bytes.ofText_injective deviceSame, fieldsSame⟩

/-! ## Accounts -/

/-- The id is that of some account key, as every verified certificate and revocation has it. -/
def IsAccountId (P : Primitives) (accountId : AccountId) : Prop :=
  ∃ accountPublicKey : P.IdentityKey, accountId = accountIdForPublicKey accountPublicKey

theorem IsAccountId.length (widths : P.FixedWidths) {accountId : AccountId}
    (identified : IsAccountId P accountId) : (Bytes.ofText accountId).length = 37 := by
  obtain ⟨key, rfl⟩ := identified
  have label : (Bytes.ofText "acct-").length = 5 := by decide +kernel
  simp [accountIdForPublicKey, shortHash, Bytes.ofText_append, label, Bytes.length_hexEncode,
    widths.length_sha256]

/-! ## Objects -/

/-- The objects that are signed, with their signatures. -/
inductive SignedObject (P : Primitives) where
  | keyExchange (exchange : SignedKeyExchange P)
  | prekey (bundle : PreKeyBundle P)
  | deviceCertificate (certificate : DeviceCertificate P)
  | deviceRevocation (revocation : DeviceRevocation P)

/-- The kinds of signed objects with the fields that are encoded. -/
inductive SignedFields (P : Primitives) where
  | keyExchange (identityPublicKey : P.IdentityKey) (x25519PublicKey : P.PublicKey)
  | prekey (identityPublicKey : P.IdentityKey) (signedPrekeyPublicKey : P.PublicKey)
  | deviceCertificate (accountId : AccountId) (deviceId : DeviceId)
      (deviceEd25519PublicKey : P.IdentityKey) (deviceX25519PublicKey : P.PublicKey)
  | deviceRevocation (accountId : AccountId) (deviceId : DeviceId) (revocationCounter : UInt64)

/-- The first bytes of the contexts, in which they differ. -/
inductive SignedPhase where
  | phase2b
  | phase2c
  | phase5a
  | phase5d

def SignedPhase.bytes : SignedPhase → Bytes
  | phase2b => .ofText "ciphermesh.phase-2b"
  | phase2c => .ofText "ciphermesh.phase-2c"
  | phase5a => .ofText "ciphermesh.phase-5a"
  | phase5d => .ofText "ciphermesh.phase-5d"

theorem SignedPhase.bytes_injective : Function.Injective bytes := by
  intro first second same
  cases first <;> cases second <;> first | rfl | exact absurd same (by decide +kernel)

def SignedFields.phase : SignedFields P → SignedPhase
  | keyExchange _ _ => .phase2b
  | prekey _ _ => .phase2c
  | deviceCertificate _ _ _ _ => .phase5a
  | deviceRevocation _ _ _ => .phase5d

namespace SignedObject

def fields : SignedObject P → SignedFields P
  | keyExchange exchange => .keyExchange exchange.identityPublicKey exchange.x25519PublicKey
  | prekey bundle => .prekey bundle.identityPublicKey bundle.signedPrekeyPublicKey
  | deviceCertificate certificate => .deviceCertificate certificate.accountId certificate.deviceId
      certificate.deviceEd25519PublicKey certificate.deviceX25519PublicKey
  | deviceRevocation revocation =>
      .deviceRevocation revocation.accountId revocation.deviceId revocation.revocationCounter

/-- What is signed. -/
def signedBytes : SignedObject P → Bytes
  | keyExchange exchange =>
      signedKeyExchangeBytes exchange.identityPublicKey exchange.x25519PublicKey
  | prekey bundle => signedPrekeyBytes bundle.identityPublicKey bundle.signedPrekeyPublicKey
  | deviceCertificate certificate => deviceCertificateBytes certificate
  | deviceRevocation revocation => deviceRevocationBytes revocation

def signature : SignedObject P → P.Signature
  | keyExchange exchange => exchange.signature
  | prekey bundle => bundle.signedPrekeySignature
  | deviceCertificate certificate => certificate.signature
  | deviceRevocation revocation => revocation.signature

/-- The verifier of the object.  The first two kinds bring the key of their signer. -/
def verify (accountPublicKey : P.IdentityKey) : SignedObject P → Except CryptoError Unit
  | keyExchange exchange => verifySignedKeyExchange exchange
  | prekey bundle => verifySignedPrekey bundle
  | deviceCertificate certificate => verifyDeviceCertificate accountPublicKey certificate
  | deviceRevocation revocation => verifyDeviceRevocation accountPublicKey revocation

/-- An object of an account has an account id. -/
def Identified : SignedObject P → Prop
  | keyExchange _ => True
  | prekey _ => True
  | deviceCertificate certificate => IsAccountId P certificate.accountId
  | deviceRevocation revocation => IsAccountId P revocation.accountId

theorem take_signedBytes (object : SignedObject P) :
    object.signedBytes.take 19 = object.fields.phase.bytes := by
  have starts : ∀ {context rest : Bytes} {phase : SignedPhase}, context.take 19 = phase.bytes →
      19 ≤ context.length → (context ++ rest).take 19 = phase.bytes := by
    intro context rest phase start long
    rw [List.take_append_of_le_length long, start]
  cases object with
  | keyExchange exchange =>
      rw [signedBytes, signedKeyExchangeBytes, List.append_assoc]
      exact starts (show _ = SignedPhase.phase2b.bytes by decide +kernel) (by decide +kernel)
  | prekey bundle =>
      rw [signedBytes, signedPrekeyBytes, List.append_assoc]
      exact starts (show _ = SignedPhase.phase2c.bytes by decide +kernel) (by decide +kernel)
  | deviceCertificate certificate =>
      simp only [signedBytes, deviceCertificateBytes, List.append_assoc]
      exact starts (show _ = SignedPhase.phase5a.bytes by decide +kernel) (by decide +kernel)
  | deviceRevocation revocation =>
      simp only [signedBytes, deviceRevocationBytes, List.append_assoc]
      exact starts (show _ = SignedPhase.phase5d.bytes by decide +kernel) (by decide +kernel)

variable {first second : SignedObject P}

/-- The bytes determine the kind and the fields. -/
theorem fields_eq (widths : P.FixedWidths) (identified : first.Identified)
    (otherIdentified : second.Identified) (same : first.signedBytes = second.signedBytes) :
    first.fields = second.fields := by
  have samePhase : first.fields.phase = second.fields.phase := by
    apply SignedPhase.bytes_injective
    rw [← take_signedBytes, ← take_signedBytes, same]
  cases first with
  | keyExchange exchange =>
      cases second with
      | keyExchange other =>
          obtain ⟨identity, key⟩ := keys_injective widths same
          rw [fields, fields, identity, key]
      | prekey | deviceCertificate | deviceRevocation => cases samePhase
  | prekey bundle =>
      cases second with
      | prekey other =>
          obtain ⟨identity, key⟩ := keys_injective widths same
          rw [fields, fields, identity, key]
      | keyExchange | deviceCertificate | deviceRevocation => cases samePhase
  | deviceCertificate certificate =>
      cases second with
      | deviceCertificate other =>
          have width := (identified.length widths).trans (otherIdentified.length widths).symm
          simp only [signedBytes, deviceCertificateBytes,
            List.append_assoc _ _ (P.publicKeyBytes _)] at same
          obtain ⟨account, device, keys⟩ := ids_injective width
            (by simp [widths.length_identityKeyBytes, widths.length_publicKeyBytes]) same
          obtain ⟨signing, key⟩ := @keys_injective P widths [] _ _ _ _ keys
          rw [fields, fields, account, device, signing, key]
      | keyExchange | prekey | deviceRevocation => cases samePhase
  | deviceRevocation revocation =>
      cases second with
      | deviceRevocation other =>
          have width := (identified.length widths).trans (otherIdentified.length widths).symm
          obtain ⟨account, device, counters⟩ := ids_injective width (by simp) same
          have counter := Bytes.bigEndian_injective (UInt64.toNat_lt _) (UInt64.toNat_lt _) counters
          rw [fields, fields, account, device, UInt64.toNat_inj.mp counter]
      | keyExchange | prekey | deviceCertificate => cases samePhase

/-- An accepted object has a signature of its bytes and, where it has one, an account id. -/
theorem of_verify {accountPublicKey : P.IdentityKey} {object : SignedObject P}
    (verified : object.verify accountPublicKey = .ok ()) :
    object.Identified ∧
      ∃ signer, P.verify signer object.signedBytes object.signature = true := by
  cases object with
  | keyExchange exchange =>
      rw [verify, verifySignedKeyExchange, check_eq_ok_iff] at verified
      exact ⟨trivial, _, verified⟩
  | prekey bundle =>
      rw [verify, verifySignedPrekey, check_eq_ok_iff] at verified
      exact ⟨trivial, _, verified⟩
  | deviceCertificate certificate =>
      rw [verify, verifyDeviceCertificate_eq, check_eq_ok_iff] at verified
      exact ⟨⟨_, verified.1⟩, _, verified.2⟩
  | deviceRevocation revocation =>
      rw [verify, verifyDeviceRevocation_eq, check_eq_ok_iff] at verified
      exact ⟨⟨_, verified.1⟩, _, verified.2⟩

/-- The signed encodings of the four kinds never collide, and a signature that was made for
one object is accepted only for an object of its kind with its fields. -/
theorem signatures_never_transfer (widths : P.FixedWidths) (bind : P.SignaturesBind) :
    (∀ first second : SignedObject P, first.Identified → second.Identified →
      first.signedBytes = second.signedBytes → first.fields = second.fields) ∧
    ∀ (signer : P.SigningKey) (made other : SignedObject P) (accountPublicKey : P.IdentityKey),
      made.Identified → other.signature = P.sign signer made.signedBytes →
        other.verify accountPublicKey = .ok () → other.fields = made.fields := by
  refine ⟨fun _ _ identified otherIdentified => fields_eq widths identified otherIdentified, ?_⟩
  intro signer made other accountPublicKey madeIdentified signed verified
  obtain ⟨identified, key, accepted⟩ := of_verify verified
  rw [signed] at accepted
  exact fields_eq widths identified madeIdentified (bind accepted)

end SignedObject

namespace Symbolic

/-- Primitives whose keys and digests are 32 bytes each. -/
def keyPrimitives : Primitives where
  Block := Unit
  PrivateKey := { bytes : Bytes // bytes.length = 32 }
  PublicKey := { bytes : Bytes // bytes.length = 32 }
  Ciphertext := Bytes
  SigningKey := { bytes : Bytes // bytes.length = 32 }
  IdentityKey := { bytes : Bytes // bytes.length = 32 }
  Signature := { bytes : Bytes // bytes.length = 32 } × Bytes
  blockDecidableEq := inferInstance
  publicKeyDecidableEq := inferInstance
  ciphertextDecidableEq := inferInstance
  identityKeyDecidableEq := inferInstance
  publicKey := id
  publicKeyBytes := Subtype.val
  diffieHellman _ _ := ()
  hkdf _ _ _ _ := ()
  aeadSeal _ _ _ message := some message
  aeadOpen _ _ _ ciphertext := some ciphertext
  verifyingKey := id
  identityKeyBytes := Subtype.val
  sign key message := (key, message)
  verify key message signature := signature = (key, message)
  sha256 bytes := (bytes ++ List.replicate 32 0).take 32

theorem keyPrimitives_fixedWidths : keyPrimitives.FixedWidths where
  publicKeyBytes_injective := Subtype.val_injective
  identityKeyBytes_injective := Subtype.val_injective
  length_publicKeyBytes key := key.property
  length_identityKeyBytes key := key.property
  length_sha256 bytes := by simp [keyPrimitives]

theorem keyPrimitives_signaturesBind : keyPrimitives.SignaturesBind := by
  intro key message signer signed accepted
  simp only [keyPrimitives, decide_eq_true_eq] at accepted
  exact (congrArg Prod.snd accepted).symm

/-- Thirty-two times the byte. -/
def keyOf (byte : UInt8) : { bytes : Bytes // bytes.length = 32 } :=
  ⟨List.replicate 32 byte, List.length_replicate⟩

/-- A revocation of a device whose id has a zero byte, by the account key. -/
def nulRevocation : DeviceRevocation keyPrimitives :=
  let content : DeviceRevocation keyPrimitives :=
    ⟨accountIdForPublicKey (P := keyPrimitives) (keyOf 1), "dev\x00phone", 1, (keyOf 0, [])⟩
  { content with signature := keyPrimitives.sign (keyOf 1) (deviceRevocationBytes content) }

/-- It is accepted, and its signature for nothing else. -/
theorem nulRevocation_binds :
    verifyDeviceRevocation (P := keyPrimitives) (keyOf 1) nulRevocation = .ok () ∧
      ∀ other : SignedObject keyPrimitives, other.signature = nulRevocation.signature →
        other.verify (P := keyPrimitives) (keyOf 1) = .ok () →
          other.fields = .deviceRevocation nulRevocation.accountId "dev\x00phone" 1 := by
  have never := SignedObject.signatures_never_transfer keyPrimitives_fixedWidths
    keyPrimitives_signaturesBind
  refine ⟨by decide +kernel, fun other signed verified => ?_⟩
  exact never.2 (keyOf 1) (.deviceRevocation nulRevocation) other (keyOf 1) ⟨keyOf 1, rfl⟩
    signed verified

end Symbolic

end CipherMesh
