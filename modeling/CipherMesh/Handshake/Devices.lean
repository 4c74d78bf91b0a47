import CipherMesh.Handshake.Actors

/-!
# Devices of an account

A device proves its membership in an account with a certificate signed by the
account key.  Device sessions are ratchet sessions between the static X25519 keys
of two devices; the device that knows the other's certificate opens the outbound
one.
-/

namespace CipherMesh

open Foundation
open Foundation.Mutation

variable {P : Primitives}

abbrev AccountId := String
abbrev DeviceId := String

def deviceCertificateContext : Bytes := .ofText "ciphermesh.phase-5a.device-certificate"

/-- The first sixteen bytes of the hash, in hexadecimal. -/
def shortHash (P : Primitives) (bytes : Bytes) : String :=
  Bytes.hexEncode ((P.sha256 bytes).take 16)

def accountIdForPublicKey (publicKey : P.IdentityKey) : AccountId :=
  "acct-" ++ shortHash P (P.identityKeyBytes publicKey)

def deviceIdForPublicKey (publicKey : P.IdentityKey) : DeviceId :=
  "dev-" ++ shortHash P (P.identityKeyBytes publicKey)

structure DeviceCertificate (P : Primitives) where
  accountId : AccountId
  deviceId : DeviceId
  deviceEd25519PublicKey : P.IdentityKey
  deviceX25519PublicKey : P.PublicKey
  signature : P.Signature

/-- The signed content of a certificate; the ids are terminated by a zero byte. -/
def deviceCertificateBytes (certificate : DeviceCertificate P) : Bytes :=
  deviceCertificateContext ++ .ofText certificate.accountId ++ [0] ++
    .ofText certificate.deviceId ++ [0] ++
    P.identityKeyBytes certificate.deviceEd25519PublicKey ++
    P.publicKeyBytes certificate.deviceX25519PublicKey

def verifyDeviceCertificate (accountPublicKey : P.IdentityKey)
    (certificate : DeviceCertificate P) : Except CryptoError Unit :=
  if certificate.accountId ≠ accountIdForPublicKey accountPublicKey then
    .error .signatureVerification
  else if P.verify accountPublicKey (deviceCertificateBytes certificate)
      certificate.signature then
    .ok ()
  else .error .signatureVerification

/-- Two certified devices of one account. -/
def verifyAuthorizedSiblingDevices (accountPublicKey : P.IdentityKey)
    (first second : DeviceCertificate P) : Except CryptoError Unit := do
  verifyDeviceCertificate accountPublicKey first
  verifyDeviceCertificate accountPublicKey second
  if first.accountId ≠ second.accountId ∨ first.deviceId = second.deviceId then
    .error .signatureVerification

structure DeviceRevocation (P : Primitives) where
  accountId : AccountId
  deviceId : DeviceId
  revocationCounter : UInt64
  signature : P.Signature

def deviceRevocationContext : Bytes := .ofText "ciphermesh.phase-5d.device-revocation"

def deviceRevocationBytes (revocation : DeviceRevocation P) : Bytes :=
  deviceRevocationContext ++ .ofText revocation.accountId ++ [0] ++
    .ofText revocation.deviceId ++ [0] ++
    .bigEndian 8 revocation.revocationCounter.toNat

def verifyDeviceRevocation (accountPublicKey : P.IdentityKey)
    (revocation : DeviceRevocation P) : Except CryptoError Unit :=
  if revocation.accountId ≠ accountIdForPublicKey accountPublicKey then
    .error .signatureVerification
  else if P.verify accountPublicKey (deviceRevocationBytes revocation)
      revocation.signature then
    .ok ()
  else .error .signatureVerification

theorem verifyDeviceCertificate_eq (accountPublicKey : P.IdentityKey)
    (certificate : DeviceCertificate P) :
    verifyDeviceCertificate accountPublicKey certificate =
      if certificate.accountId = accountIdForPublicKey accountPublicKey ∧
          P.verify accountPublicKey (deviceCertificateBytes certificate) certificate.signature
      then .ok () else .error .signatureVerification := by
  simp only [verifyDeviceCertificate, ne_eq, ite_not, ite_and]

theorem verifyDeviceRevocation_eq (accountPublicKey : P.IdentityKey)
    (revocation : DeviceRevocation P) :
    verifyDeviceRevocation accountPublicKey revocation =
      if revocation.accountId = accountIdForPublicKey accountPublicKey ∧
          P.verify accountPublicKey (deviceRevocationBytes revocation) revocation.signature
      then .ok () else .error .signatureVerification := by
  simp only [verifyDeviceRevocation, ne_eq, ite_not, ite_and]

/-- The first revocation of the certified device decides. -/
def isDeviceCurrentlyAuthorized (accountPublicKey : P.IdentityKey)
    (certificate : DeviceCertificate P) (revocations : List (DeviceRevocation P)) :
    Except CryptoError Bool := do
  verifyDeviceCertificate accountPublicKey certificate
  match revocations.find? fun revocation =>
      revocation.accountId = certificate.accountId ∧
        revocation.deviceId = certificate.deviceId with
  | some revocation =>
      verifyDeviceRevocation accountPublicKey revocation
      return false
  | none => return true

/-- The certificates of the authorized devices, unless the check of one fails. -/
def activeDeviceCertificates (accountPublicKey : P.IdentityKey)
    (revocations : List (DeviceRevocation P)) :
    List (DeviceCertificate P) → Except CryptoError (List (DeviceCertificate P))
  | [] => .ok []
  | certificate :: certificates => do
      let authorized ← isDeviceCurrentlyAuthorized accountPublicKey certificate revocations
      let active ← activeDeviceCertificates accountPublicKey revocations certificates
      return (if authorized then certificate :: active else active)

structure DeviceIdentity (P : Primitives) where
  accountId : AccountId
  deviceId : DeviceId
  signing : IdentityKeyPair P
  x25519 : X25519KeyPair P

structure DeviceSession (P : Primitives) where
  localDeviceId : DeviceId
  remoteDeviceId : DeviceId
  session : RatchetSession P

structure DeviceSessionState (P : Primitives) where
  localDeviceId : DeviceId
  remoteDeviceId : DeviceId
  session : RatchetSessionState P

namespace DeviceIdentity

/-- `generate` with the keys that were drawn. -/
def generate (accountId : AccountId) (signingKey : P.SigningKey)
    (privateKey : P.PrivateKey) : DeviceIdentity P :=
  let signing : IdentityKeyPair P := ⟨signingKey⟩
  { accountId
    deviceId := deviceIdForPublicKey signing.publicKey
    signing
    x25519 := .generate privateKey }

def createOutboundSession (device : DeviceIdentity P)
    (remoteAccountPublicKey : P.IdentityKey) (remoteCertificate : DeviceCertificate P) :
    Except CryptoError (DeviceSession P) := do
  verifyDeviceCertificate remoteAccountPublicKey remoteCertificate
  let key ← device.x25519.deriveAeadKey remoteCertificate.deviceX25519PublicKey
  let session ← RatchetSession.new key .alice device.x25519
    remoteCertificate.deviceX25519PublicKey
  return {
    localDeviceId := device.deviceId
    remoteDeviceId := remoteCertificate.deviceId
    session }

def createInboundSession (device : DeviceIdentity P) (remoteDeviceId : DeviceId)
    (remoteDeviceX25519PublicKey : P.PublicKey) :
    Except CryptoError (DeviceSession P) := do
  let key ← device.x25519.deriveAeadKey remoteDeviceX25519PublicKey
  let session ← RatchetSession.new key .bob device.x25519 remoteDeviceX25519PublicKey
  return { localDeviceId := device.deviceId, remoteDeviceId, session }

end DeviceIdentity

structure DeviceDeliveryEnvelope (P : Primitives) where
  logicalMessageId : String
  senderDeviceId : DeviceId
  recipientDeviceId : DeviceId
  message : RatchetMessage P
  deriving DecidableEq

namespace DeviceSession

def exportState (device : DeviceSession P) : DeviceSessionState P where
  localDeviceId := device.localDeviceId
  remoteDeviceId := device.remoteDeviceId
  session := device.session.state

def fromState (state : DeviceSessionState P) : DeviceSession P where
  localDeviceId := state.localDeviceId
  remoteDeviceId := state.remoteDeviceId
  session := .fromState state.session

/-- Call a method of the ratchet session. -/
def onSession {Result : Type} (method : Mutation (RatchetSession P) CryptoError Result) :
    Mutation (DeviceSession P) CryptoError Result :=
  focus session (fun session device => { device with session }) method

def encrypt (logicalMessageId plaintext : String) :
    Mutation (DeviceSession P) CryptoError (DeviceDeliveryEnvelope P) := do
  let device ← get
  let message ← onSession (RatchetSession.encrypt plaintext)
  return {
    logicalMessageId
    senderDeviceId := device.localDeviceId
    recipientDeviceId := device.remoteDeviceId
    message }

def decrypt (envelope : DeviceDeliveryEnvelope P) :
    Mutation (DeviceSession P) CryptoError String := do
  let device ← get
  if envelope.recipientDeviceId ≠ device.localDeviceId ∨
      envelope.senderDeviceId ≠ device.remoteDeviceId then
    fail .decrypt
  onSession (RatchetSession.decrypt envelope.message)

end DeviceSession

end CipherMesh
