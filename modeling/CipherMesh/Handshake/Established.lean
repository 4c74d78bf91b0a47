import CipherMesh.Crypto.Symbolic
import CipherMesh.Foundation.Results
import CipherMesh.Handshake.Devices

/-!
# Established pairs of sessions

The three handshakes create a session on either side.  `Established` collects the
pairs they create, at the moment of creation: for the prekey handshake this is
before Alice encrypts her initial message and before Bob decrypts it, which are
the first calls of the run that follows.  When X25519 commutes, all such pairs
have one shape: fresh sessions over a common root key, each holding the other's
public ratchet key.
-/

namespace CipherMesh

open Foundation
open Foundation.Mutation
open RatchetSession

variable {P : Primitives}

/-! ## What each handshake creates -/

theorem Alice.run_deriveSessionKey {alice reached : Alice P} {exchange : SignedKeyExchange P}
    (success : (deriveSessionKey exchange).run alice = (.ok (), reached)) :
    reached.session = some (fresh
      (P.hkdf none [alice.keys.dhBytes exchange.x25519PublicKey] hkdfInfo 0) .alice
      alice.keys exchange.x25519PublicKey) := by
  obtain ⟨_, -, success⟩ := run_lift_bind_eq_ok success
  simp only [run_bind, run_lift, run_get, run_modify, X25519KeyPair.deriveAeadKey_eq,
    new_eq] at success
  obtain rfl := (Prod.mk.inj success).2
  rfl

theorem Bob.run_deriveSessionKey {bob reached : Bob P} {exchange : SignedKeyExchange P}
    (success : (deriveSessionKey exchange).run bob = (.ok (), reached)) :
    reached.session = some (fresh
      (P.hkdf none [bob.keys.dhBytes exchange.x25519PublicKey] hkdfInfo 0) .bob
      bob.keys exchange.x25519PublicKey) := by
  obtain ⟨_, -, success⟩ := run_lift_bind_eq_ok success
  simp only [run_bind, run_lift, run_get, run_modify, X25519KeyPair.deriveAeadKey_eq,
    new_eq] at success
  obtain rfl := (Prod.mk.inj success).2
  rfl

theorem Alice.run_startInitialSession {alice reached : Alice P} {bundle : PreKeyBundle P}
    {generated : P.PrivateKey}
    (success : (startInitialSession bundle generated).run alice = (.ok (), reached)) :
    reached.session = some (fresh
      (P.hkdf none
        [P.diffieHellman generated bundle.signedPrekeyPublicKey,
          P.diffieHellman generated bundle.oneTimePrekeyPublicKey] prekeyHkdfInfo 0)
      .alice (.generate generated) bundle.signedPrekeyPublicKey) := by
  obtain ⟨_, -, success⟩ := run_lift_bind_eq_ok success
  simp only [run_bind, run_lift, run_modify, derivePrekeyAeadKey_eq, new_eq] at success
  obtain rfl := (Prod.mk.inj success).2
  rfl

/-- A successful `encryptInitialMessage` created a session and encrypted with it. -/
theorem Alice.encryptInitialMessage_eq_ok {alice reached : Alice P} {bundle : PreKeyBundle P}
    {text : String} {generated : P.PrivateKey} {initial : InitialMessage P}
    (success : (encryptInitialMessage bundle text generated).run alice =
      (.ok initial, reached)) :
    ∃ started session, (startInitialSession bundle generated).run alice = (.ok (), started) ∧
      started.session = some session ∧
      ((encrypt text).run session).1 = .ok initial.message ∧
      reached.session = some ((encrypt text).run session).2 ∧
      initial.aliceInitialPublicKey = initial.message.ratchetPublicKey ∧
      initial.oneTimePrekeyId = bundle.oneTimePrekeyId := by
  obtain ⟨_, started, starts, continues⟩ := run_bind_eq_ok success
  obtain ⟨message, middle, encrypts, returns⟩ := run_bind_eq_ok continues
  obtain ⟨returned, rfl⟩ := Prod.mk.inj returns
  obtain rfl := Except.ok.inj returned
  have holds := run_startInitialSession starts
  rw [encryptForBob, onSession, run_focusSome _ _ _ holds] at encrypts
  obtain ⟨result, rfl⟩ := Prod.mk.inj encrypts
  exact ⟨started, _, starts, holds, result, rfl, rfl, rfl⟩

/-- Bob's session after he has taken the one-time prekey for an initial message. -/
def Bob.initialSession (bob : Bob P) (oneTimePrekey : OneTimePreKey P)
    (message : InitialMessage P) : RatchetSession P :=
  fresh
    (P.hkdf none
      [bob.signedPrekey.dhBytes message.aliceInitialPublicKey,
        oneTimePrekey.keys.dhBytes message.aliceInitialPublicKey] prekeyHkdfInfo 0)
    .bob bob.signedPrekey message.aliceInitialPublicKey

theorem Bob.run_openInitialSession {bob : Bob P} {message : InitialMessage P}
    {oneTimePrekey : OneTimePreKey P} (present : bob.oneTimePrekey = some oneTimePrekey)
    (named : oneTimePrekey.id = message.oneTimePrekeyId) :
    (openInitialSession message).run bob = (.ok (), { bob with
      oneTimePrekey := none
      session := some (bob.initialSession oneTimePrekey message) }) := by
  simp only [openInitialSession, run_bind, run_get, present, run_okOr_some, run_modify, named,
    ne_eq, not_true_eq_false, if_false, run_lift, derivePrekeyAeadKey_eq, new_eq]
  rfl

theorem Bob.openInitialSession_eq_ok {bob reached : Bob P} {message : InitialMessage P}
    (success : (openInitialSession message).run bob = (.ok (), reached)) :
    ∃ oneTimePrekey, bob.oneTimePrekey = some oneTimePrekey ∧
      reached.session = some (bob.initialSession oneTimePrekey message) := by
  cases present : bob.oneTimePrekey with
  | none => simp [openInitialSession, present] at success
  | some oneTimePrekey =>
      by_cases named : oneTimePrekey.id = message.oneTimePrekeyId
      · rw [run_openInitialSession present named] at success
        obtain rfl := (Prod.mk.inj success).2
        exact ⟨oneTimePrekey, rfl, rfl⟩
      · simp [openInitialSession, present, named] at success

/-- `decryptInitialMessage` decrypts with the session it created. -/
theorem Bob.run_decryptInitialMessage {bob : Bob P} {message : InitialMessage P}
    {oneTimePrekey : OneTimePreKey P} (present : bob.oneTimePrekey = some oneTimePrekey)
    (named : oneTimePrekey.id = message.oneTimePrekeyId) :
    let run := (decrypt message.message).run (bob.initialSession oneTimePrekey message)
    (decryptInitialMessage message).run bob =
      (run.1, { bob with oneTimePrekey := none, session := some run.2 }) := by
  rw [decryptInitialMessage, run_bind, run_openInitialSession present named]
  rfl

theorem DeviceIdentity.createOutboundSession_eq {device : DeviceIdentity P}
    {accountPublicKey : P.IdentityKey} {certificate : DeviceCertificate P}
    {created : DeviceSession P}
    (success : device.createOutboundSession accountPublicKey certificate = .ok created) :
    created = {
      localDeviceId := device.deviceId
      remoteDeviceId := certificate.deviceId
      session := fresh
        (P.hkdf none [device.x25519.dhBytes certificate.deviceX25519PublicKey] hkdfInfo 0)
        .alice device.x25519 certificate.deviceX25519PublicKey } := by
  obtain ⟨_, -, success⟩ := bind_eq_ok_iff.mp success
  rw [X25519KeyPair.deriveAeadKey_eq] at success
  exact (Except.ok.inj success).symm

theorem DeviceIdentity.createInboundSession_eq (device : DeviceIdentity P)
    (remoteDeviceId : DeviceId) (remotePublicKey : P.PublicKey) :
    device.createInboundSession remoteDeviceId remotePublicKey = .ok {
      localDeviceId := device.deviceId
      remoteDeviceId
      session := fresh (P.hkdf none [device.x25519.dhBytes remotePublicKey] hkdfInfo 0)
        .bob device.x25519 remotePublicKey } := by
  rw [createInboundSession, X25519KeyPair.deriveAeadKey_eq]
  simp only [Except.bind, bind, new_eq, pure, Except.pure]

/-! ## Pairs -/

/-- The two sessions of a pair, by role. -/
def pair {State : Type} (alice bob : State) : RatchetRole → State
  | .alice => alice
  | .bob => bob

/-- Pairs of sessions created by one handshake. -/
inductive Established : (RatchetRole → RatchetSession P) → Prop where
  | keyExchange {alice aliceReached : Alice P} {bob bobReached : Bob P}
      {aliceSession bobSession : RatchetSession P}
      (aliceDerives : (Alice.deriveSessionKey bob.signedKeyExchange).run alice =
        (.ok (), aliceReached))
      (bobDerives : (Bob.deriveSessionKey alice.signedKeyExchange).run bob =
        (.ok (), bobReached))
      (aliceHolds : aliceReached.session = some aliceSession)
      (bobHolds : bobReached.session = some bobSession) :
      Established (pair aliceSession bobSession)
  | prekey {alice aliceReached : Alice P} {bob bobReached : Bob P} {bundle : PreKeyBundle P}
      {generated : P.PrivateKey} {aliceSession bobSession : RatchetSession P}
      {initial : InitialMessage P}
      (published : bob.prekeyBundle = .ok bundle)
      (aliceStarts : (Alice.startInitialSession bundle generated).run alice =
        (.ok (), aliceReached))
      (aliceHolds : aliceReached.session = some aliceSession)
      (carried : initial.aliceInitialPublicKey = aliceSession.dhKeys.publicKey)
      (bobOpens : (Bob.openInitialSession initial).run bob = (.ok (), bobReached))
      (bobHolds : bobReached.session = some bobSession) :
      Established (pair aliceSession bobSession)
  | devices {outbound inbound : DeviceIdentity P} {accountPublicKey : P.IdentityKey}
      {certificate : DeviceCertificate P} {outboundId : DeviceId}
      {outboundSession inboundSession : DeviceSession P}
      (certified : certificate.deviceX25519PublicKey = inbound.x25519.publicKey)
      (outboundCreates : outbound.createOutboundSession accountPublicKey certificate =
        .ok outboundSession)
      (inboundCreates : inbound.createInboundSession outboundId outbound.x25519.publicKey =
        .ok inboundSession) :
      Established (pair outboundSession.session inboundSession.session)

/-- Fresh sessions over one root key, each holding the other's public key. -/
structure FreshPair (sessions : RatchetRole → RatchetSession P) (rootKey : P.Block)
    (keys : RatchetRole → X25519KeyPair P) : Prop where
  grounded : Epoch.HandshakeRoot rootKey
  fresh : ∀ side, sessions side = fresh rootKey side (keys side) (keys side.peer).publicKey

/-- The DH output of one end is that of the other end. -/
theorem X25519KeyPair.dhBytes_comm (commutes : P.DhCommutes) (first second : X25519KeyPair P) :
    first.dhBytes second.publicKey = second.dhBytes first.publicKey := by
  rw [dhBytes, dhBytes, first.publicKey_eq, second.publicKey_eq]
  exact commutes _ _

private theorem freshPair_of_fresh {rootKey : P.Block} {aliceKeys bobKeys : X25519KeyPair P}
    (grounded : Epoch.HandshakeRoot rootKey) :
    FreshPair (pair (fresh rootKey .alice aliceKeys bobKeys.publicKey)
      (fresh rootKey .bob bobKeys aliceKeys.publicKey)) rootKey (pair aliceKeys bobKeys) where
  grounded := grounded
  fresh side := by cases side <;> rfl

/-- Every handshake ends in a fresh pair. -/
theorem Established.freshPair (commutes : P.DhCommutes)
    {sessions : RatchetRole → RatchetSession P} (established : Established sessions) :
    ∃ rootKey keys, FreshPair sessions rootKey keys := by
  cases established with
  | @keyExchange alice _ bob _ _ _ aliceDerives bobDerives aliceHolds bobHolds =>
      rw [Alice.run_deriveSessionKey aliceDerives] at aliceHolds
      rw [Bob.run_deriveSessionKey bobDerives] at bobHolds
      obtain rfl := Option.some.inj aliceHolds
      obtain rfl := Option.some.inj bobHolds
      have sameSecret := X25519KeyPair.dhBytes_comm commutes alice.keys bob.keys
      change alice.keys.dhBytes bob.signedKeyExchange.x25519PublicKey =
        bob.keys.dhBytes alice.signedKeyExchange.x25519PublicKey at sameSecret
      rw [sameSecret]
      exact ⟨_, _, freshPair_of_fresh ⟨_, _, _, rfl⟩⟩
  | @prekey _ _ bob _ bundle generated _ _ initial published aliceStarts aliceHolds carried
      bobOpens bobHolds =>
      obtain ⟨oneTimePrekey, present, opened⟩ := Bob.openInitialSession_eq_ok bobOpens
      rw [Alice.run_startInitialSession aliceStarts] at aliceHolds
      obtain rfl := Option.some.inj aliceHolds
      rw [opened] at bobHolds
      obtain rfl := Option.some.inj bobHolds
      rw [Bob.prekeyBundle, present] at published
      obtain rfl := Except.ok.inj published
      rw [Bob.initialSession, carried]
      have firstSecret := X25519KeyPair.dhBytes_comm commutes (.generate generated)
        bob.signedPrekey
      have secondSecret := X25519KeyPair.dhBytes_comm commutes (.generate generated)
        oneTimePrekey.keys
      simp only [X25519KeyPair.dhBytes, X25519KeyPair.fromPrivateBytes_privateKey]
        at firstSecret secondSecret
      rw [firstSecret, secondSecret]
      exact ⟨_, _, freshPair_of_fresh ⟨_, _, _, rfl⟩⟩
  | @devices outbound inbound _ certificate _ _ _ certified outboundCreates inboundCreates =>
      rw [DeviceIdentity.createInboundSession_eq] at inboundCreates
      obtain rfl := Except.ok.inj inboundCreates
      rw [DeviceIdentity.createOutboundSession_eq outboundCreates, certified,
        X25519KeyPair.dhBytes_comm commutes]
      exact ⟨_, _, freshPair_of_fresh ⟨_, _, _, rfl⟩⟩

/-! ## A concrete pair -/

namespace Symbolic

def keys : RatchetRole → X25519KeyPair primitives
  | .alice => .fromPrivateBytes (Bytes.ofText "alice")
  | .bob => .fromPrivateBytes (Bytes.ofText "bob")

/-- The sessions of a signed key exchange between the two named keys. -/
def sessions : RatchetRole → RatchetSession primitives :=
  let rootKey := primitives.hkdf none [(keys .alice).dhBytes (keys .bob).publicKey] hkdfInfo 0
  pair (fresh rootKey .alice (keys .alice) (keys .bob).publicKey)
    (fresh rootKey .bob (keys .bob) (keys .alice).publicKey)

def alice : Alice primitives := ⟨⟨Bytes.ofText "alice"⟩, keys .alice, none⟩

def bob : Bob primitives := ⟨⟨Bytes.ofText "bob"⟩, keys .bob, keys .bob, none, none⟩

/-- Bob with a session and with one prekey to give away. -/
def receivingBob : Bob primitives :=
  { bob with
    session := some (sessions .bob)
    oneTimePrekey := some ⟨1, .generate (Bytes.ofText "prekey")⟩ }

instance : DecidableEq primitives.PrivateKey := inferInstanceAs (DecidableEq Bytes)

instance : DecidableEq primitives.SigningKey := inferInstanceAs (DecidableEq Bytes)

instance : DecidableEq (RatchetSessionState primitives) := fun first second =>
  decidable_of_iff
    (first.role = second.role ∧ first.rootKey = second.rootKey ∧
      first.sendChainKey = second.sendChainKey ∧ first.recvChainKey = second.recvChainKey ∧
      first.sendCount = second.sendCount ∧ first.recvCount = second.recvCount ∧
      first.skippedMessageKeys = second.skippedMessageKeys ∧
      first.consumedMessageNumbers = second.consumedMessageNumbers ∧
      first.dhPrivateKey = second.dhPrivateKey ∧
      first.peerRatchetPublicKey = second.peerRatchetPublicKey)
    (by cases first; cases second; simp)

instance : DecidableEq (OneTimePreKeyState primitives) := fun first second =>
  decidable_of_iff (first.id = second.id ∧ first.privateKey = second.privateKey)
    (by cases first; cases second; simp)

instance : DecidableEq (AliceState primitives) := fun first second =>
  decidable_of_iff
    (first.identitySecretKey = second.identitySecretKey ∧
      first.x25519PrivateKey = second.x25519PrivateKey ∧ first.session = second.session)
    (by cases first; cases second; simp)

instance : DecidableEq (BobState primitives) := fun first second =>
  decidable_of_iff
    (first.identitySecretKey = second.identitySecretKey ∧
      first.x25519PrivateKey = second.x25519PrivateKey ∧
      first.signedPrekeyPrivateKey = second.signedPrekeyPrivateKey ∧
      first.oneTimePrekey = second.oneTimePrekey ∧ first.session = second.session)
    (by cases first; cases second; simp)

theorem sessions_established : Established sessions := by
  have sameSecret := X25519KeyPair.dhBytes_comm dhCommutes (keys .bob) (keys .alice)
  have established := Established.keyExchange
    (show (Alice.deriveSessionKey bob.signedKeyExchange).run alice = (.ok (), _) from rfl)
    (show (Bob.deriveSessionKey alice.signedKeyExchange).run bob = (.ok (), _) from rfl)
    rfl rfl
  change Established (pair _ (fresh (primitives.hkdf none
    [(keys .bob).dhBytes (keys .alice).publicKey] hkdfInfo 0) .bob _ _)) at established
  rwa [sameSecret] at established

/-- Alice's first message. -/
def greeting : RatchetMessage primitives where
  number := 0
  ratchetPublicKey := (keys .alice).publicKey
  ciphertext := {
    key := chainMessageKey (sessions .alice).sendChainKey
    nonce := nonceFor 0
    aad := ratchetAad 0 (keys .alice).publicKey
    message := .ofText "hello" }

end Symbolic

end CipherMesh
