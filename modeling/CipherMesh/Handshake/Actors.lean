import CipherMesh.Ratchet.Decryption

/-!
# Alice and Bob

The two actors of the local and paired protocols.  Their sessions come from a
signed key exchange between static X25519 keys, or from a prekey bundle, in
which case Alice's first message opens Bob's session.  `encryptInitialMessage`
and `decryptInitialMessage` are split where the session has been created, so that
what follows is an ordinary call of the session.
-/

namespace CipherMesh

open Foundation
open Foundation.Mutation

variable {P : Primitives}

def prekeyHkdfInfo : Bytes := .ofText "ciphermesh.phase-2c.prekey-initial-session"
def signedKeyExchangeContext : Bytes := .ofText "ciphermesh.phase-2b.signed-x25519"
def signedPrekeyContext : Bytes := .ofText "ciphermesh.phase-2c.signed-prekey"

/-! ## Identities and signed keys -/

structure SignedKeyExchange (P : Primitives) where
  identityPublicKey : P.IdentityKey
  x25519PublicKey : P.PublicKey
  signature : P.Signature

structure PreKeyBundle (P : Primitives) where
  identityPublicKey : P.IdentityKey
  signedPrekeyPublicKey : P.PublicKey
  signedPrekeySignature : P.Signature
  oneTimePrekeyId : Nat
  oneTimePrekeyPublicKey : P.PublicKey

structure InitialMessage (P : Primitives) where
  aliceInitialPublicKey : P.PublicKey
  oneTimePrekeyId : Nat
  message : RatchetMessage P
  deriving DecidableEq

def signedKeyExchangeBytes (identityPublicKey : P.IdentityKey)
    (x25519PublicKey : P.PublicKey) : Bytes :=
  signedKeyExchangeContext ++ P.identityKeyBytes identityPublicKey ++
    P.publicKeyBytes x25519PublicKey

def verifySignedKeyExchange (exchange : SignedKeyExchange P) : Except CryptoError Unit :=
  if P.verify exchange.identityPublicKey
      (signedKeyExchangeBytes exchange.identityPublicKey exchange.x25519PublicKey)
      exchange.signature then
    .ok ()
  else .error .signatureVerification

def signedPrekeyBytes (identityPublicKey : P.IdentityKey)
    (signedPrekeyPublicKey : P.PublicKey) : Bytes :=
  signedPrekeyContext ++ P.identityKeyBytes identityPublicKey ++
    P.publicKeyBytes signedPrekeyPublicKey

def verifySignedPrekey (bundle : PreKeyBundle P) : Except CryptoError Unit :=
  if P.verify bundle.identityPublicKey
      (signedPrekeyBytes bundle.identityPublicKey bundle.signedPrekeyPublicKey)
      bundle.signedPrekeySignature then
    .ok ()
  else .error .signatureVerification

structure IdentityKeyPair (P : Primitives) where
  signingKey : P.SigningKey

namespace IdentityKeyPair

def publicKey (identity : IdentityKeyPair P) : P.IdentityKey :=
  P.verifyingKey identity.signingKey

def signKeyExchange (identity : IdentityKeyPair P) (x25519PublicKey : P.PublicKey) :
    SignedKeyExchange P where
  identityPublicKey := identity.publicKey
  x25519PublicKey := x25519PublicKey
  signature := P.sign identity.signingKey
    (signedKeyExchangeBytes identity.publicKey x25519PublicKey)

def signPrekey (identity : IdentityKeyPair P) (signedPrekeyPublicKey : P.PublicKey) :
    P.Signature :=
  P.sign identity.signingKey (signedPrekeyBytes identity.publicKey signedPrekeyPublicKey)

end IdentityKeyPair

/-- The root key of a prekey session, from the two DH outputs in this order. -/
def derivePrekeyAeadKey (firstDh secondDh : P.Block) : Except CryptoError P.Block := do
  let key ← P.hkdfExpand none [firstDh, secondDh] prekeyHkdfInfo 1
  return key ⟨0, Nat.one_pos⟩

@[simp] theorem X25519KeyPair.deriveAeadKey_eq (keys : X25519KeyPair P)
    (peerPublicKey : P.PublicKey) :
    keys.deriveAeadKey peerPublicKey =
      .ok (P.hkdf none [keys.dhBytes peerPublicKey] hkdfInfo 0) := rfl

@[simp] theorem derivePrekeyAeadKey_eq (firstDh secondDh : P.Block) :
    derivePrekeyAeadKey firstDh secondDh =
      .ok (P.hkdf none [firstDh, secondDh] prekeyHkdfInfo 0) := rfl

structure OneTimePreKey (P : Primitives) where
  id : Nat
  keys : X25519KeyPair P

structure OneTimePreKeyState (P : Primitives) where
  id : Nat
  privateKey : P.PrivateKey

structure AliceState (P : Primitives) where
  identitySecretKey : P.SigningKey
  x25519PrivateKey : P.PrivateKey
  session : Option (RatchetSessionState P)

structure BobState (P : Primitives) where
  identitySecretKey : P.SigningKey
  x25519PrivateKey : P.PrivateKey
  signedPrekeyPrivateKey : P.PrivateKey
  oneTimePrekey : Option (OneTimePreKeyState P)
  session : Option (RatchetSessionState P)

/-! ## Alice -/

structure Alice (P : Primitives) where
  identity : IdentityKeyPair P
  keys : X25519KeyPair P
  session : Option (RatchetSession P)

namespace Alice

def publicKey (alice : Alice P) : P.PublicKey := alice.keys.publicKey

def signedKeyExchange (alice : Alice P) : SignedKeyExchange P :=
  alice.identity.signKeyExchange alice.publicKey

def deriveSessionKey (bobExchange : SignedKeyExchange P) :
    Mutation (Alice P) CryptoError Unit := do
  lift (verifySignedKeyExchange bobExchange)
  let keys := (← get).keys
  let key ← lift (keys.deriveAeadKey bobExchange.x25519PublicKey)
  let session ← lift (RatchetSession.new key .alice keys bobExchange.x25519PublicKey)
  modify fun alice => { alice with session := some session }

/-- Call a method of the session. -/
def onSession {Result : Type} (method : Mutation (RatchetSession P) CryptoError Result) :
    Mutation (Alice P) CryptoError Result :=
  focusSome .missingSessionKey session
    (fun session alice => { alice with session := some session }) method

def encryptForBob (message : String) : Mutation (Alice P) CryptoError (RatchetMessage P) :=
  onSession (RatchetSession.encrypt message)

def decryptFromBob (message : RatchetMessage P) : Mutation (Alice P) CryptoError String :=
  onSession (RatchetSession.decrypt message)

def rotateSendingRatchet (generated : P.PrivateKey) : Mutation (Alice P) CryptoError Unit :=
  onSession (RatchetSession.rotateSendingRatchet generated)

/-- The part of `encryptInitialMessage` that creates the session.  `generated` is
the private key drawn for this session. -/
def startInitialSession (bundle : PreKeyBundle P) (generated : P.PrivateKey) :
    Mutation (Alice P) CryptoError Unit := do
  lift (verifySignedPrekey bundle)
  let initialKeys : X25519KeyPair P := .generate generated
  let firstDh := initialKeys.dhBytes bundle.signedPrekeyPublicKey
  let secondDh := initialKeys.dhBytes bundle.oneTimePrekeyPublicKey
  let key ← lift (derivePrekeyAeadKey firstDh secondDh)
  let session ← lift
    (RatchetSession.new key .alice initialKeys bundle.signedPrekeyPublicKey)
  modify fun alice => { alice with session := some session }

def encryptInitialMessage (bundle : PreKeyBundle P) (message : String)
    (generated : P.PrivateKey) : Mutation (Alice P) CryptoError (InitialMessage P) := do
  startInitialSession bundle generated
  let ciphertext ← encryptForBob message
  return {
    aliceInitialPublicKey := ciphertext.ratchetPublicKey
    oneTimePrekeyId := bundle.oneTimePrekeyId
    message := ciphertext }

def exportState (alice : Alice P) : AliceState P where
  identitySecretKey := alice.identity.signingKey
  x25519PrivateKey := alice.keys.privateKey
  session := alice.session.map RatchetSession.state

def fromState (state : AliceState P) : Alice P where
  identity := ⟨state.identitySecretKey⟩
  keys := .fromPrivateBytes state.x25519PrivateKey
  session := state.session.map RatchetSession.fromState

/-- Restoring an exported actor gives the actor back. -/
@[simp] theorem fromState_exportState (alice : Alice P) :
    fromState alice.exportState = alice := by
  simp [fromState, exportState, Function.comp_def]

end Alice

/-! ## Bob -/

structure Bob (P : Primitives) where
  identity : IdentityKeyPair P
  keys : X25519KeyPair P
  signedPrekey : X25519KeyPair P
  oneTimePrekey : Option (OneTimePreKey P)
  session : Option (RatchetSession P)

namespace Bob

def publicKey (bob : Bob P) : P.PublicKey := bob.keys.publicKey

def signedKeyExchange (bob : Bob P) : SignedKeyExchange P :=
  bob.identity.signKeyExchange bob.publicKey

def prekeyBundle (bob : Bob P) : Except CryptoError (PreKeyBundle P) :=
  match bob.oneTimePrekey with
  | none => .error .preKeyUnavailable
  | some oneTimePrekey =>
      let signedPrekeyPublicKey := bob.signedPrekey.publicKey
      .ok {
        identityPublicKey := bob.identity.publicKey
        signedPrekeyPublicKey
        signedPrekeySignature := bob.identity.signPrekey signedPrekeyPublicKey
        oneTimePrekeyId := oneTimePrekey.id
        oneTimePrekeyPublicKey := oneTimePrekey.keys.publicKey }

/-- `generated` is the private key drawn for a new one-time prekey. -/
def replenishOneTimePrekey (id : Nat) (generated : P.PrivateKey) (bob : Bob P) : Bob P :=
  match bob.oneTimePrekey with
  | some _ => bob
  | none => { bob with oneTimePrekey := some ⟨id, .generate generated⟩ }

def deriveSessionKey (aliceExchange : SignedKeyExchange P) :
    Mutation (Bob P) CryptoError Unit := do
  lift (verifySignedKeyExchange aliceExchange)
  let keys := (← get).keys
  let key ← lift (keys.deriveAeadKey aliceExchange.x25519PublicKey)
  let session ← lift (RatchetSession.new key .bob keys aliceExchange.x25519PublicKey)
  modify fun bob => { bob with session := some session }

/-- Call a method of the session. -/
def onSession {Result : Type} (method : Mutation (RatchetSession P) CryptoError Result) :
    Mutation (Bob P) CryptoError Result :=
  focusSome .missingSessionKey session
    (fun session bob => { bob with session := some session }) method

def decryptFromAlice (message : RatchetMessage P) : Mutation (Bob P) CryptoError String :=
  onSession (RatchetSession.decrypt message)

def encryptForAlice (message : String) : Mutation (Bob P) CryptoError (RatchetMessage P) :=
  onSession (RatchetSession.encrypt message)

/-- The part of `decryptInitialMessage` that takes the one-time prekey and creates
the session.  The prekey goes back only when the message names another id. -/
def openInitialSession (message : InitialMessage P) : Mutation (Bob P) CryptoError Unit := do
  let oneTimePrekey ← okOr .preKeyUnavailable (← get).oneTimePrekey
  modify fun bob => { bob with oneTimePrekey := none }
  if oneTimePrekey.id ≠ message.oneTimePrekeyId then
    modify fun bob => { bob with oneTimePrekey := some oneTimePrekey }
    fail .preKeyUnavailable
  let signedPrekey := (← get).signedPrekey
  let firstDh := signedPrekey.dhBytes message.aliceInitialPublicKey
  let secondDh := oneTimePrekey.keys.dhBytes message.aliceInitialPublicKey
  let key ← lift (derivePrekeyAeadKey firstDh secondDh)
  let session ← lift
    (RatchetSession.new key .bob signedPrekey message.aliceInitialPublicKey)
  modify fun bob => { bob with session := some session }

def decryptInitialMessage (message : InitialMessage P) :
    Mutation (Bob P) CryptoError String := do
  openInitialSession message
  decryptFromAlice message.message

def exportState (bob : Bob P) : BobState P where
  identitySecretKey := bob.identity.signingKey
  x25519PrivateKey := bob.keys.privateKey
  signedPrekeyPrivateKey := bob.signedPrekey.privateKey
  oneTimePrekey := bob.oneTimePrekey.map fun prekey => ⟨prekey.id, prekey.keys.privateKey⟩
  session := bob.session.map RatchetSession.state

def fromState (state : BobState P) : Bob P where
  identity := ⟨state.identitySecretKey⟩
  keys := .fromPrivateBytes state.x25519PrivateKey
  signedPrekey := .fromPrivateBytes state.signedPrekeyPrivateKey
  oneTimePrekey := state.oneTimePrekey.map fun prekey =>
    ⟨prekey.id, .fromPrivateBytes prekey.privateKey⟩
  session := state.session.map RatchetSession.fromState

/-- Restoring an exported actor gives the actor back. -/
@[simp] theorem fromState_exportState (bob : Bob P) : fromState bob.exportState = bob := by
  simp [fromState, exportState, Function.comp_def]

end Bob

end CipherMesh
