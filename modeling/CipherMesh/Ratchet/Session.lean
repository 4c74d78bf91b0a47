import CipherMesh.Crypto.Primitives
import CipherMesh.Foundation.Mutation
import CipherMesh.Foundation.Collections

/-!
# The ratchet session

`RatchetSession` and its methods as in the crate root.  Counters are natural
numbers: a session would need 2^64 messages to leave the range of its counters.
Randomness is an argument: a method that generates a key pair takes the private
key that was drawn.
-/

namespace CipherMesh

open Foundation
open Foundation.Mutation

variable {P : Primitives}

def localAad : Bytes := .ofText "ciphermesh.local.alice-to-bob.v1"
def hkdfInfo : Bytes := .ofText "ciphermesh.phase-2a.x25519.chacha20poly1305"
def initialChainInfo : Bytes := .ofText "ciphermesh.phase-2d.initial-chains"
def chainStepInfo : Bytes := .ofText "ciphermesh.phase-2d.chain-step"
def dhRatchetInfo : Bytes := .ofText "ciphermesh.phase-2d.dh-ratchet"

def maxSkippedMessageKeys : Nat := 8

/-- A key pair, whose public half always belongs to its private half. -/
structure X25519KeyPair (P : Primitives) where
  privateKey : P.PrivateKey
  publicKey : P.PublicKey
  publicKey_eq : publicKey = P.publicKey privateKey

namespace X25519KeyPair

def fromPrivateBytes (bytes : P.PrivateKey) : X25519KeyPair P :=
  ⟨bytes, P.publicKey bytes, rfl⟩

/-- `generate` with the private key that was drawn. -/
abbrev generate (drawn : P.PrivateKey) : X25519KeyPair P := fromPrivateBytes drawn

@[simp] theorem fromPrivateBytes_privateKey (bytes : P.PrivateKey) :
    (fromPrivateBytes bytes : X25519KeyPair P).privateKey = bytes := rfl

@[simp] theorem fromPrivateBytes_publicKey (bytes : P.PrivateKey) :
    (fromPrivateBytes bytes : X25519KeyPair P).publicKey = P.publicKey bytes := rfl

/-- A key pair is determined by its private half, so the exported private key
restores it. -/
@[simp] theorem fromPrivateBytes_self (keys : X25519KeyPair P) :
    fromPrivateBytes keys.privateKey = keys := by
  obtain ⟨privateKey, publicKey, rfl⟩ := keys
  rfl

def dhBytes (keys : X25519KeyPair P) (peerPublicKey : P.PublicKey) : P.Block :=
  P.diffieHellman keys.privateKey peerPublicKey

def deriveAeadKey (keys : X25519KeyPair P) (peerPublicKey : P.PublicKey) :
    Except CryptoError P.Block := do
  let key ← P.hkdfExpand none [keys.dhBytes peerPublicKey] hkdfInfo 1
  return key 0

end X25519KeyPair

/-- The two ends of a session.  The exported `RatchetRoleState` has the same two
values. -/
inductive RatchetRole where
  | alice
  | bob
  deriving DecidableEq, Repr

namespace RatchetRole

/-- The sending and the receiving chain among the two directional chains. -/
def chains {Key : Type} : RatchetRole → Key → Key → Key × Key
  | alice, first, second => (first, second)
  | bob, first, second => (second, first)

/-- The other end. -/
def peer : RatchetRole → RatchetRole
  | alice => bob
  | bob => alice

@[simp] theorem peer_peer (role : RatchetRole) : role.peer.peer = role := by
  cases role <;> rfl

@[simp] theorem peer_ne (role : RatchetRole) : role.peer ≠ role := by
  cases role <;> decide

@[simp] theorem ne_peer (role : RatchetRole) : role ≠ role.peer :=
  (peer_ne role).symm

theorem eq_or_eq_peer (side role : RatchetRole) : side = role ∨ side = role.peer := by
  cases side <;> cases role <;> decide

end RatchetRole

structure RatchetMessage (P : Primitives) where
  number : Nat
  ratchetPublicKey : P.PublicKey
  ciphertext : P.Ciphertext
  deriving DecidableEq

structure RatchetSession (P : Primitives) where
  role : RatchetRole
  rootKey : P.Block
  sendChainKey : P.Block
  recvChainKey : P.Block
  sendCount : Nat
  recvCount : Nat
  skippedMessageKeys : Finmap fun _ : Nat => P.Block
  consumedMessageNumbers : Finset Nat
  dhKeys : X25519KeyPair P
  peerRatchetPublicKey : P.PublicKey

/-- The exported form of a session. -/
structure RatchetSessionState (P : Primitives) where
  role : RatchetRole
  rootKey : P.Block
  sendChainKey : P.Block
  recvChainKey : P.Block
  sendCount : Nat
  recvCount : Nat
  skippedMessageKeys : List (Nat × P.Block)
  consumedMessageNumbers : List Nat
  dhPrivateKey : P.PrivateKey
  peerRatchetPublicKey : P.PublicKey

def deriveDirectionalChains (rootKey : P.Block) : Except CryptoError (P.Block × P.Block) := do
  let output ← P.hkdfExpand none [rootKey] initialChainInfo 2
  return (output 0, output 1)

def advanceChain (chainKey : P.Block) : Except CryptoError (P.Block × P.Block) := do
  let output ← P.hkdfExpand none [chainKey] chainStepInfo 2
  return (output 0, output 1)

def deriveDhRatchetState (rootKey dhOutput : P.Block) :
    Except CryptoError (P.Block × P.Block × P.Block) := do
  let output ← P.hkdfExpand (some rootKey) [dhOutput] dhRatchetInfo 3
  return (output 0, output 1, output 2)

/-- Four zero bytes and the message number. -/
def nonceFor (number : Nat) : Bytes :=
  List.replicate 4 0 ++ Bytes.bigEndian 8 number

def ratchetAad (number : Nat) (ratchetPublicKey : P.PublicKey) : Bytes :=
  localAad ++ Bytes.bigEndian 8 number ++ P.publicKeyBytes ratchetPublicKey

namespace RatchetSession

def new (rootKey : P.Block) (role : RatchetRole) (dhKeys : X25519KeyPair P)
    (peerRatchetPublicKey : P.PublicKey) : Except CryptoError (RatchetSession P) := do
  let (aliceToBob, bobToAlice) ← deriveDirectionalChains rootKey
  let (sendChainKey, recvChainKey) := role.chains aliceToBob bobToAlice
  return {
    role, rootKey, sendChainKey, recvChainKey
    sendCount := 0
    recvCount := 0
    skippedMessageKeys := ∅
    consumedMessageNumbers := ∅
    dhKeys, peerRatchetPublicKey }

def nextSendMessageKey : Mutation (RatchetSession P) CryptoError P.Block := do
  let (nextChainKey, messageKey) ← lift (advanceChain (← get).sendChainKey)
  modify fun session =>
    { session with sendChainKey := nextChainKey, sendCount := session.sendCount + 1 }
  return messageKey

def nextRecvMessageKey : Mutation (RatchetSession P) CryptoError P.Block := do
  let (nextChainKey, messageKey) ← lift (advanceChain (← get).recvChainKey)
  modify fun session =>
    { session with recvChainKey := nextChainKey, recvCount := session.recvCount + 1 }
  return messageKey

def encrypt (message : String) :
    Mutation (RatchetSession P) CryptoError (RatchetMessage P) := do
  let number := (← get).sendCount
  let messageKey ← nextSendMessageKey
  let ratchetPublicKey := (← get).dhKeys.publicKey
  let ciphertext ← okOr .encrypt
    (P.aeadSeal messageKey (nonceFor number) (ratchetAad number ratchetPublicKey)
      (.ofText message))
  return { number, ratchetPublicKey, ciphertext }

def applyDhRatchet (dhOutput : P.Block) : Mutation (RatchetSession P) CryptoError Unit := do
  let (rootKey, aliceToBob, bobToAlice) ←
    lift (deriveDhRatchetState (← get).rootKey dhOutput)
  modify fun session =>
    let (sendChainKey, recvChainKey) := session.role.chains aliceToBob bobToAlice
    { session with
      rootKey, sendChainKey, recvChainKey
      sendCount := 0
      recvCount := 0
      skippedMessageKeys := ∅
      consumedMessageNumbers := ∅ }

/-- `generated` is the private key drawn for the new pair. -/
def rotateSendingRatchet (generated : P.PrivateKey) :
    Mutation (RatchetSession P) CryptoError Unit := do
  modify fun session => { session with dhKeys := .generate generated }
  let session ← get
  applyDhRatchet (session.dhKeys.dhBytes session.peerRatchetPublicKey)

def receiveDhRatchet (peerRatchetPublicKey : P.PublicKey) :
    Mutation (RatchetSession P) CryptoError Unit := do
  let dhOutput := (← get).dhKeys.dhBytes peerRatchetPublicKey
  modify fun session => { session with peerRatchetPublicKey }
  applyDhRatchet dhOutput

/-- The loop of `decrypt` that stores the keys of the numbers before `number`.
It runs at most `number - recv_count` times, which is the fuel it is given. -/
def skipMessageKeys (number : Nat) : Nat → Mutation (RatchetSession P) CryptoError Unit
  | 0 => pure ()
  | fuel + 1 => do
      if (← get).recvCount < number then
        if (← get).skippedMessageKeys.keys.card ≥ maxSkippedMessageKeys then
          fail .tooManySkippedMessages
        let skippedKey ← nextRecvMessageKey
        modify fun session =>
          { session with
            skippedMessageKeys :=
              session.skippedMessageKeys.insert (session.recvCount - 1) skippedKey }
        skipMessageKeys number fuel

/-- The message key `decrypt` selects: a stored one, or the next one of the
receiving chain after the numbers in between were skipped. -/
def takeMessageKey (number : Nat) : Mutation (RatchetSession P) CryptoError P.Block := do
  match (← get).skippedMessageKeys.lookup number with
  | some messageKey => do
      modify fun session =>
        { session with skippedMessageKeys := session.skippedMessageKeys.erase number }
      return messageKey
  | none => do
      if number < (← get).recvCount then
        fail .replay
      skipMessageKeys number (number - (← get).recvCount)
      nextRecvMessageKey

/-- The last part of `decrypt`: open the ciphertext, record the number, decode. -/
def openMessage (messageKey : P.Block) (message : RatchetMessage P) :
    Mutation (RatchetSession P) CryptoError String := do
  let plaintext ← okOr .decrypt
    (P.aeadOpen messageKey (nonceFor message.number)
      (ratchetAad message.number message.ratchetPublicKey) message.ciphertext)
  modify fun session =>
    { session with
      consumedMessageNumbers := insert message.number session.consumedMessageNumbers }
  okOr .utf8 (Bytes.toText plaintext)

def decrypt (message : RatchetMessage P) : Mutation (RatchetSession P) CryptoError String := do
  if message.ratchetPublicKey ≠ (← get).peerRatchetPublicKey then
    receiveDhRatchet message.ratchetPublicKey
  if message.number ∈ (← get).consumedMessageNumbers then
    fail .replay
  let messageKey ← takeMessageKey message.number
  openMessage messageKey message

def state (session : RatchetSession P) : RatchetSessionState P where
  role := session.role
  rootKey := session.rootKey
  sendChainKey := session.sendChainKey
  recvChainKey := session.recvChainKey
  sendCount := session.sendCount
  recvCount := session.recvCount
  skippedMessageKeys := entries session.skippedMessageKeys
  consumedMessageNumbers := ascending session.consumedMessageNumbers
  dhPrivateKey := session.dhKeys.privateKey
  peerRatchetPublicKey := session.peerRatchetPublicKey

def fromState (state : RatchetSessionState P) : RatchetSession P where
  role := state.role
  rootKey := state.rootKey
  sendChainKey := state.sendChainKey
  recvChainKey := state.recvChainKey
  sendCount := state.sendCount
  recvCount := state.recvCount
  skippedMessageKeys := collect state.skippedMessageKeys
  consumedMessageNumbers := state.consumedMessageNumbers.toFinset
  dhKeys := .fromPrivateBytes state.dhPrivateKey
  peerRatchetPublicKey := state.peerRatchetPublicKey

/-- Restoring an exported session gives the session back. -/
@[simp] theorem fromState_state (session : RatchetSession P) :
    fromState session.state = session := by
  simp [fromState, state]

end RatchetSession

end CipherMesh
