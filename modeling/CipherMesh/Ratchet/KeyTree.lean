import CipherMesh.Ratchet.Session

/-!
# The tree of derived keys

Everything a pair of sessions derives hangs below the root key of its handshake.
An `Epoch` is a position on the root-key chain: the handshake root, or the state
after one more DH ratchet with a given DH output.  Each epoch has two symmetric
chains, one for each sending role, and each chain one message key for every
number.

With an injective HKDF a message key determines the epoch, the sending role and
the number, and with an underivable one the attacker knows a message key only if
it knows the root of the tree.
-/

namespace CipherMesh

open Foundation

variable {P : Primitives}

/-! ## Symmetric chains -/

def nextChainKey (chainKey : P.Block) : P.Block := P.hkdf none [chainKey] chainStepInfo 0

def chainMessageKey (chainKey : P.Block) : P.Block := P.hkdf none [chainKey] chainStepInfo 1

@[simp] theorem advanceChain_eq (chainKey : P.Block) :
    advanceChain chainKey = .ok (nextChainKey chainKey, chainMessageKey chainKey) := rfl

/-- The chain key after a number of steps. -/
def chainKeyAfter (start : P.Block) : Nat → P.Block
  | 0 => start
  | steps + 1 => nextChainKey (chainKeyAfter start steps)

@[simp] theorem chainKeyAfter_zero (start : P.Block) : chainKeyAfter start 0 = start := rfl

theorem chainKeyAfter_succ (start : P.Block) (steps : Nat) :
    chainKeyAfter start (steps + 1) = nextChainKey (chainKeyAfter start steps) := rfl

theorem chainKeyAfter_add (start : P.Block) (first second : Nat) :
    chainKeyAfter (chainKeyAfter start first) second =
      chainKeyAfter start (first + second) := by
  induction second with
  | zero => rfl
  | succ second equal => rw [chainKeyAfter_succ, equal, ← Nat.add_assoc, chainKeyAfter_succ]

/-! ## Epochs -/

namespace RatchetRole

/-- The position of the chain on which this role sends among the two directional
chains. -/
def index : RatchetRole → Nat
  | alice => 0
  | bob => 1

theorem index_injective : Function.Injective index := by
  intro first second equal
  cases first <;> cases second <;> first | rfl | exact absurd equal (by decide)

end RatchetRole

/-- A position on the root-key chain of a session. -/
inductive Epoch (P : Primitives) where
  | initial (rootKey : P.Block)
  | ratchet (previous : Epoch P) (dhOutput : P.Block)

namespace Epoch

def rootKey : Epoch P → P.Block
  | initial rootKey => rootKey
  | ratchet previous dhOutput => P.hkdf (some previous.rootKey) [dhOutput] dhRatchetInfo 0

/-- The first key of the chain on which `sender` sends. -/
def chainStart (sender : RatchetRole) : Epoch P → P.Block
  | initial rootKey => P.hkdf none [rootKey] initialChainInfo sender.index
  | ratchet previous dhOutput =>
      P.hkdf (some previous.rootKey) [dhOutput] dhRatchetInfo (sender.index + 1)

def chainKey (epoch : Epoch P) (sender : RatchetRole) (number : Nat) : P.Block :=
  chainKeyAfter (epoch.chainStart sender) number

def messageKey (epoch : Epoch P) (sender : RatchetRole) (number : Nat) : P.Block :=
  chainMessageKey (epoch.chainKey sender number)

/-- The handshake root below which the epoch lies. -/
def base : Epoch P → P.Block
  | initial rootKey => rootKey
  | ratchet previous _ => previous.base

/-- The number of DH ratchets since the handshake. -/
def depth : Epoch P → Nat
  | initial _ => 0
  | ratchet previous _ => previous.depth + 1

@[simp] theorem base_initial (rootKey : P.Block) : (initial rootKey).base = rootKey := rfl

@[simp] theorem base_ratchet (epoch : Epoch P) (dhOutput : P.Block) :
    (epoch.ratchet dhOutput).base = epoch.base := rfl

@[simp] theorem chainKey_zero (epoch : Epoch P) (sender : RatchetRole) :
    epoch.chainKey sender 0 = epoch.chainStart sender := rfl

theorem chainKey_succ (epoch : Epoch P) (sender : RatchetRole) (number : Nat) :
    epoch.chainKey sender (number + 1) = nextChainKey (epoch.chainKey sender number) := rfl

/-! ## A message key determines its place -/

/-- A root key that was derived without salt, as all handshakes derive theirs.
It is not the root key of a later epoch. -/
def HandshakeRoot (rootKey : P.Block) : Prop :=
  ∃ input info index, rootKey = P.hkdf none input info index

section Injective

variable (injective : P.HkdfInjective)
include injective

theorem nextChainKey_injective : Function.Injective (nextChainKey (P := P)) := by
  intro first second equal
  simpa using (injective equal).2.1

theorem chainMessageKey_injective : Function.Injective (chainMessageKey (P := P)) := by
  intro first second equal
  simpa using (injective equal).2.1

/-- The first key of a chain is not a later key of any chain. -/
theorem chainStart_ne_nextChainKey (epoch : Epoch P) (sender : RatchetRole)
    (chainKey : P.Block) : epoch.chainStart sender ≠ nextChainKey chainKey := by
  have initialDiffers : initialChainInfo ≠ chainStepInfo := by decide
  intro equal
  cases epoch with
  | initial rootKey => exact initialDiffers (injective equal).2.2.1
  | ratchet previous dhOutput => exact Option.some_ne_none _ (injective equal).1

/-- A chain start determines the root key of its epoch and the sending role. -/
theorem rootKey_eq_of_chainStart {epoch other : Epoch P} {sender otherSender : RatchetRole}
    (equal : epoch.chainStart sender = other.chainStart otherSender) :
    epoch.rootKey = other.rootKey ∧ sender = otherSender := by
  cases epoch with
  | initial rootKey =>
      cases other with
      | initial otherRoot =>
          obtain ⟨_, inputEqual, _, indexEqual⟩ := injective equal
          exact ⟨List.head_eq_of_cons_eq inputEqual, RatchetRole.index_injective indexEqual⟩
      | ratchet previous dhOutput =>
          exact absurd (injective equal).1.symm (Option.some_ne_none _)
  | ratchet previous dhOutput =>
      cases other with
      | initial otherRoot => exact absurd (injective equal).1 (Option.some_ne_none _)
      | ratchet otherPrevious otherOutput =>
          obtain ⟨saltEqual, inputEqual, _, indexEqual⟩ := injective equal
          refine ⟨?_, RatchetRole.index_injective (Nat.succ.inj indexEqual)⟩
          rw [rootKey, rootKey, saltEqual, inputEqual]

theorem chainKey_injective {epoch other : Epoch P} {sender otherSender : RatchetRole} :
    ∀ {number otherNumber : Nat},
      epoch.chainKey sender number = other.chainKey otherSender otherNumber →
        epoch.rootKey = other.rootKey ∧ sender = otherSender ∧ number = otherNumber := by
  intro number
  induction number with
  | zero =>
      intro otherNumber equal
      cases otherNumber with
      | zero =>
          obtain ⟨rootEqual, senderEqual⟩ := rootKey_eq_of_chainStart injective equal
          exact ⟨rootEqual, senderEqual, rfl⟩
      | succ otherNumber => exact absurd equal (chainStart_ne_nextChainKey injective _ _ _)
  | succ number numberIH =>
      intro otherNumber equal
      cases otherNumber with
      | zero => exact absurd equal.symm (chainStart_ne_nextChainKey injective _ _ _)
      | succ otherNumber =>
          obtain ⟨rootEqual, senderEqual, numberEqual⟩ :=
            numberIH (nextChainKey_injective injective equal)
          exact ⟨rootEqual, senderEqual, congrArg Nat.succ numberEqual⟩

/-- A message key determines the root key of its epoch, the sending role and the
number. -/
theorem messageKey_injective {epoch other : Epoch P} {sender otherSender : RatchetRole}
    {number otherNumber : Nat}
    (equal : epoch.messageKey sender number = other.messageKey otherSender otherNumber) :
    epoch.rootKey = other.rootKey ∧ sender = otherSender ∧ number = otherNumber :=
  chainKey_injective injective (chainMessageKey_injective injective equal)

/-- Below handshake roots the root key determines the epoch. -/
theorem rootKey_injective {epoch : Epoch P} (grounded : HandshakeRoot epoch.base) :
    ∀ {other : Epoch P}, HandshakeRoot other.base → epoch.rootKey = other.rootKey →
      epoch = other := by
  induction epoch with
  | initial rootKey =>
      intro other otherGrounded equal
      cases other with
      | initial otherRoot => exact congrArg initial equal
      | ratchet previous dhOutput =>
          obtain ⟨input, info, index, derived⟩ := grounded
          exact absurd (injective (derived.symm.trans equal)).1.symm (Option.some_ne_none _)
  | ratchet previous dhOutput previousIH =>
      intro other otherGrounded equal
      cases other with
      | initial otherRoot =>
          obtain ⟨input, info, index, derived⟩ := otherGrounded
          exact absurd (injective (equal.trans derived)).1 (Option.some_ne_none _)
      | ratchet otherPrevious otherOutput =>
          obtain ⟨saltEqual, inputEqual, _, _⟩ := injective equal
          have previousEqual : previous.rootKey = otherPrevious.rootKey :=
            Option.some.inj saltEqual
          have sameEpoch : previous = otherPrevious :=
            previousIH grounded otherGrounded previousEqual
          rw [sameEpoch, List.head_eq_of_cons_eq inputEqual]

end Injective

/-! ## Secrecy -/

/-- Whoever knows the root key of an epoch knows the handshake root. -/
theorem knows_base (attacker : P.Knowledge) {epoch : Epoch P}
    (known : attacker.knows epoch.rootKey) : attacker.knows epoch.base := by
  induction epoch with
  | initial rootKey => exact known
  | ratchet previous dhOutput previousIH =>
      exact previousIH (attacker.salt_of_hkdf known previous.rootKey rfl)

theorem knows_base_of_chainKey (attacker : P.Knowledge) {epoch : Epoch P}
    {sender : RatchetRole} {number : Nat}
    (known : attacker.knows (epoch.chainKey sender number)) :
    attacker.knows epoch.base := by
  induction number with
  | zero =>
      cases epoch with
      | initial rootKey => exact attacker.input_of_hkdf known _ (List.mem_singleton.mpr rfl)
      | ratchet previous dhOutput =>
          have previousKnown : attacker.knows previous.rootKey :=
            attacker.salt_of_hkdf known previous.rootKey rfl
          rw [base_ratchet]
          exact knows_base attacker previousKnown
  | succ number numberIH =>
      exact numberIH (attacker.input_of_hkdf known _ (List.mem_singleton.mpr rfl))

/-- An attacker that does not know the handshake root knows no message key below
it. -/
theorem not_knows_messageKey (attacker : P.Knowledge) {epoch : Epoch P}
    (secret : ¬ attacker.knows epoch.base) (sender : RatchetRole) (number : Nat) :
    ¬ attacker.knows (epoch.messageKey sender number) := by
  intro known
  exact secret (knows_base_of_chainKey attacker
    (attacker.input_of_hkdf known _ (List.mem_singleton.mpr rfl)))

end Epoch

/-! ## Sealed messages -/

/-- The ciphertext of the message is a seal under the key of an epoch. -/
def SealedIn (epoch : Epoch P) (sender : RatchetRole) (message : RatchetMessage P)
    (plaintext : Bytes) : Prop :=
  P.aeadSeal (epoch.messageKey sender message.number) (nonceFor message.number)
    (ratchetAad message.number message.ratchetPublicKey) plaintext = some message.ciphertext

/-- Two messages with one ciphertext are the same message, from the same sender. -/
theorem SealedIn.unique (ideal : P.Ideal) {epoch other : Epoch P} {sender otherSender : RatchetRole}
    {message otherMessage : RatchetMessage P} {plaintext otherPlaintext : Bytes}
    (sealed : SealedIn epoch sender message plaintext)
    (otherSealed : SealedIn other otherSender otherMessage otherPlaintext)
    (same : otherMessage.ciphertext = message.ciphertext) :
    epoch.rootKey = other.rootKey ∧ sender = otherSender ∧ message = otherMessage ∧
      plaintext = otherPlaintext := by
  rw [SealedIn, same] at otherSealed
  obtain ⟨keyEqual, _, aadEqual, plaintextEqual⟩ :=
    ideal.aead.seal_injective sealed otherSealed
  obtain ⟨rootEqual, senderEqual, numberEqual⟩ :=
    Epoch.messageKey_injective ideal.hkdfInjective keyEqual
  refine ⟨rootEqual, senderEqual, ?_, plaintextEqual⟩
  rw [ratchetAad, ratchetAad, numberEqual] at aadEqual
  have publicKeyEqual := ideal.publicKeyBytes_injective (List.append_cancel_left aadEqual)
  obtain ⟨number, publicKey, ciphertext⟩ := message
  obtain ⟨otherNumber, otherPublicKey, otherCiphertext⟩ := otherMessage
  simp only [RatchetMessage.mk.injEq]
  exact ⟨numberEqual, publicKeyEqual, same.symm⟩

end CipherMesh
