import CipherMesh.Crypto.Derivation
import CipherMesh.Handshake.Established
import CipherMesh.Ratchet.Invariant

/-!
# What a stolen session state opens

An exported state holds the root key, both chain keys, the skipped message keys and the
private ratchet key.  The chains of the first epoch are derived from the root key that is
kept, so the state opens all of that epoch.  The chains of a later epoch are derived next to
the root key that is kept, so the state opens what the chains have not passed.  Both are
worse when the private key shares the secrets that the handshake was made of.
-/

namespace CipherMesh

open Foundation
open Foundation.Mutation
open RatchetSession

variable {P : Primitives}

/-! ## Handshakes -/

/-- The root key of a handshake and the shared secrets that it was derived from. -/
inductive HandshakeKey : List P.Block → P.Block → Prop where
  | keyExchange {keys : X25519KeyPair P} {peer : P.PublicKey} {rootKey : P.Block}
      (derived : keys.deriveAeadKey peer = .ok rootKey) :
      HandshakeKey [keys.dhBytes peer] rootKey
  | prekey {first second : X25519KeyPair P} {peer otherPeer : P.PublicKey} {rootKey : P.Block}
      (derived : derivePrekeyAeadKey (first.dhBytes peer) (second.dhBytes otherPeer) =
        .ok rootKey) :
      HandshakeKey [first.dhBytes peer, second.dhBytes otherPeer] rootKey

/-- The block is a shared secret of two key pairs. -/
def IsShared (block : P.Block) : Prop := ∃ own peer, block = P.diffieHellman own peer

namespace HandshakeKey

variable {shares : List P.Block} {rootKey : P.Block}

theorem isShared (handshake : HandshakeKey shares rootKey) : ∀ share ∈ shares, IsShared share := by
  cases handshake <;> simp [IsShared, X25519KeyPair.dhBytes]

/-- The info string keeps handshake keys apart from everything below them. -/
theorem exists_info (handshake : HandshakeKey shares rootKey) :
    ∃ info, rootKey = P.hkdf none shares info 0 ∧ info ≠ initialChainInfo ∧
      info ≠ chainStepInfo := by
  cases handshake with
  | keyExchange derived => exact ⟨hkdfInfo, (Except.ok.inj derived).symm, by decide, by decide⟩
  | prekey derived => exact ⟨prekeyHkdfInfo, (Except.ok.inj derived).symm, by decide, by decide⟩

theorem grounded (handshake : HandshakeKey shares rootKey) : Epoch.HandshakeRoot rootKey := by
  obtain ⟨info, derived, _⟩ := handshake.exists_info
  exact ⟨shares, info, 0, derived⟩

end HandshakeKey

/-! ## Epochs on one line -/

namespace Epoch

/-- The epoch and the ones before it. -/
def line : Epoch P → List (Epoch P)
  | initial rootKey => [initial rootKey]
  | ratchet previous dhOutput => ratchet previous dhOutput :: previous.line

/-- The DH outputs of the ratchets since the handshake. -/
def dhOutputs : Epoch P → List P.Block
  | initial _ => []
  | ratchet previous dhOutput => dhOutput :: previous.dhOutputs

theorem self_mem_line (epoch : Epoch P) : epoch ∈ epoch.line := by
  cases epoch <;> exact List.mem_cons_self

theorem depth_le_of_mem_line {epoch past : Epoch P} (member : past ∈ epoch.line) :
    past.depth ≤ epoch.depth := by
  induction epoch with
  | initial rootKey => rw [List.mem_singleton.mp member]
  | ratchet previous dhOutput previousIH =>
      rcases List.mem_cons.mp member with rfl | earlier
      · exact Nat.le_refl _
      · exact Nat.le_succ_of_le (previousIH earlier)

theorem base_of_mem_line {epoch past : Epoch P} (member : past ∈ epoch.line) :
    past.base = epoch.base := by
  induction epoch with
  | initial rootKey => rw [List.mem_singleton.mp member]
  | ratchet previous dhOutput previousIH =>
      rcases List.mem_cons.mp member with rfl | earlier
      · rfl
      · exact previousIH earlier

theorem dhOutputs_subset_of_mem_line {epoch past : Epoch P} (member : past ∈ epoch.line) :
    past.dhOutputs ⊆ epoch.dhOutputs := by
  induction epoch with
  | initial rootKey => rw [List.mem_singleton.mp member]; exact List.Subset.refl _
  | ratchet previous dhOutput previousIH =>
      rcases List.mem_cons.mp member with rfl | earlier
      · exact List.Subset.refl _
      · exact List.subset_cons_of_subset _ (previousIH earlier)

/-- Every DH output on the way to the epoch is a shared secret. -/
def Ratcheted (epoch : Epoch P) : Prop := ∀ dhOutput ∈ epoch.dhOutputs, IsShared dhOutput

/-! ## Keys of different kinds -/

section Injective

variable (injective : P.HkdfInjective)
include injective

theorem rootKey_ne_chainKey {shares : List P.Block} {epoch other : Epoch P}
    (handshake : HandshakeKey shares epoch.base) (sender : RatchetRole) (number : Nat) :
    epoch.rootKey ≠ other.chainKey sender number := by
  intro same
  cases epoch with
  | initial rootKey =>
      obtain ⟨info, derived, notInitial, notStep⟩ := handshake.exists_info
      change rootKey = _ at same
      rw [show rootKey = _ from derived] at same
      cases number with
      | zero =>
          cases other with
          | initial otherRoot => exact notInitial (injective same).2.2.1
          | ratchet previous dhOutput => exact Option.some_ne_none _ (injective same).1.symm
      | succ number => exact notStep (injective same).2.2.1
  | ratchet previous dhOutput =>
      cases number with
      | zero =>
          cases other with
          | initial otherRoot => exact Option.some_ne_none _ (injective same).1
          | ratchet previous dhOutput => exact Nat.succ_ne_zero _ (injective same).2.2.2.symm
      | succ number => exact Option.some_ne_none _ (injective same).1

theorem rootKey_ne_messageKey {shares : List P.Block} {epoch other : Epoch P}
    (handshake : HandshakeKey shares epoch.base) (sender : RatchetRole) (number : Nat) :
    epoch.rootKey ≠ other.messageKey sender number := by
  intro same
  cases epoch with
  | initial rootKey =>
      obtain ⟨info, derived, _, notStep⟩ := handshake.exists_info
      change rootKey = _ at same
      rw [show rootKey = _ from derived] at same
      exact notStep (injective same).2.2.1
  | ratchet previous dhOutput => exact Option.some_ne_none _ (injective same).1

theorem chainKey_ne_messageKey {epoch other : Epoch P} (sender otherSender : RatchetRole)
    (number otherNumber : Nat) :
    epoch.chainKey sender number ≠ other.messageKey otherSender otherNumber := by
  have initialDiffers : initialChainInfo ≠ chainStepInfo := by decide
  intro same
  cases number with
  | zero =>
      cases epoch with
      | initial rootKey => exact initialDiffers (injective same).2.2.1
      | ratchet previous dhOutput => exact Option.some_ne_none _ (injective same).1
  | succ number => exact Nat.zero_ne_one (injective same).2.2.2

end Injective

/-- Every key of the tree is an output of HKDF. -/
theorem rootKey_isHkdf {shares : List P.Block} {epoch : Epoch P}
    (handshake : HandshakeKey shares epoch.base) :
    ∃ salt input info index, epoch.rootKey = P.hkdf salt input info index := by
  cases epoch with
  | initial rootKey =>
      obtain ⟨info, derived, _⟩ := handshake.exists_info
      exact ⟨_, _, _, _, derived⟩
  | ratchet previous dhOutput => exact ⟨_, _, _, _, rfl⟩

theorem chainKey_isHkdf (epoch : Epoch P) (sender : RatchetRole) (number : Nat) :
    ∃ salt input info index, epoch.chainKey sender number = P.hkdf salt input info index := by
  cases number with
  | zero => cases epoch <;> exact ⟨_, _, _, _, rfl⟩
  | succ number => exact ⟨_, _, _, _, rfl⟩

end Epoch

/-! ## The loot of an exported state -/

/-- The secrets of an exported state, with private keys from elsewhere. -/
def RatchetSessionState.loot (state : RatchetSessionState P) (others : Set P.PrivateKey) :
    Loot P where
  blocks block := block = state.rootKey ∨ block = state.sendChainKey ∨
    block = state.recvChainKey ∨ ∃ number, (number, block) ∈ state.skippedMessageKeys
  privateKeys := insert state.dhPrivateKey others

/-- The chain of the sender has not passed the number. -/
def RatchetSession.Ahead (session : RatchetSession P) (sender : RatchetRole) (number : Nat) :
    Prop :=
  sender = session.role ∧ session.sendCount ≤ number ∨
    sender = session.role.peer ∧ session.recvCount ≤ number

/-- The message key of the number can be computed from a chain key or is stored. -/
def RatchetSession.Holds (session : RatchetSession P) (sender : RatchetRole) (number : Nat) :
    Prop :=
  session.Ahead sender number ∨
    sender = session.role.peer ∧ number ∈ session.skippedMessageKeys

/-- What the theft of `session` is about: it is in `epoch`, below a handshake. -/
structure Theft (session : RatchetSession P) (epoch : Epoch P) (shares : List P.Block) : Prop where
  injective : P.HkdfInjective
  separate : P.DhSeparate
  current : session.AtEpoch epoch
  handshake : HandshakeKey shares epoch.base

namespace Theft

variable {session : RatchetSession P} {epoch other : Epoch P} {shares : List P.Block}
  {others : Set P.PrivateKey} {sender : RatchetRole} {number : Nat}

/-- The stolen blocks, by their places in the tree. -/
theorem mem_blocks_iff (theft : Theft session epoch shares) {block : P.Block} :
    block ∈ (session.state.loot others).blocks ↔
      block = epoch.rootKey ∨ block = epoch.chainKey session.role session.sendCount ∨
        block = epoch.chainKey session.role.peer session.recvCount ∨
          ∃ number ∈ session.skippedMessageKeys,
            block = epoch.messageKey session.role.peer number := by
  change (block = session.rootKey ∨ block = session.sendChainKey ∨
    block = session.recvChainKey ∨ ∃ number, (number, block) ∈ entries _) ↔ _
  rw [theft.current.rootKey, theft.current.sendChainKey, theft.current.recvChainKey]
  refine or_congr_right (or_congr_right (or_congr_right ?_))
  constructor
  · rintro ⟨number, stored⟩
    have present := mem_entries.mp stored
    exact ⟨number, Finmap.mem_of_lookup_eq_some present, theft.current.stored present⟩
  · rintro ⟨number, member, rfl⟩
    obtain ⟨messageKey, present⟩ := Finmap.mem_iff.mp member
    exact ⟨number, mem_entries.mpr (theft.current.stored present ▸ present)⟩

/-- No stolen block is a shared secret. -/
theorem not_isShared (theft : Theft session epoch shares) {block : P.Block}
    (member : block ∈ (session.state.loot others).blocks) : ¬ IsShared block := by
  rintro ⟨own, peer, rfl⟩
  rcases theft.mem_blocks_iff.mp member with root | send | recv | ⟨number, -, stored⟩
  · obtain ⟨salt, input, info, index, derived⟩ := Epoch.rootKey_isHkdf theft.handshake
    exact theft.separate _ _ _ _ _ _ (root.trans derived)
  · obtain ⟨salt, input, info, index, derived⟩ := Epoch.chainKey_isHkdf epoch _ _
    exact theft.separate _ _ _ _ _ _ (send.trans derived)
  · obtain ⟨salt, input, info, index, derived⟩ := Epoch.chainKey_isHkdf epoch _ _
    exact theft.separate _ _ _ _ _ _ (recv.trans derived)
  · exact theft.separate _ _ _ _ _ _ stored

theorem derivable_isShared_iff (theft : Theft session epoch shares) {block : P.Block}
    (isShared : IsShared block) :
    Derivable (session.state.loot others) block ↔ (session.state.loot others).Shares block := by
  obtain ⟨own, peer, rfl⟩ := isShared
  rw [derivable_shared_iff theft.separate]
  exact or_iff_right fun member => theft.not_isShared member ⟨own, peer, rfl⟩

section Places

variable (theft : Theft session epoch shares) (sameBase : other.base = epoch.base)
include theft sameBase

theorem rootKey_mem_iff :
    other.rootKey ∈ (session.state.loot others).blocks ↔ other = epoch := by
  have handshake : HandshakeKey shares other.base := sameBase ▸ theft.handshake
  rw [theft.mem_blocks_iff]
  constructor
  · rintro (root | send | recv | ⟨number, -, stored⟩)
    · exact Epoch.rootKey_injective theft.injective handshake.grounded
        theft.handshake.grounded root
    · exact absurd send (Epoch.rootKey_ne_chainKey theft.injective handshake _ _)
    · exact absurd recv (Epoch.rootKey_ne_chainKey theft.injective handshake _ _)
    · exact absurd stored (Epoch.rootKey_ne_messageKey theft.injective handshake _ _)
  · rintro rfl
    exact .inl rfl

theorem eq_of_rootKey_eq (same : other.rootKey = epoch.rootKey) : other = epoch :=
  Epoch.rootKey_injective theft.injective (sameBase ▸ theft.handshake.grounded)
    theft.handshake.grounded same

theorem chainKey_mem_iff :
    other.chainKey sender number ∈ (session.state.loot others).blocks ↔
      other = epoch ∧ (sender = session.role ∧ number = session.sendCount ∨
        sender = session.role.peer ∧ number = session.recvCount) := by
  rw [theft.mem_blocks_iff]
  constructor
  · rintro (root | send | recv | ⟨number, -, stored⟩)
    · exact absurd root.symm (Epoch.rootKey_ne_chainKey theft.injective theft.handshake _ _)
    · obtain ⟨root, sender, number⟩ := Epoch.chainKey_injective theft.injective send
      exact ⟨theft.eq_of_rootKey_eq sameBase root, .inl ⟨sender, number⟩⟩
    · obtain ⟨root, sender, number⟩ := Epoch.chainKey_injective theft.injective recv
      exact ⟨theft.eq_of_rootKey_eq sameBase root, .inr ⟨sender, number⟩⟩
    · exact absurd stored (Epoch.chainKey_ne_messageKey theft.injective _ _ _ _)
  · rintro ⟨rfl, ⟨rfl, rfl⟩ | ⟨rfl, rfl⟩⟩
    · exact .inr (.inl rfl)
    · exact .inr (.inr (.inl rfl))

theorem messageKey_mem_iff :
    other.messageKey sender number ∈ (session.state.loot others).blocks ↔
      other = epoch ∧ sender = session.role.peer ∧ number ∈ session.skippedMessageKeys := by
  rw [theft.mem_blocks_iff]
  constructor
  · rintro (root | send | recv | ⟨stored, member, same⟩)
    · exact absurd root.symm (Epoch.rootKey_ne_messageKey theft.injective theft.handshake _ _)
    · exact absurd send.symm (Epoch.chainKey_ne_messageKey theft.injective _ _ _ _)
    · exact absurd recv.symm (Epoch.chainKey_ne_messageKey theft.injective _ _ _ _)
    · obtain ⟨root, sender, rfl⟩ := Epoch.messageKey_injective theft.injective same
      exact ⟨theft.eq_of_rootKey_eq sameBase root, sender, member⟩
  · rintro ⟨rfl, rfl, member⟩
    exact .inr (.inr (.inr ⟨number, member, rfl⟩))

end Places

end Theft

/-! ## What can be computed -/

/-- The keys from which the two chains of an epoch are derived can be computed. -/
def Epoch.ChainsOpen (loot : Loot P) : Epoch P → Prop
  | .initial rootKey => Derivable loot rootKey
  | .ratchet previous dhOutput => Derivable loot previous.rootKey ∧ Derivable loot dhOutput

/-- The stolen private keys share every secret on the way to the epoch. -/
def Epoch.Exposed (loot : Loot P) (shares : List P.Block) (epoch : Epoch P) : Prop :=
  (∀ share ∈ shares, loot.Shares share) ∧ ∀ dhOutput ∈ epoch.dhOutputs, loot.Shares dhOutput

theorem Epoch.derivable_chainStart_iff (injective : P.HkdfInjective) (separate : P.DhSeparate)
    {loot : Loot P} {epoch : Epoch P} {sender : RatchetRole} :
    Derivable loot (epoch.chainStart sender) ↔
      epoch.chainStart sender ∈ loot.blocks ∨ epoch.ChainsOpen loot := by
  cases epoch with
  | initial rootKey =>
      rw [chainStart, derivable_hkdf_iff injective separate]
      simp [ChainsOpen]
  | ratchet previous dhOutput =>
      rw [chainStart, derivable_hkdf_iff injective separate]
      simp [ChainsOpen]

namespace Theft

variable {session : RatchetSession P} {epoch other : Epoch P} {shares : List P.Block}
  {others : Set P.PrivateKey} {sender : RatchetRole} {number : Nat}

section Computed

variable (theft : Theft session epoch shares) (sameBase : other.base = epoch.base)
include theft sameBase

theorem derivable_chainKey_iff :
    Derivable (session.state.loot others) (other.chainKey sender number) ↔
      other.ChainsOpen (session.state.loot others) ∨
        other = epoch ∧ session.Ahead sender number := by
  induction number with
  | zero =>
      rw [Epoch.chainKey_zero, Epoch.derivable_chainStart_iff theft.injective theft.separate,
        ← Epoch.chainKey_zero, theft.chainKey_mem_iff sameBase, or_comm]
      simp only [RatchetSession.Ahead, Nat.le_zero, eq_comm (a := 0)]
  | succ number numberIH =>
      have step : Derivable (session.state.loot others) (other.chainKey sender (number + 1)) ↔
          other.chainKey sender (number + 1) ∈ (session.state.loot others).blocks ∨
            Derivable (session.state.loot others) (other.chainKey sender number) := by
        rw [Epoch.chainKey_succ, nextChainKey, derivable_hkdf_iff theft.injective theft.separate]
        simp
      rw [step, numberIH, theft.chainKey_mem_iff sameBase]
      simp only [RatchetSession.Ahead, Nat.le_succ_iff, eq_comm (a := number + 1)]
      tauto

/-- A message key can be computed from its chain, or it is stored. -/
theorem derivable_messageKey_iff :
    Derivable (session.state.loot others) (other.messageKey sender number) ↔
      other.ChainsOpen (session.state.loot others) ∨
        other = epoch ∧ session.Holds sender number := by
  have step : Derivable (session.state.loot others) (other.messageKey sender number) ↔
      other.messageKey sender number ∈ (session.state.loot others).blocks ∨
        Derivable (session.state.loot others) (other.chainKey sender number) := by
    rw [Epoch.messageKey, chainMessageKey, derivable_hkdf_iff theft.injective theft.separate]
    simp
  rw [step, theft.derivable_chainKey_iff sameBase, theft.messageKey_mem_iff sameBase]
  unfold RatchetSession.Holds
  tauto

end Computed

theorem derivable_initial_iff (theft : Theft session epoch shares) {rootKey : P.Block}
    (sameBase : rootKey = epoch.base) :
    Derivable (session.state.loot others) rootKey ↔ .initial rootKey = epoch ∨
      ∀ share ∈ shares, (session.state.loot others).Shares share := by
  have handshake : HandshakeKey shares rootKey := sameBase ▸ theft.handshake
  obtain ⟨info, derived, _⟩ := handshake.exists_info
  have shared : ∀ share ∈ shares, Derivable (session.state.loot others) share ↔
      (session.state.loot others).Shares share :=
    fun share member => theft.derivable_isShared_iff (theft.handshake.isShared share member)
  have place : (Epoch.initial rootKey).rootKey ∈ (session.state.loot others).blocks ↔
      .initial rootKey = epoch := theft.rootKey_mem_iff sameBase
  rw [← place, Epoch.rootKey, derived, derivable_hkdf_iff theft.injective theft.separate]
  simp only [Option.mem_def, reduceCtorEq, false_implies, implies_true, true_and]
  exact or_congr_right (forall₂_congr shared)

theorem derivable_ratchet_iff (theft : Theft session epoch shares) {previous : Epoch P}
    {dhOutput : P.Block} (sameBase : previous.base = epoch.base) (isShared : IsShared dhOutput) :
    Derivable (session.state.loot others) (previous.ratchet dhOutput).rootKey ↔
      previous.ratchet dhOutput = epoch ∨
        Derivable (session.state.loot others) previous.rootKey ∧
          (session.state.loot others).Shares dhOutput := by
  have place : (previous.ratchet dhOutput).rootKey ∈ (session.state.loot others).blocks ↔
      previous.ratchet dhOutput = epoch := theft.rootKey_mem_iff sameBase
  rw [← place, Epoch.rootKey, derivable_hkdf_iff theft.injective theft.separate,
    ← theft.derivable_isShared_iff isShared]
  simp

/-- The root key of an epoch that does not follow the stolen one can only be computed
from private keys. -/
theorem derivable_rootKey_iff_exposed (theft : Theft session epoch shares)
    (sameBase : other.base = epoch.base) (ratcheted : other.Ratcheted)
    (apart : epoch ∉ other.line) :
    Derivable (session.state.loot others) other.rootKey ↔
      other.Exposed (session.state.loot others) shares := by
  induction other with
  | initial rootKey =>
      have differs : .initial rootKey ≠ epoch :=
        fun same => apart (List.mem_singleton.mpr same.symm)
      refine (theft.derivable_initial_iff sameBase).trans ?_
      simp [differs, Epoch.Exposed, Epoch.dhOutputs]
  | ratchet previous dhOutput previousIH =>
      have differs : previous.ratchet dhOutput ≠ epoch :=
        fun same => apart (same ▸ Epoch.self_mem_line _)
      have previousBase : previous.base = epoch.base := sameBase
      have before := previousIH previousBase
        (fun output member => ratcheted output (List.mem_cons_of_mem _ member))
        (fun member => apart (List.mem_cons_of_mem _ member))
      rw [theft.derivable_ratchet_iff previousBase (ratcheted dhOutput List.mem_cons_self),
        before]
      simp only [differs, false_or, Epoch.Exposed, Epoch.dhOutputs, List.forall_mem_cons]
      tauto

end Theft

/-! ## The past -/

namespace Theft

variable {session : RatchetSession P} {epoch past : Epoch P} {shares : List P.Block}
  {others : Set P.PrivateKey} {sender : RatchetRole} {number : Nat}

/-- What a stolen state opens in the epochs so far. -/
theorem opens_iff (theft : Theft session epoch shares) (ratcheted : epoch.Ratcheted)
    (member : past ∈ epoch.line) :
    Derivable (session.state.loot others) (past.messageKey sender number) ↔
      epoch.depth = 0 ∨ past.Exposed (session.state.loot others) shares ∨
        past = epoch ∧ session.Holds sender number := by
  have sameBase := Epoch.base_of_mem_line member
  rw [theft.derivable_messageKey_iff sameBase, ← or_assoc]
  refine or_congr_left ?_
  cases epoch with
  | initial rootKey =>
      obtain rfl := List.mem_singleton.mp member
      have open_ : Derivable (session.state.loot others) rootKey :=
        .stolen ((theft.rootKey_mem_iff rfl).mpr rfl)
      exact ⟨fun _ => .inl rfl, fun _ => open_⟩
  | ratchet previous dhOutput =>
      have later : (previous.ratchet dhOutput).depth ≠ 0 := Nat.succ_ne_zero _
      have before : ∀ earlier ∈ previous.line,
          (Derivable (session.state.loot others) earlier.rootKey ↔
            earlier.Exposed (session.state.loot others) shares) := by
        intro earlier inside
        have earlierBase : earlier.base = previous.base := Epoch.base_of_mem_line inside
        refine theft.derivable_rootKey_iff_exposed earlierBase
          (fun output listed => ratcheted output
            (List.mem_cons_of_mem _ (Epoch.dhOutputs_subset_of_mem_line inside listed)))
          fun again => ?_
        have deeper := Epoch.depth_le_of_mem_line again
        have bound := Epoch.depth_le_of_mem_line inside
        exact absurd (deeper.trans bound) (Nat.not_succ_le_self _)
      simp only [later, false_or]
      rcases List.mem_cons.mp member with rfl | earlier
      · change Derivable _ previous.rootKey ∧ Derivable _ dhOutput ↔ _
        rw [before previous previous.self_mem_line,
          theft.derivable_isShared_iff (ratcheted dhOutput List.mem_cons_self)]
        simp only [Epoch.Exposed, Epoch.dhOutputs, List.forall_mem_cons]
        tauto
      · rw [← before past earlier]
        cases past with
        | initial rootKey => exact Iff.rfl
        | ratchet older output =>
            have olderBase : (older.ratchet output).base = previous.base :=
              Epoch.base_of_mem_line earlier
            have isShared : IsShared output := ratcheted output
              (List.mem_cons_of_mem _ (Epoch.dhOutputs_subset_of_mem_line earlier
                List.mem_cons_self))
            have differs : older.ratchet output ≠ previous.ratchet dhOutput := by
              intro same
              have bound := Epoch.depth_le_of_mem_line earlier
              rw [same] at bound
              exact absurd bound (Nat.not_succ_le_self _)
            change Derivable _ older.rootKey ∧ Derivable _ output ↔ _
            rw [theft.derivable_ratchet_iff (show older.base = previous.base from olderBase)
                isShared,
              theft.derivable_isShared_iff isShared]
            simp only [differs, false_or]

end Theft

/-! ## Runs -/

/-- A session with the epochs that it went through. -/
structure RatchetHistory (P : Primitives) where
  session : RatchetSession P
  epoch : Epoch P

namespace RatchetHistory

/-- The runs of a session that was created over a handshake key. -/
def runs (shares : List P.Block) : System (RatchetHistory P) (Call P) where
  initial history := ∃ rootKey role dhKeys publicKey, HandshakeKey shares rootKey ∧
    new rootKey role dhKeys publicKey = .ok history.session ∧ history.epoch = .initial rootKey
  permitted _ _ := True
  next history
    | .encrypt text => { history with session := ((encrypt text).run history.session).2 }
    | .decrypt message => {
        session := ((decrypt message).run history.session).2
        epoch := history.session.enteredEpoch history.epoch message.ratchetPublicKey }
    | .rotateSendingRatchet generated => {
        session := ((rotateSendingRatchet generated).run history.session).2
        epoch := history.epoch.ratchet
          (P.diffieHellman generated history.session.peerRatchetPublicKey) }
    | .restart => { history with session := fromState history.session.state }

/-- The session is in its epoch, which began with the handshake. -/
structure Sound (history : RatchetHistory P) (shares : List P.Block) : Prop where
  current : history.session.AtEpoch history.epoch
  handshake : HandshakeKey shares history.epoch.base
  ratcheted : history.epoch.Ratcheted

variable {history : RatchetHistory P} {shares : List P.Block}

theorem Sound.ratchet (sound : history.Sound shares) {session : RatchetSession P}
    {dhOutput : P.Block} (isShared : IsShared dhOutput)
    (current : session.AtEpoch (history.epoch.ratchet dhOutput)) :
    Sound ⟨session, history.epoch.ratchet dhOutput⟩ shares where
  current := current
  handshake := sound.handshake
  ratcheted := List.forall_mem_cons.mpr ⟨isShared, sound.ratcheted⟩

theorem Sound.next (sound : history.Sound shares) (call : Call P) :
    ((runs shares).next history call).Sound shares := by
  cases call with
  | encrypt text =>
      refine { sound with current := ?_ }
      change ((encrypt text).run history.session).2.AtEpoch history.epoch
      rw [run_encrypt_state]
      exact sound.current.sent
  | decrypt message =>
      have current := sound.current.decrypt message
      simp only [runs]
      unfold enteredEpoch at current ⊢
      split at current
      · next same =>
          rw [if_pos same]
          exact { sound with current }
      · next differs =>
          rw [if_neg differs]
          exact sound.ratchet ⟨_, _, rfl⟩ current
  | rotateSendingRatchet generated =>
      refine sound.ratchet ⟨_, _, rfl⟩ ?_
      rw [run_rotateSendingRatchet]
      exact sound.current.rotated generated
  | restart =>
      refine { sound with current := ?_ }
      change (fromState history.session.state).AtEpoch history.epoch
      rw [fromState_state]
      exact sound.current

/-- A session that is reached can be stolen. -/
theorem Sound.theft (sound : history.Sound shares) (injective : P.HkdfInjective)
    (separate : P.DhSeparate) : Theft history.session history.epoch shares :=
  ⟨injective, separate, sound.current, sound.handshake⟩

theorem sound_of_reachable (reachable : (runs shares).Reachable history) :
    history.Sound shares := by
  apply reachable.invariant (fun history => history.Sound shares)
  · rintro ⟨session, epoch⟩ ⟨rootKey, role, dhKeys, publicKey, handshake, created, rfl⟩
    rw [new_eq] at created
    obtain rfl := Except.ok.inj created
    exact ⟨.fresh _ _ _ _, handshake, fun output member => absurd member List.not_mem_nil⟩
  · exact fun history call sound _ => sound.next call

/-- In every run, the exported state and private keys from elsewhere open exactly these
messages of the epochs so far: all of the first epoch while it lasts, everything of an epoch
whose secrets the private keys share, and what the session itself could still open. -/
theorem stolen_state_opens_iff (injective : P.HkdfInjective) (separate : P.DhSeparate)
    (reachable : (runs shares).Reachable history) (others : Set P.PrivateKey) {past : Epoch P}
    (member : past ∈ history.epoch.line) (sender : RatchetRole) (number : Nat) :
    Derivable (history.session.state.loot others) (past.messageKey sender number) ↔
      history.epoch.depth = 0 ∨ past.Exposed (history.session.state.loot others) shares ∨
        past = history.epoch ∧ history.session.Holds sender number :=
  have sound := sound_of_reachable reachable
  (sound.theft injective separate).opens_iff sound.ratcheted member

end RatchetHistory

namespace Symbolic

open RatchetHistory

theorem dhSeparate : primitives.DhSeparate := by
  intro own peer salt input info index same
  cases same

def firstShares : List primitives.Block := [(keys .alice).dhBytes (keys .bob).publicKey]

def firstEpoch : Epoch primitives := .initial (sessions .alice).rootKey

/-- Alice sends a message, rotates, and sends another one. -/
def rotatedHistory : RatchetHistory primitives :=
  (runs firstShares).run ⟨sessions .alice, firstEpoch⟩
    [.encrypt "hello", .rotateSendingRatchet (Bytes.ofText "new"), .encrypt "again"]

theorem rotatedHistory_reachable : (runs firstShares).Reachable rotatedHistory :=
  ⟨⟨sessions .alice, firstEpoch⟩, ⟨_, .alice, keys .alice, _, .keyExchange rfl, new_eq _ _ _ _,
    rfl⟩, System.Permits.reaches ⟨trivial, trivial, trivial, trivial⟩⟩

/-- The state opens the next message but neither of the two that were sent; with the key
of the handshake it opens the first one. -/
theorem rotatedHistory_opens :
    ¬ Derivable (rotatedHistory.session.state.loot ∅) (firstEpoch.messageKey .alice 0) ∧
      ¬ Derivable (rotatedHistory.session.state.loot ∅)
        (rotatedHistory.epoch.messageKey .alice 0) ∧
      Derivable (rotatedHistory.session.state.loot ∅)
        (rotatedHistory.epoch.messageKey .alice 1) ∧
      Derivable (rotatedHistory.session.state.loot {Bytes.ofText "alice"})
        (firstEpoch.messageKey .alice 0) := by
  have first : firstEpoch ∈ rotatedHistory.epoch.line := .tail _ (.head _)
  have last : rotatedHistory.epoch ∈ rotatedHistory.epoch.line := .head _
  have openedFirst := fun others => stolen_state_opens_iff hkdfInjective dhSeparate
    rotatedHistory_reachable others first .alice 0
  have openedLast := fun number => stolen_state_opens_iff hkdfInjective dhSeparate
    rotatedHistory_reachable ∅ last .alice number
  have notFirst : firstEpoch ≠ rotatedHistory.epoch := by
    intro same
    cases same
  have unshared : ¬ (rotatedHistory.session.state.loot ∅).Shares
      ((keys .alice).dhBytes (keys .bob).publicKey) := by
    rintro ⟨key, rfl | none, publicKey, same⟩
    · have ends := Sym2.eq_iff.mp (Block.shared.inj same)
      have newKey : rotatedHistory.session.state.dhPrivateKey = Bytes.ofText "new" := rfl
      rw [newKey] at ends
      rcases ends with ⟨own, -⟩ | ⟨own, -⟩
      · exact (by decide : Bytes.ofText "new" ≠ Bytes.ofText "alice") own
      · exact (by decide : Bytes.ofText "new" ≠ Bytes.ofText "bob") own
    · exact none
  have exposed : ∀ past : Epoch primitives,
      ¬ past.Exposed (rotatedHistory.session.state.loot ∅) firstShares :=
    fun past exposed => unshared (exposed.1 _ (.head _))
  refine ⟨fun opened => ?_, fun opened => ?_, ?_, ?_⟩
  · rcases (openedFirst ∅).mp opened with fresh | shared | ⟨same, -⟩
    · exact Nat.succ_ne_zero _ fresh
    · exact exposed _ shared
    · exact notFirst same
  · rcases (openedLast 0).mp opened with fresh | shared | ⟨-, held⟩
    · exact Nat.succ_ne_zero _ fresh
    · exact exposed _ shared
    · rcases held with (⟨-, sent⟩ | ⟨sender, -⟩) | ⟨sender, -⟩
      · exact absurd sent (by decide)
      · exact absurd sender (by decide)
      · exact absurd sender (by decide)
  · exact (openedLast 1).mpr (.inr (.inr ⟨rfl, .inl (.inl ⟨rfl, by decide⟩)⟩))
  · refine (openedFirst _).mpr (.inr (.inl ⟨fun share member => ?_, fun output member => ?_⟩))
    · obtain rfl := List.mem_singleton.mp member
      exact ⟨_, .inr rfl, (keys .bob).publicKey, rfl⟩
    · exact absurd member List.not_mem_nil

end Symbolic

end CipherMesh
