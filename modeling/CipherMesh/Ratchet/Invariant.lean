import CipherMesh.Ratchet.Decryption
import CipherMesh.Foundation.Reachability

/-!
# Sessions inside an epoch

`AtEpoch` is the invariant of a session: its keys are those of one epoch of the
key tree at the positions its counters name, and its bookkeeping of received
numbers is in order.  Every call keeps the invariant, for the same epoch or for
one that is a DH ratchet further.
-/

namespace CipherMesh

open Foundation
open Foundation.Mutation

variable {P : Primitives}

namespace RatchetSession

variable {session ready reached : RatchetSession P} {epoch : Epoch P}

/-- The keys of the session are the keys of the epoch. -/
structure AtEpoch (session : RatchetSession P) (epoch : Epoch P) : Prop
    extends WellFormed session where
  rootKey : session.rootKey = epoch.rootKey
  sendChainKey : session.sendChainKey = epoch.chainKey session.role session.sendCount
  recvChainKey : session.recvChainKey = epoch.chainKey session.role.peer session.recvCount
  stored : ∀ {number messageKey},
    session.skippedMessageKeys.lookup number = some messageKey →
      messageKey = epoch.messageKey session.role.peer number

/-! ## Preservation -/

namespace AtEpoch

theorem fresh (rootKey : P.Block) (role : RatchetRole) (dhKeys : X25519KeyPair P)
    (publicKey : P.PublicKey) :
    (fresh rootKey role dhKeys publicKey).AtEpoch (.initial rootKey) where
  skipped_lt member := absurd member Finmap.notMem_empty
  skipped_card := Nat.zero_le _
  consumed_lt member := absurd member (Finset.notMem_empty _)
  consumed_not_skipped member := absurd member (Finset.notMem_empty _)
  rootKey := rfl
  sendChainKey := rfl
  recvChainKey := rfl
  stored present := absurd present (by simp [RatchetSession.fresh])

theorem sent (invariant : session.AtEpoch epoch) : session.sent.AtEpoch epoch where
  toWellFormed := { invariant.toWellFormed with }
  rootKey := invariant.rootKey
  sendChainKey := by
    change nextChainKey session.sendChainKey = epoch.chainKey session.role (session.sendCount + 1)
    rw [invariant.sendChainKey, Epoch.chainKey_succ]
  recvChainKey := invariant.recvChainKey
  stored := invariant.stored

theorem ratcheted (session : RatchetSession P) (rootKey : session.rootKey = epoch.rootKey)
    (dhOutput : P.Block) :
    (session.ratcheted dhOutput).AtEpoch (epoch.ratchet dhOutput) where
  toWellFormed := .ratcheted session dhOutput
  rootKey := by
    change P.hkdf (some session.rootKey) [dhOutput] dhRatchetInfo 0 = _
    rw [rootKey]
    rfl
  sendChainKey := by
    change P.hkdf (some session.rootKey) [dhOutput] dhRatchetInfo (session.role.index + 1) = _
    rw [rootKey]
    rfl
  recvChainKey := by
    change P.hkdf (some session.rootKey) [dhOutput] dhRatchetInfo
      (session.role.peer.index + 1) = _
    rw [rootKey]
    rfl
  stored present := absurd present (by simp [RatchetSession.ratcheted])

theorem rotated (invariant : session.AtEpoch epoch) (generated : P.PrivateKey) :
    (session.rotated generated).AtEpoch
      (epoch.ratchet (P.diffieHellman generated session.peerRatchetPublicKey)) :=
  ratcheted { session with dhKeys := .generate generated } invariant.rootKey _

end AtEpoch

/-- The epoch of the session a header has entered. -/
def enteredEpoch (session : RatchetSession P) (epoch : Epoch P) (publicKey : P.PublicKey) :
    Epoch P :=
  if publicKey = session.peerRatchetPublicKey then epoch
  else epoch.ratchet (session.dhKeys.dhBytes publicKey)

namespace AtEpoch

theorem entered (invariant : session.AtEpoch epoch) (publicKey : P.PublicKey) :
    (session.entered publicKey).AtEpoch (session.enteredEpoch epoch publicKey) := by
  unfold RatchetSession.entered enteredEpoch
  split
  · exact invariant
  · exact ratcheted { session with peerRatchetPublicKey := publicKey } invariant.rootKey _

/-- The chain advanced to a number that is not passed yet has its message key. -/
theorem messageKey_ahead (invariant : session.AtEpoch epoch) {number : Nat}
    (ahead : session.recvCount ≤ number) :
    chainMessageKey (chainKeyAfter session.recvChainKey (number - session.recvCount)) =
      epoch.messageKey session.role.peer number := by
  rw [invariant.recvChainKey, Epoch.chainKey, chainKeyAfter_add, Nat.add_sub_cancel' ahead]
  rfl

theorem skipping (invariant : session.AtEpoch epoch) {count : Nat}
    (room : session.skippedMessageKeys.keys.card + count ≤ maxSkippedMessageKeys) :
    (session.skipping count).AtEpoch epoch where
  toWellFormed := invariant.toWellFormed.skipping room
  rootKey := invariant.rootKey
  sendChainKey := invariant.sendChainKey
  recvChainKey := by
    change chainKeyAfter session.recvChainKey count =
      epoch.chainKey session.role.peer (session.recvCount + count)
    rw [invariant.recvChainKey, Epoch.chainKey, chainKeyAfter_add, Epoch.chainKey]
  stored := by
    intro number messageKey present
    change (session.storedKeys count).lookup number = some messageKey at present
    rw [lookup_storedKeys] at present
    split at present
    · next inside =>
        obtain rfl := Option.some.inj present
        exact invariant.messageKey_ahead inside.1
    · exact invariant.stored present

/-- The key that is taken for a number is the message key of that number. -/
theorem taken_messageKey (invariant : session.AtEpoch epoch) {number : Nat}
    {messageKey : P.Block} (taken : session.Ready number messageKey ready) :
    messageKey = epoch.messageKey session.role.peer number := by
  cases taken with
  | stored unconsumed present => exact invariant.stored present
  | reached unconsumed absent ahead room => exact invariant.messageKey_ahead ahead

theorem taken (invariant : session.AtEpoch epoch) {number : Nat} {messageKey : P.Block}
    (taken : session.Ready number messageKey ready) : ready.AtEpoch epoch := by
  cases taken with
  | stored unconsumed present =>
      exact {
        skipped_lt := fun member => invariant.skipped_lt (Finmap.mem_erase.mp member).2
        skipped_card := by
          rw [Finmap.keys_erase]
          exact (Finset.card_erase_le).trans invariant.skipped_card
        consumed_lt := invariant.consumed_lt
        consumed_not_skipped := fun consumed member =>
          invariant.consumed_not_skipped consumed (Finmap.mem_erase.mp member).2
        rootKey := invariant.rootKey
        sendChainKey := invariant.sendChainKey
        recvChainKey := invariant.recvChainKey
        stored := by
          intro other otherKey found
          rcases eq_or_ne other number with rfl | different
          · rw [Finmap.lookup_erase] at found
            cases found
          · rw [Finmap.lookup_erase_ne different] at found
            exact invariant.stored found }
  | reached unconsumed absent ahead room =>
      have before := invariant.skipping room
      exact {
        skipped_lt := fun member => Nat.lt_succ_of_lt (before.skipped_lt member)
        skipped_card := before.skipped_card
        consumed_lt := fun consumed => Nat.lt_succ_of_lt (before.consumed_lt consumed)
        consumed_not_skipped := before.consumed_not_skipped
        rootKey := before.rootKey
        sendChainKey := before.sendChainKey
        recvChainKey := by
          change nextChainKey (session.skipping _).recvChainKey = _
          rw [before.recvChainKey]
          rfl
        stored := before.stored }

end AtEpoch

/-- A number whose key was taken is behind the receive counter and has no stored
key any more. -/
theorem Ready.number_taken (wf : session.WellFormed) {number : Nat} {messageKey : P.Block}
    (taken : session.Ready number messageKey ready) :
    number < ready.recvCount ∧ number ∉ ready.skippedMessageKeys := by
  cases taken with
  | stored unconsumed present =>
      refine ⟨wf.skipped_lt ?_, fun member => (Finmap.mem_erase.mp member).1 rfl⟩
      rw [← Finmap.lookup_isSome, present]
      rfl
  | reached unconsumed absent ahead room =>
      constructor
      · change number < session.recvCount + (number - session.recvCount) + 1
        omega
      · intro member
        rcases (mem_storedKeys _).mp member with inside | before
        · omega
        · exact absent before

theorem AtEpoch.consumed (invariant : session.AtEpoch epoch) {number : Nat}
    (below : number < session.recvCount) (absent : number ∉ session.skippedMessageKeys) :
    (session.consumed number).AtEpoch epoch where
  skipped_lt := invariant.skipped_lt
  skipped_card := invariant.skipped_card
  consumed_lt := by
    intro other member
    rcases Finset.mem_insert.mp member with rfl | before
    · exact below
    · exact invariant.consumed_lt before
  consumed_not_skipped := by
    intro other member
    rcases Finset.mem_insert.mp member with rfl | before
    · exact absent
    · exact invariant.consumed_not_skipped before
  rootKey := invariant.rootKey
  sendChainKey := invariant.sendChainKey
  recvChainKey := invariant.recvChainKey
  stored := invariant.stored

theorem AtEpoch.taken_consumed (invariant : session.AtEpoch epoch) {number : Nat}
    {messageKey : P.Block} (taken : session.Ready number messageKey ready) :
    (ready.consumed number).AtEpoch epoch := by
  obtain ⟨below, absent⟩ := taken.number_taken invariant.toWellFormed
  exact (invariant.taken taken).consumed below absent

/-- Every way of ending keeps the invariant. -/
theorem AtEpoch.outcome (invariant : session.AtEpoch epoch) {message : RatchetMessage P}
    {result : Except CryptoError String} (outcome : session.Outcome message result reached) :
    reached.AtEpoch epoch := by
  cases outcome with
  | replayed seen => exact invariant
  | exhausted unconsumed absent ahead noRoom =>
      apply invariant.skipping
      have := invariant.skipped_card
      omega
  | unopened taken refused => exact invariant.taken taken
  | garbled taken opened malformed => exact invariant.taken_consumed taken
  | accepted taken opened decoded => exact invariant.taken_consumed taken

/-- `decrypt` keeps the invariant, in the epoch its header entered. -/
theorem AtEpoch.decrypt (invariant : session.AtEpoch epoch) (message : RatchetMessage P) :
    ((decrypt message).run session).2.AtEpoch
      (session.enteredEpoch epoch message.ratchetPublicKey) :=
  (invariant.entered _).outcome (decrypt_outcome invariant.toWellFormed message)

/-! ## What a call leaves alone -/

theorem Ready.frame {number : Nat} {messageKey : P.Block}
    (taken : session.Ready number messageKey ready) :
    ready.role = session.role ∧ ready.rootKey = session.rootKey ∧
      ready.sendChainKey = session.sendChainKey ∧ ready.sendCount = session.sendCount ∧
      ready.dhKeys = session.dhKeys ∧
      ready.peerRatchetPublicKey = session.peerRatchetPublicKey ∧
      ready.consumedMessageNumbers = session.consumedMessageNumbers := by
  cases taken <;> exact ⟨rfl, rfl, rfl, rfl, rfl, rfl, rfl⟩

/-- `decrypt` changes the sending side only through its header. -/
theorem Outcome.frame {message : RatchetMessage P} {result : Except CryptoError String}
    (outcome : session.Outcome message result reached) :
    reached.role = session.role ∧ reached.rootKey = session.rootKey ∧
      reached.sendChainKey = session.sendChainKey ∧ reached.sendCount = session.sendCount ∧
      reached.dhKeys = session.dhKeys ∧
      reached.peerRatchetPublicKey = session.peerRatchetPublicKey := by
  cases outcome with
  | replayed seen => exact ⟨rfl, rfl, rfl, rfl, rfl, rfl⟩
  | exhausted unconsumed absent ahead noRoom => exact ⟨rfl, rfl, rfl, rfl, rfl, rfl⟩
  | unopened taken refused =>
      obtain ⟨role, root, chain, count, keys, publicKey, _⟩ := taken.frame
      exact ⟨role, root, chain, count, keys, publicKey⟩
  | garbled taken opened malformed =>
      obtain ⟨role, root, chain, count, keys, publicKey, _⟩ := taken.frame
      exact ⟨role, root, chain, count, keys, publicKey⟩
  | accepted taken opened decoded =>
      obtain ⟨role, root, chain, count, keys, publicKey, _⟩ := taken.frame
      exact ⟨role, root, chain, count, keys, publicKey⟩

/-- No outcome forgets a consumed number. -/
theorem Outcome.consumed_subset {message : RatchetMessage P}
    {result : Except CryptoError String} (outcome : session.Outcome message result reached) :
    session.consumedMessageNumbers ⊆ reached.consumedMessageNumbers := by
  have kept : ∀ {messageKey : P.Block} {ready : RatchetSession P},
      session.Ready message.number messageKey ready →
        session.consumedMessageNumbers ⊆ ready.consumedMessageNumbers := by
    intro messageKey ready taken
    obtain ⟨_, _, _, _, _, _, numbers⟩ := taken.frame
    exact numbers.symm.subset
  cases outcome with
  | replayed seen => exact Finset.Subset.refl _
  | exhausted unconsumed absent ahead noRoom => exact Finset.Subset.refl _
  | unopened taken refused => exact kept taken
  | garbled taken opened malformed => exact (kept taken).trans (Finset.subset_insert _ _)
  | accepted taken opened decoded => exact (kept taken).trans (Finset.subset_insert _ _)

/-- A header leaves the session in its epoch or moves it to a deeper one. -/
theorem enteredEpoch_cases (session : RatchetSession P) (epoch : Epoch P)
    (publicKey : P.PublicKey) :
    (session.enteredEpoch epoch publicKey = epoch ∧ session.entered publicKey = session) ∨
      epoch.depth < (session.enteredEpoch epoch publicKey).depth := by
  unfold enteredEpoch RatchetSession.entered
  split
  · exact .inl ⟨rfl, rfl⟩
  · exact .inr (Nat.lt_succ_self _)

/-! ## Reachable sessions -/

/-- The calls on one session; a restart restores the exported state. -/
inductive Call (P : Primitives) where
  | encrypt (text : String)
  | decrypt (message : RatchetMessage P)
  | rotateSendingRatchet (generated : P.PrivateKey)
  | restart

/-- All runs of calls on a session that `new` created. -/
def calls : System (RatchetSession P) (Call P) where
  initial session := ∃ rootKey role dhKeys publicKey,
    new rootKey role dhKeys publicKey = .ok session
  permitted _ _ := True
  next session
    | .encrypt text => ((encrypt text).run session).2
    | .decrypt message => ((RatchetSession.decrypt message).run session).2
    | .rotateSendingRatchet generated => ((rotateSendingRatchet generated).run session).2
    | .restart => fromState session.state

theorem run_encrypt_state (session : RatchetSession P) (text : String) :
    ((encrypt text).run session).2 = session.sent := by
  rw [run_encrypt]
  cases session.sealNext text <;> rfl

/-- A reachable session is in some epoch. -/
theorem atEpoch_of_reachable (reachable : calls.Reachable session) :
    ∃ epoch, session.AtEpoch epoch := by
  apply reachable.invariant
  · rintro start ⟨rootKey, role, dhKeys, publicKey, created⟩
    rw [new_eq] at created
    obtain rfl := Except.ok.inj created
    exact ⟨_, .fresh _ _ _ _⟩
  · rintro current call ⟨epoch, invariant⟩ -
    cases call with
    | encrypt text =>
        refine ⟨epoch, ?_⟩
        change ((encrypt text).run current).2.AtEpoch epoch
        rw [run_encrypt_state]
        exact invariant.sent
    | decrypt message => exact ⟨_, invariant.decrypt message⟩
    | rotateSendingRatchet generated =>
        refine ⟨epoch.ratchet (P.diffieHellman generated current.peerRatchetPublicKey), ?_⟩
        change ((rotateSendingRatchet generated).run current).2.AtEpoch _
        rw [run_rotateSendingRatchet]
        exact invariant.rotated generated
    | restart =>
        refine ⟨epoch, ?_⟩
        change (fromState current.state).AtEpoch epoch
        rwa [fromState_state]

end RatchetSession

end CipherMesh
