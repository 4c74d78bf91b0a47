import CipherMesh.Handshake.Established
import CipherMesh.Ratchet.Invariant

/-!
# Positions on the chains of an epoch

A run of one session remembers the session as it was when its current epoch began, also
with every exported state.  The chain keys and the stored message keys are those of the
chains that began there, at the positions that the counters name.
-/

namespace CipherMesh

open Foundation
open Foundation.Mutation

variable {P : Primitives}

namespace RatchetSession

variable {session reached start : RatchetSession P}

/-! ## The receive counter -/

theorem entered_recvCount (publicKey : P.PublicKey) :
    (session.entered publicKey).recvCount =
      if publicKey = session.peerRatchetPublicKey then session.recvCount else 0 := by
  unfold entered
  split <;> rfl

theorem Ready.recvCount_le {ready : RatchetSession P} {number : Nat} {messageKey : P.Block}
    (taken : session.Ready number messageKey ready) :
    ready.recvCount ≤ session.recvCount + (maxSkippedMessageKeys + 1) := by
  cases taken with
  | stored unconsumed present => exact Nat.le_add_right _ _
  | reached unconsumed absent ahead room =>
      change session.recvCount + (number - session.recvCount) + 1 ≤ _
      omega

/-- The loop passes at most eight numbers before the one that is opened. -/
theorem Outcome.recvCount_le {message : RatchetMessage P} {result : Except CryptoError String}
    (outcome : session.Outcome message result reached) :
    reached.recvCount ≤ session.recvCount + (maxSkippedMessageKeys + 1) := by
  cases outcome with
  | replayed seen => exact Nat.le_add_right _ _
  | exhausted unconsumed absent ahead noRoom =>
      change session.recvCount + (maxSkippedMessageKeys - _) ≤ _
      omega
  | unopened taken refused => exact taken.recvCount_le
  | garbled taken opened malformed => exact taken.recvCount_le
  | accepted taken opened decoded => exact taken.recvCount_le

/-! ## Positions -/

/-- The keys of the session lie on the chains of `start` where its counters and numbers
say, and its numbers are in order. -/
structure InPosition (session start : RatchetSession P) : Prop where
  started : start.sendCount = 0 ∧ start.recvCount = 0
  skipped_card : session.skippedMessageKeys.keys.card ≤ maxSkippedMessageKeys
  disjoint : ∀ number ∈ session.consumedMessageNumbers, number ∉ session.skippedMessageKeys
  below : ∀ number, number ∈ session.skippedMessageKeys ∨
    number ∈ session.consumedMessageNumbers → number < session.recvCount
  skipped : ∀ number messageKey, session.skippedMessageKeys.lookup number = some messageKey →
    messageKey = chainMessageKey (chainKeyAfter start.recvChainKey number)
  recvChainKey : session.recvChainKey = chainKeyAfter start.recvChainKey session.recvCount
  sendChainKey : session.sendChainKey = chainKeyAfter start.sendChainKey session.sendCount

/-- The two are in one epoch, which began with `start`. -/
structure Since (session start : RatchetSession P) (epoch : Epoch P) : Prop where
  current : session.AtEpoch epoch
  first : start.AtEpoch epoch
  role : start.role = session.role
  sendCount : start.sendCount = 0
  recvCount : start.recvCount = 0

namespace Since

variable {epoch : Epoch P}

theorem inPosition (since : session.Since start epoch) : session.InPosition start := by
  have sendStart : start.sendChainKey = epoch.chainStart session.role := by
    rw [since.first.sendChainKey, since.role, since.sendCount]
    rfl
  have recvStart : start.recvChainKey = epoch.chainStart session.role.peer := by
    rw [since.first.recvChainKey, since.role, since.recvCount]
    rfl
  constructor
  · exact ⟨since.sendCount, since.recvCount⟩
  · exact since.current.skipped_card
  · exact fun number => since.current.consumed_not_skipped
  · exact fun number member => member.elim since.current.skipped_lt since.current.consumed_lt
  · intro number messageKey present
    rw [recvStart]
    exact since.current.stored present
  · rw [recvStart]
    exact since.current.recvChainKey
  · rw [sendStart]
    exact since.current.sendChainKey

/-- A session that begins an epoch. -/
theorem self (current : session.AtEpoch epoch) (sendCount : session.sendCount = 0)
    (recvCount : session.recvCount = 0) : session.Since session epoch :=
  ⟨current, current, rfl, sendCount, recvCount⟩

/-- A call that stays in the epoch. -/
theorem next (since : session.Since start epoch) (current : reached.AtEpoch epoch)
    (role : reached.role = session.role) : reached.Since start epoch :=
  ⟨current, since.first, since.role.trans role.symm, since.sendCount, since.recvCount⟩

end Since

/-! ## Runs -/

/-- A session and the session that began its epoch.  `exported` are the exported states, each
with the session that began the epoch of that state. -/
structure EpochRun (P : Primitives) where
  session : RatchetSession P
  start : RatchetSession P
  exported : List (RatchetSessionState P × RatchetSession P)

/-- The calls on one session; any state that was exported before can be imported. -/
inductive SessionCall (P : Primitives) where
  | encrypt (text : String)
  | decrypt (message : RatchetMessage P)
  | rotateSendingRatchet (generated : P.PrivateKey)
  | exportState
  | importState (index : Nat)

/-- All runs of calls on a session that `new` created.  A rotation begins an epoch, and so
does a header with a new ratchet key, before the message is looked at. -/
def sessionRuns : System (EpochRun P) (SessionCall P) where
  initial run := (∃ rootKey role dhKeys publicKey,
    new rootKey role dhKeys publicKey = .ok run.session) ∧
      run.start = run.session ∧ run.exported = []
  permitted _ _ := True
  next run
    | .encrypt text => { run with session := ((encrypt text).run run.session).2 }
    | .decrypt message => { run with
        session := ((decrypt message).run run.session).2
        start :=
          if message.ratchetPublicKey = run.session.peerRatchetPublicKey then run.start
          else ((receiveDhRatchet message.ratchetPublicKey).run run.session).2 }
    | .rotateSendingRatchet generated => { run with
        session := ((rotateSendingRatchet generated).run run.session).2
        start := ((rotateSendingRatchet generated).run run.session).2 }
    | .exportState =>
        { run with exported := run.exported ++ [(run.session.state, run.start)] }
    | .importState index =>
        match run.exported[index]? with
        | none => run
        | some (state, start) => { run with session := fromState state, start }

/-- The session and every exported state are in the epoch that is remembered with them. -/
structure EpochRun.Remembers (run : EpochRun P) : Prop where
  session : ∃ epoch, run.session.Since run.start epoch
  exported : ∀ entry ∈ run.exported, ∃ epoch, (fromState entry.1).Since entry.2 epoch

theorem Since.decrypt {epoch : Epoch P} (since : session.Since start epoch)
    (message : RatchetMessage P) :
    ∃ epoch, ((RatchetSession.decrypt message).run session).2.Since
      (if message.ratchetPublicKey = session.peerRatchetPublicKey then start
        else ((receiveDhRatchet message.ratchetPublicKey).run session).2) epoch := by
  have reached := since.current.decrypt message
  have sameRole := (decrypt_outcome since.current.toWellFormed message).frame.1
  rw [entered_role] at sameRole
  by_cases same : message.ratchetPublicKey = session.peerRatchetPublicKey
  · rw [if_pos same]
    rw [enteredEpoch, if_pos same] at reached
    exact ⟨epoch, since.next reached sameRole⟩
  · rw [if_neg same, run_receiveDhRatchet session same]
    have entered := since.current.entered message.ratchetPublicKey
    have began : (session.entered message.ratchetPublicKey).Since
        (session.entered message.ratchetPublicKey) _ := .self entered
      (by rw [RatchetSession.entered, if_neg same]; rfl)
      (by rw [entered_recvCount, if_neg same])
    refine ⟨_, began.next reached ?_⟩
    rw [sameRole, entered_role]

theorem remembers_next {run : EpochRun P} (remembers : run.Remembers) (call : SessionCall P) :
    (sessionRuns.next run call).Remembers := by
  obtain ⟨epoch, since⟩ := remembers.session
  cases call with
  | encrypt text =>
      refine ⟨⟨epoch, ?_⟩, remembers.exported⟩
      change ((encrypt text).run run.session).2.Since run.start epoch
      rw [run_encrypt_state]
      exact since.next since.current.sent rfl
  | decrypt message => exact ⟨since.decrypt message, remembers.exported⟩
  | rotateSendingRatchet generated =>
      have began : ∃ next, (run.session.rotated generated).Since
          (run.session.rotated generated) next :=
        ⟨_, .self (since.current.rotated generated) rfl rfl⟩
      have rotated := congrArg Prod.snd (run_rotateSendingRatchet run.session generated)
      refine ⟨?_, remembers.exported⟩
      simp only [sessionRuns, rotated]
      exact began
  | exportState =>
      refine ⟨remembers.session, fun entry member => ?_⟩
      rcases List.mem_append.mp member with earlier | added
      · exact remembers.exported entry earlier
      · obtain rfl := List.mem_singleton.mp added
        refine ⟨epoch, ?_⟩
        rw [fromState_state]
        exact since
  | importState index =>
      simp only [sessionRuns]
      split
      · exact remembers
      · next state start found =>
          exact ⟨remembers.exported _ (List.mem_of_getElem? found), remembers.exported⟩

/-- In every run of encryptions, decryptions of any messages, rotations, exports and imports,
the keys of the session are in position on the chains of its epoch, and one decryption moves
the receive counter by at most nine within an epoch. -/
theorem inPosition_of_reachable {run : EpochRun P} (reachable : sessionRuns.Reachable run) :
    run.session.InPosition run.start ∧ ∀ message : RatchetMessage P,
      ((decrypt message).run run.session).2.recvCount ≤
        (if message.ratchetPublicKey = run.session.peerRatchetPublicKey
          then run.session.recvCount else 0) + (maxSkippedMessageKeys + 1) := by
  have remembers : run.Remembers := by
    apply reachable.invariant
    · rintro start ⟨⟨rootKey, role, dhKeys, publicKey, created⟩, same, none⟩
      rw [new_eq] at created
      have began := Except.ok.inj created
      constructor
      · rw [same, ← began]
        exact ⟨_, .self (.fresh _ _ _ _) rfl rfl⟩
      · rw [none]
        exact fun entry member => absurd member List.not_mem_nil
    · exact fun current call holds _ => remembers_next holds call
  obtain ⟨epoch, since⟩ := remembers.session
  refine ⟨since.inPosition, fun message => ?_⟩
  rw [← entered_recvCount]
  exact (decrypt_outcome since.current.toWellFormed message).recvCount_le

end RatchetSession

namespace Symbolic

open RatchetSession

/-- Bob refuses a message that claims a later number, opens the first one and exports his
state.  A foreign header and a rotation begin new epochs, and the import goes back. -/
def mixedCalls : List (SessionCall primitives) :=
  [.decrypt { greeting with number := 2 }, .decrypt greeting, .exportState,
    .decrypt { greeting with ratchetPublicKey := Bytes.ofText "mallory" },
    .rotateSendingRatchet (Bytes.ofText "new"), .encrypt "hello", .importState 0]

def mixedRun : EpochRun primitives :=
  sessionRuns.run ⟨sessions .bob, sessions .bob, []⟩ mixedCalls

theorem mixedRun_inPosition :
    mixedRun.session.recvCount = 3 ∧ mixedRun.session.consumedMessageNumbers = {0} ∧
      mixedRun.session.skippedMessageKeys.keys = {1} ∧
      mixedRun.session.InPosition mixedRun.start ∧
      ((decrypt { greeting with number := 100 }).run mixedRun.session).2.recvCount ≤ 3 + 9 := by
  have reachable : sessionRuns.Reachable mixedRun := by
    refine ⟨⟨sessions .bob, sessions .bob, []⟩, ⟨⟨_, .bob, keys .bob, _, new_eq _ _ _ _⟩, rfl, rfl⟩,
      System.Permits.reaches ?_⟩
    exact ⟨trivial, trivial, trivial, trivial, trivial, trivial, trivial, trivial⟩
  have holds := inPosition_of_reachable reachable
  exact ⟨by decide +kernel, by decide +kernel, by decide +kernel, holds.1, holds.2 _⟩

end Symbolic

end CipherMesh
