import CipherMesh.Foundation.Ensures
import CipherMesh.Handshake.Established
import CipherMesh.Ratchet.Invariant

/-!
# Rejected messages

`decrypt` applies the header of a message and takes the message key before it
knows whether the ciphertext is authentic, and it undoes neither when a later
check fails.  This module determines for which messages a failed call leaves the
session as it was.
-/

namespace CipherMesh

open Foundation
open Foundation.Mutation

variable {P : Primitives}

namespace RatchetSession

variable {session ready reached : RatchetSession P}

/-! ## The checks of `decrypt` as predicates -/

/-- A number would have to be skipped and no further key can be stored. -/
def WindowFull (session : RatchetSession P) (number : Nat) : Prop :=
  number ∉ session.skippedMessageKeys ∧ session.recvCount < number ∧
    maxSkippedMessageKeys ≤ session.skippedMessageKeys.keys.card

/-- The message key the session holds for a number. -/
def heldKey (session : RatchetSession P) (number : Nat) : P.Block :=
  (session.skippedMessageKeys.lookup number).getD
    (chainMessageKey (chainKeyAfter session.recvChainKey (number - session.recvCount)))

/-- The ciphertext opens to a text under a message key. -/
def Decodes (messageKey : P.Block) (message : RatchetMessage P) : Prop :=
  ∃ plaintext text, opens messageKey message = some plaintext ∧
    plaintext.toText = some text

/-- The session in its current epoch accepts the message. -/
structure Accepts (session : RatchetSession P) (message : RatchetMessage P) : Prop where
  unreceived : ¬ session.AlreadyReceived message.number
  inWindow : session.InWindow message.number
  decodes : Decodes (session.heldKey message.number) message

/-! ## Outcomes from predicates -/

theorem Ready.heldKey {number : Nat} {messageKey : P.Block}
    (taken : session.Ready number messageKey ready) :
    messageKey = session.heldKey number := by
  cases taken with
  | stored unconsumed present => rw [RatchetSession.heldKey, present, Option.getD_some]
  | reached unconsumed absent ahead room =>
      rw [RatchetSession.heldKey, Finmap.lookup_eq_none.mpr absent, Option.getD_none]

theorem Ready.not_windowFull {number : Nat} {messageKey : P.Block}
    (taken : session.Ready number messageKey ready) : ¬ session.WindowFull number := by
  rintro ⟨notStored, ahead, full⟩
  rcases taken.inWindow.2 with member | ⟨_, room⟩
  · exact notStored member
  · omega

/-- Taking a message key is visible in the session. -/
theorem Ready.ne {number : Nat} {messageKey : P.Block}
    (taken : session.Ready number messageKey ready) : ready ≠ session := by
  intro equal
  cases taken with
  | stored unconsumed present =>
      have erased := congrArg (fun state => state.skippedMessageKeys.lookup number) equal
      simp [present] at erased
  | reached unconsumed absent ahead room =>
      have count := congrArg recvCount equal
      change session.recvCount + (number - session.recvCount) + 1 = session.recvCount at count
      omega

/-- A message that was decrypted was accepted. -/
theorem Outcome.accepts {message : RatchetMessage P} {text : String}
    (outcome : session.Outcome message (.ok text) reached) : session.Accepts message := by
  cases outcome with
  | @accepted _ _ plaintext _ taken opened decoded =>
      refine ⟨taken.inWindow.1, taken.inWindow.2, plaintext, text, ?_, decoded⟩
      rwa [← taken.heldKey]

/-- An accepted message cannot end in an error. -/
theorem Accepts.not_error {message : RatchetMessage P} (accepts : session.Accepts message)
    {error : CryptoError} (outcome : session.Outcome message (.error error) reached) :
    False := by
  cases outcome with
  | replayed seen => exact accepts.unreceived seen
  | exhausted unconsumed absent ahead noRoom =>
      rcases accepts.inWindow with member | ⟨_, room⟩
      · exact absent member
      · omega
  | unopened taken refused =>
      obtain ⟨plaintext, _, opened, _⟩ := accepts.decodes
      rw [← taken.heldKey, refused] at opened
      cases opened
  | garbled taken opened malformed =>
      obtain ⟨plaintext, text, sameOpened, decoded⟩ := accepts.decodes
      rw [← taken.heldKey, opened] at sameOpened
      obtain rfl := Option.some.inj sameOpened
      rw [malformed] at decoded
      cases decoded

/-! ## When a failed call changes nothing -/

/-- If `decrypt` returns an error, the session afterwards is the one before. -/
def KeptOnError (session : RatchetSession P) (message : RatchetMessage P) : Prop :=
  ∀ error reached, (decrypt message).run session = (.error error, reached) →
    reached = session

/-- Either the session that the header selects accepts the message, or the header
is the current one and the number is refused before any key is taken. -/
def HandledCleanly (session : RatchetSession P) (message : RatchetMessage P) : Prop :=
  (session.entered message.ratchetPublicKey).Accepts message ∨
    (message.ratchetPublicKey = session.peerRatchetPublicKey ∧
      (session.AlreadyReceived message.number ∨ session.WindowFull message.number))

/-- A new header is visible in the session. -/
theorem header_eq_of_kept {message : RatchetMessage P}
    (outcome : (session.entered message.ratchetPublicKey).Outcome message result reached)
    (kept : reached = session) : message.ratchetPublicKey = session.peerRatchetPublicKey := by
  obtain ⟨_, _, _, _, _, publicKey⟩ := outcome.frame
  rw [← kept, publicKey, entered_peerRatchetPublicKey]

theorem handledCleanly_of_kept {message : RatchetMessage P}
    (wf : session.WellFormed) (kept : session.KeptOnError message) :
    session.HandledCleanly message := by
  have outcome := decrypt_outcome wf message
  rcases run : (decrypt message).run session with ⟨result, reached⟩
  rw [run] at outcome
  cases result with
  | ok text =>
      exact .inl outcome.accepts
  | error error =>
      right
      have same := kept error reached run
      have header := header_eq_of_kept outcome same
      refine ⟨header, ?_⟩
      rw [header, entered_same] at outcome
      cases outcome with
      | replayed seen => exact .inl seen
      | exhausted unconsumed absent ahead noRoom =>
          right
          have count := congrArg recvCount same
          change session.recvCount + (_ - _) = session.recvCount at count
          have bound := wf.skipped_card
          exact ⟨absent, by omega, by omega⟩
      | unopened taken refused => exact absurd same taken.ne
      | @garbled _ ready _ taken opened malformed =>
          have numbers := congrArg consumedMessageNumbers same
          change insert message.number ready.consumedMessageNumbers =
            session.consumedMessageNumbers at numbers
          exact absurd (.inl (numbers ▸ Finset.mem_insert_self _ _)) taken.inWindow.1

theorem kept_of_handledCleanly {message : RatchetMessage P}
    (wf : session.WellFormed) (refused : session.HandledCleanly message) :
    session.KeptOnError message := by
  intro error reached run
  have outcome := decrypt_outcome wf message
  rw [run] at outcome
  rcases refused with accepts | ⟨header, early⟩
  · exact absurd outcome accepts.not_error
  · rw [header, entered_same] at outcome
    cases outcome with
    | replayed seen => rfl
    | exhausted unconsumed absent ahead noRoom =>
        rcases early with received | ⟨_, _, full⟩
        · exact absurd received (by
            rintro (consumed | ⟨_, below⟩)
            · exact unconsumed consumed
            · omega)
        · rw [Nat.sub_eq_zero_of_le full]
          rfl
    | unopened taken refused =>
        exact absurd early (not_or.mpr ⟨taken.inWindow.1, taken.not_windowFull⟩)
    | garbled taken opened malformed =>
        exact absurd early (not_or.mpr ⟨taken.inWindow.1, taken.not_windowFull⟩)

/-- A failed `decrypt` leaves a reachable session as it was exactly when the
message is refused early or is not refused at all. -/
theorem keptOnError_iff_handledCleanly (reachable : calls.Reachable session)
    (message : RatchetMessage P) :
    session.KeptOnError message ↔ session.HandledCleanly message := by
  obtain ⟨epoch, invariant⟩ := atEpoch_of_reachable reachable
  exact ⟨handledCleanly_of_kept invariant.toWellFormed,
    kept_of_handledCleanly invariant.toWellFormed⟩

end RatchetSession

/-! ## Initial messages -/

namespace Bob

variable {bob : Bob P}

/-- If `decryptInitialMessage` returns an error, the one-time prekey and the session are
the ones before. -/
def KeptOnError (bob : Bob P) (message : InitialMessage P) : Prop :=
  ∀ error reached, (decryptInitialMessage message).run bob = (.error error, reached) →
    reached.oneTimePrekey = bob.oneTimePrekey ∧ reached.session = bob.session

/-- The session that the named prekey opens accepts the message.  A message that names no
held prekey is handled cleanly. -/
def HandledCleanly (bob : Bob P) (message : InitialMessage P) : Prop :=
  ∀ oneTimePrekey, bob.oneTimePrekey = some oneTimePrekey →
    oneTimePrekey.id = message.oneTimePrekeyId →
      ((bob.initialSession oneTimePrekey message).entered
        message.message.ratchetPublicKey).Accepts message.message

/-- Without the named prekey Bob is not touched. -/
theorem run_decryptInitialMessage_of_unnamed {message : InitialMessage P}
    (unnamed : ∀ oneTimePrekey, bob.oneTimePrekey = some oneTimePrekey →
      oneTimePrekey.id ≠ message.oneTimePrekeyId) :
    (decryptInitialMessage message).run bob = (.error .preKeyUnavailable, bob) := by
  obtain ⟨identity, keys, signedPrekey, held, session⟩ := bob
  cases held with
  | none => rfl
  | some oneTimePrekey =>
      simp [decryptInitialMessage, openInitialSession, unnamed oneTimePrekey rfl]

theorem initialSession_outcome (oneTimePrekey : OneTimePreKey P) (message : InitialMessage P) :
    let session := bob.initialSession oneTimePrekey message
    (session.entered message.message.ratchetPublicKey).Outcome message.message
      ((RatchetSession.decrypt message.message).run session).1
      ((RatchetSession.decrypt message.message).run session).2 :=
  RatchetSession.decrypt_outcome
    (RatchetSession.AtEpoch.fresh _ _ _ _).toWellFormed message.message

/-- A failed `decryptInitialMessage` leaves the prekey and the session exactly when the
message names another prekey or is not refused at all. -/
theorem initialMessage_keptOnError_iff (bob : Bob P) (message : InitialMessage P) :
    bob.KeptOnError message ↔ bob.HandledCleanly message := by
  constructor
  · intro kept oneTimePrekey present named
    have run := run_decryptInitialMessage present named
    have outcome := bob.initialSession_outcome oneTimePrekey message
    dsimp only at run outcome
    cases result : ((RatchetSession.decrypt message.message).run
        (bob.initialSession oneTimePrekey message)).1 with
    | ok text =>
        rw [result] at outcome
        exact outcome.accepts
    | error error =>
        -- the prekey is gone
        rw [result] at run
        have unchanged := (kept error _ run).1
        rw [present] at unchanged
        cases unchanged
  · intro clean error reached failed
    by_cases named : ∃ oneTimePrekey, bob.oneTimePrekey = some oneTimePrekey ∧
        oneTimePrekey.id = message.oneTimePrekeyId
    · obtain ⟨oneTimePrekey, present, sameId⟩ := named
      have outcome := bob.initialSession_outcome oneTimePrekey message
      rw [run_decryptInitialMessage present sameId] at failed
      dsimp only at outcome
      rw [(Prod.mk.inj failed).1] at outcome
      exact ((clean oneTimePrekey present sameId).not_error outcome).elim
    · have unnamed : ∀ oneTimePrekey, bob.oneTimePrekey = some oneTimePrekey →
          oneTimePrekey.id ≠ message.oneTimePrekeyId :=
        fun oneTimePrekey present sameId => named ⟨oneTimePrekey, present, sameId⟩
      rw [run_decryptInitialMessage_of_unnamed unnamed] at failed
      obtain ⟨-, rfl⟩ := Prod.mk.inj failed
      exact ⟨rfl, rfl⟩

/-- The message names the held prekey, and the session that this prekey opens accepts it. -/
def Opens (bob : Bob P) (message : InitialMessage P) : Prop :=
  ∃ oneTimePrekey, bob.oneTimePrekey = some oneTimePrekey ∧
    oneTimePrekey.id = message.oneTimePrekeyId ∧
      ((bob.initialSession oneTimePrekey message).entered
        message.message.ratchetPublicKey).Accepts message.message

/-- `decryptInitialMessage` returns a text only for a message that opens. -/
theorem ensures_opens (bob : Bob P) (message : InitialMessage P) :
    (decryptInitialMessage message).Ensures bob (fun _ _ => bob.Opens message)
      fun _ _ => True := by
  refine Ensures.run.mono (fun text reached run => ?_) fun _ _ _ => trivial
  by_cases named : ∃ oneTimePrekey, bob.oneTimePrekey = some oneTimePrekey ∧
      oneTimePrekey.id = message.oneTimePrekeyId
  · obtain ⟨oneTimePrekey, present, sameId⟩ := named
    have outcome := bob.initialSession_outcome oneTimePrekey message
    rw [run_decryptInitialMessage present sameId] at run
    dsimp only at outcome
    rw [(Prod.mk.inj run).1] at outcome
    exact ⟨oneTimePrekey, present, sameId, outcome.accepts⟩
  · have unnamed : ∀ oneTimePrekey, bob.oneTimePrekey = some oneTimePrekey →
        oneTimePrekey.id ≠ message.oneTimePrekeyId :=
      fun oneTimePrekey present sameId => named ⟨oneTimePrekey, present, sameId⟩
    rw [run_decryptInitialMessage_of_unnamed unnamed] at run
    cases run

end Bob

/-! ## A forged header -/

namespace Symbolic

open RatchetSession

theorem sessions_reachable (side : RatchetRole) : calls.Reachable (sessions side) := by
  refine ⟨sessions side, ?_, .refl⟩
  cases side with
  | alice => exact ⟨_, .alice, keys .alice, (keys .bob).publicKey, new_eq _ _ _ _⟩
  | bob => exact ⟨_, .bob, keys .bob, (keys .alice).publicKey, new_eq _ _ _ _⟩

/-- A message under a foreign ratchet key with a ciphertext nobody sealed. -/
def forged : RatchetMessage primitives where
  number := 0
  ratchetPublicKey := Bytes.ofText "mallory"
  ciphertext := ⟨.nil, [], [], []⟩

theorem forged_keptOnError_iff :
    (sessions .bob).KeptOnError forged ↔ (sessions .bob).HandledCleanly forged :=
  keptOnError_iff_handledCleanly (sessions_reachable .bob) forged

/-- Bob refuses the forged message, keeps what its header did to his session, and
then refuses the genuine one that he would have accepted before. -/
theorem forged_header_changes_session :
    calls.Reachable (sessions .bob) ∧
      ¬ (sessions .bob).KeptOnError forged ∧
      ((encrypt "hello").run (sessions .alice)).1 = .ok greeting ∧
      ((decrypt greeting).run (sessions .bob)).1 = .ok "hello" ∧
      ((decrypt forged).run (sessions .bob)).1 = .error .decrypt ∧
      ((decrypt greeting).run ((decrypt forged).run (sessions .bob)).2).1 =
        .error .decrypt := by
  refine ⟨sessions_reachable .bob, ?_, by decide, by decide, by decide, by decide⟩
  intro kept
  have same := kept .decrypt ((decrypt forged).run (sessions .bob)).2 rfl
  have header := congrArg peerRatchetPublicKey same
  exact absurd header (by decide)

/-- An initial message that names Bob's prekey, with the forged ciphertext. -/
def forgedInitial : InitialMessage primitives where
  aliceInitialPublicKey := Bytes.ofText "mallory"
  oneTimePrekeyId := 1
  message := forged

/-- Bob refuses the forged initial message.  His prekey is gone, and so is the session that
would have decrypted Alice's next message. -/
theorem forgedInitial_changes_bob :
    ¬ receivingBob.KeptOnError forgedInitial ∧
      ((Bob.decryptInitialMessage forgedInitial).run receivingBob).1 = .error .decrypt ∧
      ((Bob.decryptFromAlice greeting).run receivingBob).1 = .ok "hello" ∧
      ((Bob.decryptFromAlice greeting).run
        ((Bob.decryptInitialMessage forgedInitial).run receivingBob).2).1 = .error .decrypt ∧
      ((Bob.decryptInitialMessage forgedInitial).run
        receivingBob).2.oneTimePrekey.isNone = true := by
  refine ⟨?_, by decide, by decide, by decide, by decide⟩
  intro kept
  have unchanged := (kept .decrypt _ rfl).1
  exact absurd (congrArg Option.isSome unchanged) (by decide)

end Symbolic

end CipherMesh
