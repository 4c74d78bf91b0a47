import CipherMesh.Ratchet.Invariant

/-!
# Delivering genuine messages

A message is genuine for a session when it names the current ratchet key of the
peer and was sealed under the message key that the peer's chain has for its
number.  `decrypt` returns the text of such a message or refuses its number; it
never fails to open it.
-/

namespace CipherMesh

open Foundation
open Foundation.Mutation

variable {P : Primitives}

namespace RatchetSession

variable {session ready reached : RatchetSession P} {epoch : Epoch P}

/-- The message was sealed from `text` for this session in its current epoch. -/
structure Genuine (session : RatchetSession P) (epoch : Epoch P)
    (message : RatchetMessage P) (text : String) : Prop where
  header : message.ratchetPublicKey = session.peerRatchetPublicKey
  sealed : SealedIn epoch session.role.peer message (.ofText text)

/-- Genuineness depends on the role and the header of the session only. -/
theorem Genuine.congr {other : RatchetSession P} {message : RatchetMessage P} {text : String}
    (genuine : session.Genuine epoch message text) (role : other.role = session.role)
    (header : other.peerRatchetPublicKey = session.peerRatchetPublicKey) :
    other.Genuine epoch message text where
  header := genuine.header.trans header.symm
  sealed := role ▸ genuine.sealed

/-- The three ways in which `decrypt` treats a genuine message. -/
theorem Genuine.decrypt_cases (correct : P.AeadCorrect) {message : RatchetMessage P}
    {text : String} (invariant : session.AtEpoch epoch)
    (genuine : session.Genuine epoch message text) :
    (session.AlreadyReceived message.number ∧
        (decrypt message).run session = (.error .replay, session)) ∨
      (∃ messageKey ready, session.Ready message.number messageKey ready ∧
        (decrypt message).run session = (.ok text, ready.consumed message.number)) ∨
      ((message.number ∉ session.skippedMessageKeys ∧ session.recvCount ≤ message.number ∧
          maxSkippedMessageKeys < session.skippedMessageKeys.keys.card +
            (message.number - session.recvCount)) ∧
        (decrypt message).run session =
          (.error .tooManySkippedMessages,
            session.skipping
              (maxSkippedMessageKeys - session.skippedMessageKeys.keys.card))) := by
  have opensToText : opens (epoch.messageKey session.role.peer message.number) message =
      some (.ofText text) := correct genuine.sealed
  have outcome := decrypt_outcome invariant.toWellFormed message
  rw [genuine.header, entered_same] at outcome
  rcases run : (decrypt message).run session with ⟨result, reached⟩
  rw [run] at outcome
  cases outcome with
  | replayed seen => exact .inl ⟨seen, rfl⟩
  | exhausted unconsumed absent ahead noRoom => exact .inr (.inr ⟨⟨absent, ahead, noRoom⟩, rfl⟩)
  | unopened taken refused =>
      rw [invariant.taken_messageKey taken, opensToText] at refused
      cases refused
  | garbled taken opened malformed =>
      rw [invariant.taken_messageKey taken, opensToText] at opened
      obtain rfl := Option.some.inj opened
      rw [Bytes.toText_ofText] at malformed
      cases malformed
  | accepted taken opened decoded =>
      rw [invariant.taken_messageKey taken, opensToText] at opened
      obtain rfl := Option.some.inj opened
      rw [Bytes.toText_ofText] at decoded
      obtain rfl := Option.some.inj decoded
      exact .inr (.inl ⟨_, _, taken, rfl⟩)

/-- A number that was not received and lies in the window is accepted. -/
theorem Genuine.decrypt_ok (correct : P.AeadCorrect) {message : RatchetMessage P}
    {text : String} (invariant : session.AtEpoch epoch)
    (genuine : session.Genuine epoch message text)
    (unreceived : ¬ session.AlreadyReceived message.number)
    (inWindow : session.InWindow message.number) :
    ∃ messageKey ready, session.Ready message.number messageKey ready ∧
      (decrypt message).run session = (.ok text, ready.consumed message.number) := by
  rcases genuine.decrypt_cases correct invariant with
    ⟨received, _⟩ | accepted | ⟨⟨absent, _, noRoom⟩, _⟩
  · exact absurd received unreceived
  · exact accepted
  · rcases inWindow with member | ⟨_, room⟩
    · exact absurd member absent
    · omega

/-- Delivering a genuine message returns its text and consumes its number, or fails
and consumes nothing. -/
theorem Genuine.decrypt_progress (correct : P.AeadCorrect) {message : RatchetMessage P}
    {text : String} (invariant : session.AtEpoch epoch)
    (genuine : session.Genuine epoch message text) :
    (((decrypt message).run session).1 = .ok text ∧
        ((decrypt message).run session).2.consumedMessageNumbers =
          insert message.number session.consumedMessageNumbers) ∨
      ((∃ error, ((decrypt message).run session).1 = .error error) ∧
        ((decrypt message).run session).2.consumedMessageNumbers =
          session.consumedMessageNumbers) := by
  rcases genuine.decrypt_cases correct invariant with
    ⟨_, run⟩ | ⟨_, ready, taken, run⟩ | ⟨_, run⟩
  · rw [run]
    exact .inr ⟨⟨_, rfl⟩, rfl⟩
  · rw [run]
    obtain ⟨_, _, _, _, _, _, numbers⟩ := taken.frame
    exact .inl ⟨rfl, congrArg (insert message.number) numbers⟩
  · rw [run]
    exact .inr ⟨⟨_, rfl⟩, rfl⟩

/-- Under the current header `decrypt` leaves the sending side alone. -/
theorem decrypt_frame (wf : session.WellFormed) {message : RatchetMessage P}
    (header : message.ratchetPublicKey = session.peerRatchetPublicKey) :
    let after := ((decrypt message).run session).2
    after.role = session.role ∧ after.sendCount = session.sendCount ∧
      after.dhKeys = session.dhKeys ∧
      after.peerRatchetPublicKey = session.peerRatchetPublicKey := by
  have outcome := decrypt_outcome wf message
  rw [header, entered_same] at outcome
  obtain ⟨role, _, _, count, keys, publicKey⟩ := outcome.frame
  exact ⟨role, count, keys, publicKey⟩

/-- The next message in order is accepted. -/
theorem Genuine.decrypt_next (correct : P.AeadCorrect) {message : RatchetMessage P}
    {text : String} (invariant : session.AtEpoch epoch)
    (genuine : session.Genuine epoch message text)
    (inOrder : message.number = session.recvCount) :
    (decrypt message).run session = (.ok text, session.received.consumed message.number) := by
  have unreceived : ¬ session.AlreadyReceived message.number := by
    rintro (consumed | ⟨_, below⟩)
    · exact absurd (invariant.consumed_lt consumed) (by omega)
    · omega
  have room : session.skippedMessageKeys.keys.card + (message.number - session.recvCount) ≤
      maxSkippedMessageKeys := by
    have bound := invariant.skipped_card
    omega
  obtain ⟨_, ready, taken, run⟩ :=
    genuine.decrypt_ok correct invariant unreceived (.inr ⟨inOrder.ge, room⟩)
  rw [run]
  cases taken with
  | stored unconsumed present =>
      have member : message.number ∈ session.skippedMessageKeys := by
        rw [← Finmap.lookup_isSome, present]
        rfl
      exact absurd (invariant.skipped_lt member) (by omega)
  | reached unconsumed absent ahead _ =>
      rw [inOrder, Nat.sub_self]
      rfl

/-- A consumed number is a replay, whatever the message carries. -/
theorem decrypt_consumed (wf : session.WellFormed) {message : RatchetMessage P}
    (header : message.ratchetPublicKey = session.peerRatchetPublicKey)
    (consumed : message.number ∈ session.consumedMessageNumbers) :
    (decrypt message).run session = (.error .replay, session) := by
  have outcome := decrypt_outcome wf message
  rw [header, entered_same] at outcome
  rcases run : (decrypt message).run session with ⟨result, reached⟩
  rw [run] at outcome
  cases outcome with
  | replayed seen => rfl
  | exhausted unconsumed absent ahead noRoom => exact absurd consumed unconsumed
  | unopened taken refused => exact absurd (.inl consumed) taken.inWindow.1
  | garbled taken opened malformed => exact absurd (.inl consumed) taken.inWindow.1
  | accepted taken opened decoded => exact absurd (.inl consumed) taken.inWindow.1

/-! ## No number is lost -/

/-- Every number below the receive counter was consumed or has a stored key. -/
def Covered (session : RatchetSession P) : Prop :=
  ∀ number < session.recvCount,
    number ∈ session.consumedMessageNumbers ∨ number ∈ session.skippedMessageKeys

theorem Covered.unreceived (covered : session.Covered) {number : Nat}
    (unconsumed : number ∉ session.consumedMessageNumbers) :
    ¬ session.AlreadyReceived number := by
  rintro (consumed | ⟨absent, below⟩)
  · exact unconsumed consumed
  · rcases covered number below with consumed | member
    · exact unconsumed consumed
    · exact absent member

theorem Covered.skipping (covered : session.Covered) (count : Nat) :
    (session.skipping count).Covered := by
  intro number below
  change number < session.recvCount + count at below
  by_cases before : number < session.recvCount
  · rcases covered number before with consumed | member
    · exact .inl consumed
    · exact .inr ((mem_storedKeys count).mpr (.inr member))
  · exact .inr ((mem_storedKeys count).mpr (.inl ⟨Nat.le_of_not_lt before, below⟩))

theorem Covered.taken_consumed (covered : session.Covered) {number : Nat}
    {messageKey : P.Block} (taken : session.Ready number messageKey ready) :
    (ready.consumed number).Covered := by
  intro other below
  rcases eq_or_ne other number with rfl | different
  · exact .inl (Finset.mem_insert_self _ _)
  · cases taken with
    | stored unconsumed present =>
        rcases covered other below with consumed | member
        · exact .inl (Finset.mem_insert_of_mem consumed)
        · exact .inr (Finmap.mem_erase.mpr ⟨different, member⟩)
    | reached unconsumed absent ahead room =>
        have skipped := covered.skipping (number - session.recvCount)
        change other < session.recvCount + (number - session.recvCount) + 1 at below
        have belowNumber : other < session.recvCount + (number - session.recvCount) := by
          omega
        rcases skipped other belowNumber with consumed | member
        · exact .inl (Finset.mem_insert_of_mem consumed)
        · exact .inr member

/-- Delivering a genuine message loses no number. -/
theorem Covered.decrypt (correct : P.AeadCorrect) {message : RatchetMessage P}
    {text : String} (invariant : session.AtEpoch epoch) (covered : session.Covered)
    (genuine : session.Genuine epoch message text) :
    ((decrypt message).run session).2.Covered := by
  rcases genuine.decrypt_cases correct invariant with
    ⟨_, run⟩ | ⟨_, _, taken, run⟩ | ⟨_, run⟩
  · rw [run]
    exact covered
  · rw [run]
    exact covered.taken_consumed taken
  · rw [run]
    exact covered.skipping _

end RatchetSession

end CipherMesh
