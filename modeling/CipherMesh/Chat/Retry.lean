import CipherMesh.Chat.Delivery
import CipherMesh.Chat.Mirror

/-!
# Receiving retries

A frame is received exactly when its message has its row already or its number is
within the skip window.  Every retry consumes a number, so a message that was retried
often enough falls out of the window.
-/

namespace CipherMesh

open Foundation
open Foundation.Mutation
open RatchetSession

variable {P : Primitives} {wire : Wire P} {side : RatchetRole}

/-! ## Receiving a frame -/

/-- The state of either actor can be written. -/
structure Wire.WritesActors (wire : Wire P) : Prop where
  alice : ∀ state, ∃ bytes, wire.aliceState.serialize state = some bytes
  bob : ∀ state, ∃ bytes, wire.bobState.serialize state = some bytes

namespace PairingChat

variable {chat : PairingChat P}

theorem succeeds_onDatabase {Result : Type} {method : Mutation Database AppError Result}
    (succeeds : Succeeds Database.Undisturbed method) :
    Succeeds (fun chat : PairingChat P => chat.database.Undisturbed) (onDatabase method) :=
  .focus succeeds fun _ _ => rfl

theorem succeeds_saveIdentity (writes : wire.WritesActors) :
    Succeeds (fun chat : PairingChat P => chat.database.Undisturbed) (saveIdentity wire) := by
  have saved : ∀ id role state,
      Succeeds Database.Undisturbed (Database.saveLocalIdentity id role state) := fun _ _ _ =>
    .bind Database.succeeds_nowUnixSecs fun _ => Database.succeeds_execute _
  refine .bind .get fun chat => succeeds_onDatabase ?_
  cases chat.role with
  | alice actor =>
      obtain ⟨bytes, written⟩ := writes.alice actor.exportState
      exact .bind (.okOr written) fun _ => .mapError (saved _ _ _)
  | bob actor =>
      obtain ⟨bytes, written⟩ := writes.bob actor.exportState
      exact .bind (.okOr written) fun _ => .mapError (saved _ _ _)

theorem succeeds_recordReceived (writes : wire.WritesActors) (bytes : Bytes)
    (messageId senderDisplayName : String) (message : RatchetMessage P) (plaintext : String) :
    Succeeds (fun chat : PairingChat P => chat.database.Undisturbed)
      (recordReceived wire bytes messageId senderDisplayName message plaintext) := by
  refine .bind (succeeds_saveIdentity writes) fun _ => .bind .get fun _ => ?_
  refine .bind (succeeds_onDatabase (.mapError ?_)) fun _ => succeeds_onDatabase (.mapError ?_)
  · exact .bind Database.succeeds_nowUnixSecs fun _ => Database.succeeds_execute _
  · exact .bind (.bind Database.succeeds_nowUnixSecs fun _ =>
      Database.succeeds_statement fun _ => ⟨_, _, rfl⟩) fun _ => .pure ()

variable {bytes : Bytes} {messageId senderDisplayName : String} {message : RatchetMessage P}

/-- A frame is handled when its message has its row or decrypts. -/
theorem handleRequest_succeeds (writes : wire.WritesActors)
    (parsed : wire.chatFrame.deserialize bytes =
      some (.message messageId senderDisplayName message))
    (undisturbed : chat.database.Undisturbed)
    (receivable : chat.database.storage.messages.Contains messageId ∨
      ∃ text, ((PairingChatRole.decrypt message).run chat.role).1 = .ok text) :
    (handleRequest wire bytes).Ensures chat (fun acknowledged _ => acknowledged = some messageId)
      (fun _ _ => False) := by
  have received : ∀ {text}, ((PairingChatRole.decrypt message).run chat.role).1 = .ok text →
      ∀ {database : Database}, database.Undisturbed →
        (receiveMessage wire bytes messageId senderDisplayName message).Ensures
          { chat with database } (fun _ _ => True) (fun _ _ => False) := by
    intro text success database undisturbed
    simp only [receiveMessage, ensures_bind, onRole, ensures_mapError, ensures_focus]
    refine Ensures.run.mono (fun opened role _ => ?_) fun error _ run => ?_
    · refine (succeeds_recordReceived writes _ _ _ _ _ { chat with role, database }
        undisturbed).mono (fun _ recorded recordedUndisturbed => ?_) fun _ _ => id
      exact (succeeds_onDatabase (.mapError (Database.succeeds_execute _)) recorded
        recordedUndisturbed).mono (fun _ _ _ => trivial) fun _ _ => id
    · rw [run] at success
      cases success
  simp only [handleRequest, parsed, ensures_bind, ensures_okOr_some, onStorage, onDatabase,
    ensures_focus, ensures_mapError, chatMessageAlreadySaved, Database.messageExists]
  refine ((Database.succeeds_query _ _ undisturbed).and (Database.query_reads _ _)).mono ?_
    fun _ _ never => never.1
  rintro saved database ⟨undisturbed, rfl, sameStorage⟩
  rw [ensures_ite, ensures_bind]
  refine ⟨fun unsaved => ?_, fun _ => rfl⟩
  have absent : ¬ chat.database.storage.messages.Contains messageId := by simpa using unsaved
  obtain ⟨text, success⟩ := receivable.resolve_left absent
  exact (received success undisturbed).mono (fun _ _ _ => rfl) fun _ _ => id

/-- A frame is refused when its message has no row and does not decrypt. -/
theorem handleRequest_refuses
    (parsed : wire.chatFrame.deserialize bytes =
      some (.message messageId senderDisplayName message))
    (unsaved : ¬ chat.database.storage.messages.Contains messageId) {error : CryptoError}
    (refused : ((PairingChatRole.decrypt message).run chat.role).1 = .error error) :
    (handleRequest wire bytes).Ensures chat (fun _ _ => False) (fun _ _ => True) := by
  have fails : ∀ database, (receiveMessage wire bytes messageId senderDisplayName message).Ensures
      { chat with database } (fun _ _ => False) (fun _ _ => True) := by
    intro database
    simp only [receiveMessage, ensures_bind, onRole, ensures_mapError, ensures_focus]
    refine Ensures.run.mono (fun text _ run => ?_) fun _ _ _ => trivial
    rw [run] at refused
    cases refused
  simp only [handleRequest, parsed, ensures_bind, ensures_okOr_some, onStorage, onDatabase,
    ensures_focus, ensures_mapError, chatMessageAlreadySaved, Database.messageExists]
  apply Database.ensures_query
  · trivial
  · rw [decide_eq_false unsaved, Bool.not_false, if_pos rfl, ensures_bind]
    exact (fails _).mono (fun _ _ never => never.elim) fun _ _ _ => trivial

end PairingChat

namespace PairedChat

variable {state : PairedChat P}

/-- Handling the frame acknowledges the id, and the message is in the history. -/
def Receives (wire : Wire P) (state : PairedChat P) (side : RatchetRole) (bytes : Bytes)
    (moment : Moment) (messageId : String) : Prop :=
  let (result, after) := state.call side moment (PairingChat.handleRequest wire bytes)
  result = .ok (some messageId) ∧ after.Saved side messageId

/-- In every state of a session, a frame is received exactly when its message has its row
or its number is within the skip window. -/
theorem receives_iff (commutes : P.DhCommutes) (correct : P.AeadCorrect)
    (frames : wire.chatFrame.RoundTrip) (writes : wire.WritesActors)
    (reachable : (oneSession wire).Reachable state) {session : RatchetSession P}
    (running : state.running side = true)
    (holds : (state.endpoints side).role.session = some session) {bytes : Bytes}
    (inFlight : bytes ∈ state.frames side) {messageId : String} {message : RatchetMessage P}
    (frame : IsFrame wire bytes messageId message) {moment : Moment}
    (undisturbed : moment.interruptions = []) :
    Receives wire state side bytes moment messageId ↔
      state.Saved side messageId ∨ Link.WithinSkipWindow session message.number := by
  obtain ⟨link, mirror⟩ := mirror_of_reachable commutes correct frames reachable
  obtain ⟨_, _, inStep⟩ := Link.inStep_of_reachable commutes correct mirror.reachable
  obtain rfl := Option.some.inj ((mirror.session side).symm.trans holds)
  have incoming := mirror.frames side.peer
  rw [RatchetRole.peer_peer] at incoming
  obtain ⟨_, _, text, sentFrame, sent⟩ := incoming.produced bytes inFlight
  obtain ⟨rfl, rfl⟩ := frame.eq sentFrame
  have parsed := frame
  obtain ⟨senderDisplayName, parsed⟩ := parsed
  have decrypts : ((PairingChatRole.decrypt message).run (state.endpoints side).role).1 =
      ((decrypt message).run (link.sessions side)).1 := by
    rw [PairingChatRole.run_decrypt holds]
  let begun := (state.endpoints side).begun moment
  have rows : RowsKept wire state side begun := rowsKept_begun state side moment
  have handled := PairingChat.handleRequest_ensures rows parsed fun _ _ _ never => never.elim
  rw [Receives, call]
  rcases run : (PairingChat.handleRequest wire bytes).run begun with ⟨result, after⟩
  constructor
  · rintro ⟨rfl, _⟩
    by_contra outside
    obtain ⟨unsaved, outside⟩ := not_or.mp outside
    have refused := decrypts.trans (inStep.decrypt_outside correct sent outside)
    have refuses : (PairingChat.handleRequest wire bytes).Ensures begun (fun _ _ => False)
      fun _ _ => True := PairingChat.handleRequest_refuses parsed unsaved refused
    exact refuses.of_ok run
  · intro receivable
    have decryptable : state.Saved side messageId ∨
        ∃ text, ((PairingChatRole.decrypt message).run begun.role).1 = .ok text := by
      by_cases saved : state.Saved side messageId
      · exact .inl saved
      · have first : (message, text) ∉ link.accepted side := fun accepted =>
          saved (mirror.saved_of_consumed running inFlight frame (inStep.accepted accepted).2)
        exact .inr ⟨text, decrypts.trans (inStep.decrypt_first correct sent first
          (receivable.resolve_left saved))⟩
    have succeeds : (PairingChat.handleRequest wire bytes).Ensures begun
      (fun acknowledged _ => acknowledged = some messageId) fun _ _ => False :=
      PairingChat.handleRequest_succeeds writes parsed undisturbed decryptable
    cases result with
    | error error =>
        unfold Ensures at succeeds
        rw [run] at succeeds
        exact succeeds.elim
    | ok acknowledged =>
        obtain ⟨rfl, known⟩ := handled.of_ok run
        refine ⟨rfl, ?_⟩
        rw [Saved, finish_endpoints_self]
        exact known.database.known messageId (.inr rfl)

end PairedChat

/-! ## Ten frames for one message -/

namespace Symbolic

def retries : List (RatchetMessage primitives) :=
  encryptions (List.replicate 10 "hello") (sessions .alice)

/-- Alice types a line, and the connection comes back nine times. -/
def retryRun : List (PairedChatEvent primitives × Moment) :=
  (.line .alice "hello" [], undisturbed) ::
    (List.replicate 9
      [(.disconnected .alice, undisturbed), (.connected .alice, undisturbed)]).flatten

def retried : PairedChat primitives :=
  (PairedChat.oneSession (wireOf retries)).run paired retryRun

theorem retried_reachable : (PairedChat.oneSession (wireOf retries)).Reachable retried := by
  have permits : (PairedChat.oneSession (wireOf retries)).Permits paired retryRun := by
    decide +kernel
  refine ⟨paired, ⟨sessions, sessions_established, ?_, fun _ => rfl⟩, permits.reaches⟩
  rintro (_ | _) <;> rfl

theorem retried_holds : (retried.endpoints .bob).role.session.isSome = true := by
  decide +kernel

/-- The eighth retry is received when all frames before it are lost. -/
theorem eighth_retry_received :
    PairedChat.Receives (wireOf retries) retried .bob (List.replicate 8 0) undisturbed
      greetingId := by
  have frame : IsFrame (wireOf retries) (List.replicate 8 0) greetingId
      (retries.get ⟨8, by decide +kernel⟩) := ⟨"Alice", by decide +kernel⟩
  have running : retried.running .bob = true := by decide +kernel
  have inFlight : List.replicate 8 0 ∈ retried.frames .bob := by decide +kernel
  have inWindow : Link.WithinSkipWindow ((retried.endpoints .bob).role.session.get retried_holds)
      (retries.get ⟨8, by decide +kernel⟩).number := .inr (by decide +kernel)
  have undisturbedMoment : undisturbed.interruptions = [] := rfl
  have received := PairedChat.receives_iff dhCommutes aeadCorrect (Format.roundTrip_listed _)
    ⟨fun _ => ⟨[], rfl⟩, fun _ => ⟨[], rfl⟩⟩ retried_reachable running
    (Option.some_get retried_holds).symm inFlight frame undisturbedMoment
  rw [received]
  exact .inr inWindow

/-- The ninth is refused, although the message is still pending. -/
theorem ninth_retry_refused :
    ∃ state : PairedChat primitives, (PairedChat.oneSession (wireOf retries)).Reachable state ∧
      ∃ bytes ∈ state.frames .bob, ∃ message, IsFrame (wireOf retries) bytes greetingId message ∧
        state.Pending .alice greetingId ∧ state.running .bob = true ∧
        (state.call .bob undisturbed (PairingChat.handleRequest (wireOf retries) bytes)).1 =
          .error (.crypto .tooManySkippedMessages) :=
  ⟨retried, retried_reachable, List.replicate 9 0, by decide +kernel,
    retries.get ⟨9, by decide +kernel⟩, ⟨"Alice", by decide +kernel⟩, by decide +kernel,
    by decide +kernel, by decide +kernel⟩

end Symbolic

end CipherMesh
