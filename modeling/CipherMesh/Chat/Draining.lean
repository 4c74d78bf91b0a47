import CipherMesh.Chat.Handling
import CipherMesh.Chat.Reopening
import CipherMesh.Chat.Retry
import CipherMesh.Foundation.Drain
import CipherMesh.Link.Lag

/-!
# Draining the queues

The peer is back, and both sides have sent their queues again; what was on the way before
is lost.  From here the link keeps the order of the frames and of the acknowledgements in
both directions, in any interleaving.  Every schedule ends.  Both queues are then empty
exactly if, in each of them, every message that the other side does not have yet comes
after at most eight numbers which that side never decrypts: those of frames that were lost
before, and those of messages ahead of it that are there already.
-/

namespace CipherMesh

open Foundation
open Foundation.Mutation
open RatchetSession

instance : Fintype RatchetRole where
  elems := {.alice, .bob}
  complete side := by cases side <;> decide

variable {P : Primitives} {wire : Wire P} {side : RatchetRole}

namespace PairedChat

/-- The ids of the messages that a side still has to deliver, in the order of its queue. -/
def queue (state : PairedChat P) (side : RatchetRole) : List String :=
  (state.endpoints side).database.storage.queuedIds
    (state.endpoints side).context.conversationId

/-- The messages that a side has encrypted in this session. -/
def sentCount (state : PairedChat P) (side : RatchetRole) : Nat :=
  ((state.endpoints side).role.session.map RatchetSession.sendCount).getD 0

/-- The messages that a side has decrypted in this session. -/
def decryptedCount (state : PairedChat P) (side : RatchetRole) : Nat :=
  ((state.endpoints side).role.session.map fun session =>
    session.consumedMessageNumbers.card).getD 0

end PairedChat

/-- A chat and how much of what was sent to each side the link has delivered. -/
structure DrainingChat (P : Primitives) where
  chat : PairedChat P
  framesTaken : RatchetRole → Nat
  acksTaken : RatchetRole → Nat

namespace DrainingChat

/-- Both sides notice that the peer is back.  Nothing that was sent before arrives. -/
def reopen (wire : Wire P) (before : PairedChat P) (first : RatchetRole)
    (firstMoment secondMoment : Moment) : DrainingChat P where
  chat := (before.next wire (.connected first, firstMoment)).next wire
    (.connected first.peer, secondMoment)
  framesTaken side := (before.frames side).length
  acksTaken side := (before.acks side).length

/-- The connection was lost on both sides at any point of a session, and both have sent
their queues without an error. -/
def Reopened (wire : Wire P) (opened : DrainingChat P) : Prop :=
  ∃ before first firstMoment secondMoment, (PairedChat.oneSession wire).Reachable before ∧
    (∀ side, before.running side = true ∧ (before.endpoints side).online = false) ∧
      opened = reopen wire before first firstMoment secondMoment ∧
        ∀ side, opened.chat.running side = true

/-- The next frame or acknowledgement for a side arrives. -/
def next (wire : Wire P) (state : DrainingChat P) :
    DrainEvent RatchetRole × Moment → DrainingChat P
  | (.item side, moment) =>
      match (state.chat.frames side)[state.framesTaken side]? with
      | some bytes =>
          { state with
            chat := state.chat.next wire (.frame side bytes, moment)
            framesTaken := Function.update state.framesTaken side (state.framesTaken side + 1) }
      | none => state
  | (.confirmation side, moment) =>
      match (state.chat.acks side).reverse[state.acksTaken side]? with
      | some messageId =>
          { state with
            chat := state.chat.next wire (.ack side messageId, moment)
            acksTaken := Function.update state.acksTaken side (state.acksTaken side + 1) }
      | none => state

/-- The runs from a reopened chat.  No statement fails. -/
def system (wire : Wire P) (opened : DrainingChat P) :
    System (DrainingChat P) (DrainEvent RatchetRole × Moment) where
  initial state := state = opened
  permitted state event := event.2.interruptions = [] ∧
    match event.1 with
    | .item side => state.chat.running side = true ∧
        state.framesTaken side < (state.chat.frames side).length
    | .confirmation side => state.chat.running side = true ∧
        state.acksTaken side < (state.chat.acks side).length
  next := next wire

/-! ## What a side accepts -/

/-- The number of the first frame that the reopened chat sends to a side. -/
def firstNumber (opened : DrainingChat P) (side : RatchetRole) : Nat :=
  opened.chat.sentCount side.peer - (opened.chat.queue side.peer).length

/-- The messages that were sent to a side before and that it has not decrypted. -/
def missed (opened : DrainingChat P) (side : RatchetRole) : Nat :=
  opened.firstNumber side - opened.chat.decryptedCount side

/-- The messages before a position of the queue that the side has already. -/
def repeated (opened : DrainingChat P) (side : RatchetRole) (position : Nat) : Nat :=
  ((opened.chat.queue side.peer).take position).countP fun messageId =>
    opened.chat.Saved side messageId

/-- The message at the position is there already or near enough. -/
def accepts (opened : DrainingChat P) (side : RatchetRole) (position : Nat) : Bool :=
  ((opened.chat.queue side.peer)[position]?.any fun messageId =>
    opened.chat.Saved side messageId) ||
      decide (opened.missed side + opened.repeated side position ≤ maxSkippedMessageKeys)

def setting (opened : DrainingChat P) : Drain.Setting RatchetRole where
  partner := RatchetRole.peer
  items side := (opened.chat.queue side.peer).length
  accepts := opened.accepts
  partner_partner := RatchetRole.peer_peer

end DrainingChat

/-! ## Reopening -/

namespace PairedChat

variable {before state : PairedChat P} {link : Link P}

theorem queue_congr {other : PairedChat P} (same : other.endpoints side = state.endpoints side) :
    other.queue side = state.queue side := by
  rw [queue, queue, same]

/-- An error stops the loop. -/
theorem running_of_call_error {Result : Type} {method : ChatResult P Result} {moment : Moment}
    {error : AppError} {after : PairedChat P}
    (failed : before.call side moment method = (.error error, after)) :
    after.running side = false := by
  rw [call] at failed
  rcases run : method.run ((before.endpoints side).begun moment) with ⟨result, reached⟩
  rw [run] at failed
  obtain ⟨rfl, rfl⟩ := Prod.mk.inj failed
  simp only [finish, Function.update_self, Except.toBool, Bool.and_false]

/-- A call at one side does not stop the other. -/
theorem running_call_of_ne {Result : Type} {method : ChatResult P Result} {moment : Moment}
    {other : RatchetRole} (different : other ≠ side) :
    (before.call side moment method).2.running other = before.running other :=
  Function.update_of_ne different _ _

/-- A side has sent its queue, and its session has moved on from that of `link`. -/
structure SentQueue (wire : Wire P) (before after : PairedChat P) (side : RatchetRole)
    (link moved : Link P) : Prop where
  session : (after.endpoints side).role.session = some (moved.sessions side)
  recvCount_eq : (moved.sessions side).recvCount = (link.sessions side).recvCount
  sendCount_eq : (moved.sessions side).sendCount =
    (link.sessions side).sendCount + (after.queue side).length
  frames : ∃ frames, after.frames side.peer = before.frames side.peer ++ frames ∧
    NumberedFrames wire (moved.produced side) (link.sessions side).sendCount (after.queue side)
      frames

/-- Only one side has sent its queue. -/
structure Sent (wire : Wire P) (before after : PairedChat P) (side : RatchetRole)
    (link moved : Link P) : Prop extends SentQueue wire before after side link moved where
  onward : Onward side link moved
  endpoints_peer : after.endpoints side.peer = before.endpoints side.peer
  frames_side : after.frames side = before.frames side
  acks_eq : after.acks = before.acks

/-- Both sides have sent their queues, one after the other. -/
theorem Sent.both {middle after : PairedChat P} {moved last : Link P}
    (sent : Sent wire before middle side link moved)
    (peerSent : Sent wire middle after side.peer moved last) (other : RatchetRole) :
    SentQueue wire before after other link last := by
  have kept := peerSent.endpoints_peer
  have session := peerSent.onward.peerSession
  have produced := peerSent.onward.peerProduced
  have framesKept := peerSent.frames_side
  rw [RatchetRole.peer_peer] at kept session produced
  rcases other.eq_or_eq_peer side with rfl | rfl
  · obtain ⟨frames, appended, numbered⟩ := sent.frames
    refine ⟨?_, ?_, ?_, frames, ?_, ?_⟩
    · rw [kept, session]
      exact sent.session
    · rw [session]
      exact sent.recvCount_eq
    · rw [session, queue_congr kept]
      exact sent.sendCount_eq
    · rw [framesKept]
      exact appended
    · rw [produced, queue_congr kept]
      exact numbered
  · obtain ⟨frames, appended, numbered⟩ := peerSent.frames
    have before := sent.onward.peerSession
    rw [RatchetRole.peer_peer] at appended
    refine ⟨peerSent.session, ?_, ?_, frames, ?_, ?_⟩
    · rw [peerSent.recvCount_eq, before]
    · rw [peerSent.sendCount_eq, before]
    · rw [RatchetRole.peer_peer, appended, sent.frames_side]
    · rw [← before]
      exact numbered

/-- The connection comes back at one side. -/
theorem sent_of_connected (frames : wire.chatFrame.RoundTrip)
    (session : (before.endpoints side).role.session = some (link.sessions side))
    (offline : (before.endpoints side).online = false) {moment : Moment}
    (runs : (before.next wire (.connected side, moment)).running side = true) :
    ∃ moved, Sent wire before (before.next wire (.connected side, moment)) side link moved := by
  have sends : (PairingChat.connected wire).Ensures ((before.endpoints side).begun moment) _ _ :=
    connected_sends frames session offline rfl
  have called : before.next wire (.connected side, moment) =
    (before.call side moment (PairingChat.connected wire)).2 := rfl
  rw [called] at runs ⊢
  rcases outcome : before.call side moment (PairingChat.connected wire) with
    ⟨error | value, after⟩
  · rw [outcome, running_of_call_error outcome] at runs
    cases runs
  obtain ⟨reached, run, rfl⟩ := call_eq_ok outcome
  obtain ⟨⟨moved, onward, holds, received, count, numbered⟩, queued, sameContext⟩ :=
    sends.of_ok run
  dsimp only
  have sameQueue : (before.finish side (before.running side) reached).queue side =
      ((before.endpoints side).begun moment).database.storage.queuedIds
        ((before.endpoints side).begun moment).context.conversationId := by
    rw [queue, finish_endpoints_self, sameContext]
    exact queued
  refine ⟨moved, ⟨?_, received, ?_, reached.requests, ?_, ?_⟩, onward, ?_, ?_, rfl⟩
  · rw [finish_endpoints_self, holds]
  · rw [sameQueue, count]
  · exact Function.update_self _ _ _
  · rw [sameQueue]
    exact numbered
  · exact Function.update_of_ne (RatchetRole.peer_ne side) _ _
  · exact Function.update_of_ne (RatchetRole.ne_peer side) _ _

end PairedChat

namespace DrainingChat

variable {opened state : DrainingChat P} {start link : Link P} {drain : Drain RatchetRole}

/-- The sessions of a reopened chat are those of a link, its last frames carry the queues,
and what a side has decrypted was sent before. -/
structure Opens (wire : Wire P) (opened : DrainingChat P) (link : Link P) : Prop where
  reachable : Link.genuineDelivery.Reachable link
  session : ∀ side, (opened.chat.endpoints side).role.session = some (link.sessions side)
  frames : ∀ side, NumberedFrames wire (link.produced side.peer) (opened.firstNumber side)
    (opened.chat.queue side.peer) ((opened.chat.frames side).drop (opened.framesTaken side))
  framesTaken_le : ∀ side, opened.framesTaken side ≤ (opened.chat.frames side).length
  acksTaken_eq : ∀ side, (opened.chat.acks side).length = opened.acksTaken side
  recvCount_le : ∀ side, (link.sessions side).recvCount ≤ opened.firstNumber side
  running : ∀ side, opened.chat.running side = true

theorem Reopened.opens (commutes : P.DhCommutes) (correct : P.AeadCorrect)
    (frames : wire.chatFrame.RoundTrip) (reopened : Reopened wire opened) :
    ∃ link, Opens wire opened link := by
  obtain ⟨before, first, firstMoment, secondMoment, reachable, resting, rfl, running⟩ := reopened
  obtain ⟨link, mirror⟩ := PairedChat.mirror_of_reachable commutes correct frames reachable
  let middle := before.next wire (.connected first, firstMoment)
  let after := middle.next wire (.connected first.peer, secondMoment)
  have firstRuns : middle.running first = true :=
    (PairedChat.running_call_of_ne (RatchetRole.ne_peer first)).symm.trans (running first)
  obtain ⟨moved, sent⟩ :=
    PairedChat.sent_of_connected frames (mirror.session first) (resting first).2 firstRuns
  have peerSession : (middle.endpoints first.peer).role.session =
      some (moved.sessions first.peer) := by
    rw [sent.endpoints_peer, sent.onward.peerSession]
    exact mirror.session first.peer
  have peerOffline : (middle.endpoints first.peer).online = false := by
    rw [sent.endpoints_peer]
    exact (resting first.peer).2
  obtain ⟨last, peerSent⟩ :=
    PairedChat.sent_of_connected frames peerSession peerOffline (running first.peer)
  have both := sent.both peerSent
  have reachableLast : Link.genuineDelivery.Reachable last := by
    obtain ⟨start, initial, run⟩ := mirror.reachable
    exact ⟨start, initial, run.trans (sent.onward.reaches.trans peerSent.onward.reaches)⟩
  have firsts : ∀ side, (reopen wire before first firstMoment secondMoment).firstNumber side =
      (link.sessions side.peer).sendCount := by
    intro side
    rw [firstNumber, PairedChat.sentCount]
    change ((after.endpoints side.peer).role.session.map _).getD 0 - (after.queue _).length = _
    rw [(both side.peer).session, Option.map_some, Option.getD_some, (both side.peer).sendCount_eq,
      Nat.add_sub_cancel]
  refine ⟨last, reachableLast, fun side => (both side).session, fun side => ?_, fun side => ?_,
    fun side => ?_, fun side => ?_, running⟩
  · obtain ⟨sentFrames, appended, numbered⟩ := (both side.peer).frames
    rw [RatchetRole.peer_peer] at appended
    rw [firsts]
    change NumberedFrames wire _ _ _ ((after.frames side).drop (before.frames side).length)
    rwa [appended, List.drop_left]
  · obtain ⟨sentFrames, appended, _⟩ := (both side.peer).frames
    rw [RatchetRole.peer_peer] at appended
    change (before.frames side).length ≤ (after.frames side).length
    rw [appended, List.length_append]
    exact Nat.le_add_right _ _
  · exact congrArg (fun acks => (acks side).length) (peerSent.acks_eq.trans sent.acks_eq)
  · rw [firsts, (both side).recvCount_eq]
    exact Link.recvCount_le_sendCount commutes correct mirror.reachable side

end DrainingChat

/-! ## One arrival -/

namespace PairedChat

variable {state : PairedChat P} {moment : Moment} {role : PairingChatRole P}
variable {known : String → Prop} {pending : Table PendingPeerMessage.messageId}
variable {after : PairingChat P} (running : Bool)

theorem finish_running_self : (state.finish side running after).running side = running :=
  Function.update_self _ _ _

theorem finish_running_of_ne {other : RatchetRole} (different : other ≠ side) :
    (state.finish side running after).running other = state.running other :=
  Function.update_of_ne different _ _

theorem finish_endpoints_of_ne {other : RatchetRole} (different : other ≠ side) :
    (state.finish side running after).endpoints other = state.endpoints other :=
  Function.update_of_ne different _ _

theorem finish_frames
    (changed : ((state.endpoints side).begun moment).ChangedTo role pending known after) :
    (state.finish side running after).frames = state.frames := by
  have quiet : after.requests = [] := changed.requests_eq
  rw [finish, quiet]
  simp only [List.append_nil, Function.update_eq_self]

/-- Handling a frame leaves both queues. -/
theorem finish_queue (changed : ((state.endpoints side).begun moment).ChangedTo role
      (state.endpoints side).database.storage.pendingPeerMessages known after)
    (other : RatchetRole) : (state.finish side running after).queue other = state.queue other := by
  rcases eq_or_ne other side with rfl | different
  · have sameContext : after.context = (state.endpoints other).context := changed.context_eq
    rw [queue, finish_endpoints_self, queue, Storage.queuedIds, Storage.pendingFor,
      changed.rows.pending_eq, sameContext]
    rfl
  · exact queue_congr (finish_endpoints_of_ne running different)

theorem next_frame_of_ok {bytes : Bytes} {messageId : String}
    (handled : (PairingChat.handleRequest wire bytes).run ((state.endpoints side).begun moment) =
      (.ok (some messageId), after)) :
    state.next wire (.frame side bytes, moment) =
      (state.finish side (state.running side) after).acknowledge side.peer messageId := by
  simp only [next, call, handled, Except.toBool, Bool.and_true]

theorem next_frame_of_error {bytes : Bytes} {error : AppError}
    (refused : (PairingChat.handleRequest wire bytes).run ((state.endpoints side).begun moment) =
      (.error error, after)) :
    state.next wire (.frame side bytes, moment) = state.finish side false after := by
  simp only [next, call, refused, Except.toBool, Bool.and_false]

/-- An acknowledgement takes its message out of the queue. -/
theorem ack_handled (wire : Wire P) (state : PairedChat P) (side : RatchetRole)
    (messageId : String) (undisturbed : moment.interruptions = []) :
    ∃ after confirmed, ((state.endpoints side).begun moment).ChangedTo
        (state.endpoints side).role
        ((state.endpoints side).database.storage.pendingPeerMessages.delete
          fun row => row.messageId = messageId)
        (fun other => state.Saved side other) after ∧
      state.next wire (.ack side messageId, moment) =
        { state.finish side (state.running side) after with confirmed } := by
  have quiet : ((state.endpoints side).begun moment).database.Undisturbed := undisturbed
  obtain ⟨value, after, run, changed⟩ :=
    (PairingChat.handleResponse_changes quiet messageId).exists_ok
  refine ⟨after, ?_⟩
  simp only [next, call, run, Except.toBool, Bool.and_true]
  split
  · exact ⟨_, changed, rfl⟩
  · exact ⟨_, changed, rfl⟩

/-- The queue without the message. -/
theorem queue_of_delete {messageId : String}
    (changed : ((state.endpoints side).begun moment).ChangedTo role
      ((state.endpoints side).database.storage.pendingPeerMessages.delete
        fun row => row.messageId = messageId) known after) :
    (state.finish side running after).queue side =
      (state.queue side).filter fun queued => queued ≠ messageId := by
  have sameContext : after.context = (state.endpoints side).context := changed.context_eq
  rw [queue, finish_endpoints_self, queue, Storage.queuedIds, Storage.pendingFor,
    changed.rows.pending_eq, sameContext, Table.select_delete, Storage.queuedIds,
    Storage.pendingFor, List.filter_map]
  · simp only [Function.comp_def, decide_not]
  · intro row other _ _ same
    exact congrArg (fun order => (ofLex order).2) same

section

variable {bytes : Bytes} {messageId : String} {message : RatchetMessage P}

/-- A frame that can be received is acknowledged. -/
theorem frame_handled (writes : wire.WritesActors) (undisturbed : moment.interruptions = [])
    (frame : IsFrame wire bytes messageId message)
    (receivable : state.Saved side messageId ∨
      ∃ text, ((PairingChatRole.decrypt message).run (state.endpoints side).role).1 = .ok text) :
    ∃ after, (PairingChat.handleRequest wire bytes).run ((state.endpoints side).begun moment) =
        (.ok (some messageId), after) ∧
      ((state.endpoints side).begun moment).ChangedTo
        (if state.Saved side messageId then (state.endpoints side).role
          else ((PairingChatRole.decrypt message).run (state.endpoints side).role).2)
        (state.endpoints side).database.storage.pendingPeerMessages
        (fun other => state.Saved side other ∨ other = messageId) after := by
  obtain ⟨senderDisplayName, parsed⟩ := frame
  have succeeds : (PairingChat.handleRequest wire bytes).Ensures
      ((state.endpoints side).begun moment) _ _ :=
    PairingChat.handleRequest_succeeds writes parsed undisturbed receivable
  have changes : (PairingChat.handleRequest wire bytes).Ensures
      ((state.endpoints side).begun moment) _ _ := PairingChat.handleRequest_changes parsed
  obtain ⟨acknowledged, after, run, rfl, _, changed⟩ :=
    ((succeeds.and changes).mono (fun _ _ => id) fun _ _ never => never.1).exists_ok
  exact ⟨after, run, changed⟩

/-- A frame that cannot be received leaves the queue, and its message is at most delivered to
the session. -/
theorem frame_refused (moment : Moment) (frame : IsFrame wire bytes messageId message)
    (unsaved : ¬ state.Saved side messageId) {link : Link P}
    (holds : (state.endpoints side).role.session = some (link.sessions side))
    {error : CryptoError}
    (refused : ((PairingChatRole.decrypt message).run (state.endpoints side).role).1 =
      .error error) :
    ∃ failure after, (PairingChat.handleRequest wire bytes).run
        ((state.endpoints side).begun moment) = (.error failure, after) ∧
      (∃ role known, ((state.endpoints side).begun moment).ChangedTo role
        (state.endpoints side).database.storage.pendingPeerMessages known after) ∧
      (after.role.session = some (link.sessions side) ∨
        after.role.session = some ((link.next (.deliver side message)).sessions side)) := by
  have mirrored : (PairingChat.handleRequest wire bytes).Ensures
      ((state.endpoints side).begun moment) _ _ := PairingChat.handleRequest_mirrored frame holds
  obtain ⟨senderDisplayName, parsed⟩ := frame
  have refuses : (PairingChat.handleRequest wire bytes).Ensures
      ((state.endpoints side).begun moment) _ _ :=
    PairingChat.handleRequest_refuses parsed unsaved refused
  have changes : (PairingChat.handleRequest wire bytes).Ensures
      ((state.endpoints side).begun moment) _ _ := PairingChat.handleRequest_changes parsed
  rcases run : (PairingChat.handleRequest wire bytes).run ((state.endpoints side).begun moment) with
    ⟨failure | value, after⟩
  · exact ⟨failure, after, rfl, changes.of_error run, (mirrored.of_error run).1⟩
  · exact (refuses.of_ok run).elim

end

end PairedChat

end CipherMesh
