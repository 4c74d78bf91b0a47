import CipherMesh.Chat.Draining

/-!
# Chats that are drained

A reopened chat follows the drain of two queues over links that keep their order: an end
accepts a message exactly if the message is there already or near enough.
-/

namespace CipherMesh

open Foundation
open RatchetSession

variable {P : Primitives} {wire : Wire P} {side : RatchetRole}

namespace DrainingChat

variable {opened state : DrainingChat P} {start link : Link P} {drain : Drain RatchetRole}
variable {taken : Nat}

/-- A running side that has taken a number of frames of the reopened chat. -/
structure Receiving (opened state : DrainingChat P) (link : Link P) (side : RatchetRole)
    (taken : Nat) : Prop where
  framesTaken_eq : state.framesTaken side = opened.framesTaken side + taken
  saved_iff : ∀ position messageId, (opened.chat.queue side.peer)[position]? = some messageId →
    (state.chat.Saved side messageId ↔ opened.chat.Saved side messageId ∨ position < taken)
  recvCount_le : (link.sessions side).recvCount ≤ opened.firstNumber side + taken
  balance : (link.sessions side).consumedMessageNumbers.card + opened.missed side +
    opened.repeated side taken = opened.firstNumber side + taken

/-- The chat and its sessions are where the drain is. -/
structure Follows (opened : DrainingChat P) (start : Link P) (state : DrainingChat P)
    (drain : Drain RatchetRole) : Prop where
  frames_eq : state.chat.frames = opened.chat.frames
  running_eq : ∀ side, state.chat.running side = drain.running side
  queue_eq : ∀ side,
    state.chat.queue side = (opened.chat.queue side).drop (drain.confirmed side)
  acksTaken_eq : ∀ side, state.acksTaken side = opened.acksTaken side + drain.confirmed side
  acks_eq : ∀ side, state.chat.acks side =
    ((opened.chat.queue side).take (drain.taken side.peer)).reverse ++ opened.chat.acks side
  link : ∃ link, Link.genuineDelivery.Reachable link ∧ link.produced = start.produced ∧
    (∀ side, (state.chat.endpoints side).role.session = some (link.sessions side)) ∧
      ∀ side, drain.running side = true → Receiving opened state link side (drain.taken side)

theorem Opens.follows (commutes : P.DhCommutes) (correct : P.AeadCorrect)
    (opens : Opens wire opened start) : Follows opened start opened .start where
  frames_eq := rfl
  running_eq := opens.running
  queue_eq _ := rfl
  acksTaken_eq _ := rfl
  acks_eq _ := rfl
  link := by
    refine ⟨start, opens.reachable, rfl, opens.session, fun side _ => ⟨rfl, ?_, ?_, ?_⟩⟩
    · exact fun _ _ _ => (or_iff_left (Nat.not_lt_zero _)).symm
    · exact opens.recvCount_le side
    · obtain ⟨_, _, inStep⟩ := Link.inStep_of_reachable commutes correct opens.reachable
      have passed := (inStep.covered side).recvCount_eq (inStep.atEpoch side).toWellFormed
      have bounded := opens.recvCount_le side
      have counted : opened.chat.decryptedCount side =
          (start.sessions side).consumedMessageNumbers.card := by
        rw [PairedChat.decryptedCount, opens.session, Option.map_some, Option.getD_some]
      rw [missed, counted]
      change _ + _ + 0 = _ + 0
      omega

/-- The frame at a position of the queue. -/
theorem Opens.frame_at (opens : Opens wire opened start) {position : Nat}
    (below : opened.framesTaken side + position < (opened.chat.frames side).length) :
    ∃ messageId bytes message text, (opened.chat.queue side.peer)[position]? = some messageId ∧
      (opened.chat.frames side)[opened.framesTaken side + position]? = some bytes ∧
        IsFrame wire bytes messageId message ∧ (message, text) ∈ start.produced side.peer ∧
          message.number = opened.firstNumber side + position := by
  have sent := opens.frames side
  have inQueue : position < (opened.chat.queue side.peer).length := by
    rw [← sent.length_eq, List.length_drop]
    omega
  obtain ⟨bytes, message, text, found, frame, produced, number⟩ :=
    sent.numbered position _ (List.getElem?_eq_getElem inQueue)
  rw [List.getElem?_drop] at found
  exact ⟨_, bytes, message, text, List.getElem?_eq_getElem inQueue, found, frame, produced, number⟩

theorem Opens.frames_length (opens : Opens wire opened start) (side : RatchetRole) :
    (opened.chat.frames side).length =
      opened.framesTaken side + (opened.chat.queue side.peer).length := by
  have sent := (opens.frames side).length_eq
  have taken := opens.framesTaken_le side
  rw [List.length_drop] at sent
  omega

theorem repeated_succ {position : Nat} {messageId : String}
    (found : (opened.chat.queue side.peer)[position]? = some messageId) :
    opened.repeated side (position + 1) =
      opened.repeated side position + if opened.chat.Saved side messageId then 1 else 0 := by
  rw [repeated, repeated, List.take_add_one, found, Option.toList_some, List.countP_append]
  simp only [List.countP_singleton, decide_eq_true_eq]

theorem accepts_eq {position : Nat} {messageId : String}
    (found : (opened.chat.queue side.peer)[position]? = some messageId) :
    opened.accepts side position = true ↔ opened.chat.Saved side messageId ∨
      opened.missed side + opened.repeated side position ≤ maxSkippedMessageKeys := by
  rw [accepts, found, Option.any_some, Bool.or_eq_true, decide_eq_true_eq, decide_eq_true_eq]

/-! ### Frames -/

section

variable {after : PairingChat P} {moved : Link P} {moment : Moment} {role : PairingChatRole P}
variable {known : String → Prop} {messageId : String}

/-- What a side has taken does not depend on the other side. -/
theorem Receiving.congr {reached : DrainingChat P}
    (receives : Receiving opened state link side taken)
    (framesTaken : reached.framesTaken side = state.framesTaken side)
    (endpoint : reached.chat.endpoints side = state.chat.endpoints side)
    (session : moved.sessions side = link.sessions side) :
    Receiving opened reached moved side taken where
  framesTaken_eq := framesTaken.trans receives.framesTaken_eq
  saved_iff := by
    intro position other found
    rw [PairedChat.Saved, endpoint]
    exact receives.saved_iff position other found
  recvCount_le := by rw [session]; exact receives.recvCount_le
  balance := by rw [session]; exact receives.balance

/-- The sessions after a call at one side. -/
theorem session_finish (running : Bool)
    (session : ∀ side, (state.chat.endpoints side).role.session = some (link.sessions side))
    (here : after.role.session = some (moved.sessions side))
    (peer : moved.sessions side.peer = link.sessions side.peer) (other : RatchetRole) :
    ((state.chat.finish side running after).endpoints other).role.session =
      some (moved.sessions other) := by
  rcases other.eq_or_eq_peer side with rfl | rfl
  · rw [PairedChat.finish_endpoints_self, here]
  · rw [PairedChat.finish_endpoints_of_ne _ (RatchetRole.peer_ne side), peer]
    exact session side.peer

/-- A frame was handled and is acknowledged. -/
theorem Follows.take (follows : Follows opened start state drain)
    (found : (opened.chat.queue side.peer)[drain.taken side]? = some messageId)
    (changed : ((state.chat.endpoints side).begun moment).ChangedTo role
      (state.chat.endpoints side).database.storage.pendingPeerMessages
      (fun other => state.chat.Saved side other ∨ other = messageId) after)
    (reachable : Link.genuineDelivery.Reachable moved) (produced : moved.produced = start.produced)
    (session : ∀ other, ((state.chat.finish side (state.chat.running side) after).endpoints
      other).role.session = some (moved.sessions other))
    (receives : Receiving opened state link side (drain.taken side))
    (peerReceives : drain.running side.peer = true →
      Receiving opened state moved side.peer (drain.taken side.peer))
    (recvCount : (moved.sessions side).recvCount ≤
      opened.firstNumber side + (drain.taken side + 1))
    (balance : (moved.sessions side).consumedMessageNumbers.card + opened.missed side +
      opened.repeated side (drain.taken side + 1) =
        opened.firstNumber side + (drain.taken side + 1)) :
    Follows opened start
      { state with
        chat := (state.chat.finish side (state.chat.running side) after).acknowledge side.peer
          messageId
        framesTaken := Function.update state.framesTaken side (state.framesTaken side + 1) }
      { drain with taken := Function.update drain.taken side (drain.taken side + 1) } where
  frames_eq := (PairedChat.finish_frames (state.chat.running side) changed).trans follows.frames_eq
  running_eq other := by
    rw [← follows.running_eq]
    rcases eq_or_ne other side with rfl | different
    · exact Function.update_self _ _ _
    · exact Function.update_of_ne different _ _
  queue_eq other := by
    have kept := PairedChat.finish_queue (state.chat.running side) changed other
    exact kept.trans (follows.queue_eq other)
  acksTaken_eq := follows.acksTaken_eq
  acks_eq other := by
    have before := follows.acks_eq other
    dsimp only
    rcases other.eq_or_eq_peer side with rfl | rfl
    · rw [Function.update_of_ne (RatchetRole.peer_ne other), ← before]
      exact Function.update_of_ne (RatchetRole.ne_peer other) _ _
    · rw [RatchetRole.peer_peer] at before ⊢
      rw [Function.update_self, List.take_add_one, found, Option.toList_some, List.reverse_append,
        List.append_assoc, ← before]
      exact Function.update_self _ _ _
  link := by
    refine ⟨moved, reachable, produced, session, fun other runs => ?_⟩
    rcases other.eq_or_eq_peer side with rfl | rfl
    · refine ⟨?_, fun position name there => ?_, ?_, ?_⟩
      · dsimp only
        rw [Function.update_self, Function.update_self, receives.framesTaken_eq, Nat.add_assoc]
      · dsimp only
        have saved : (state.chat.finish other (state.chat.running other) after).Saved other name ↔
            state.chat.Saved other name ∨ name = messageId := by
          rw [PairedChat.Saved, PairedChat.finish_endpoints_self]
          exact changed.rows.saved_iff name
        rw [Function.update_self]
        refine saved.trans ?_
        rw [receives.saved_iff position name there, or_assoc, Nat.lt_succ_iff_lt_or_eq]
        -- The queue names each message once.
        have same : name = messageId ↔ position = drain.taken other := by
          constructor
          · rintro rfl
            exact (List.getElem?_inj (List.getElem?_eq_some_iff.mp there).1
              (Storage.nodup_queuedIds _ _)).mp (there.trans found.symm)
          · rintro rfl
            exact Option.some.inj (there.symm.trans found)
        rw [same]
      · dsimp only
        rw [Function.update_self]
        exact recvCount
      · dsimp only
        rw [Function.update_self]
        exact balance
    · dsimp only
      rw [Function.update_of_ne (RatchetRole.peer_ne side)]
      refine (peerReceives runs).congr ?_ ?_ rfl
      · exact Function.update_of_ne (RatchetRole.peer_ne side) _ _
      · exact Function.update_of_ne (RatchetRole.peer_ne side) _ _

/-- A frame was refused, and the side has stopped. -/
theorem Follows.stop (follows : Follows opened start state drain)
    (changed : ((state.chat.endpoints side).begun moment).ChangedTo role
      (state.chat.endpoints side).database.storage.pendingPeerMessages known after)
    (reachable : Link.genuineDelivery.Reachable moved) (produced : moved.produced = start.produced)
    (session : ∀ other, ((state.chat.finish side false after).endpoints other).role.session =
      some (moved.sessions other))
    (peerReceives : drain.running side.peer = true →
      Receiving opened state moved side.peer (drain.taken side.peer)) :
    Follows opened start
      { state with
        chat := state.chat.finish side false after
        framesTaken := Function.update state.framesTaken side (state.framesTaken side + 1) }
      { drain with running := Function.update drain.running side false } where
  frames_eq := (PairedChat.finish_frames _ changed).trans follows.frames_eq
  running_eq other := by
    dsimp only
    rcases eq_or_ne other side with rfl | different
    · rw [PairedChat.finish_running_self, Function.update_self]
    · rw [PairedChat.finish_running_of_ne false different, Function.update_of_ne different]
      exact follows.running_eq other
  queue_eq other := (PairedChat.finish_queue _ changed other).trans (follows.queue_eq other)
  acksTaken_eq := follows.acksTaken_eq
  acks_eq := follows.acks_eq
  link := by
    refine ⟨moved, reachable, produced, session, fun other runs => ?_⟩
    dsimp only at runs
    rcases other.eq_or_eq_peer side with rfl | rfl
    · rw [Function.update_self] at runs
      cases runs
    · rw [Function.update_of_ne (RatchetRole.peer_ne side)] at runs
      refine (peerReceives runs).congr ?_ ?_ rfl
      · exact Function.update_of_ne (RatchetRole.peer_ne side) _ _
      · exact Function.update_of_ne (RatchetRole.peer_ne side) _ _

/-- A running side is about to take the frame of a message, and its session is one of `link`. -/
structure Arriving (wire : Wire P) (opened : DrainingChat P) (start : Link P)
    (state : DrainingChat P) (drain : Drain RatchetRole) (link : Link P) (side : RatchetRole)
    (messageId : String) (bytes : Bytes) (message : RatchetMessage P) (text : String) :
    Prop where
  reachable : Link.genuineDelivery.Reachable link
  produced : link.produced = start.produced
  session : ∀ side, (state.chat.endpoints side).role.session = some (link.sessions side)
  receiving : ∀ side, drain.running side = true →
    Receiving opened state link side (drain.taken side)
  running : drain.running side = true
  found : (opened.chat.queue side.peer)[drain.taken side]? = some messageId
  frame : IsFrame wire bytes messageId message
  sent : (message, text) ∈ link.produced side.peer
  number_eq : message.number = opened.firstNumber side + drain.taken side

/-- The state after the frame. -/
def taking (wire : Wire P) (state : DrainingChat P) (side : RatchetRole) (bytes : Bytes)
    (moment : Moment) : DrainingChat P :=
  { state with
    chat := state.chat.next wire (.frame side bytes, moment)
    framesTaken := Function.update state.framesTaken side (state.framesTaken side + 1) }

theorem Follows.arriving (opens : Opens wire opened start)
    (follows : Follows opened start state drain) (runs : drain.running side = true)
    (more : state.framesTaken side < (state.chat.frames side).length) :
    ∃ link messageId bytes message text,
      Arriving wire opened start state drain link side messageId bytes message text ∧
        ∀ moment, next wire state (.item side, moment) = taking wire state side bytes moment := by
  obtain ⟨link, reachable, produced, session, receiving⟩ := follows.link
  have taken := (receiving side runs).framesTaken_eq
  rw [follows.frames_eq, taken] at more
  obtain ⟨messageId, bytes, message, text, found, there, frame, sent, number⟩ :=
    opens.frame_at more
  rw [← produced] at sent
  refine ⟨link, messageId, bytes, message, text, ⟨reachable, produced, session, receiving, runs,
    found, frame, sent, number⟩, fun moment => ?_⟩
  simp only [next, taking, follows.frames_eq, taken, there]

/-- A delivery leaves the session of the sender. -/
theorem sessions_deliver_peer (link : Link P) (side : RatchetRole) (message : RatchetMessage P) :
    (link.next (.deliver side message)).sessions side.peer = link.sessions side.peer := by
  rw [Link.sessions_deliver, if_neg (RatchetRole.peer_ne side)]

namespace Arriving

variable {bytes : Bytes} {message : RatchetMessage P} {text : String}
variable (arriving : Arriving wire opened start state drain link side messageId bytes message text)
include arriving

theorem delivered : Link.genuineDelivery.Reachable (link.next (.deliver side message)) := by
  obtain ⟨initial, begins, run⟩ := arriving.reachable
  have permitted : Link.genuineDelivery.permitted link (.deliver side message) :=
    ⟨text, arriving.sent⟩
  exact ⟨initial, begins, .step _ run permitted⟩

/-- Delivering the message leaves what the peer has taken. -/
theorem peerReceives (runs : drain.running side.peer = true) :
    Receiving opened state (link.next (.deliver side message)) side.peer
      (drain.taken side.peer) :=
  (arriving.receiving side.peer runs).congr rfl rfl (sessions_deliver_peer link side message)

/-- The frames before this one do not carry its message. -/
theorem saved_iff :
    state.chat.Saved side messageId ↔ opened.chat.Saved side messageId := by
  rw [(arriving.receiving side arriving.running).saved_iff _ _ arriving.found]
  exact or_iff_left (Nat.lt_irrefl _)

/-- A message that is there already is only acknowledged. -/
theorem repeats (writes : wire.WritesActors) (follows : Follows opened start state drain)
    (undisturbed : moment.interruptions = []) (saved : opened.chat.Saved side messageId) :
    Follows opened start (taking wire state side bytes moment)
      { drain with taken := Function.update drain.taken side (drain.taken side + 1) } := by
  have receives := arriving.receiving side arriving.running
  have balance := receives.balance
  have behind := receives.recvCount_le
  have counted := repeated_succ arriving.found
  rw [if_pos saved] at counted
  have savedNow := arriving.saved_iff.mpr saved
  obtain ⟨after, run, changed⟩ :=
    PairedChat.frame_handled writes undisturbed arriving.frame (.inl savedNow)
  rw [taking, PairedChat.next_frame_of_ok run]
  rw [if_pos savedNow] at changed
  refine follows.take arriving.found changed arriving.reachable arriving.produced
    (session_finish _ arriving.session ?_ rfl) receives (arriving.receiving side.peer) ?_ ?_
  · rw [changed.role_eq, arriving.session]
  · omega
  · omega

variable (commutes : P.DhCommutes) (correct : P.AeadCorrect)
include commutes correct

/-- A new message that is near enough is decrypted. -/
theorem decrypts (writes : wire.WritesActors) (follows : Follows opened start state drain)
    (undisturbed : moment.interruptions = []) (unsaved : ¬ opened.chat.Saved side messageId)
    (near : opened.missed side + opened.repeated side (drain.taken side) ≤
      maxSkippedMessageKeys) :
    Follows opened start (taking wire state side bytes moment)
      { drain with taken := Function.update drain.taken side (drain.taken side + 1) } := by
  have receives := arriving.receiving side arriving.running
  have balance := receives.balance
  have behind := receives.recvCount_le
  have number := arriving.number_eq
  have counted := repeated_succ arriving.found
  rw [if_neg unsaved] at counted
  obtain ⟨_, _, inStep⟩ := Link.inStep_of_reachable commutes correct arriving.reachable
  obtain ⟨success, consumed, reached⟩ :=
    inStep.decrypt_ahead correct arriving.sent (by omega) (by omega)
  have run := PairingChatRole.run_decrypt (arriving.session side) message
  have opens : ((PairingChatRole.decrypt message).run (state.chat.endpoints side).role).1 =
      .ok text := by
    rw [run]
    exact success
  obtain ⟨after, handled, changed⟩ :=
    PairedChat.frame_handled writes undisturbed arriving.frame (.inr ⟨text, opens⟩)
  rw [taking, PairedChat.next_frame_of_ok handled]
  rw [if_neg (arriving.saved_iff.not.mpr unsaved), run] at changed
  refine follows.take arriving.found changed arriving.delivered arriving.produced
    (session_finish _ arriving.session ?_ (sessions_deliver_peer link side message)) receives
    arriving.peerReceives ?_ ?_
  · rw [changed.role_eq, PairingChatRole.session_withSession, Link.sessions_deliver, if_pos rfl]
  · omega
  · omega

/-- A new message that is too far ahead stops the side. -/
theorem refuses (follows : Follows opened start state drain)
    (unsaved : ¬ opened.chat.Saved side messageId)
    (far : ¬ opened.missed side + opened.repeated side (drain.taken side) ≤
      maxSkippedMessageKeys) :
    Follows opened start (taking wire state side bytes moment)
      { drain with running := Function.update drain.running side false } := by
  have receives := arriving.receiving side arriving.running
  have balance := receives.balance
  have behind := receives.recvCount_le
  have number := arriving.number_eq
  obtain ⟨_, _, inStep⟩ := Link.inStep_of_reachable commutes correct arriving.reachable
  have outside : ¬ Link.WithinSkipWindow (link.sessions side) message.number := by
    rw [inStep.withinSkipWindow_iff (by omega)]
    omega
  have refused : ((PairingChatRole.decrypt message).run (state.chat.endpoints side).role).1 =
      .error .tooManySkippedMessages := by
    rw [PairingChatRole.run_decrypt (arriving.session side) message]
    exact inStep.decrypt_outside correct arriving.sent outside
  obtain ⟨failure, after, run, ⟨_, _, changed⟩, kept | delivered⟩ :=
    PairedChat.frame_refused moment arriving.frame (arriving.saved_iff.not.mpr unsaved)
      (arriving.session side) refused
  · rw [taking, PairedChat.next_frame_of_error run]
    exact follows.stop changed arriving.reachable arriving.produced
      (session_finish _ arriving.session kept rfl) (arriving.receiving side.peer)
  · rw [taking, PairedChat.next_frame_of_error run]
    exact follows.stop changed arriving.delivered arriving.produced
      (session_finish _ arriving.session delivered (sessions_deliver_peer link side message))
      arriving.peerReceives

end Arriving

/-- The next frame arrives at a running side. -/
theorem Follows.item (commutes : P.DhCommutes) (correct : P.AeadCorrect)
    (writes : wire.WritesActors) (opens : Opens wire opened start)
    (follows : Follows opened start state drain) (undisturbed : moment.interruptions = [])
    (runs : drain.running side = true)
    (more : state.framesTaken side < (state.chat.frames side).length) :
    Follows opened start (next wire state (.item side, moment))
      (drain.next opened.setting (.item side)) := by
  obtain ⟨link, messageId, bytes, message, text, arriving, step⟩ := follows.arriving opens runs more
  have accepts := accepts_eq arriving.found
  rw [step, Drain.next, setting]
  by_cases saved : opened.chat.Saved side messageId
  · rw [if_pos (accepts.mpr (.inl saved))]
    exact arriving.repeats writes follows undisturbed saved
  by_cases near : opened.missed side + opened.repeated side (drain.taken side) ≤
      maxSkippedMessageKeys
  · rw [if_pos (accepts.mpr (.inr near))]
    exact arriving.decrypts commutes correct writes follows undisturbed saved near
  · rw [if_neg fun accepted => (accepts.mp accepted).elim saved near]
    exact arriving.refuses commutes correct follows saved near

/-! ### Acknowledgements -/

/-- A queue without its first message. -/
theorem filter_ne_drop {ids : List String} {position : Nat} (nodup : ids.Nodup)
    (found : ids[position]? = some messageId) :
    (ids.drop position).filter (fun queued => queued ≠ messageId) = ids.drop (position + 1) := by
  obtain ⟨below, rfl⟩ := List.getElem?_eq_some_iff.mp found
  have rest := (nodup.sublist (List.drop_sublist position ids))
  rw [List.drop_eq_getElem_cons below, List.nodup_cons] at rest
  rw [List.drop_eq_getElem_cons below, List.filter_cons_of_neg (by simp), List.filter_eq_self]
  intro queued member
  exact decide_eq_true fun same => rest.1 (same ▸ member)

/-- The acknowledgement of the first message that still waits. -/
theorem Follows.ack_at (opens : Opens wire opened start)
    (follows : Follows opened start state drain)
    (more : state.acksTaken side < (state.chat.acks side).length) :
    drain.confirmed side < drain.taken side.peer ∧
      ∃ messageId, (state.chat.acks side).reverse[state.acksTaken side]? = some messageId ∧
        (opened.chat.queue side)[drain.confirmed side]? = some messageId := by
  have before := opens.acksTaken_eq side
  rw [follows.acks_eq, follows.acksTaken_eq, List.length_append, List.length_reverse,
    List.length_take, before] at more
  have inQueue : drain.confirmed side < (opened.chat.queue side).length := by omega
  refine ⟨by omega, _, ?_, List.getElem?_eq_getElem inQueue⟩
  rw [follows.acks_eq, follows.acksTaken_eq, List.reverse_append, List.reverse_reverse,
    List.getElem?_append_right (by rw [List.length_reverse]; omega), List.length_reverse, before,
    Nat.add_sub_cancel_left, List.getElem?_take_of_lt (by omega), List.getElem?_eq_getElem inQueue]

/-- The next acknowledgement arrives at a running side. -/
theorem Follows.confirmation (opens : Opens wire opened start)
    (follows : Follows opened start state drain) (undisturbed : moment.interruptions = [])
    (more : state.acksTaken side < (state.chat.acks side).length) :
    Follows opened start (next wire state (.confirmation side, moment))
      (drain.next opened.setting (.confirmation side)) := by
  obtain ⟨_, messageId, there, found⟩ := follows.ack_at opens more
  obtain ⟨after, confirmed, changed, arrives⟩ :=
    PairedChat.ack_handled wire state.chat side messageId undisturbed
  have step : next wire state (.confirmation side, moment) =
      { state with
        chat := { state.chat.finish side (state.chat.running side) after with confirmed }
        acksTaken := Function.update state.acksTaken side (state.acksTaken side + 1) } := by
    simp only [next, there, arrives]
  rw [step, Drain.next]
  refine ⟨?_, ?_, ?_, ?_, follows.acks_eq, ?_⟩
  · exact (PairedChat.finish_frames (state.chat.running side) changed).trans follows.frames_eq
  · intro other
    rw [← follows.running_eq]
    rcases eq_or_ne other side with rfl | different
    · exact Function.update_self _ _ _
    · exact Function.update_of_ne different _ _
  · intro other
    dsimp only
    rcases eq_or_ne other side with rfl | different
    · rw [Function.update_self]
      refine (PairedChat.queue_of_delete (state.chat.running other) changed).trans ?_
      rw [follows.queue_eq]
      exact filter_ne_drop (Storage.nodup_queuedIds _ _) found
    · rw [Function.update_of_ne different, ← follows.queue_eq]
      exact PairedChat.queue_congr (Function.update_of_ne different _ _)
  · intro other
    dsimp only
    rcases eq_or_ne other side with rfl | different
    · rw [Function.update_self, Function.update_self, follows.acksTaken_eq, Nat.add_assoc]
    · rw [Function.update_of_ne different, Function.update_of_ne different]
      exact follows.acksTaken_eq other
  · obtain ⟨link, reachable, produced, session, receiving⟩ := follows.link
    refine ⟨link, reachable, produced,
      session_finish (state.chat.running side) session ?_ rfl, fun other runs => ?_⟩
    · rw [changed.role_eq]
      exact session side
    · obtain ⟨taken, saved, received, balance⟩ := receiving other runs
      refine ⟨taken, fun position name there => ?_, received, balance⟩
      rw [← saved position name there]
      rcases other.eq_or_eq_peer side with rfl | rfl
      · rw [PairedChat.Saved, PairedChat.finish_endpoints_self]
        exact changed.rows.saved_iff name
      · rw [PairedChat.Saved, PairedChat.finish_endpoints_of_ne _ (RatchetRole.peer_ne side)]

end

/-! ### Runs -/

/-- An event of the chat is one of the drain. -/
theorem Follows.next (commutes : P.DhCommutes) (correct : P.AeadCorrect)
    (writes : wire.WritesActors) (opens : Opens wire opened start)
    (follows : Follows opened start state drain) {event : DrainEvent RatchetRole × Moment}
    (permitted : (system wire opened).permitted state event) :
    (Drain.runs opened.setting).permitted drain event.1 ∧
      Follows opened start (next wire state event) (drain.next opened.setting event.1) := by
  obtain ⟨event, moment⟩ := event
  obtain ⟨undisturbed, permitted⟩ := permitted
  cases event with
  | item side =>
      obtain ⟨runs, more⟩ := permitted
      rw [follows.running_eq] at runs
      refine ⟨⟨runs, ?_⟩, follows.item commutes correct writes opens undisturbed runs more⟩
      obtain ⟨_, _, _, _, receiving⟩ := follows.link
      rw [follows.frames_eq, (receiving side runs).framesTaken_eq, opens.frames_length] at more
      exact Nat.lt_of_add_lt_add_left more
  | confirmation side =>
      obtain ⟨runs, more⟩ := permitted
      rw [follows.running_eq] at runs
      exact ⟨⟨runs, (follows.ack_at opens more).1⟩, follows.confirmation opens undisturbed more⟩

/-- What can happen in the drain can happen in the chat. -/
theorem Follows.permitted (opens : Opens wire opened start)
    (follows : Follows opened start state drain) (inOrder : Drain.InOrder opened.setting drain)
    {event : DrainEvent RatchetRole}
    (permitted : (Drain.runs opened.setting).permitted drain event) :
    (system wire opened).permitted state (event, ⟨0, []⟩) := by
  refine ⟨rfl, ?_⟩
  cases event with
  | item side =>
      obtain ⟨runs, more⟩ := permitted
      obtain ⟨_, _, _, _, receiving⟩ := follows.link
      refine ⟨(follows.running_eq side).trans runs, ?_⟩
      rw [follows.frames_eq, (receiving side runs).framesTaken_eq, opens.frames_length]
      exact Nat.add_lt_add_left more _
  | confirmation side =>
      obtain ⟨runs, more⟩ := permitted
      have bounded := inOrder.taken_le side.peer
      have before := opens.acksTaken_eq side
      refine ⟨(follows.running_eq side).trans runs, ?_⟩
      change _ ≤ (opened.chat.queue side.peer.peer).length at bounded
      rw [RatchetRole.peer_peer] at bounded
      rw [follows.acks_eq, follows.acksTaken_eq, List.length_append, List.length_reverse,
        List.length_take]
      change drain.confirmed side < drain.taken side.peer at more
      omega

theorem Follows.queue_empty_iff (follows : Follows opened start state drain)
    (inOrder : Drain.InOrder opened.setting drain) :
    state.chat.queue side = [] ↔
      drain.confirmed side = opened.setting.items (opened.setting.partner side) := by
  have bounded := (inOrder.confirmed_le side).trans (inOrder.taken_le side.peer)
  change _ ≤ (opened.chat.queue side.peer.peer).length at bounded
  change _ ↔ _ = (opened.chat.queue side.peer.peer).length
  rw [RatchetRole.peer_peer] at bounded ⊢
  rw [follows.queue_eq, List.drop_eq_nil_iff]
  omega

theorem accepts_all_iff :
    (∀ side, ∀ position < opened.setting.items side, opened.setting.accepts side position = true) ↔
      ∀ side position messageId, (opened.chat.queue side.peer)[position]? = some messageId →
        opened.chat.Saved side messageId ∨
          opened.missed side + opened.repeated side position ≤ maxSkippedMessageKeys := by
  constructor
  · intro accepts side position messageId found
    exact (accepts_eq found).mp (accepts side position (List.getElem?_eq_some_iff.mp found).1)
  · intro near side position below
    have found := List.getElem?_eq_getElem below
    exact (accepts_eq found).mpr (near side position _ found)

theorem remaining_start (opened : DrainingChat P) : Drain.remaining opened.setting .start =
    2 * ((opened.chat.queue .alice).length + (opened.chat.queue .bob).length) := by
  have both : Drain.remaining opened.setting .start =
      Drain.remainingAt opened.setting .start .alice +
        Drain.remainingAt opened.setting .start .bob := Finset.sum_pair (by decide)
  rw [both]
  change (opened.chat.queue .bob).length + (opened.chat.queue .alice).length +
    ((opened.chat.queue .alice).length + (opened.chat.queue .bob).length) = _
  omega

/-- Every schedule ends, and when nothing is left to arrive both queues are empty exactly if
each side accepts every message of the other. -/
theorem drained_iff (commutes : P.DhCommutes) (correct : P.AeadCorrect)
    (frames : wire.chatFrame.RoundTrip) (writes : wire.WritesActors)
    (reopened : Reopened wire opened) {events : List (DrainEvent RatchetRole × Moment)}
    (permits : (system wire opened).Permits opened events) :
    let last := (system wire opened).run opened events
    events.length ≤ 2 * ((opened.chat.queue .alice).length + (opened.chat.queue .bob).length) ∧
      ((∀ event, ¬ (system wire opened).permitted last event) →
        ((∀ side, last.chat.queue side = []) ↔
          ∀ side position messageId, (opened.chat.queue side.peer)[position]? = some messageId →
            opened.chat.Saved side messageId ∨
              opened.missed side + opened.repeated side position ≤ maxSkippedMessageKeys)) := by
  intro last
  obtain ⟨start, opens⟩ := reopened.opens commutes correct frames
  obtain ⟨drained, follows⟩ : _ ∧ Follows opened start last _ :=
    permits.image (fun _ _ event related => related.next commutes correct writes opens)
      (opens.follows commutes correct)
  constructor
  · rw [← remaining_start, ← List.length_map Prod.fst]
    exact Drain.length_le_remaining .start drained
  · intro settled
    have inOrder := Drain.inOrder_of_reaches drained.reaches
    have confirmed := Drain.confirmed_iff_of_settled drained.reaches fun event permitted =>
      settled _ (follows.permitted opens inOrder permitted)
    exact (forall_congr' fun side => follows.queue_empty_iff inOrder).trans
      (confirmed.trans accepts_all_iff)

theorem repeated_le (opened : DrainingChat P) (side : RatchetRole) (position : Nat) :
    opened.repeated side position ≤ (opened.chat.queue side.peer).length :=
  List.countP_le_length.trans (List.length_take_le' _ _)

end DrainingChat

namespace Symbolic

/-- Alice types two lines.  Bob receives the first one, and his acknowledgement and the second
frame are lost with the connection. -/
def lostRun : List (PairedChatEvent primitives × Moment) :=
  [(.line .alice "hello" [], undisturbed), (.line .alice "again" [], ⟨1, []⟩),
    (.frame .bob [], undisturbed), (.disconnected .alice, undisturbed),
    (.disconnected .bob, undisturbed)]

def disconnected : PairedChat primitives := (PairedChat.oneSession lineWire).run paired lostRun

def reconnected : DrainingChat primitives :=
  .reopen lineWire disconnected .bob undisturbed undisturbed

theorem reconnected_reopened : DrainingChat.Reopened lineWire reconnected := by
  refine ⟨disconnected, .bob, undisturbed, undisturbed, ?_, ?_, rfl, ?_⟩
  · have permits : (PairedChat.oneSession lineWire).Permits paired lostRun := by
      decide +kernel
    refine ⟨paired, ⟨sessions, sessions_established, ?_, fun _ => rfl⟩, permits.reaches⟩
    rintro (_ | _) <;> rfl
  · rintro (_ | _) <;> decide +kernel
  · rintro (_ | _) <;> decide +kernel

def drainRun : List (DrainEvent RatchetRole × Moment) :=
  [(.item .bob, undisturbed), (.item .bob, undisturbed), (.confirmation .alice, undisturbed),
    (.confirmation .alice, undisturbed)]

theorem drainRun_permits :
    (DrainingChat.system lineWire reconnected).Permits reconnected drainRun := by
  refine ⟨⟨rfl, ?_, ?_⟩, ⟨rfl, ?_, ?_⟩, ⟨rfl, ?_, ?_⟩, ⟨rfl, ?_, ?_⟩, trivial⟩
  all_goals decide +kernel

theorem drainRun_settled (event : DrainEvent RatchetRole × Moment) :
    ¬ (DrainingChat.system lineWire reconnected).permitted
      ((DrainingChat.system lineWire reconnected).run reconnected drainRun) event := by
  rcases event with ⟨side | side, moment⟩
  · rintro ⟨_, _, more⟩
    cases side <;> exact absurd more (by decide +kernel)
  · rintro ⟨_, _, more⟩
    cases side <;> exact absurd more (by decide +kernel)

theorem reconnected_missed (side : RatchetRole) :
    reconnected.missed side + (reconnected.chat.queue side.peer).length ≤
      maxSkippedMessageKeys := by
  cases side <;> decide +kernel

/-- Both lines are sent again: Bob acknowledges the first one as a duplicate and stores the
second one, and the queue is empty. -/
theorem lines_drained : reconnected.chat.queue .alice = [greetingId, secondId] ∧
    reconnected.chat.Saved .bob greetingId ∧ ¬ reconnected.chat.Saved .bob secondId ∧
      reconnected.missed .bob = 1 ∧
      ((DrainingChat.system lineWire reconnected).run reconnected
        drainRun).chat.queue .alice = [] := by
  obtain ⟨_, emptied⟩ := DrainingChat.drained_iff dhCommutes aeadCorrect (Format.roundTrip_listed _)
    ⟨fun _ => ⟨[], rfl⟩, fun _ => ⟨[], rfl⟩⟩ reconnected_reopened drainRun_permits
  have accepted := (emptied drainRun_settled).mpr fun side position _ _ => .inr
    ((Nat.add_le_add_left (DrainingChat.repeated_le _ _ _) _).trans (reconnected_missed side))
  exact ⟨by decide +kernel, by decide +kernel, by decide +kernel, by decide +kernel,
    accepted .alice⟩

end Symbolic

end CipherMesh
