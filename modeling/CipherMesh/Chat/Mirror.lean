import CipherMesh.Chat.Sending
import CipherMesh.Chat.Soundness
import CipherMesh.Link.Window

/-!
# The link under a chat

Between two handshakes the paired chat drives its ratchet sessions as a link of
genuine deliveries: `Mirror` relates the chat to such a link, and every event of the
chat is matched by a run of the link.
-/

namespace CipherMesh

open Foundation
open Foundation.Mutation
open RatchetSession

variable {P : Primitives} {wire : Wire P} {side : RatchetRole}

namespace PairingChatRole

theorem session_withSession (role : PairingChatRole P) (session : RatchetSession P) :
    (role.withSession session).session = some session := by
  cases role <;> rfl

variable {role : PairingChatRole P} {session : RatchetSession P}

/-- A call of the session through the actor that holds it. -/
theorem run_onSession {Result : Type}
    {method : Mutation (RatchetSession P) CryptoError Result}
    (holds : role.session = some session) :
    (onActor (Alice.onSession method) (Bob.onSession method)).run role =
      ((method.run session).1, role.withSession (method.run session).2) := by
  cases role with
  | alice actor =>
      have present : actor.session = some session := holds
      simp only [Mutation.run, onActor, Alice.onSession, focusSome, present, withSession]
  | bob actor =>
      have present : actor.session = some session := holds
      simp only [Mutation.run, onActor, Bob.onSession, focusSome, present, withSession]

theorem run_encrypt (holds : role.session = some session) (text : String) :
    (encrypt text).run role = (((RatchetSession.encrypt text).run session).1,
      role.withSession ((RatchetSession.encrypt text).run session).2) :=
  run_onSession holds

theorem run_decrypt (holds : role.session = some session) (message : RatchetMessage P) :
    (decrypt message).run role = (((RatchetSession.decrypt message).run session).1,
      role.withSession ((RatchetSession.decrypt message).run session).2) :=
  run_onSession holds

end PairingChatRole

/-! ## Calls of one side as events of the link -/

/-- The frames carry messages that the side produced, no two of them with one number. -/
structure ProducedFrames (wire : Wire P) (produced : List (RatchetMessage P × String))
    (frames : List Bytes) : Prop where
  produced : ∀ bytes ∈ frames, ∃ messageId message text, IsFrame wire bytes messageId message ∧
    (message, text) ∈ produced
  numbered : ∀ first ∈ frames, ∀ second ∈ frames, ∀ firstId secondId firstMessage secondMessage,
    IsFrame wire first firstId firstMessage → IsFrame wire second secondId secondMessage →
      firstMessage.number = secondMessage.number → first = second

theorem ProducedFrames.mono {produced more : List (RatchetMessage P × String)}
    {frames fewer : List Bytes} (holds : ProducedFrames wire produced frames)
    (weaker : produced ⊆ more) (subset : fewer ⊆ frames) : ProducedFrames wire more fewer where
  produced bytes member := by
    obtain ⟨messageId, message, text, frame, sent⟩ := holds.produced bytes (subset member)
    exact ⟨messageId, message, text, frame, weaker sent⟩
  numbered first firstMember second secondMember :=
    holds.numbered first (subset firstMember) second (subset secondMember)

/-- A frame whose number is larger than that of every earlier one is added. -/
theorem ProducedFrames.append {produced : List (RatchetMessage P × String)}
    {frames : List Bytes} {bytes : Bytes} {messageId text : String} {message : RatchetMessage P}
    (holds : ProducedFrames wire produced frames) (frame : IsFrame wire bytes messageId message)
    (sent : (message, text) ∈ produced)
    (larger : ∀ old ∈ frames, ∀ oldId oldMessage, IsFrame wire old oldId oldMessage →
      oldMessage.number < message.number) :
    ProducedFrames wire produced (frames ++ [bytes]) where
  produced other member := by
    rcases List.mem_append.mp member with old | new
    · exact holds.produced other old
    · obtain rfl := List.mem_singleton.mp new
      exact ⟨messageId, message, text, frame, sent⟩
  numbered := by
    intro first firstMember second secondMember firstId secondId firstMessage secondMessage
      firstFrame secondFrame same
    rcases List.mem_append.mp firstMember with firstOld | firstNew <;>
      rcases List.mem_append.mp secondMember with secondOld | secondNew
    · exact holds.numbered first firstOld second secondOld _ _ _ _ firstFrame secondFrame same
    · obtain rfl := List.mem_singleton.mp secondNew
      obtain ⟨_, rfl⟩ := secondFrame.eq frame
      have below := larger first firstOld _ _ firstFrame
      omega
    · obtain rfl := List.mem_singleton.mp firstNew
      obtain ⟨_, rfl⟩ := firstFrame.eq frame
      have below := larger second secondOld _ _ secondFrame
      omega
    · rw [List.mem_singleton.mp firstNew, List.mem_singleton.mp secondNew]

/-- The link has made some more calls, of which the side's are encryptions only and the
other side has none. -/
structure Onward (side : RatchetRole) (link after : Link P) : Prop where
  reaches : Link.genuineDelivery.Reaches link after
  peerSession : after.sessions side.peer = link.sessions side.peer
  peerProduced : after.produced side.peer = link.produced side.peer
  consumed : (after.sessions side).consumedMessageNumbers =
    (link.sessions side).consumedMessageNumbers

namespace Onward

variable {link after last : Link P}

theorem refl : Onward side link link := ⟨.refl, rfl, rfl, rfl⟩

theorem trans (first : Onward side link after) (second : Onward side after last) :
    Onward side link last where
  reaches := first.reaches.trans second.reaches
  peerSession := second.peerSession.trans first.peerSession
  peerProduced := second.peerProduced.trans first.peerProduced
  consumed := second.consumed.trans first.consumed

theorem encrypt (link : Link P) (text : String) :
    Onward side link (link.next (.encrypt side text)) where
  reaches :=
    have permits : Link.genuineDelivery.Permits link [.encrypt side text] := ⟨trivial, trivial⟩
    permits.reaches
  peerSession := by rw [Link.sessions_encrypt, if_neg (RatchetRole.peer_ne side)]
  peerProduced := Function.update_of_ne (RatchetRole.peer_ne side) _ _
  consumed := by rw [Link.sessions_encrypt, if_pos rfl]; rfl

end Onward

/-- The session and the frames of a side are those of a link that has moved on from
`start`; `sent` are the frames of earlier calls. -/
def Mirrored (wire : Wire P) (side : RatchetRole) (sent : List Bytes) (start : Link P)
    (role : PairingChatRole P) (requests : List Bytes) : Prop :=
  ∃ link, Onward side start link ∧ role.session = some (link.sessions side) ∧
    ProducedFrames wire (link.produced side) (sent ++ requests)

namespace PairingChatRole

/-- The role encrypts as the link does. -/
theorem encrypt_mirrored {role : PairingChatRole P} {link : Link P}
    (holds : role.session = some (link.sessions side)) (text : String) :
    (encrypt text).Ensures role
      (fun message after =>
        after.session = some ((link.next (.encrypt side text)).sessions side) ∧
          (message, text) ∈ (link.next (.encrypt side text)).produced side ∧
          message.number = (link.sessions side).sendCount)
      (fun _ after =>
        after.session = some ((link.next (.encrypt side text)).sessions side)) := by
  have reached : (link.next (.encrypt side text)).sessions side =
      ((RatchetSession.encrypt text).run (link.sessions side)).2 := Function.update_self _ _ _
  unfold Ensures
  rw [run_encrypt holds, reached]
  cases outcome : ((RatchetSession.encrypt text).run (link.sessions side)).1 with
  | error error => exact session_withSession _ _
  | ok message =>
      have returned : Link.encrypted (link.sessions side) text = some (message, text) := by
        rw [Link.encrypted, outcome]
        rfl
      exact ⟨session_withSession _ _, (Link.mem_produced_encrypt text).mpr (.inl ⟨rfl, returned⟩),
        (Link.encrypted_eq_some returned).2.1⟩

/-- The role decrypts as the link does. -/
theorem decrypt_mirrored {role : PairingChatRole P} {link : Link P}
    (holds : role.session = some (link.sessions side)) (message : RatchetMessage P) :
    let delivered := some ((link.next (.deliver side message)).sessions side)
    (decrypt message).Ensures role (fun _ after => after.session = delivered)
      (fun _ after => after.session = delivered) := by
  intro delivered
  have reached : (link.next (.deliver side message)).sessions side =
      ((RatchetSession.decrypt message).run (link.sessions side)).2 := Function.update_self _ _ _
  have after : ((decrypt message).run role).2.session = delivered := by
    rw [run_decrypt holds, session_withSession, ← reached]
  exact Ensures.run.mono (fun _ _ run => by rwa [run] at after) fun _ _ run => by
    rwa [run] at after

end PairingChatRole

/-- Encrypting moves the link on, and its numbers grow. -/
theorem keptBySending_mirrored (commutes : P.DhCommutes) (correct : P.AeadCorrect)
    (frames : wire.chatFrame.RoundTrip) {start : Link P}
    (reachable : Link.genuineDelivery.Reachable start) (sent : List Bytes) :
    KeptBySending wire (Mirrored wire side sent start) where
  encrypt := by
    rintro role requests text ⟨link, onward, holds, produced⟩
    have advanced := onward.trans (.encrypt link text)
    obtain ⟨_, initial, run⟩ := reachable
    obtain ⟨_, _, inStep⟩ := Link.inStep_of_reachable commutes correct
      ⟨_, initial, run.trans onward.reaches⟩
    have more : link.produced side ⊆ (link.next (.encrypt side text)).produced side :=
      fun _ member => (Link.mem_produced_encrypt text).mpr (.inr member)
    have kept := produced.mono more (List.Subset.refl _)
    refine (PairingChatRole.encrypt_mirrored holds text).mono ?_ ?_
    · rintro message reached ⟨session, sentNow, number⟩
      refine ⟨⟨_, advanced, session, kept⟩, fun messageId senderDisplayName bytes framed => ?_⟩
      rw [Mirrored, ← List.append_assoc]
      refine ⟨_, advanced, session, kept.append ⟨_, frames framed⟩ sentNow ?_⟩
      intro old member oldId oldMessage oldFrame
      obtain ⟨_, oldProduced, _, oldFrame', oldSent⟩ := produced.produced old member
      obtain ⟨_, rfl⟩ := oldFrame.eq oldFrame'
      exact number ▸ inStep.number_lt oldSent
    · exact fun _ reached session => ⟨_, advanced, session, kept⟩

namespace PairingChat

variable {chat : PairingChat P}

/-- Handling a frame leaves the session or delivers the message to it. -/
theorem handleRequest_mirrored {link : Link P} {bytes : Bytes} {messageId : String}
    {message : RatchetMessage P} (frame : IsFrame wire bytes messageId message)
    (holds : chat.role.session = some (link.sessions side)) :
    let mirrored := fun after : PairingChat P =>
      (after.role.session = some (link.sessions side) ∨
        after.role.session = some ((link.next (.deliver side message)).sessions side)) ∧
        after.requests = chat.requests
    (handleRequest wire bytes).Ensures chat (fun _ => mirrored) (fun _ => mirrored) := by
  intro mirrored
  obtain ⟨senderDisplayName, parsed⟩ := frame
  rw [handleRequest, parsed, ensures_bind, ensures_okOr_some, ensures_bind]
  have queries : Keeps (fun queried => queried.role = chat.role ∧
      queried.requests = chat.requests) (onStorage (chatMessageAlreadySaved messageId)) :=
    keepsSession_onDatabase fun role requests => role = chat.role ∧ requests = chat.requests
  refine (queries chat ⟨rfl, rfl⟩).mono ?_ ?_
  · rintro saved queried ⟨sameRole, sameRequests⟩
    rw [← sameRole] at holds
    have unchanged : mirrored queried := ⟨.inl holds, sameRequests⟩
    rw [ensures_ite]
    refine ⟨fun _ => ?_, fun _ => unchanged⟩
    have kept : ∀ {Result : Type} (method : Mutation Database AppError Result),
        Keeps mirrored (onDatabase method) := fun method =>
      keepsSession_onDatabase fun role requests => (role.session = some (link.sessions side) ∨
        role.session = some ((link.next (.deliver side message)).sessions side)) ∧
          requests = chat.requests
    simp only [receiveMessage, ensures_bind, onRole, ensures_mapError, ensures_focus]
    refine (PairingChatRole.decrypt_mirrored holds message).mono ?_
      fun _ _ delivered => ⟨.inr delivered, sameRequests⟩
    intro plaintext role delivered
    have recorded : Keeps mirrored (recordReceived wire bytes messageId senderDisplayName message
        plaintext) :=
      .bind (.bind .get fun _ => kept _) fun _ => .bind .get fun _ => .bind (kept _) fun _ =>
        kept _
    refine (recorded { queried with role } ⟨.inr delivered, sameRequests⟩).mono ?_ fun _ _ => id
    exact fun _ stored => kept (mapError .storage (Database.execute id)) stored
  · rintro _ queried ⟨sameRole, sameRequests⟩
    exact ⟨.inl (sameRole ▸ holds), sameRequests⟩

end PairingChat

/-! ## Runs of one session -/

namespace PairedChat

variable {state : PairedChat P} {link moved : Link P}

/-- The runs of the paired chat between two handshakes. -/
def oneSession (wire : Wire P) : System (PairedChat P) (PairedChatEvent P × Moment) where
  initial state := ∃ sessions, Established sessions ∧
    (∀ side, (state.endpoints side).role.session = some (sessions side)) ∧
      ∀ side, state.frames side = []
  permitted state event := state.Enabled event.1 ∧ event.1.isStart = false
  next := next wire

instance (state : PairedChat P) (event : PairedChatEvent P × Moment) :
    Decidable ((oneSession wire).permitted state event) :=
  inferInstanceAs (Decidable (state.Enabled event.1 ∧ event.1.isStart = false))

/-- The sessions of the chat are those of the link, its frames carry what the link
produced, and while a side runs, what it consumed has its row. -/
structure Mirror (wire : Wire P) (state : PairedChat P) (link : Link P) : Prop where
  reachable : Link.genuineDelivery.Reachable link
  session : ∀ side, (state.endpoints side).role.session = some (link.sessions side)
  frames : ∀ side, ProducedFrames wire (link.produced side) (state.frames side.peer)
  consumed : ∀ side, state.running side = true →
    ∀ number ∈ (link.sessions side).consumedMessageNumbers,
      ∃ bytes ∈ state.frames side, ∃ messageId message, IsFrame wire bytes messageId message ∧
        message.number = number ∧ state.Saved side messageId

/-- The rows that the side has when a call begins are there when it ends. -/
abbrev RowsKept (wire : Wire P) (state : PairedChat P) (side : RatchetRole) :
    PairingChat P → Prop :=
  SoundChat wire (fun _ _ => True) (fun _ _ => False) (state.Saved side)

theorem rowsKept_begun (state : PairedChat P) (side : RatchetRole) (moment : Moment) :
    RowsKept wire state side ((state.endpoints side).begun moment) :=
  ⟨⟨fun _ _ => trivial, fun _ _ _ never => never.elim, fun _ => id⟩,
    fun _ member => absurd member List.not_mem_nil⟩

namespace Mirror

/-- The frame of a consumed number has its row. -/
theorem saved_of_consumed (mirror : Mirror wire state link) (running : state.running side = true)
    {bytes : Bytes} {messageId : String} {message : RatchetMessage P}
    (inFlight : bytes ∈ state.frames side) (frame : IsFrame wire bytes messageId message)
    (consumed : message.number ∈ (link.sessions side).consumedMessageNumbers) :
    state.Saved side messageId := by
  obtain ⟨other, otherInFlight, otherId, otherMessage, otherFrame, same, saved⟩ :=
    mirror.consumed side running _ consumed
  have numbered := (mirror.frames side.peer).numbered
  rw [RatchetRole.peer_peer] at numbered
  obtain rfl := numbered other otherInFlight bytes inFlight _ _ _ _ otherFrame frame same
  rwa [(frame.eq otherFrame).1]

theorem start (commutes : P.DhCommutes) (initial : (oneSession wire).initial state) :
    ∃ link, Mirror wire state link := by
  obtain ⟨sessions, established, holds, quiet⟩ := initial
  refine ⟨.start sessions, ⟨_, ⟨sessions, established, rfl⟩, .refl⟩, holds, ?_, ?_⟩
  · intro side
    rw [quiet]
    exact ⟨fun _ member => absurd member List.not_mem_nil,
      fun _ member => absurd member List.not_mem_nil⟩
  · intro side _ number consumed
    obtain ⟨_, _, fresh⟩ := established.freshPair commutes
    rw [Link.start_sessions, fresh.fresh] at consumed
    exact absurd consumed (Finset.notMem_empty _)

theorem finish (mirror : Mirror wire state link) {after : PairingChat P} {running : Bool}
    (reachable : Link.genuineDelivery.Reachable moved)
    (peerSession : moved.sessions side.peer = link.sessions side.peer)
    (peerProduced : moved.produced side.peer = link.produced side.peer)
    (session : after.role.session = some (moved.sessions side))
    (frames : ProducedFrames wire (moved.produced side) (state.frames side.peer ++ after.requests))
    (consumed : running = true → ∀ number ∈ (moved.sessions side).consumedMessageNumbers,
      ∃ bytes ∈ state.frames side, ∃ messageId message, IsFrame wire bytes messageId message ∧
        message.number = number ∧ after.database.storage.messages.Contains messageId) :
    Mirror wire (state.finish side running after) moved where
  reachable := reachable
  session other := by
    rcases other.eq_or_eq_peer side with rfl | rfl
    · rwa [finish_endpoints_self]
    · rw [PairedChat.finish, peerSession]
      dsimp only
      rw [Function.update_of_ne (RatchetRole.peer_ne side)]
      exact mirror.session side.peer
  frames other := by
    rw [PairedChat.finish]
    dsimp only
    rcases other.eq_or_eq_peer side with rfl | rfl
    · rwa [Function.update_self]
    · rw [RatchetRole.peer_peer, Function.update_of_ne (RatchetRole.ne_peer side), peerProduced]
      have unchanged := mirror.frames side.peer
      rwa [RatchetRole.peer_peer] at unchanged
  consumed other runs number member := by
    rw [PairedChat.finish] at runs ⊢
    dsimp only [Saved] at runs ⊢
    rcases other.eq_or_eq_peer side with rfl | rfl
    · rw [Function.update_self] at runs
      rw [Function.update_self, Function.update_of_ne (RatchetRole.ne_peer other)]
      exact consumed runs number member
    · rw [Function.update_of_ne (RatchetRole.peer_ne side)] at runs
      rw [peerSession] at member
      obtain ⟨bytes, inFlight, messageId, message, frame, same, saved⟩ :=
        mirror.consumed side.peer runs number member
      rw [Function.update_self, Function.update_of_ne (RatchetRole.peer_ne side)]
      exact ⟨bytes, List.mem_append_left _ inFlight, messageId, message, frame, same, saved⟩

/-- A call that encrypts only. -/
theorem call {Result : Type} {method : ChatResult P Result}
    (mirror : Mirror wire state link)
    (mirrored : Keeps (fun chat =>
      Mirrored wire side (state.frames side.peer) link chat.role chat.requests) method)
    (kept : Keeps (RowsKept wire state side) method) (moment : Moment) :
    ∃ moved, Mirror wire (state.call side moment method).2 moved := by
  have begun : Mirrored wire side (state.frames side.peer) link (state.endpoints side).role [] :=
    ⟨link, .refl, mirror.session side, by
      rw [List.append_nil]
      exact mirror.frames side⟩
  obtain ⟨moved, onward, session, frames⟩ :=
    (mirrored ((state.endpoints side).begun moment) begun).reached
  have rows := (kept _ (rowsKept_begun state side moment)).reached
  obtain ⟨_, initial, run⟩ := mirror.reachable
  refine ⟨moved, mirror.finish ⟨_, initial, run.trans onward.reaches⟩ onward.peerSession
    onward.peerProduced session frames ?_⟩
  intro running number consumed
  rw [onward.consumed] at consumed
  obtain ⟨bytes, inFlight, messageId, message, frame, same, saved⟩ :=
    mirror.consumed side (Bool.and_eq_true_iff.mp running).1 number consumed
  exact ⟨bytes, inFlight, messageId, message, frame, same,
    rows.database.known messageId saved⟩

theorem setRunning (mirror : Mirror wire state link) {running : Bool}
    (weaker : running = true → state.running side = true) :
    Mirror wire (state.setRunning side running) link where
  reachable := mirror.reachable
  session := mirror.session
  frames := mirror.frames
  consumed other runs := by
    apply mirror.consumed other
    rw [PairedChat.setRunning] at runs
    rcases other.eq_or_eq_peer side with rfl | rfl
    · exact weaker (by simpa using runs)
    · simpa using runs

/-- Delivering a message consumes at most its number. -/
theorem consumed_deliver (commutes : P.DhCommutes) (correct : P.AeadCorrect)
    (reachable : Link.genuineDelivery.Reachable link) {message : RatchetMessage P} {text : String}
    (sent : (message, text) ∈ link.produced side.peer) {number : Nat}
    (consumed : number ∈
      ((link.next (.deliver side message)).sessions side).consumedMessageNumbers) :
    number = message.number ∨ number ∈ (link.sessions side).consumedMessageNumbers := by
  obtain ⟨_, _, inStep⟩ := Link.inStep_of_reachable commutes correct reachable
  rw [Link.sessions_deliver, if_pos rfl] at consumed
  rcases (inStep.genuine sent).decrypt_progress correct (inStep.atEpoch side) with
    ⟨_, numbers⟩ | ⟨_, numbers⟩
  · rw [numbers] at consumed
    exact Finset.mem_insert.mp consumed
  · exact .inr (numbers ▸ consumed)

theorem assign (mirror : Mirror wire state link) (side : RatchetRole)
    (messageId : Option String) (line : String) :
    Mirror wire (state.assign side messageId line) link :=
  ⟨mirror.reachable, mirror.session, mirror.frames, mirror.consumed⟩

theorem acknowledge (mirror : Mirror wire state link) (messageId : String) :
    Mirror wire (state.acknowledge side messageId) link :=
  ⟨mirror.reachable, mirror.session, mirror.frames, mirror.consumed⟩

theorem confirm (mirror : Mirror wire state link) (messageId : String) :
    Mirror wire (state.confirm side messageId) link :=
  ⟨mirror.reachable, mirror.session, mirror.frames, mirror.consumed⟩

/-- A call that handles a frame may deliver its message, whose row is then there. -/
theorem handle (commutes : P.DhCommutes) (correct : P.AeadCorrect)
    (mirror : Mirror wire state link) {bytes : Bytes}
    (inFlight : bytes ∈ state.frames side) (moment : Moment) :
    ∃ moved, Mirror wire
      (state.call side moment (PairingChat.handleRequest wire bytes)).2 moved := by
  have incoming := mirror.frames side.peer
  rw [RatchetRole.peer_peer] at incoming
  obtain ⟨messageId, message, text, carried, sent⟩ := incoming.produced bytes inFlight
  obtain ⟨senderDisplayName, parsed⟩ := carried
  have rows : RowsKept wire state side _ := rowsKept_begun state side moment
  have handled := PairingChat.handleRequest_ensures rows parsed fun _ _ _ never => never.elim
  have holds : ((state.endpoints side).begun moment).role.session = _ := mirror.session side
  have ends := (PairingChat.handleRequest_mirrored ⟨_, parsed⟩ holds).reached
  rw [PairedChat.call]
  rcases run : (PairingChat.handleRequest wire bytes).run ((state.endpoints side).begun moment)
    with ⟨result, after⟩
  rw [run] at ends
  obtain ⟨sessions, requests⟩ := ends
  have sentFrames : ∀ {produced}, ProducedFrames wire produced (state.frames side.peer) →
      ProducedFrames wire produced (state.frames side.peer ++ after.requests) := by
    intro produced frames
    rwa [requests, PairingChat.begun, List.append_nil]
  have stored : (state.running side && result.toBool) = true → ∀ number,
      number = message.number ∨ number ∈ (link.sessions side).consumedMessageNumbers →
        ∃ bytes ∈ state.frames side, ∃ messageId message, IsFrame wire bytes messageId message ∧
          message.number = number ∧ after.database.storage.messages.Contains messageId := by
    intro running number consumed
    obtain ⟨runs, success⟩ := Bool.and_eq_true_iff.mp running
    cases result with
    | error error => cases success
    | ok acknowledged =>
        have known := (handled.of_ok run).2.database.known
        rcases consumed with rfl | before
        · exact ⟨bytes, inFlight, messageId, message, ⟨_, parsed⟩, rfl, known _ (.inr rfl)⟩
        · obtain ⟨old, oldInFlight, oldId, oldMessage, frame, same, saved⟩ :=
            mirror.consumed side runs number before
          exact ⟨old, oldInFlight, oldId, oldMessage, frame, same, known _ (.inl saved)⟩
  rcases sessions with unchanged | delivered
  · exact ⟨link, mirror.finish mirror.reachable rfl rfl unchanged
      (sentFrames (mirror.frames side)) fun running number consumed =>
        stored running number (.inr consumed)⟩
  · obtain ⟨_, initial, reaches⟩ := mirror.reachable
    have permits : Link.genuineDelivery.Permits link [.deliver side message] :=
      ⟨⟨text, sent⟩, trivial⟩
    refine ⟨_, mirror.finish ⟨_, initial, reaches.trans permits.reaches⟩ ?_ rfl delivered
      (sentFrames (mirror.frames side)) fun running number consumed =>
        stored running number (consumed_deliver commutes correct mirror.reachable sent consumed)⟩
    exact (link.sessions_deliver side side.peer message).trans (if_neg (RatchetRole.peer_ne side))

/-- Every event of a session moves the link on. -/
theorem next (commutes : P.DhCommutes) (correct : P.AeadCorrect)
    (frames : wire.chatFrame.RoundTrip) (mirror : Mirror wire state link)
    {event : PairedChatEvent P × Moment} (permitted : (oneSession wire).permitted state event) :
    ∃ moved, Mirror wire (state.next wire event) moved := by
  obtain ⟨event, moment⟩ := event
  have apart : Apart (fun _ _ => True) fun _ _ => False := fun _ _ _ _ => id
  cases event with
  | line side line random =>
      obtain ⟨moved, after⟩ := (mirror.assign side _ line).call
        (PairingChat.keepsSession_submit
          (keptBySending_mirrored commutes correct frames mirror.reachable _) line random)
        (fun _ rows => PairingChat.submit_ensures frames apart rows fun _ _ => trivial) moment
      refine ⟨moved, after.setRunning ?_⟩
      exact fun runs => (Bool.and_eq_true_iff.mp runs).1
  | frame side bytes =>
      obtain ⟨moved, after⟩ := mirror.handle commutes correct permitted.1.2 moment
      refine ⟨moved, ?_⟩
      simp only [PairedChat.next]
      split
      · next outcome =>
          rw [outcome] at after
          exact after.acknowledge _
      · next outcome => rwa [outcome] at after
  | ack side messageId =>
      obtain ⟨moved, after⟩ := mirror.call PairingChat.keepsSession_onStorage
        (PairingChat.keeps_handleResponse messageId) moment
      refine ⟨moved, ?_⟩
      simp only [PairedChat.next]
      split
      · exact after.confirm _
      · exact after
  | connected side =>
      exact mirror.call
        (PairingChat.keepsSession_connected
          (keptBySending_mirrored commutes correct frames mirror.reachable _))
        (PairingChat.keeps_connected frames apart) moment
  | disconnected side =>
      exact mirror.call PairingChat.keepsSession_disconnected PairingChat.keeps_disconnected
        moment
  | start side role context => cases permitted.2
  | saveContact side contactId displayName identityPublicKey discoveryHint =>
      exact mirror.call PairingChat.keepsSession_onStorage
        (PairingChat.keeps_onStorage (keeps_saveContactForChat _ _ _ _)) moment

end Mirror

/-- A chat between two handshakes mirrors a link. -/
theorem mirror_of_reachable (commutes : P.DhCommutes) (correct : P.AeadCorrect)
    (frames : wire.chatFrame.RoundTrip) (reachable : (oneSession wire).Reachable state) :
    ∃ link, Mirror wire state link :=
  reachable.invariant (fun state => ∃ link, Mirror wire state link)
    (fun _ => Mirror.start commutes) fun _ _ mirrored permitted => by
      obtain ⟨link, mirror⟩ := mirrored
      exact mirror.next commutes correct frames permitted

end PairedChat

end CipherMesh
