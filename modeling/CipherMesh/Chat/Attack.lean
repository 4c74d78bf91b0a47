import CipherMesh.Chat.Delivery
import CipherMesh.Chat.Mirror
import CipherMesh.Chat.EventEffects
import CipherMesh.Chat.Sending
import CipherMesh.Link.Agreement

/-!
# Chats under attack

Two chat processes whose network belongs to an attacker without the session keys: it
delivers every acknowledgement, and every message frame around a ciphertext that it has
seen or could make.  Each call of a process is matched by a run of the deployment of its
two sessions, so a message that decrypts is that of a frame which the other process sent.
-/

namespace CipherMesh

open Foundation
open Foundation.Mutation
open PairingChat

variable {P : Primitives}

/-! ## The system -/

/-- Two processes and what has happened to them: the frames that each has sent, the
messages that its session produced `earlier`, the ids that it has acknowledged, the
received rows that it has stored and the pending rows that it has removed. -/
structure AttackedChats (P : Primitives) where
  processes : RatchetRole → ChatProcess P
  earlier : RatchetRole → List (RatchetMessage P)
  sent : RatchetRole → List Bytes
  acknowledged : RatchetRole → List String
  stored : RatchetRole → List MessageRecord
  removed : RatchetRole → List PendingPeerMessage

structure AttackedChatEvent where
  side : RatchetRole
  event : ChatEvent
  moment : Moment

namespace AttackedChats

abbrev storage (state : AttackedChats P) (side : RatchetRole) : Storage :=
  (state.processes side).chat.database.storage

/-- The id of the message in a frame.  A process that handles the frame without an error
ends by acknowledging it. -/
def handledId (wire : Wire P) : ChatEvent → Option String
  | .frame bytes =>
      match wire.chatFrame.deserialize bytes with
      | some (.message messageId _ _) => some messageId
      | _ => none
  | _ => none

/-- The received rows that are new. -/
def newRows (before after : Storage) : List MessageRecord :=
  after.messages.rows.filter fun row =>
    row.direction = .received ∧ ¬ before.messages.Contains row.messageId

/-- The pending rows that are gone. -/
def goneRows (before after : Storage) : List PendingPeerMessage :=
  before.pendingPeerMessages.rows.filter fun row =>
    ¬ after.pendingPeerMessages.Contains row.messageId

/-- More entries in the history of one side. -/
def add {Entry : Type} (history : RatchetRole → List Entry) (side : RatchetRole)
    (entries : List Entry) : RatchetRole → List Entry :=
  Function.update history side (history side ++ entries)

theorem mem_add {Entry : Type} {history : RatchetRole → List Entry} {side other : RatchetRole}
    {entries : List Entry} {entry : Entry} :
    entry ∈ add history side entries other ↔
      entry ∈ history other ∨ (other = side ∧ entry ∈ entries) := by
  rcases eq_or_ne other side with rfl | different
  · simp [add]
  · simp [add, different]

theorem mem_newRows {before after : Storage} {row : MessageRecord} :
    row ∈ newRows before after ↔ row ∈ after.messages ∧ row.direction = .received ∧
      ¬ before.messages.Contains row.messageId := by
  simp [newRows, Table.mem_def]

theorem mem_goneRows {before after : Storage} {row : PendingPeerMessage} :
    row ∈ goneRows before after ↔ row ∈ before.pendingPeerMessages ∧
      ¬ after.pendingPeerMessages.Contains row.messageId := by
  simp [goneRows, Table.mem_def]

def next (wire : Wire P) (state : AttackedChats P) (event : AttackedChatEvent) :
    AttackedChats P :=
  let process := (state.processes event.side).next wire event.event event.moment
  let after := process.chat.database.storage
  { state with
    processes := Function.update state.processes event.side process
    sent := add state.sent event.side process.chat.requests
    acknowledged := add state.acknowledged event.side
      (if process.running then (handledId wire event.event).toList else [])
    stored := add state.stored event.side (newRows (state.storage event.side) after)
    removed := add state.removed event.side (goneRows (state.storage event.side) after) }

theorem storage_next_self (wire : Wire P) (state : AttackedChats P) (event : AttackedChatEvent) :
    (state.next wire event).storage event.side =
      ((state.processes event.side).next wire event.event event.moment).chat.database.storage := by
  simp [storage, next]

theorem storage_next_peer (wire : Wire P) (state : AttackedChats P) (event : AttackedChatEvent) :
    (state.next wire event).storage event.side.peer = state.storage event.side.peer := by
  simp [storage, next]

/-- The ciphertexts that the attacker can deliver: those it has seen, and those that nobody
without the key could have sealed but the attacker. -/
def Deliverable (attacker : P.Knowledge) (wire : Wire P) (state : AttackedChats P)
    (message : RatchetMessage P) : Prop :=
  (∃ side, ∃ bytes ∈ state.sent side, ∃ messageId seen, IsFrame wire bytes messageId seen ∧
      seen.ciphertext = message.ciphertext) ∨
    (∃ side, ∃ seen ∈ state.earlier side, seen.ciphertext = message.ciphertext) ∨
    ∀ key nonce aad plaintext,
      P.aeadSeal key nonce aad plaintext = some message.ciphertext → attacker.knows key

/-- Acknowledgements can be anything. -/
def Delivers (attacker : P.Knowledge) (wire : Wire P) (state : AttackedChats P)
    (event : ChatEvent) : Prop :=
  ∀ bytes, event = .frame bytes → ∀ messageId message, IsFrame wire bytes messageId message →
    state.Deliverable attacker wire message

/-- The sessions of the processes are those of a deployment in which every message that was
produced so far is accepted, and nothing else has happened. -/
structure Starts (attacker : P.Knowledge) (state : AttackedChats P)
    (deployment : Deployment P) : Prop where
  reachable : (Deployment.attackedInStep attacker).Reachable deployment
  session : ∀ side, (state.processes side).chat.role.session =
    some (deployment.link.sessions side)
  earlier : ∀ side, state.earlier side = (deployment.link.produced side).map Prod.fst
  accepted : ∀ side, ∀ message ∈ state.earlier side,
    message ∈ (deployment.link.accepted side.peer).map Prod.fst
  sent : ∀ side, state.sent side = []
  acknowledged : ∀ side, state.acknowledged side = []
  stored : ∀ side, state.stored side = []
  removed : ∀ side, state.removed side = []

def system (attacker : P.Knowledge) (wire : Wire P) :
    System (AttackedChats P) AttackedChatEvent where
  initial state := ∃ deployment, state.Starts attacker deployment
  permitted state event := (state.processes event.side).Enabled event.event ∧
    state.Delivers attacker wire event.event
  next := next wire

end AttackedChats

/-! ## The deployment below a chat -/

variable {attacker : P.Knowledge} {wire : Wire P} {side : RatchetRole}

/-- Calls of one side have moved the deployment on. -/
structure Advances (attacker : P.Knowledge) (side : RatchetRole) (start after : Deployment P) :
    Prop where
  reaches : (Deployment.attackedInStep attacker).Reaches start after
  peerSession : after.link.sessions side.peer = start.link.sessions side.peer
  produced : ∀ other, start.link.produced other ⊆ after.link.produced other
  accepted : ∀ other, start.link.accepted other ⊆ after.link.accepted other

namespace Advances

variable {start after : Deployment P}

theorem refl (start : Deployment P) : Advances attacker side start start :=
  ⟨.refl, rfl, fun _ => List.Subset.refl _, fun _ => List.Subset.refl _⟩

theorem encrypt (advances : Advances attacker side start after) (text : String) :
    Advances attacker side start (after.next (.call (.encrypt side text))) where
  reaches := by
    have allowed : (Deployment.attackedInStep attacker).permitted after
        (.call (.encrypt side text)) := ⟨trivial, nofun⟩
    exact .step _ advances.reaches allowed
  peerSession := by
    rw [Deployment.next_call_link, Link.sessions_encrypt, if_neg (RatchetRole.peer_ne side)]
    exact advances.peerSession
  produced other _ member :=
    (Link.mem_produced_encrypt text).mpr (.inr (advances.produced other member))
  accepted := advances.accepted

theorem deliver (advances : Advances attacker side start after) {message : RatchetMessage P}
    (deliverable : Deployment.Deliverable attacker after.link message) :
    Advances attacker side start (after.next (.call (.deliver side message))) where
  reaches := by
    have allowed : (Deployment.attackedInStep attacker).permitted after
        (.call (.deliver side message)) := ⟨deliverable, nofun⟩
    exact .step _ advances.reaches allowed
  peerSession := by
    rw [Deployment.next_call_link, Link.sessions_deliver, if_neg (RatchetRole.peer_ne side)]
    exact advances.peerSession
  produced := advances.produced
  accepted other _ member := Link.mem_accepted_deliver.mpr (.inr (advances.accepted other member))

end Advances

theorem Deployment.Deliverable.mono {link after : Link P} {message : RatchetMessage P}
    (deliverable : Deliverable attacker link message)
    (more : ∀ other, link.produced other ⊆ after.produced other) :
    Deliverable attacker after message := by
  refine deliverable.imp_left ?_
  rintro ⟨other, seen, text, produced, same⟩
  exact ⟨other, seen, text, more other produced, same⟩

/-- The message frames carry what was produced. -/
def FramesProduced (wire : Wire P) (produced : List (RatchetMessage P × String))
    (frames : List Bytes) : Prop :=
  ∀ bytes ∈ frames, ∀ messageId message, IsFrame wire bytes messageId message →
    ∃ text, (message, text) ∈ produced

theorem FramesProduced.append {produced more : List (RatchetMessage P × String)}
    {frames added : List Bytes} (holds : FramesProduced wire produced frames)
    (subset : produced ⊆ more) (addedHolds : FramesProduced wire more added) :
    FramesProduced wire more (frames ++ added) := by
  intro bytes member messageId message frame
  rcases List.mem_append.mp member with old | new
  · obtain ⟨text, sent⟩ := holds bytes old messageId message frame
    exact ⟨text, subset sent⟩
  · exact addedHolds bytes new messageId message frame

/-- The session and the frames of a side are those of a deployment that moved on from
`start`. -/
def Followed (attacker : P.Knowledge) (wire : Wire P) (side : RatchetRole) (start : Deployment P)
    (role : PairingChatRole P) (requests : List Bytes) : Prop :=
  ∃ after, Advances attacker side start after ∧
    role.session = some (after.link.sessions side) ∧
    FramesProduced wire (after.link.produced side) requests

theorem keptBySending_followed (frames : wire.chatFrame.RoundTrip) (start : Deployment P) :
    KeptBySending wire (Followed attacker wire side start) where
  encrypt := by
    rintro role requests text ⟨after, advances, session, produced⟩
    have advanced := advances.encrypt text
    have kept : FramesProduced wire
        ((after.next (.call (.encrypt side text))).link.produced side) requests := by
      intro bytes member messageId message frame
      obtain ⟨found, sent⟩ := produced bytes member messageId message frame
      exact ⟨found, (Link.mem_produced_encrypt text).mpr (.inr sent)⟩
    refine (PairingChatRole.encrypt_mirrored session text).mono ?_ ?_
    · rintro message reached ⟨reachedSession, sent, _⟩
      refine ⟨⟨_, advanced, reachedSession, kept⟩, fun messageId name bytes framed =>
        ⟨_, advanced, reachedSession, kept.append (List.Subset.refl _) ?_⟩⟩
      intro other member otherId otherMessage frame
      obtain rfl := List.mem_singleton.mp member
      obtain ⟨_, rfl⟩ := frame.eq ⟨_, frames framed⟩
      exact ⟨text, sent⟩
    · exact fun _ reached reachedSession => ⟨_, advanced, reachedSession, kept⟩

theorem keptByAcks_followed (frames : wire.chatFrame.RoundTrip) (start : Deployment P) :
    KeptByAcks wire (Followed attacker wire side start) := by
  rintro role requests messageId bytes ⟨after, advances, session, produced⟩ framed
  refine ⟨after, advances, session, produced.append (List.Subset.refl _) ?_⟩
  intro other member otherId otherMessage frame
  obtain rfl := List.mem_singleton.mp member
  obtain ⟨_, parsed⟩ := frame
  rw [frames framed] at parsed
  cases parsed

theorem keptByDecrypting_followed {start : Deployment P} {bytes : Bytes}
    (deliverable : ∀ messageId message, IsFrame wire bytes messageId message →
      Deployment.Deliverable attacker start.link message) :
    KeptByDecrypting wire bytes (Followed attacker wire side start) := by
  intro messageId senderDisplayName message role requests parsed followed
  obtain ⟨after, advances, session, produced⟩ := followed
  have advanced := advances.deliver
    ((deliverable messageId message ⟨_, parsed⟩).mono advances.produced)
  exact (PairingChatRole.decrypt_mirrored session message).mono
    (fun _ _ reached => ⟨_, advanced, reached, produced⟩)
    fun _ _ reached => ⟨_, advanced, reached, produced⟩

namespace AttackedChats

variable {state : AttackedChats P} {deployment : Deployment P}

/-- The processes of the state run on the sessions of the deployment. -/
structure Follows (attacker : P.Knowledge) (wire : Wire P) (state : AttackedChats P)
    (deployment : Deployment P) : Prop where
  reachable : (Deployment.attackedInStep attacker).Reachable deployment
  session : ∀ side, (state.processes side).chat.role.session =
    some (deployment.link.sessions side)
  sent : ∀ side, FramesProduced wire (deployment.link.produced side) (state.sent side)
  earlier : ∀ side, ∀ message ∈ state.earlier side,
    (∃ text, (message, text) ∈ deployment.link.produced side) ∧
      message ∈ (deployment.link.accepted side.peer).map Prod.fst

theorem Starts.follows (starts : state.Starts attacker deployment) :
    Follows attacker wire state deployment where
  reachable := starts.reachable
  session := starts.session
  sent side := by
    rw [starts.sent]
    exact fun _ member => absurd member List.not_mem_nil
  earlier side message member := by
    refine ⟨?_, starts.accepted side message member⟩
    rw [starts.earlier] at member
    obtain ⟨⟨_, text⟩, produced, rfl⟩ := List.mem_map.mp member
    exact ⟨text, produced⟩

namespace Follows

theorem deliverable (follows : Follows attacker wire state deployment)
    {message : RatchetMessage P} (deliverable : state.Deliverable attacker wire message) :
    Deployment.Deliverable attacker deployment.link message := by
  rcases deliverable with ⟨sender, bytes, sent, messageId, seen, frame, same⟩ |
    ⟨sender, seen, earlier, same⟩ | unknown
  · obtain ⟨text, produced⟩ := follows.sent sender bytes sent messageId seen frame
    exact .inl ⟨sender, seen, text, produced, same⟩
  · obtain ⟨⟨text, produced⟩, _⟩ := follows.earlier sender seen earlier
    exact .inl ⟨sender, seen, text, produced, same⟩
  · exact .inr unknown

theorem next (frames : wire.chatFrame.RoundTrip)
    (follows : Follows attacker wire state deployment) {event : AttackedChatEvent}
    (permitted : (system attacker wire).permitted state event) :
    ∃ after, Follows attacker wire (state.next wire event) after := by
  obtain ⟨side, event, moment⟩ := event
  have begun : Followed attacker wire side deployment (state.processes side).chat.role [] :=
    ⟨deployment, .refl _, follows.session side, fun _ member => absurd member List.not_mem_nil⟩
  have decrypts : ∀ bytes, event = .frame bytes →
      KeptByDecrypting wire bytes (Followed attacker wire side deployment) := fun bytes same =>
    keptByDecrypting_followed fun messageId message frame =>
      follows.deliverable (permitted.2 bytes same messageId message frame)
  obtain ⟨after, advances, session, produced⟩ :=
    ChatProcess.next_keepsSession (keptBySending_followed frames deployment)
      (keptByAcks_followed frames deployment) begun decrypts moment
  obtain ⟨start, initial, run⟩ := follows.reachable
  refine ⟨after, ⟨start, initial, run.trans advances.reaches⟩, ?_, ?_, ?_⟩
  · intro other
    rcases other.eq_or_eq_peer side with rfl | rfl
    · simpa only [AttackedChats.next, Function.update_self] using session
    · simpa only [AttackedChats.next, Function.update_of_ne (RatchetRole.peer_ne side),
        advances.peerSession] using follows.session side.peer
  · intro other
    rcases other.eq_or_eq_peer side with rfl | rfl
    · simpa only [AttackedChats.next, add, Function.update_self] using
        (follows.sent other).append (advances.produced other) produced
    · simp only [AttackedChats.next, add, Function.update_of_ne (RatchetRole.peer_ne side)]
      intro bytes member messageId message frame
      obtain ⟨text, sent⟩ := follows.sent side.peer bytes member messageId message frame
      exact ⟨text, advances.produced _ sent⟩
  · intro other message member
    obtain ⟨⟨text, sent⟩, accepted⟩ := follows.earlier other message member
    exact ⟨⟨text, advances.produced other sent⟩,
      List.map_subset Prod.fst (advances.accepted other.peer) accepted⟩

/-- A delivered message that decrypts is that of a frame which the other side sent, sealed
from the text that was returned. -/
theorem frame_of_ok (ideal : P.Ideal) (follows : Follows attacker wire state deployment)
    {message : RatchetMessage P} {text : String}
    (deliverable : state.Deliverable attacker wire message)
    (success : ((PairingChatRole.decrypt message).run (state.processes side).chat.role).1 =
      .ok text) :
    SealedFrom message.ciphertext text ∧
      ∃ bytes ∈ state.sent side.peer, ∃ messageId, IsFrame wire bytes messageId message := by
  rw [PairingChatRole.run_decrypt (follows.session side)] at success
  have possible := follows.deliverable deliverable
  have reachable := Deployment.attacked_of_inStep follows.reachable
  have produced := Deployment.produced_of_ok ideal reachable possible success
  have new := Deployment.new_of_ok ideal follows.reachable success
  obtain ⟨_, secret, authentic⟩ := Deployment.authentic_of_reachable ideal reachable
  have origin : ∀ {sender seen seenText}, (seen, seenText) ∈ deployment.link.produced sender →
      seen.ciphertext = message.ciphertext → sender = side.peer ∧ seen = message :=
    fun seenProduced same => authentic.produced_unique ideal produced seenProduced same
  obtain ⟨key, nonce, aad, sealed, unknownKey⟩ := authentic.secret secret produced
  refine ⟨⟨key, nonce, aad, sealed⟩, ?_⟩
  rcases deliverable with ⟨sender, bytes, sent, messageId, seen, frame, same⟩ |
    ⟨sender, seen, earlier, same⟩ | unknown
  · obtain ⟨_, seenProduced⟩ := follows.sent sender bytes sent messageId seen frame
    obtain ⟨rfl, rfl⟩ := origin seenProduced same
    exact ⟨bytes, sent, messageId, frame⟩
  · obtain ⟨⟨_, seenProduced⟩, accepted⟩ := follows.earlier sender seen earlier
    obtain ⟨rfl, rfl⟩ := origin seenProduced same
    rw [RatchetRole.peer_peer] at accepted
    exact absurd accepted new
  · exact absurd (unknown key nonce aad _ sealed) unknownKey

end Follows

end AttackedChats

/-! ## Chats that have just begun -/

namespace Symbolic

/-- Nothing has happened to the processes yet. -/
def quietChats (processes : RatchetRole → ChatProcess primitives) : AttackedChats primitives where
  processes := processes
  earlier _ := []
  sent _ := []
  acknowledged _ := []
  stored _ := []
  removed _ := []

theorem quietChats_starts {processes : RatchetRole → ChatProcess primitives}
    (roles : ∀ side, (processes side).chat.role = (endpoint side).role) :
    (quietChats processes).Starts Deployment.outsider (.start sessions) where
  reachable := ⟨_, ⟨_, sessions_established, id, rfl⟩, .refl⟩
  session side := by
    cases side <;> exact congrArg PairingChatRole.session (roles _)
  earlier _ := rfl
  accepted _ _ member := absurd member List.not_mem_nil
  sent _ := rfl
  acknowledged _ := rfl
  stored _ := rfl
  removed _ := rfl

end Symbolic

end CipherMesh
