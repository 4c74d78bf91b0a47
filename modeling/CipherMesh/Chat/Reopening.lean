import CipherMesh.Chat.Effects
import CipherMesh.Chat.Mirror

/-!
# What a connection sends when it opens

When the peer comes back, a side encrypts its whole queue again and sends it in the order
of the queue.  The frames have consecutive numbers from where the session was, and the
queue itself keeps its ids and their order.
-/

namespace CipherMesh

open Foundation
open Foundation.Mutation
open RatchetSession

variable {P : Primitives} {wire : Wire P} {side : RatchetRole}

/-! ## Queues and their frames -/

namespace Storage

/-- The ids of the messages that wait for the peer, in the order in which they are sent. -/
def queuedIds (peerId : String) (storage : Storage) : List String :=
  (storage.pendingFor peerId).map PendingPeerMessage.messageId

theorem nodup_queuedIds (peerId : String) (storage : Storage) :
    (storage.queuedIds peerId).Nodup :=
  Table.nodup_key_select _ _ _

/-- These ids wait for the peer. -/
def HasQueue (peerId : String) (ids : List String) (storage : Storage) : Prop :=
  storage.queuedIds peerId = ids

theorem readsConversations_hasQueue (peerId : String) (ids : List String) :
    ReadsConversations (HasQueue peerId ids) := by
  intro storage after same queued
  rwa [HasQueue, queuedIds, pendingFor, same.pending]

end Storage

/-- Another attempt leaves the queue in its order. -/
theorem keepsTables_recordAttempt_hasQueue (peerId : String) (ids : List String)
    (messageId : String) :
    KeepsTables (Storage.HasQueue peerId ids)
      (Database.recordPendingPeerMessageAttempt messageId) := by
  refine .bind Database.keeps_nowUnixSecs fun now => Database.keeps_execute ?_
  intro storage queued
  rw [Storage.HasQueue, Storage.queuedIds, Storage.pendingFor, Table.select_update, List.map_map,
    ← queued]
  · refine List.map_congr_left fun row _ => ?_
    rw [Function.comp_apply]
    split <;> rfl
  · exact fun _ => rfl
  · exact fun _ => rfl

/-- The frames carry the messages with these ids, numbered from `first` on. -/
structure NumberedFrames (wire : Wire P) (produced : List (RatchetMessage P × String))
    (first : Nat) (ids : List String) (frames : List Bytes) : Prop where
  length_eq : frames.length = ids.length
  numbered : ∀ position messageId, ids[position]? = some messageId →
    ∃ bytes message text, frames[position]? = some bytes ∧
      IsFrame wire bytes messageId message ∧ (message, text) ∈ produced ∧
        message.number = first + position

namespace NumberedFrames

variable {produced more : List (RatchetMessage P × String)} {first : Nat} {ids : List String}
variable {frames : List Bytes}

theorem nil : NumberedFrames wire produced first [] [] where
  length_eq := rfl
  numbered _ _ found := by cases found

theorem mono (holds : NumberedFrames wire produced first ids frames) (weaker : produced ⊆ more) :
    NumberedFrames wire more first ids frames where
  length_eq := holds.length_eq
  numbered position messageId found := by
    obtain ⟨bytes, message, text, here, frame, sent, number⟩ :=
      holds.numbered position messageId found
    exact ⟨bytes, message, text, here, frame, weaker sent, number⟩

/-- The next frame is added at the end. -/
theorem append (holds : NumberedFrames wire produced first ids frames) {bytes : Bytes}
    {messageId text : String} {message : RatchetMessage P}
    (frame : IsFrame wire bytes messageId message) (sent : (message, text) ∈ produced)
    (number : message.number = first + ids.length) :
    NumberedFrames wire produced first (ids ++ [messageId]) (frames ++ [bytes]) where
  length_eq := by rw [List.length_append, List.length_append, holds.length_eq]; rfl
  numbered position other found := by
    rcases Nat.lt_or_ge position ids.length with before | atEnd
    · rw [List.getElem?_append_left before] at found
      rw [List.getElem?_append_left (holds.length_eq ▸ before)]
      exact holds.numbered position other found
    · have below := (List.getElem?_eq_some_iff.mp found).1
      rw [List.length_append, List.length_singleton] at below
      obtain rfl : position = ids.length := by omega
      rw [List.getElem?_concat_length] at found
      obtain rfl := Option.some.inj found
      refine ⟨bytes, message, text, ?_, frame, sent, number⟩
      rw [← holds.length_eq, List.getElem?_concat_length]

end NumberedFrames

/-! ## Sending the queue -/

/-- A side that has sent the frames of `done`, its session having moved on from `start`. -/
structure Sending (wire : Wire P) (side : RatchetRole) (start : Link P) (ids done : List String)
    (context : PairingChatContext) (chat : PairingChat P) : Prop where
  sent : ∃ link, Onward side start link ∧ chat.role.session = some (link.sessions side) ∧
    (link.sessions side).recvCount = (start.sessions side).recvCount ∧
      (link.sessions side).sendCount = (start.sessions side).sendCount + done.length ∧
        NumberedFrames wire (link.produced side) (start.sessions side).sendCount done
          chat.requests
  queued : chat.database.storage.HasQueue context.conversationId ids
  context_eq : chat.context = context

namespace PairingChat

variable {chat : PairingChat P}

/-- A prepared frame carries the next message of the session. -/
theorem prepareFrame_next (frames : wire.chatFrame.RoundTrip) {link : Link P}
    (holds : chat.role.session = some (link.sessions side)) {remoteDisplayName text : String}
    {messageId : String} :
    let moved := link.next (.encrypt side text)
    (prepareFrame wire remoteDisplayName text (some messageId)).Ensures chat
      (fun prepared after => after.role.session = some (moved.sessions side) ∧
        after.requests = chat.requests ∧
          ∃ message, (message, text) ∈ moved.produced side ∧
            message.number = (link.sessions side).sendCount ∧
              IsFrame wire prepared.2 messageId message)
      (fun _ _ => True) := by
  intro moved
  rw [prepareFrame, ensures_bind, onRole, ensures_mapError, ensures_focus]
  refine (PairingChatRole.encrypt_mirrored holds text).mono ?_ fun _ _ _ => trivial
  rintro message role ⟨session, sent, number⟩
  let same : PairingChatRole P → List Bytes → Prop := fun after requests =>
    after.session = some (moved.sessions side) ∧ requests = chat.requests
  have saves : KeepsSession same (saveIdentity wire) := keepsSession_saveIdentity
  rw [ensures_bind]
  refine (saves { chat with role } ⟨session, rfl⟩).mono ?_ fun _ _ _ => trivial
  intro _ saved savedSame
  simp only [prepareOutgoingFrame, ensures_bind, ensures_get, ensures_okOr, ensures_pure]
  refine ⟨fun messageBytes _ => ⟨fun bytes framed => ?_, fun _ => trivial⟩, fun _ => trivial⟩
  have persists : ∀ {entry : ChatHistoryEntry}, KeepsSession same
      (onStorage (persistChatMessage P entry)) := keepsSession_onStorage
  refine (persists saved savedSame).mono ?_ fun _ _ _ => trivial
  rintro _ persisted ⟨reached, requests⟩
  exact ⟨reached, requests, message, sent, number, _, frames framed⟩

end PairingChat

section

variable {start : Link P} {ids done : List String} {context : PairingChatContext}
variable {chat : PairingChat P}

theorem Sending.recordAttempt (sending : Sending wire side start ids done context chat)
    (messageId : String) :
    (PairingChat.onStorage (Database.recordPendingPeerMessageAttempt messageId)).Ensures chat
      (fun _ after => Sending wire side start ids done context after) (fun _ _ => True) := by
  rw [PairingChat.onStorage, PairingChat.onDatabase, ensures_focus, ensures_mapError]
  exact (keepsTables_recordAttempt_hasQueue _ _ messageId chat.database sending.queued).mono
    (fun _ _ queued => ⟨sending.sent, queued, sending.context_eq⟩) fun _ _ _ => trivial

/-- One more message of the queue is sent. -/
theorem Sending.send (frames : wire.chatFrame.RoundTrip)
    (sending : Sending wire side start ids done context chat)
    {remoteDisplayName text messageId : String} :
    (PairingChat.prepareFrame wire remoteDisplayName text (some messageId)).Ensures chat
      (fun prepared after => Sending wire side start ids (done ++ [messageId]) context
        { after with requests := after.requests ++ [prepared.2] })
      (fun _ _ => True) := by
  obtain ⟨link, onward, session, received, count, numbered⟩ := sending.sent
  have records : (PairingChat.prepareFrame wire remoteDisplayName text (some messageId)).Ensures
      chat (fun prepared after => after.database.storage.HasQueue context.conversationId ids ∧
        after.context = chat.context ∧
          PairingChat.frameId wire chat text (some messageId) = some prepared.1)
      (fun _ after => after.database.storage.HasQueue context.conversationId ids) :=
    PairingChat.prepareFrame_effect
      (Storage.readsConversations_hasQueue context.conversationId ids) sending.queued
      fun _ _ _ _ queued _ => queued
  refine ((PairingChat.prepareFrame_next frames session).and records).mono ?_ fun _ _ _ => trivial
  rintro ⟨_, bytes⟩ after ⟨⟨reached, requests, message, sent, number, frame⟩, queued, same, _⟩
  refine ⟨⟨_, onward.trans (.encrypt link text), reached, ?_, ?_, ?_⟩, queued,
    same.trans sending.context_eq⟩
  · rw [Link.sessions_encrypt, if_pos rfl, ← received]
    rfl
  · rw [Link.sessions_encrypt, if_pos rfl, List.length_append, List.length_singleton,
      ← Nat.add_assoc, ← count]
    rfl
  · dsimp only
    rw [requests]
    refine (numbered.mono fun _ member => ?_).append frame sent (number.trans count)
    exact (Link.mem_produced_encrypt text).mpr (.inr member)

theorem Sending.resend (frames : wire.chatFrame.RoundTrip) (items : List PendingPeerMessage)
    (sending : Sending wire side start ids done context chat) :
    (PairingChat.resend wire items).Ensures chat
      (fun _ after => Sending wire side start ids
        (done ++ items.map PendingPeerMessage.messageId) context after)
      (fun _ _ => True) := by
  induction items generalizing done chat with
  | nil =>
      rw [List.map_nil, List.append_nil]
      exact sending
  | cons item items itemsIH =>
      rw [PairingChat.resend, ensures_bind]
      refine (sending.recordAttempt item.messageId).mono ?_ fun _ _ => id
      intro _ attempted attemptedSending
      rw [ensures_bind]
      refine (attemptedSending.send frames).mono ?_ fun _ _ => id
      intro prepared after sentOne
      have rest := itemsIH sentOne
      rw [List.append_assoc] at rest
      exact rest

/-- Opening the connection sends the whole queue. -/
theorem connected_sends (frames : wire.chatFrame.RoundTrip) {link : Link P}
    (session : chat.role.session = some (link.sessions side)) (offline : chat.online = false)
    (quiet : chat.requests = []) :
    let ids := chat.database.storage.queuedIds chat.context.conversationId
    (PairingChat.connected wire).Ensures chat
      (fun _ after => Sending wire side link ids ids chat.context after) (fun _ _ => True) := by
  intro ids
  rw [PairingChat.connected, ensures_bind, ensures_get, offline, Bool.not_false, if_pos rfl,
    ensures_bind, ensures_modify]
  simp only [PairingChat.sendPending, PairingChat.onStorage, PairingChat.onDatabase, ensures_bind,
    ensures_get, ensures_focus, ensures_mapError, Database.pendingPeerMessagesForPeer]
  apply Database.ensures_query
  · trivial
  · have begins : Sending wire side link ids [] chat.context { chat with
        online := true
        database := chat.database.advance chat.database.storage } := by
      refine ⟨⟨link, .refl, session, rfl, rfl, ?_⟩, rfl, rfl⟩
      dsimp only
      rw [quiet]
      exact .nil
    exact begins.resend frames _

end

end CipherMesh
