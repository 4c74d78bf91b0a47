import CipherMesh.Chat.Delivery
import CipherMesh.Chat.EventEffects

/-!
# Tracking until acknowledgement

A sent message should wait in the pending queue until its acknowledgement was processed,
also when the process stops between two statements.  Lines typed while the peer is
offline are queued before they are recorded; lines sent at once are recorded first, and
over QUIC they are never queued.
-/

namespace CipherMesh

open Foundation
open Foundation.Mutation
open PairingChat

variable {P : Primitives} {wire : Wire P}

/-- Every sent message that is not acknowledged waits in the queue with its text. -/
def Tracked (acknowledged : List String) (storage : Storage) : Prop :=
  ∀ row ∈ storage.messages, row.direction = .sent → row.messageId ∉ acknowledged →
    ∃ pending ∈ storage.pendingPeerMessages, pending.messageId = row.messageId ∧
      row.plaintext = some pending.plaintext

instance (acknowledged : List String) (storage : Storage) :
    Decidable (Tracked acknowledged storage) :=
  inferInstanceAs (Decidable (∀ row ∈ storage.messages.rows, row.direction = .sent →
    row.messageId ∉ acknowledged → ∃ pending ∈ storage.pendingPeerMessages.rows,
      pending.messageId = row.messageId ∧ row.plaintext = some pending.plaintext))

/-! ## What keeps messages tracked -/

section

variable {acknowledged : List String} {storage : Storage} {messageId text : String}

theorem Storage.Queued.tracks (queued : storage.Queued messageId text) {row : MessageRecord}
    (sent : row.IsSent messageId text) :
    ∃ pending ∈ storage.pendingPeerMessages, pending.messageId = row.messageId ∧
      row.plaintext = some pending.plaintext := by
  obtain ⟨pending, member, rfl, rfl⟩ := queued
  exact ⟨pending, member, sent.messageId.symm, sent.plaintext⟩

/-- More messages may be acknowledged. -/
theorem Tracked.mono (tracked : Tracked acknowledged storage) {more : List String}
    (subset : acknowledged ⊆ more) : Tracked more storage :=
  fun row member sent unacknowledged =>
    tracked row member sent fun before => unacknowledged (subset before)

/-- A row is added that is tracked unless it is there already. -/
theorem Tracked.withMessage (tracked : Tracked acknowledged storage) {row : MessageRecord}
    (queued : ¬ storage.messages.Contains row.messageId → row.direction = .sent →
      row.messageId ∉ acknowledged → ∃ pending ∈ storage.pendingPeerMessages,
        pending.messageId = row.messageId ∧ row.plaintext = some pending.plaintext) :
    Tracked acknowledged (storage.withMessage row) := by
  intro other member sent unacknowledged
  rcases Table.mem_insertOrIgnore.mp member with old | ⟨rfl, absent⟩
  · exact tracked other old sent unacknowledged
  · exact queued absent sent unacknowledged

theorem Tracked.withPending (tracked : Tracked acknowledged storage)
    (pending : PendingPeerMessage) : Tracked acknowledged (storage.withPending pending) := by
  intro row member sent unacknowledged
  obtain ⟨waiting, queued, same⟩ := tracked row member sent unacknowledged
  exact ⟨waiting, Table.mem_insertOrIgnore.mpr (.inl queued), same⟩

theorem keptByRetries_tracked : KeptByRetries (Tracked acknowledged) where
  reads storage after same tracked := by
    rwa [Tracked, same.messages, same.pending]
  attempt := by
    intro storage condition change keepsKey keepsText tracked row member sent unacknowledged
    obtain ⟨pending, queued, sameId, sameText⟩ := tracked row member sent unacknowledged
    have before : storage.Queued row.messageId pending.plaintext := ⟨pending, queued, sameId, rfl⟩
    have waiting : Storage.Queued
        { storage with
          pendingPeerMessages := storage.pendingPeerMessages.update condition change keepsKey }
        row.messageId pending.plaintext := before.update keepsKey keepsText
    exact waiting.tracks ⟨rfl, sent, sameText⟩
  resent queued sent tracked := tracked.withMessage fun _ _ _ => queued.tracks sent

/-- Removing the pending row of an acknowledged message. -/
theorem keepsTables_markDelivered (member : messageId ∈ acknowledged) :
    KeepsTables (Tracked acknowledged) (markDeliveredIfPending messageId) := by
  refine .bind (Database.keeps_execute fun storage tracked => ?_) fun _ =>
    Database.keeps_execute fun storage tracked => ?_
  · intro row rowMember sent unacknowledged
    obtain ⟨pending, queued, sameId, sameText⟩ := tracked row rowMember sent unacknowledged
    refine ⟨pending, Table.mem_delete.mpr ⟨queued, decide_eq_false ?_⟩, sameId, sameText⟩
    rintro rfl
    exact unacknowledged (sameId ▸ member)
  · apply Table.forall_mem_update _ tracked
    · exact fun _ holds => holds
    · exact fun _ => rfl

/-- The messages have their rows. -/
def Storage.Saves (saved : String → Prop) (storage : Storage) : Prop :=
  ∀ messageId, saved messageId → storage.messages.Contains messageId

theorem keptByRetries_saves (saved : String → Prop) : KeptByRetries (Storage.Saves saved) where
  reads _ _ same saves messageId present :=
    readsConversations_saved _ same (saves messageId present)
  attempt _ _ saves := saves
  resent _ _ saves messageId present := (saves messageId present).insertOrIgnore _

theorem keepsTables_markDelivered_saves (saved : String → Prop) :
    KeepsTables (Storage.Saves saved) (markDeliveredIfPending messageId) := by
  refine .bind (Database.keeps_execute fun _ saves => saves) fun _ =>
    Database.keeps_execute fun storage saves => ?_
  intro other present
  apply (Table.contains_update _).mpr (saves other present)
  exact fun _ => rfl

/-- A line that is queued for an unused id is tracked at every point. -/
theorem Tracked.lineQueued (tracked : Tracked acknowledged storage) {now : UInt64}
    {conversationId line : String} {random : Bytes} {after : Storage}
    (unused : ∀ peer ∈ storage.knownPeerFor P conversationId,
      ∀ pending ∈ storage.pendingPeerMessages,
        pending.messageId = pendingPeerMessageId P peer.peerId line now random →
          pending.plaintext = line ∨ storage.messages.Contains pending.messageId ∨
            pending.messageId ∈ acknowledged)
    (queued : LineQueued P storage now conversationId line random after) :
    Tracked acknowledged after := by
  rcases queued with same | ⟨peer, pending, known, named, carries, same | ⟨row, sent, same⟩⟩
  · exact keptByRetries_tracked.reads same tracked
  · exact keptByRetries_tracked.reads same (tracked.withPending pending)
  · refine keptByRetries_tracked.reads same ((tracked.withPending pending).withMessage
      fun absent _ unacknowledged => ?_)
    obtain ⟨waiting, member, sameId⟩ :=
      Table.contains_insertOrIgnore storage.pendingPeerMessages pending
    have text : waiting.plaintext = line := by
      rcases Table.mem_insertOrIgnore.mp member with old | ⟨rfl, _⟩
      · rcases unused peer known waiting old (sameId.trans named) with text | present | confirmed
        · exact text
        · exact absurd present (sameId.trans sent.messageId.symm ▸ absent)
        · exact absurd confirmed (sameId.trans sent.messageId.symm ▸ unacknowledged)
      · exact carries
    have queued : (storage.withPending pending).Queued pending.messageId line :=
      ⟨waiting, member, sameId, text⟩
    exact queued.tracks sent

end

/-! ## Runs of a chat -/

/-- A chat process and the ids whose acknowledgement it has processed. -/
structure TrackedChat (P : Primitives) where
  process : ChatProcess P
  acknowledged : List String

inductive TrackedChatEvent (P : Primitives) where
  | chat (event : ChatEvent) (moment : Moment)
  | start (transport : ChatTransport) (role : PairingChatRole P) (context : PairingChatContext)
      (opening : Bool)

namespace TrackedChat

/-- The database of the process. -/
abbrev storage (state : TrackedChat P) : Storage := state.process.chat.database.storage

def next (wire : Wire P) (state : TrackedChat P) : TrackedChatEvent P → TrackedChat P
  | .chat event moment =>
      { process := state.process.next wire event moment
        acknowledged := (state.process.confirmed wire event).toList ++ state.acknowledged }
  | .start transport role context opening =>
      { state with
        process := {
          transport
          chat := { state.process.chat with role, context, online := true }
          opening
          waiting := []
          running := true } }

/-- The runs of the chat programs, which may stop at any statement and start again. -/
def system (wire : Wire P) : System (TrackedChat P) (TrackedChatEvent P) where
  initial state := Tracked state.acknowledged state.storage
  permitted state
    | .chat event _ => state.process.Enabled event
    | .start .. => True
  next := next wire

instance (state : TrackedChat P) : DecidablePred ((system wire).permitted state)
  | .chat event _ => inferInstanceAs (Decidable (state.process.Enabled event))
  | .start .. => .isTrue trivial

/-- A line that is sent at once gets an id that has its row already or is acknowledged, and
so does a line that is queued unless no other text waits under the id that it draws. -/
def SendsOffline (wire : Wire P) (state : TrackedChat P) : TrackedChatEvent P → Prop
  | .chat (.line line random outcome) moment =>
      (state.process.SendsNow line outcome →
        ∀ messageId ∈ PairingChat.frameId wire state.process.chat line none,
          state.storage.messages.Contains messageId ∨ messageId ∈ state.acknowledged) ∧
      (state.process.QueuesLine line outcome →
        ∀ peer ∈ state.storage.knownPeerFor P state.process.chat.context.conversationId,
          ∀ pending ∈ state.storage.pendingPeerMessages,
            pending.messageId = pendingPeerMessageId P peer.peerId line moment.now random →
              pending.plaintext = line ∨ state.storage.messages.Contains pending.messageId ∨
                pending.messageId ∈ state.acknowledged)
  | _ => True

variable {state : TrackedChat P}

/-- One event keeps every unacknowledged message tracked. -/
theorem tracked_next (tracked : Tracked state.acknowledged state.storage)
    {event : TrackedChatEvent P} (offline : state.SendsOffline wire event) :
    Tracked (state.next wire event).acknowledged (state.next wire event).storage := by
  cases event with
  | start transport role context opening => exact tracked
  | chat event moment =>
      let acknowledged := (state.process.confirmed wire event).toList ++ state.acknowledged
      let saved := fun messageId => state.storage.messages.Contains messageId
      have before : Tracked acknowledged state.storage :=
        tracked.mono (List.subset_append_right _ _)
      have tracks : KeptByRetries (Tracked acknowledged) := keptByRetries_tracked
      have kept := tracks.and (keptByRetries_saves saved)
      refine (ChatProcess.next_keeps kept ⟨before, fun _ => id⟩ ?_).1
      refine ⟨?_, ?_, ?_, ?_⟩
      · rintro line random outcome rfl now messageId named
        refine ⟨fun storage row holds sent => ?_, fun storage pending holds _ _ =>
          ⟨holds.1.withPending pending, holds.2⟩⟩
        have known := offline.1 now messageId named
        rw [← sent.messageId] at known
        refine ⟨holds.1.withMessage fun absent _ unacknowledged => ?_,
          fun other present => (holds.2 other present).insertOrIgnore row⟩
        rcases known with present | confirmed
        · exact absurd (holds.2 _ present) absent
        · exact absurd (List.mem_append_right _ confirmed) unacknowledged
      · rintro line random outcome rfl queues after queued
        refine ⟨before.lineQueued (fun peer known pending member named => ?_) queued,
          fun _ => queued.contains⟩
        exact (offline.2 queues peer known pending member named).imp_right fun known =>
          known.imp_right fun confirmed => List.mem_append_right _ confirmed
      · rintro bytes rfl after stored
        refine ⟨?_, fun _ => stored.contains⟩
        rcases stored with same | ⟨_, _, _, _, _, _, _, row, received, same⟩
        · exact keptByRetries_tracked.reads same before
        · refine keptByRetries_tracked.reads same (before.withMessage fun _ sent _ => ?_)
          rw [received.direction] at sent
          cases sent
      · intro messageId confirmed
        have member : messageId ∈ acknowledged :=
          List.mem_append_left _ (by simp [confirmed])
        exact .and (keepsTables_markDelivered member) (keepsTables_markDelivered_saves saved)

/-- As long as no line is sent at once, every sent message is tracked until it is
acknowledged, wherever the process stops. -/
theorem sent_tracked_until_acknowledged
    (reachable : ((system wire).restrict (SendsOffline wire)).Reachable state) :
    Tracked state.acknowledged state.storage :=
  reachable.invariant (fun state => Tracked state.acknowledged state.storage)
    (fun _ tracked => tracked) fun _ _ tracked permitted => tracked_next tracked permitted.2

end TrackedChat

/-! ## Lines typed online and offline -/

namespace Symbolic

/-- Alice's chat, with Bob as its known peer. -/
def openChat (transport : ChatTransport) : TrackedChat primitives where
  process := {
    transport
    chat := { endpoint .alice with
      database := ⟨{ Storage.empty with
        knownPeers := Table.empty.upsert ⟨"bob", [], "Bob", "chat", 0⟩ }, 0, []⟩ }
    opening := false
    waiting := []
    running := true }
  acknowledged := []

theorem openChat_tracked (transport : ChatTransport) :
    Tracked [] (openChat transport).storage :=
  fun _ member => absurd member List.not_mem_nil

/-- Alice types while Bob is offline, and Bob comes back. -/
def offlineRun : List (TrackedChatEvent primitives) :=
  [.chat .disconnected undisturbed, .chat (.line "hello" [] .sent) undisturbed,
    .chat .connected undisturbed]

theorem offline_line_tracked :
    let state := (TrackedChat.system (wireOf [greeting])).run (openChat .pairing) offlineRun
    state.storage.messages.rows.length = 1 ∧ Tracked state.acknowledged state.storage := by
  intro state
  have permits : ((TrackedChat.system (wireOf [greeting])).restrict
      (TrackedChat.SendsOffline (wireOf [greeting]))).Permits (openChat .pairing) offlineRun := by
    refine ⟨⟨by decide, trivial⟩, ⟨by decide +kernel, ?_, ?_⟩, ⟨by decide +kernel, trivial⟩,
      trivial⟩
    · rintro ⟨_, online, _⟩
      cases online
    · intro _ peer _ pending member
      cases member
  exact ⟨by decide +kernel, TrackedChat.sent_tracked_until_acknowledged
    ⟨openChat .pairing, openChat_tracked .pairing, permits.reaches⟩⟩

theorem untracked_line_reachable (transport : ChatTransport) :
    ∃ state, (TrackedChat.system (wireOf [greeting])).Reachable state ∧
      state.process.transport = transport ∧ ¬ Tracked state.acknowledged state.storage := by
  have permits : (TrackedChat.system (wireOf [greeting])).Permits (openChat transport)
      [.chat (.line "hello" [] .sent) ⟨0, [false, false, transport = .pairing]⟩] := by
    cases transport <;> exact ⟨by decide, trivial⟩
  refine ⟨_, ⟨openChat transport, openChat_tracked transport, permits.reaches⟩, ?_, ?_⟩
  all_goals cases transport <;> decide +kernel

/-- A line that is sent at once has its row without being in the queue: in the paired chat
when the process stops between the two statements, over QUIC in any case. -/
theorem online_line_untracked :
    (∃ state, (TrackedChat.system (wireOf [greeting])).Reachable state ∧
      state.process.transport = .pairing ∧ ¬ Tracked state.acknowledged state.storage) ∧
    ∃ state, (TrackedChat.system (wireOf [greeting])).Reachable state ∧
      state.process.transport = .quic ∧ ¬ Tracked state.acknowledged state.storage :=
  ⟨untracked_line_reachable .pairing, untracked_line_reachable .quic⟩

end Symbolic

end CipherMesh
