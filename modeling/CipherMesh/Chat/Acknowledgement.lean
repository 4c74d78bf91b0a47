import CipherMesh.Chat.Attack

/-!
# Acknowledgements under attack

An acknowledgement is a frame outside of the encrypted channel, and a server certificate
is not verified.  A pending message that is removed was stored by the peer as long as the
acknowledgements are those of the peer and no message is delivered under the id of
another one that waits; an attacker can make up either.
-/

namespace CipherMesh

open Foundation
open Foundation.Mutation
open PairingChat

variable {P : Primitives} {wire : Wire P}

/-! ## The tables of the two sides -/

namespace Storage

/-- The tables leave the id to a message of the other side: they queue nothing under it, and
a row with the id is the received message. -/
def Reserves (storage : Storage) (messageId text : String) : Prop :=
  ¬ storage.pendingPeerMessages.Contains messageId ∧
    ∀ row ∈ storage.messages, row.messageId = messageId →
      row.direction = .received ∧ row.plaintext = some text

/-- No row has the id. -/
def Unused (storage : Storage) (messageId : String) : Prop :=
  ¬ storage.pendingPeerMessages.Contains messageId ∧ ¬ storage.messages.Contains messageId

theorem Unused.reserves {storage : Storage} {messageId : String}
    (unused : storage.Unused messageId) (text : String) : storage.Reserves messageId text :=
  ⟨unused.1, fun row member same => absurd ⟨row, member, same⟩ unused.2⟩

/-- The tables hold the received message. -/
def HasReceived (messageId text : String) (storage : Storage) : Prop :=
  ∃ row ∈ storage.messages, row.messageId = messageId ∧ row.direction = .received ∧
    row.plaintext = some text

/-- A message waits in the queue under the id. -/
def Pends (messageId : String) (storage : Storage) : Prop :=
  storage.pendingPeerMessages.Contains messageId

theorem Queued.contains {storage : Storage} {messageId text : String}
    (queued : storage.Queued messageId text) :
    storage.pendingPeerMessages.Contains messageId := by
  obtain ⟨row, member, same, _⟩ := queued
  exact ⟨row, member, same⟩

/-- Queued ids are reserved by the other side, rows with an id that the other side has
queued are the received messages, and the acknowledged ids have their rows. -/
abbrev Matches (storage peer : Storage) (acknowledged : List String) : Prop :=
  StoredSoundly peer.Reserves peer.Queued (· ∈ acknowledged) storage

theorem apart_reserves (storage : Storage) : Apart storage.Reserves storage.Queued :=
  fun _ _ _ reserved queued => reserved.1 queued.contains

/-- What the tables of one side are to the other's, the other's are to them. -/
theorem Matches.swap {storage peer : Storage} {acknowledged : List String}
    (here : storage.Matches peer acknowledged) {theirs : List String}
    (known : ∀ messageId ∈ theirs, peer.messages.Contains messageId) :
    peer.Matches storage theirs where
  pending row member := by
    have queued : peer.Queued row.messageId row.plaintext := ⟨row, member, rfl, rfl⟩
    constructor
    · rintro ⟨other, otherMember, same⟩
      refine (here.pending other otherMember).1 ?_
      rw [same]
      exact queued.contains
    · intro other otherMember same
      exact here.messages other otherMember _ (same ▸ queued)
  messages row member text queued := by
    obtain ⟨waiting, waitingMember, same, rfl⟩ := queued
    exact (here.pending waiting waitingMember).2 row member same.symm
  known := known

end Storage

/-! ## What the events keep -/

theorem SealedFrom.unique (ideal : P.AeadIdeal) {ciphertext : P.Ciphertext}
    {text other : String} (sealed : SealedFrom ciphertext text)
    (otherSealed : SealedFrom ciphertext other) : text = other := by
  obtain ⟨_, _, _, sealed⟩ := sealed
  obtain ⟨_, _, _, otherSealed⟩ := otherSealed
  obtain ⟨_, _, _, same⟩ := ideal.seal_injective sealed otherSealed
  exact Bytes.ofText_injective same

section

variable {mine theirs : String → String → Prop} {known : String → Prop}

theorem StoredSoundly.withPending {storage : Storage}
    (sound : StoredSoundly mine theirs known storage) {pending : PendingPeerMessage}
    (typed : mine pending.messageId pending.plaintext) :
    StoredSoundly mine theirs known (storage.withPending pending) where
  pending row member := by
    rcases Table.mem_insertOrIgnore.mp member with old | ⟨rfl, _⟩
    · exact sound.pending row old
    · exact typed
  messages := sound.messages
  known := sound.known

theorem keptByRetries_storedSoundly (apart : Apart mine theirs) :
    KeptByRetries (StoredSoundly mine theirs known) where
  reads _ _ same sound := sound.congr same.messages same.pending
  attempt keepsKey keepsText sound := sound.updatePending keepsKey keepsText
  resent := by
    rintro storage row messageId text ⟨waiting, member, rfl, rfl⟩ sent sound
    refine sound.withMessage fun other there => ?_
    rw [sent.messageId] at there
    exact absurd there (apart (sound.pending waiting member))

theorem keptByLines_hasReceived (messageId text : String) :
    ChatProcess.KeptByLines (Storage.HasReceived messageId text) where
  reads _ _ same received := by
    rwa [Storage.HasReceived, same.messages]
  attempt _ _ received := received
  sent _ received := by
    obtain ⟨row, member, holds⟩ := received
    exact ⟨row, Table.mem_insertOrIgnore.mpr (.inl member), holds⟩
  queued _ received := received

theorem keepsTables_markDelivered_hasReceived (messageId text delivered : String) :
    KeepsTables (Storage.HasReceived messageId text)
      (markDeliveredIfPending delivered) := by
  refine .bind (Database.keeps_execute fun _ received => received) fun _ =>
    Database.keeps_execute fun storage received => ?_
  apply Table.exists_mem_update _ received
  · exact fun _ holds => holds
  · exact fun _ => rfl

theorem keptByLines_pending (messageId : String) :
    ChatProcess.KeptByLines (Storage.Pends messageId) where
  reads _ _ same present := by
    rwa [Storage.Pends, same.pending]
  attempt keepsKey _ present := (Table.contains_update keepsKey).mpr present
  sent _ present := present
  queued pending present := present.insertOrIgnore pending

theorem keepsTables_markDelivered_pending {messageId delivered : String}
    (other : messageId ≠ delivered) :
    KeepsTables (Storage.Pends messageId)
      (markDeliveredIfPending delivered) := by
  refine .bind (Database.keeps_execute fun storage present => ?_) fun _ =>
    Database.keeps_execute fun _ present => present
  obtain ⟨row, member, rfl⟩ := present
  exact ⟨row, Table.mem_delete.mpr ⟨member, decide_eq_false other⟩, rfl⟩

end

namespace ChatProcess

variable {process : ChatProcess P} {event : ChatEvent} {moment : Moment}

/-- A pending row is removed only by the event that confirms it. -/
theorem confirmed_of_gone {messageId : String}
    (present : process.chat.database.storage.Pends messageId)
    (gone : ¬ (process.next wire event moment).chat.database.storage.Pends messageId) :
    process.confirmed wire event = some messageId := by
  by_contra other
  have kept := keptByLines_pending messageId
  refine gone (next_keeps kept.retries present (kept.admits present ?_ ?_))
  · rintro bytes _ after (same | ⟨_, _, _, _, _, _, _, row, _, same⟩)
    · exact kept.reads same present
    · exact kept.reads same present
  · rintro delivered confirmed
    apply keepsTables_markDelivered_pending
    rintro rfl
    exact other confirmed

/-- Received rows stay. -/
theorem next_hasReceived {messageId text : String}
    (received : process.chat.database.storage.HasReceived messageId text) :
    (process.next wire event moment).chat.database.storage.HasReceived messageId text := by
  have kept := keptByLines_hasReceived messageId text
  refine next_keeps kept.retries received (kept.admits received ?_ ?_)
  · rintro bytes _ after (same | ⟨_, _, _, _, _, _, _, row, _, same⟩)
    · exact kept.reads same received
    · obtain ⟨old, member, holds⟩ := received
      exact kept.reads same ⟨old, Table.mem_insertOrIgnore.mpr (.inl member), holds⟩
  · exact fun delivered _ => keepsTables_markDelivered_hasReceived messageId text delivered

/-- The message of a frame that leaves the process running has its row. -/
theorem saved_of_running {messageId : String}
    (handled : AttackedChats.handledId wire event = some messageId)
    (running : (process.next wire event moment).running = true) :
    (process.next wire event moment).chat.database.storage.messages.Contains messageId := by
  cases event with
  | frame bytes =>
      rw [AttackedChats.handledId] at handled
      split at handled
      · next name message parsed =>
          cases handled
          have unconfirmed : process.confirmed wire (.frame bytes) = none := by
            rw [confirmed]
            split
            · simp [parsed]
            · rfl
          have saved : HandlesFrame wire (process.chat.begun moment) bytes
              (process.handle wire (.frame bytes)) := handlesFrame unconfirmed
          rw [next] at running ⊢
          rw [HandlesFrame, Ensures] at saved
          split at saved
          · next run =>
              rw [run]
              exact saved.2 _ _ _ parsed
          · next run =>
              rw [run] at running
              cases running
      · cases handled
  | _ => cases handled

end ChatProcess

/-! ## The system -/

namespace AttackedChats

variable {attacker : P.Knowledge} {state : AttackedChats P} {deployment : Deployment P}
variable {event : AttackedChatEvent}

/-- The acknowledgement of a pending message is one that the peer gave; a message that the
peer sent carries the text that waits under the id it is delivered with, if one does; and
the id of a typed line is new to the peer. -/
structure Genuine (wire : Wire P) (state : AttackedChats P) (event : AttackedChatEvent) :
    Prop where
  acks : ∀ messageId, (state.processes event.side).confirmed wire event.event = some messageId →
    (state.storage event.side).Pends messageId →
      messageId ∈ state.acknowledged event.side.peer
  frames : ∀ bytes, event.event = .frame bytes → ∀ messageId message,
    IsFrame wire bytes messageId message →
      ∀ text, (state.storage event.side.peer).Queued messageId text →
        ∀ sent ∈ state.sent event.side.peer, ∀ sentId, IsFrame wire sent sentId message →
          SealedFrom message.ciphertext text
  sends : ∀ line random outcome, event.event = .line line random outcome →
    (state.processes event.side).SendsNow line outcome →
      ∀ messageId, frameId wire (state.processes event.side).chat line none = some messageId →
        (state.storage event.side.peer).Unused messageId
  queues : ∀ line random outcome, event.event = .line line random outcome →
    (state.processes event.side).QueuesLine line outcome →
      ∀ peer, (state.storage event.side).knownPeerFor P
          (state.processes event.side).chat.context.conversationId = some peer →
        (state.storage event.side.peer).Unused
          (pendingPeerMessageId P peer.peerId line event.moment.now random)

/-- The tables of the two sides match, and what was removed is at the peer. -/
structure Settled (state : AttackedChats P) : Prop where
  stored : ∀ side, (state.storage side).Matches (state.storage side.peer)
    (state.acknowledged side)
  removed : ∀ side, ∀ item ∈ state.removed side,
    (state.storage side.peer).HasReceived item.messageId item.plaintext

/-- What the event writes at its side matches the tables of the peer. -/
theorem Settled.admits (ideal : P.Ideal) (follows : Follows attacker wire state deployment)
    (settled : state.Settled) {side : RatchetRole} {event : ChatEvent} {moment : Moment}
    (permitted : (system attacker wire).permitted state ⟨side, event, moment⟩)
    (genuine : state.Genuine wire ⟨side, event, moment⟩) :
    (state.processes side).Admits wire
      (StoredSoundly (state.storage side.peer).Reserves (state.storage side.peer).Queued
        (· ∈ state.acknowledged side)) event moment := by
  have before := settled.stored side
  have kept : KeptByRetries (StoredSoundly (state.storage side.peer).Reserves
      (state.storage side.peer).Queued (· ∈ state.acknowledged side)) :=
    keptByRetries_storedSoundly (state.storage side.peer).apart_reserves
  have sentRow : ∀ {messageId text : String} {row : MessageRecord},
      (state.storage side.peer).Unused messageId → row.IsSent messageId text → ∀ other,
        (state.storage side.peer).Queued row.messageId other →
          row.direction = .received ∧ row.plaintext = some other := by
    intro messageId text row unused sent other queued
    exact absurd (sent.messageId ▸ queued.contains) unused.1
  refine ⟨?_, ?_, ?_, ?_⟩
  · rintro line random outcome rfl now messageId named
    have unused := genuine.sends line random outcome rfl now messageId named
    refine ⟨fun storage row holds sent => holds.withMessage (sentRow unused sent), ?_⟩
    rintro storage pending holds rfl _
    exact holds.withPending (unused.reserves _)
  · rintro line random outcome rfl queues after
      (same | ⟨peer, pending, known, named, carries, same | ⟨row, sent, same⟩⟩)
    · exact kept.reads same before
    · have unused := genuine.queues line random outcome rfl queues peer known
      rw [← named] at unused
      exact kept.reads same (before.withPending (unused.reserves _))
    · have unused := genuine.queues line random outcome rfl queues peer known
      rw [← named] at unused
      exact kept.reads same
        ((before.withPending (unused.reserves _)).withMessage (sentRow unused sent))
  · rintro bytes rfl after
      (same | ⟨messageId, name, message, text, parsed, absent, opens, row, received, same⟩)
    · exact kept.reads same before
    · refine kept.reads same (before.withMessage fun other queued => ⟨received.direction, ?_⟩)
      have deliverable := permitted.2 bytes rfl messageId message ⟨_, parsed⟩
      obtain ⟨sealed, sent, member, sentId, frame⟩ := follows.frame_of_ok ideal deliverable opens
      rw [received.messageId] at queued
      have queuedSealed := genuine.frames bytes rfl messageId message ⟨_, parsed⟩ other queued
        sent member sentId frame
      rw [received.plaintext, sealed.unique ideal.aead queuedSealed]
  · exact fun messageId _ => keeps_markDeliveredIfPending messageId

/-- What was removed so far, and what the event removes, is at the peer. -/
theorem Settled.removed_next (settled : state.Settled) (genuine : state.Genuine wire event) :
    ∀ side, ∀ item ∈ (state.next wire event).removed side,
      ((state.next wire event).storage side.peer).HasReceived item.messageId item.plaintext := by
  intro side item member
  have before : (state.storage side.peer).HasReceived item.messageId item.plaintext := by
    rcases mem_add.mp member with old | ⟨rfl, new⟩
    · exact settled.removed side item old
    · obtain ⟨waiting, gone⟩ := mem_goneRows.mp new
      have present : (state.storage event.side).Pends item.messageId := ⟨item, waiting, rfl⟩
      have acknowledged := genuine.acks _ (ChatProcess.confirmed_of_gone present gone) present
      obtain ⟨row, rowMember, same⟩ := (settled.stored event.side.peer).known _ acknowledged
      exact ⟨row, rowMember, same,
        ((settled.stored event.side).pending item waiting).2 row rowMember same⟩
  rcases side.eq_or_eq_peer event.side with rfl | here
  · rwa [storage_next_peer]
  · rw [here, RatchetRole.peer_peer] at before ⊢
    rw [storage_next_self]
    exact ChatProcess.next_hasReceived before

/-- One event of a genuine run keeps the sides settled. -/
theorem Settled.next (ideal : P.Ideal) (follows : Follows attacker wire state deployment)
    (settled : state.Settled) (permitted : (system attacker wire).permitted state event)
    (genuine : state.Genuine wire event) : (state.next wire event).Settled := by
  refine ⟨?_, settled.removed_next genuine⟩
  have kept : KeptByRetries (StoredSoundly (state.storage event.side.peer).Reserves
      (state.storage event.side.peer).Queued (· ∈ state.acknowledged event.side)) :=
    keptByRetries_storedSoundly (state.storage event.side.peer).apart_reserves
  have after := ChatProcess.next_keeps kept (settled.stored event.side)
    (settled.admits ideal follows permitted genuine)
  rw [← storage_next_self] at after
  have here : ((state.next wire event).storage event.side).Matches (state.storage event.side.peer)
      ((state.next wire event).acknowledged event.side) := by
    refine ⟨after.pending, after.messages, fun messageId member => ?_⟩
    rcases mem_add.mp member with old | ⟨_, new⟩
    · exact after.known messageId old
    · rw [storage_next_self]
      split at new
      · next running =>
          exact ChatProcess.saved_of_running (Option.mem_toList.mp new) running
      · cases new
  intro side
  rcases side.eq_or_eq_peer event.side with rfl | rfl
  · rwa [storage_next_peer]
  · rw [RatchetRole.peer_peer, storage_next_peer]
    apply here.swap
    intro messageId member
    rcases mem_add.mp member with old | ⟨same, _⟩
    · exact (settled.stored event.side.peer).known messageId old
    · exact absurd same (RatchetRole.peer_ne event.side)

/-- The runs in which only the peer acknowledges and labels its messages, from tables that
match. -/
def genuine (attacker : P.Knowledge) (wire : Wire P) : System (AttackedChats P) AttackedChatEvent :=
  { (system attacker wire).restrict (Genuine wire) with
    initial := fun state => (system attacker wire).initial state ∧
      ∀ side, (state.storage side).Matches (state.storage side.peer) [] }

/-- A pending row that was removed is a received row of the peer. -/
theorem removed_was_stored (ideal : P.Ideal) (frames : wire.chatFrame.RoundTrip)
    (reachable : (genuine attacker wire).Reachable state) (side : RatchetRole)
    (item : PendingPeerMessage) (removed : item ∈ state.removed side) :
    ∃ row ∈ (state.storage side.peer).messages, row.messageId = item.messageId ∧
      row.direction = .received ∧ row.plaintext = some item.plaintext := by
  refine (reachable.invariant
    (fun state => (∃ deployment, Follows attacker wire state deployment) ∧ state.Settled)
    ?_ ?_).2.removed side item removed
  · rintro start ⟨⟨deployment, starts⟩, matching⟩
    refine ⟨⟨deployment, starts.follows⟩, fun other => ?_, fun other item member => ?_⟩
    · rw [starts.acknowledged]
      exact matching other
    · rw [starts.removed] at member
      cases member
  · rintro state event ⟨⟨deployment, follows⟩, settled⟩ ⟨permitted, holds⟩
    exact ⟨follows.next frames permitted, settled.next ideal follows permitted holds⟩

end AttackedChats

/-! ## A flush with one pending message -/

namespace Symbolic

/-- The serialization that knows Alice's frame and its acknowledgement. -/
def flushWire : Wire primitives :=
  { wireOf [greeting] with
    chatFrame := .listed [.message "line" "Alice" greeting, .ack "line"] }

/-- Alice has a pending line for Bob, over QUIC. -/
def flushingChats : AttackedChats primitives :=
  quietChats fun side => {
    transport := .quic
    chat := { endpoint side with
      database := ⟨{ Storage.empty with
        pendingPeerMessages := match side with
          | .alice => Table.empty.insertOrIgnore ⟨"line", "chat", "chat", "hello", 0, 0, none⟩
          | .bob => .empty }, 0, []⟩ }
    opening := side = .alice
    waiting := []
    running := true }

theorem flushingChats_initial :
    (AttackedChats.system Deployment.outsider flushWire).initial flushingChats :=
  ⟨_, quietChats_starts fun _ => rfl⟩

theorem flushingChats_matches (side : RatchetRole) :
    (flushingChats.storage side).Matches (flushingChats.storage side.peer) [] := by
  cases side with
  | alice =>
      refine ⟨fun _ _ => Storage.Unused.reserves ⟨?_, ?_⟩ _,
        fun _ member => absurd member List.not_mem_nil, nofun⟩
      · exact fun ⟨_, member, _⟩ => absurd member List.not_mem_nil
      · exact fun ⟨_, member, _⟩ => absurd member List.not_mem_nil
  | bob =>
      exact ⟨fun _ member => absurd member List.not_mem_nil,
        fun _ member => absurd member List.not_mem_nil, nofun⟩

/-- Alice has sent the line and waits for the acknowledgement. -/
def openedChats : AttackedChats primitives :=
  flushingChats.next flushWire ⟨.alice, .opens, undisturbed⟩

theorem lineFrame : IsFrame flushWire [] "line" greeting :=
  ⟨"Alice", by decide⟩

theorem ackFrame {messageId : String} {message : RatchetMessage primitives} :
    ¬ IsFrame flushWire [0] messageId message := by
  rintro ⟨_, parsed⟩
  cases parsed

theorem line_deliverable : openedChats.Deliverable Deployment.outsider flushWire greeting :=
  .inl ⟨.alice, [], by decide +kernel, "line", greeting, lineFrame, rfl⟩

theorem openedChats_pending :
    ∀ row ∈ (openedChats.storage .alice).pendingPeerMessages.rows, row.plaintext = "hello" := by
  decide +kernel

/-- Bob has received the line. -/
def receivedChats : AttackedChats primitives :=
  openedChats.next flushWire ⟨.bob, .frame [], undisturbed⟩

theorem receivedChats_confirmed :
    (receivedChats.processes .alice).confirmed flushWire (.frame [0]) = some "line" := by
  decide +kernel

theorem receivedChats_acknowledged : "line" ∈ receivedChats.acknowledged .bob := by
  decide +kernel

/-- Bob receives Alice's frame, and his acknowledgement arrives. -/
def flushRun : List AttackedChatEvent :=
  [⟨.alice, .opens, undisturbed⟩, ⟨.bob, .frame [], undisturbed⟩,
    ⟨.alice, .frame [0], undisturbed⟩]

theorem line_genuine : openedChats.Genuine flushWire ⟨.bob, .frame [], undisturbed⟩ where
  acks := nofun
  frames := by
    rintro _ ⟨⟩ messageId message frame text ⟨row, member, _, rfl⟩ _ _ _ _
    obtain ⟨_, rfl⟩ := frame.eq lineFrame
    rw [openedChats_pending row member]
    exact ⟨_, _, _, rfl⟩
  sends := nofun
  queues := nofun

theorem flushed_line_stored :
    let state := (AttackedChats.genuine Deployment.outsider flushWire).run flushingChats flushRun
    ∃ item ∈ state.removed .alice, ∃ row ∈ (state.storage .bob).messages,
      row.messageId = item.messageId ∧ row.direction = .received ∧
        row.plaintext = some item.plaintext := by
  intro state
  have permits : (AttackedChats.genuine Deployment.outsider flushWire).Permits flushingChats
      flushRun := by
    refine ⟨⟨⟨by decide, nofun⟩, nofun, nofun, nofun, nofun⟩,
      ⟨⟨by decide +kernel, ?_⟩, line_genuine⟩,
      ⟨⟨by decide +kernel, ?_⟩, ?_, ?_, nofun, nofun⟩, trivial⟩
    · rintro _ ⟨⟩ messageId message frame
      obtain ⟨_, rfl⟩ := frame.eq lineFrame
      exact line_deliverable
    · rintro _ ⟨⟩ messageId message frame
      exact absurd frame ackFrame
    · intro messageId confirmed _
      obtain rfl := Option.some.inj (receivedChats_confirmed.symm.trans confirmed)
      exact receivedChats_acknowledged
    · rintro _ ⟨⟩ messageId message frame
      exact absurd frame ackFrame
  have removed : state.removed .alice ≠ [] := by decide +kernel
  obtain ⟨item, member⟩ := List.exists_mem_of_ne_nil _ removed
  exact ⟨item, member, AttackedChats.removed_was_stored ideal (Format.roundTrip_listed _)
    ⟨_, ⟨flushingChats_initial, flushingChats_matches⟩, permits.reaches⟩ .alice item member⟩

/-- The attacker acknowledges the line itself. -/
def forgedRun : List AttackedChatEvent :=
  [⟨.alice, .opens, undisturbed⟩, ⟨.alice, .frame [0], undisturbed⟩]

theorem forged_acknowledgement_removes :
    ∃ state, (AttackedChats.system Deployment.outsider flushWire).Reachable state ∧
      ∃ item ∈ state.removed .alice, (state.storage .bob).messages.rows = [] := by
  have permits : (AttackedChats.system Deployment.outsider flushWire).Permits flushingChats
      forgedRun := by
    refine ⟨⟨by decide, nofun⟩, ⟨by decide +kernel, ?_⟩, trivial⟩
    rintro _ ⟨⟩ messageId message frame
    exact absurd frame ackFrame
  refine ⟨_, ⟨_, flushingChats_initial, permits.reaches⟩, ?_⟩
  have removed : ((AttackedChats.system Deployment.outsider flushWire).run flushingChats
      forgedRun).removed .alice ≠ [] := by decide +kernel
  obtain ⟨item, member⟩ := List.exists_mem_of_ne_nil _ removed
  exact ⟨item, member, rfl⟩

end Symbolic

end CipherMesh
