import CipherMesh.Chat.Attack
import CipherMesh.Link.Envelopes

/-!
# Tampering with envelopes and frames

The associated data of a ratchet message is its number and its public key.  The ids and
names that travel next to a message are not bound to it: a message that is delivered with
the labels it was sent with is accepted with what the peer sent, and an attacker can give
it any other label.
-/

namespace CipherMesh

open Foundation
open Foundation.Mutation
open PairingChat

variable {P : Primitives} {wire : Wire P}

/-! ## Received rows -/

/-- Every received row of the history is valid. -/
def Storage.Receives (valid : MessageRecord → Prop) (storage : Storage) : Prop :=
  ∀ row ∈ storage.messages, row.direction = .received → valid row

section

variable {valid : MessageRecord → Prop}

theorem Storage.Receives.withMessage {storage : Storage} (receives : storage.Receives valid)
    {row : MessageRecord} (validRow : row.direction = .received → valid row) :
    (storage.withMessage row).Receives valid := by
  intro other member
  rcases Table.mem_insertOrIgnore.mp member with old | ⟨rfl, _⟩
  · exact receives other old
  · exact validRow

theorem keptByLines_receives : ChatProcess.KeptByLines (Storage.Receives valid) where
  reads _ _ same receives := by
    rwa [Storage.Receives, same.messages]
  attempt _ _ receives := receives
  sent sent receives := receives.withMessage fun received => by
    rw [sent.direction] at received
    cases received
  queued _ receives := receives

theorem keepsTables_markDelivered_receives
    (restatus : ∀ row status, valid row → valid { row with status }) {messageId : String} :
    KeepsTables (Storage.Receives valid) (markDeliveredIfPending messageId) := by
  refine .bind (Database.keeps_execute fun _ receives => receives) fun _ =>
    Database.keeps_execute fun storage receives => ?_
  apply Table.forall_mem_update _ receives
  · intro row validRow received
    exact restatus row .sent (validRow received)
  · exact fun _ => rfl

end

/-! ## Labels -/

/-- The row shows the id, the sender and the text of the frame. -/
def ShowsFrame (wire : Wire P) (bytes : Bytes) (row : MessageRecord) : Prop :=
  ∃ senderDisplayName message text,
    wire.chatFrame.deserialize bytes = some (.message row.messageId senderDisplayName message) ∧
      row.senderId = displayNameOrAnonymous senderDisplayName ∧
      row.plaintext = some text ∧ SealedFrom message.ciphertext text

namespace AttackedChats

variable {attacker : P.Knowledge} {state : AttackedChats P} {deployment : Deployment P}
variable {event : AttackedChatEvent}

/-- A message that the peer sent is delivered with the id and the name of a frame around it,
when it has no row yet. -/
def KeepsLabels (wire : Wire P) (state : AttackedChats P) (event : AttackedChatEvent) : Prop :=
  ∀ bytes, event.event = .frame bytes → ∀ messageId senderDisplayName message,
    wire.chatFrame.deserialize bytes = some (.message messageId senderDisplayName message) →
      ¬ (state.storage event.side).messages.Contains messageId →
        (∃ sent ∈ state.sent event.side.peer, ∃ sentId, IsFrame wire sent sentId message) →
          ∃ sent ∈ state.sent event.side.peer, wire.chatFrame.deserialize sent =
            some (.message messageId senderDisplayName message)

/-- Every row that was stored shows a frame that the peer sent. -/
def StoredAsSent (wire : Wire P) (state : AttackedChats P) : Prop :=
  ∀ side, ∀ row ∈ state.stored side, ∃ bytes ∈ state.sent side.peer, ShowsFrame wire bytes row

/-- A row that a frame leaves shows the frame that the peer sent. -/
theorem Follows.showsFrame (ideal : P.Ideal) (follows : Follows attacker wire state deployment)
    {side : RatchetRole} {moment : Moment} {bytes : Bytes}
    (permitted : (system attacker wire).permitted state ⟨side, .frame bytes, moment⟩)
    (keepsLabels : state.KeepsLabels wire ⟨side, .frame bytes, moment⟩)
    {messageId senderDisplayName text : String} {message : RatchetMessage P}
    (parsed : wire.chatFrame.deserialize bytes =
      some (.message messageId senderDisplayName message))
    (absent : ¬ (state.storage side).messages.Contains messageId)
    (opens : ((PairingChatRole.decrypt message).run (state.processes side).chat.role).1 = .ok text)
    {row : MessageRecord} (received : row.IsReceived messageId senderDisplayName text) :
    ∃ sent ∈ state.sent side.peer, ShowsFrame wire sent row := by
  have deliverable := permitted.2 bytes rfl messageId message ⟨_, parsed⟩
  obtain ⟨sealed, sentByPeer⟩ := follows.frame_of_ok ideal deliverable opens
  obtain ⟨sent, member, sentParsed⟩ := keepsLabels bytes rfl _ _ _ parsed absent sentByPeer
  obtain ⟨rfl, _, plaintext, senderId⟩ := received
  exact ⟨sent, member, senderDisplayName, message, text, sentParsed, senderId, plaintext, sealed⟩

/-- One event stores rows of sent frames only. -/
theorem StoredAsSent.next (ideal : P.Ideal) (follows : Follows attacker wire state deployment)
    (holds : state.StoredAsSent wire) (permitted : (system attacker wire).permitted state event)
    (keepsLabels : state.KeepsLabels wire event) : (state.next wire event).StoredAsSent wire := by
  obtain ⟨side, event, moment⟩ := event
  let valid : MessageRecord → Prop := fun row =>
    (state.storage side).messages.Contains row.messageId ∨
      ∃ bytes ∈ state.sent side.peer, ShowsFrame wire bytes row
  have before : (state.storage side).Receives valid := fun row member _ =>
    .inl ⟨row, member, rfl⟩
  have received : ((state.processes side).next wire event moment).chat.database.storage.Receives
      valid := by
    refine ChatProcess.next_keeps keptByLines_receives.retries before
      (keptByLines_receives.admits before ?_ ?_)
    · rintro bytes rfl after
        (same | ⟨messageId, name, message, text, parsed, absent, opens, row, isReceived, same⟩)
      · exact keptByLines_receives.reads same before
      · refine keptByLines_receives.reads same (before.withMessage fun _ => .inr ?_)
        exact follows.showsFrame ideal permitted keepsLabels parsed absent opens isReceived
    · exact fun messageId _ => keepsTables_markDelivered_receives fun row status => id
  intro other row member
  have kept : ∀ {other}, state.sent other ⊆ (state.next wire ⟨side, event, moment⟩).sent other := by
    intro other bytes member
    exact mem_add.mpr (.inl member)
  rcases mem_add.mp member with old | ⟨rfl, new⟩
  · obtain ⟨bytes, sent, shows⟩ := holds other row old
    exact ⟨bytes, kept sent, shows⟩
  · obtain ⟨rowMember, direction, absent⟩ := mem_newRows.mp new
    rcases received row rowMember direction with saved | ⟨bytes, sent, shows⟩
    · exact absurd saved absent
    · exact ⟨bytes, kept sent, shows⟩

theorem storedAsSent_of_reachable (ideal : P.Ideal) (frames : wire.chatFrame.RoundTrip)
    (reachable : ((system attacker wire).restrict (KeepsLabels wire)).Reachable state) :
    state.StoredAsSent wire := by
  refine (reachable.invariant
    (fun state => (∃ deployment, Follows attacker wire state deployment) ∧ state.StoredAsSent wire)
    ?_ ?_).2
  · rintro start ⟨deployment, starts⟩
    refine ⟨⟨deployment, starts.follows⟩, fun side row member => ?_⟩
    rw [starts.stored] at member
    cases member
  · rintro state event ⟨⟨deployment, follows⟩, holds⟩ ⟨permitted, keepsLabels⟩
    exact ⟨follows.next frames permitted, holds.next ideal follows permitted keepsLabels⟩

end AttackedChats

/-- Labels apart, tampering is detected: an accepted envelope is one that the peer produced
from the returned text, and a stored row shows a frame that the peer sent. -/
theorem accepted_as_sent (ideal : P.Ideal) (attacker : P.Knowledge)
    (frames : wire.chatFrame.RoundTrip) :
    (∀ pair, ((DevicePair.attacked attacker).restrict DevicePair.KeepsLogicalId).Reachable pair →
      ∀ side envelope text, (envelope, text) ∈ pair.accepted side →
        (envelope, text) ∈ pair.produced side.peer) ∧
    ∀ state, ((AttackedChats.system attacker wire).restrict
        (AttackedChats.KeepsLabels wire)).Reachable state →
      ∀ side, ∀ row ∈ state.stored side, ∃ bytes ∈ state.sent side.peer,
        ShowsFrame wire bytes row :=
  ⟨fun _ reachable side envelope text =>
      DevicePair.faithful_of_reachable ideal reachable side (envelope, text),
    fun _ reachable => AttackedChats.storedAsSent_of_reachable ideal frames reachable⟩

/-! ## A greeting with another label -/

namespace Symbolic

/-- Alice's envelope for her greeting, with any logical id. -/
def phoneEnvelope (logicalMessageId : String) : DeviceDeliveryEnvelope primitives :=
  ⟨logicalMessageId, "phone", "laptop", greeting⟩

/-- Alice's phone sends a greeting, and her envelope arrives with a logical id. -/
def envelopeRun (logicalMessageId : String) : List (DevicePairEvent primitives) :=
  [.encrypt .alice "first" "hello", .deliver .bob (phoneEnvelope logicalMessageId)]

theorem envelopeRun_permits (logicalMessageId : String) :
    (DevicePair.attacked Deployment.outsider).Permits (.start devices)
      (envelopeRun logicalMessageId) :=
  ⟨trivial, .inl ⟨.alice, (phoneEnvelope "first", "hello"), List.mem_singleton.mpr rfl, rfl⟩,
    trivial⟩

/-- The serialization that knows Alice's frame and that of the attacker. -/
def forgedWire : Wire primitives :=
  { wireOf [greeting] with
    chatFrame := .listed [.message greetingId "Alice" greeting,
      .message "forged" "Mallory" greeting, .ack greetingId, .ack "forged"] }

def attackedChats : AttackedChats primitives :=
  quietChats fun side => {
    transport := .quic
    chat := endpoint side
    opening := false
    waiting := []
    running := true }

theorem attackedChats_initial :
    (AttackedChats.system Deployment.outsider forgedWire).initial attackedChats :=
  ⟨_, quietChats_starts fun _ => rfl⟩

/-- Alice sends a greeting, and Bob receives the frame. -/
def frameRun (bytes : Bytes) : List AttackedChatEvent :=
  [⟨.alice, .line "hello" [] .sent, undisturbed⟩, ⟨.bob, .frame bytes, undisturbed⟩]

theorem frameRun_permits {bytes : Bytes} {messageId : String}
    (carries : IsFrame forgedWire bytes messageId greeting) :
    (AttackedChats.system Deployment.outsider forgedWire).Permits attackedChats
      (frameRun bytes) := by
  refine ⟨⟨by decide, nofun⟩, ⟨⟨rfl, rfl, fun _ => rfl⟩, ?_⟩, trivial⟩
  rintro _ ⟨⟩ otherId message frame
  obtain ⟨_, rfl⟩ := frame.eq carries
  exact .inl ⟨.alice, [], by decide +kernel, greetingId, greeting, ⟨"Alice", by decide +kernel⟩,
    rfl⟩

theorem forgedWire_roundTrip : forgedWire.chatFrame.RoundTrip :=
  Format.roundTrip_listed _

theorem genuineFrame : IsFrame forgedWire [] greetingId greeting :=
  ⟨"Alice", by decide +kernel⟩

/-- Alice's frame is the only one that she sends. -/
theorem frameRun_sent :
    (AttackedChats.next forgedWire attackedChats
      ⟨.alice, .line "hello" [] .sent, undisturbed⟩).sent .alice = [[]] := by
  decide +kernel

theorem greeting_accepted_as_sent :
    (phoneEnvelope "first", "hello") ∈ ((DevicePair.attacked Deployment.outsider).run
        (.start devices) (envelopeRun "first")).produced .alice ∧
      let state := (AttackedChats.system Deployment.outsider forgedWire).run attackedChats
        (frameRun [])
      ∃ row ∈ state.stored .bob, ∃ bytes ∈ state.sent .alice, ShowsFrame forgedWire bytes row := by
  have asSent := accepted_as_sent ideal Deployment.outsider forgedWire_roundTrip
  constructor
  · have permits : ((DevicePair.attacked Deployment.outsider).restrict
        DevicePair.KeepsLogicalId).Permits (.start devices) (envelopeRun "first") := by
      exact ⟨⟨trivial, trivial⟩, ⟨(envelopeRun_permits "first").2.1, fun _ =>
        ⟨(phoneEnvelope "first", "hello"), List.mem_singleton.mpr rfl, rfl, rfl⟩⟩, trivial⟩
    exact asSent.1 _ ⟨_, ⟨_, devices_established, id, rfl⟩, permits.reaches⟩ .bob _ _ (by decide)
  · intro state
    have permits : ((AttackedChats.system Deployment.outsider forgedWire).restrict
        (AttackedChats.KeepsLabels forgedWire)).Permits attackedChats (frameRun []) := by
      obtain ⟨first, second, _⟩ := frameRun_permits genuineFrame
      refine ⟨⟨first, nofun⟩, ⟨second, ?_⟩, trivial⟩
      rintro _ ⟨⟩ messageId name message parsed _ _
      exact ⟨[], List.mem_of_mem_head? (congrArg List.head? frameRun_sent), parsed⟩
    have stored : state.stored .bob ≠ [] := by decide +kernel
    obtain ⟨row, member⟩ := List.exists_mem_of_ne_nil _ stored
    exact ⟨row, member, asSent.2 _ ⟨_, attackedChats_initial, permits.reaches⟩ .bob row member⟩

/-- The attacker delivers Alice's message under other labels. -/
theorem relabelled_greeting_accepted :
    (∃ pair, (DevicePair.attacked Deployment.outsider).Reachable pair ∧
      ∃ entry ∈ pair.accepted .bob, entry ∉ pair.produced .alice) ∧
    ∃ state, (AttackedChats.system Deployment.outsider forgedWire).Reachable state ∧
      ∃ row ∈ state.stored .bob, ∀ bytes ∈ state.sent .alice,
        ¬ ShowsFrame forgedWire bytes row := by
  refine ⟨⟨_, ⟨_, ⟨_, devices_established, id, rfl⟩, (envelopeRun_permits "second").reaches⟩,
    (phoneEnvelope "second", "hello"), by decide, by decide⟩, ?_⟩
  have forged : IsFrame forgedWire [0] "forged" greeting := ⟨"Mallory", by decide⟩
  refine ⟨_, ⟨_, attackedChats_initial, (frameRun_permits forged).reaches⟩, ?_⟩
  have stored : ∃ row ∈ ((AttackedChats.system Deployment.outsider forgedWire).run attackedChats
      (frameRun [0])).stored .bob, row.messageId = "forged" := by decide +kernel
  obtain ⟨row, member, named⟩ := stored
  refine ⟨row, member, ?_⟩
  rintro bytes sent ⟨_, _, _, parsed, _⟩
  obtain rfl := List.mem_singleton.mp (frameRun_sent ▸ sent)
  rw [named] at parsed
  have same := (genuineFrame.eq ⟨_, parsed⟩).1
  exact absurd same (by decide +kernel)

end Symbolic

end CipherMesh
