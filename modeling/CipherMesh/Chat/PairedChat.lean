import CipherMesh.Chat.Pairing

/-!
# Two paired endpoints

A run of the paired chat is a list of events at the two endpoints.  Whatever was
sent may be delivered at any time and any number of times, or never.  Every event
brings its own clock reading and its own failures, and an error ends the chat loop
until the process is started again, with the session of a new handshake.
-/

namespace CipherMesh

open Foundation
open Foundation.Mutation

variable {P : Primitives}

/-- The saved peer profile that `load_known_peer_for_conversation` finds. -/
def Storage.knownPeerFor (P : Primitives) (conversationId : String) (storage : Storage) :
    Option KnownPeerRecord :=
  match storage.knownPeers.rows.find? fun peer => peer.conversationId = conversationId with
  | some peer => some peer
  | none =>
      match storage.contacts.find conversationId with
      | none => none
      | some contact =>
          if contact.identityPublicKey.length = 32 then
            some {
              peerId := contactIdForIdentity P contact.identityPublicKey
              identityPublicKey := contact.identityPublicKey
              displayName := contact.displayName
              conversationId := contact.contactId
              lastSeenAtUnixSecs := contact.savedAtUnixSecs }
          else none

/-- The profile is a saved one of the conversation, or made from the contact with its id. -/
theorem Storage.knownPeerFor_cases {storage : Storage} {conversationId : String}
    {peer : KnownPeerRecord} (found : storage.knownPeerFor P conversationId = some peer) :
    (peer ∈ storage.knownPeers ∧ peer.conversationId = conversationId) ∨
      ∃ contact ∈ storage.contacts, contact.contactId = conversationId ∧
        contact.identityPublicKey.length = 32 ∧
        peer.peerId = contactIdForIdentity P contact.identityPublicKey ∧
        peer.conversationId = contact.contactId := by
  rw [knownPeerFor] at found
  cases known : storage.knownPeers.rows.find? fun peer => peer.conversationId = conversationId with
  | some saved =>
      rw [known] at found
      obtain rfl := Option.some.inj found
      exact .inl ⟨List.mem_of_find?_eq_some known, by simpa using List.find?_some known⟩
  | none =>
      rw [known] at found
      cases saved : storage.contacts.find conversationId with
      | none =>
          rw [saved] at found
          cases found
      | some contact =>
          rw [saved] at found
          obtain ⟨member, named⟩ := Table.find_eq_some.mp saved
          dsimp only at found
          split at found
          · next full =>
              obtain rfl := Option.some.inj found
              exact .inr ⟨contact, member, named, full, rfl, rfl⟩
          · cases found

/-- The message id that the endpoint gives to a typed line. -/
def PairingChat.assignedId (wire : Wire P) (chat : PairingChat P) (line : String)
    (random : Bytes) : Option String :=
  if isChatBackCommand line || line = "" then none
  else if chat.online then
    match ((PairingChatRole.encrypt line).run chat.role).1 with
    | .error _ => none
    | .ok message => (wire.ratchetMessage.serialize message).map
        (chatMessageId P chat.context.conversationId .sent (some message.number))
  else
    (chat.database.storage.knownPeerFor P chat.context.conversationId).map fun peer =>
      pendingPeerMessageId P peer.peerId line chat.database.now random

/-- `frames side` and `acks side` were sent to `side`; `typed side` are the lines typed
at `side` with their ids; `confirmed side` are the ids that left the pending queue of
`side` when an acknowledgement was processed. -/
structure PairedChat (P : Primitives) where
  endpoints : RatchetRole → PairingChat P
  running : RatchetRole → Bool
  frames : RatchetRole → List Bytes
  acks : RatchetRole → List String
  typed : RatchetRole → List (String × String)
  confirmed : RatchetRole → List String

/-- When and with which failures a call happens. -/
structure Moment where
  now : UInt64
  interruptions : List Bool

inductive PairedChatEvent (P : Primitives) where
  | line (side : RatchetRole) (line : String) (random : Bytes)
  | frame (side : RatchetRole) (bytes : Bytes)
  | ack (side : RatchetRole) (messageId : String)
  | connected (side : RatchetRole)
  | disconnected (side : RatchetRole)
  | start (side : RatchetRole) (role : PairingChatRole P) (context : PairingChatContext)
  | saveContact (side : RatchetRole) (contactId displayName : String)
      (identityPublicKey : Bytes) (discoveryHint : String)

def PairedChatEvent.isStart : PairedChatEvent P → Bool
  | .start .. => true
  | _ => false

/-- The endpoint when a call begins. -/
def PairingChat.begun (chat : PairingChat P) (moment : Moment) : PairingChat P :=
  { chat with
    database := chat.database.opened moment.now moment.interruptions
    requests := [] }

namespace PairedChat

/-- The state after a call at one side, whose frames are handed to the link. -/
def finish (state : PairedChat P) (side : RatchetRole) (running : Bool) (after : PairingChat P) :
    PairedChat P :=
  { state with
    endpoints := Function.update state.endpoints side after
    running := Function.update state.running side running
    frames := Function.update state.frames side.peer
      (state.frames side.peer ++ after.requests) }

@[simp] theorem finish_endpoints_self {state : PairedChat P} {side : RatchetRole} {running : Bool}
    {after : PairingChat P} : (state.finish side running after).endpoints side = after :=
  Function.update_self _ _ _

/-- Run a call at one side; an error stops the loop. -/
def call {Result : Type} (state : PairedChat P) (side : RatchetRole) (moment : Moment)
    (method : ChatResult P Result) : Except AppError Result × PairedChat P :=
  let (result, after) := method.run ((state.endpoints side).begun moment)
  (result, state.finish side (state.running side && result.toBool) after)

theorem call_eq_ok {Result : Type} {state after : PairedChat P} {side : RatchetRole}
    {moment : Moment} {method : ChatResult P Result} {value : Result}
    (called : state.call side moment method = (.ok value, after)) :
    ∃ reached, method.run ((state.endpoints side).begun moment) = (.ok value, reached) ∧
      after = state.finish side (state.running side) reached := by
  rw [call] at called
  rcases run : method.run ((state.endpoints side).begun moment) with ⟨result, reached⟩
  rw [run] at called
  obtain ⟨rfl, rfl⟩ := Prod.mk.inj called
  exact ⟨reached, rfl, by rw [Except.toBool, Bool.and_true]⟩

def setRunning (state : PairedChat P) (side : RatchetRole) (running : Bool) : PairedChat P :=
  { state with running := Function.update state.running side running }

/-- The id, if there is one, is given to the line. -/
def assign (state : PairedChat P) (side : RatchetRole) (messageId : Option String)
    (line : String) : PairedChat P :=
  { state with
    typed := Function.update state.typed side
      (messageId.toList.map (·, line) ++ state.typed side) }

/-- An acknowledgement is sent to the side. -/
def acknowledge (state : PairedChat P) (side : RatchetRole) (messageId : String) :
    PairedChat P :=
  { state with acks := Function.update state.acks side (messageId :: state.acks side) }

def confirm (state : PairedChat P) (side : RatchetRole) (messageId : String) : PairedChat P :=
  { state with
    confirmed := Function.update state.confirmed side (messageId :: state.confirmed side) }

/-- The message waits in the queue of the side. -/
abbrev Pending (state : PairedChat P) (side : RatchetRole) (messageId : String) : Prop :=
  (state.endpoints side).database.storage.pendingPeerMessages.Contains messageId

/-- The history of the side has a row of the message. -/
abbrev Saved (state : PairedChat P) (side : RatchetRole) (messageId : String) : Prop :=
  (state.endpoints side).database.storage.messages.Contains messageId

def next (wire : Wire P) (state : PairedChat P) (event : PairedChatEvent P × Moment) :
    PairedChat P :=
  match event.1 with
  | .line side line random =>
      let messageId := ((state.endpoints side).begun event.2).assignedId wire line random
      let (result, after) := (state.assign side messageId line).call side event.2
        (PairingChat.submit wire line random)
      after.setRunning side (after.running side && decide (result = .ok true))
  | .frame side bytes =>
      match state.call side event.2 (PairingChat.handleRequest wire bytes) with
      | (.ok (some messageId), after) => after.acknowledge side.peer messageId
      | (_, after) => after
  | .ack side messageId =>
      let after := (state.call side event.2 (PairingChat.handleResponse messageId)).2
      if state.Pending side messageId ∧ ¬ after.Pending side messageId then
        after.confirm side messageId
      else after
  | .connected side => (state.call side event.2 (PairingChat.connected wire)).2
  | .disconnected side => (state.call side event.2 PairingChat.disconnected).2
  | .start side role context =>
      let started := { state.endpoints side with role, context, online := true }
      let (result, after) := (PairingChat.sendPending wire).run (started.begun event.2)
      state.finish side result.toBool after
  | .saveContact side contactId displayName identityPublicKey discoveryHint =>
      (state.call side event.2 (PairingChat.onStorage
        (saveContactForChat P contactId displayName identityPublicKey discoveryHint))).2

/-- A chat loop handles events while it runs; only what was sent is delivered. -/
def Enabled (state : PairedChat P) : PairedChatEvent P → Prop
  | .line side _ _ => state.running side = true
  | .frame side bytes => state.running side = true ∧ bytes ∈ state.frames side
  | .ack side messageId => state.running side = true ∧ messageId ∈ state.acks side
  | .connected side => state.running side = true
  | .disconnected side => state.running side = true
  | .start .. => True
  | .saveContact .. => True

instance (state : PairedChat P) : DecidablePred state.Enabled
  | .line side _ _ | .connected side | .disconnected side =>
      inferInstanceAs (Decidable (state.running side = true))
  | .frame side bytes =>
      inferInstanceAs (Decidable (state.running side = true ∧ bytes ∈ state.frames side))
  | .ack side messageId =>
      inferInstanceAs (Decidable (state.running side = true ∧ messageId ∈ state.acks side))
  | .start .. | .saveContact .. => .isTrue trivial

/-- No line has the id yet, and it does not collide with a row of the peer. -/
def Unused (state : PairedChat P) (side : RatchetRole) (messageId : String) : Prop :=
  (∀ other text, (messageId, text) ∉ state.typed other) ∧ ¬ state.Saved side.peer messageId

/-- A line that is given an id gets an unused one. -/
def DistinctIds (wire : Wire P) (state : PairedChat P) : PairedChatEvent P × Moment → Prop
  | (.line side line random, moment) =>
      ∀ messageId, ((state.endpoints side).begun moment).assignedId wire line random =
        some messageId → state.Unused side messageId
  | _ => True

/-- Two endpoints that may have messages to deliver from earlier: a queued id was typed
on one side only, and the peer's row with that id, if there is one, is the received
message. -/
structure Begins (state : PairedChat P) : Prop where
  frames : ∀ side, state.frames side = []
  acks : ∀ side, state.acks side = []
  confirmed : ∀ side, state.confirmed side = []
  typed : ∀ side, state.typed side =
    (state.endpoints side).database.storage.pendingPeerMessages.rows.map
      fun row => (row.messageId, row.plaintext)
  apart : ∀ side messageId, state.Pending side messageId → ¬ state.Pending side.peer messageId
  received : ∀ side, ∀ queued ∈ (state.endpoints side).database.storage.pendingPeerMessages,
    ∀ row ∈ (state.endpoints side.peer).database.storage.messages,
      row.messageId = queued.messageId →
        row.direction = .received ∧ row.plaintext = some queued.plaintext

/-- The runs of the paired chat with distinct message ids. -/
def system (wire : Wire P) : System (PairedChat P) (PairedChatEvent P × Moment) where
  initial := Begins
  permitted state event := state.Enabled event.1 ∧ state.DistinctIds wire event
  next := next wire

end PairedChat

end CipherMesh
