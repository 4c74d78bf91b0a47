import CipherMesh.Chat.Soundness
import CipherMesh.Handshake.Established

/-!
# Delivered messages

A pending message leaves the queue when an acknowledgement names it, and an id is
acknowledged only when its row is in the history.  `Sound` joins the two sound
histories by what is in flight between them, and every event keeps it.
-/

namespace CipherMesh

open Foundation
open Foundation.Mutation

variable {P : Primitives}

namespace PairedChat

variable {wire : Wire P} {state : PairedChat P} {side : RatchetRole}

/-- The line was typed at the side under this id. -/
def Typed (state : PairedChat P) (side : RatchetRole) (messageId text : String) : Prop :=
  (messageId, text) ∈ state.typed side

/-- The peer has acknowledged the message to the side. -/
def Acknowledged (state : PairedChat P) (side : RatchetRole) (messageId : String) : Prop :=
  messageId ∈ state.acks side ∨ messageId ∈ state.confirmed side

theorem typed_assign {messageId : Option String} {line : String} {other : RatchetRole}
    {name text : String} : (state.assign side messageId line).Typed other name text ↔
      state.Typed other name text ∨ (other = side ∧ messageId = some name ∧ text = line) := by
  by_cases same : other = side
  · subst same
    cases messageId <;> simp [Typed, assign, eq_comm, or_comm]
  · simp [Typed, assign, same]

private theorem mem_update_cons {ids : RatchetRole → List String} {messageId name : String}
    {other : RatchetRole} :
    name ∈ Function.update ids side (messageId :: ids side) other ↔
      name ∈ ids other ∨ (other = side ∧ name = messageId) := by
  by_cases same : other = side
  · subst same
    simp [or_comm]
  · simp [same]

theorem acknowledged_acknowledge {messageId name : String} {other : RatchetRole} :
    (state.acknowledge side messageId).Acknowledged other name ↔
      state.Acknowledged other name ∨ (other = side ∧ name = messageId) := by
  simp only [Acknowledged, acknowledge, mem_update_cons]
  tauto

/-- What is stored at the sides and in flight between them belongs to typed lines. -/
structure Sound (wire : Wire P) (state : PairedChat P) : Prop where
  stored : ∀ side, StoredSoundly (state.Typed side) (state.Typed side.peer)
    (state.Acknowledged side.peer) (state.endpoints side).database.storage
  frames : ∀ side, ∀ bytes ∈ state.frames side, Carries wire (state.Typed side.peer) bytes
  acknowledged : ∀ side messageId, state.Acknowledged side messageId →
    ∃ text, state.Typed side messageId text
  distinct : ∀ ⦃side other messageId text otherText⦄, state.Typed side messageId text →
    state.Typed other messageId otherText → side = other ∧ otherText = text

/-- What a call at the side has to keep. -/
abbrev SoundSide (wire : Wire P) (state : PairedChat P) (side : RatchetRole) :
    PairingChat P → Prop :=
  SoundChat wire (state.Typed side) (state.Typed side.peer) (state.Acknowledged side.peer)

namespace Sound

theorem apart (sound : Sound wire state) (side : RatchetRole) :
    Apart (state.Typed side) (state.Typed side.peer) := by
  intro messageId text other typed typedThere
  exact absurd (sound.distinct typed typedThere).1 (by simp)

theorem begun (sound : Sound wire state) (side : RatchetRole) (moment : Moment) :
    SoundSide wire state side ((state.endpoints side).begun moment) :=
  ⟨sound.stored side, fun _ member => absurd member List.not_mem_nil⟩

theorem finish (sound : Sound wire state) {after : PairingChat P}
    (soundSide : SoundSide wire state side after) (running : Bool) :
    Sound wire (state.finish side running after) where
  stored other := by
    change StoredSoundly (state.Typed other) (state.Typed other.peer)
      (state.Acknowledged other.peer)
      (Function.update state.endpoints side after other).database.storage
    by_cases same : other = side
    · subst same
      rw [Function.update_self]
      exact soundSide.database
    · rw [Function.update_of_ne same]
      exact sound.stored other
  frames other bytes member := by
    change Carries wire (state.Typed other.peer) bytes
    by_cases same : other = side.peer
    · subst same
      simp only [PairedChat.finish, Function.update_self, List.mem_append] at member
      rcases member with old | new
      · exact sound.frames side.peer bytes old
      · rw [RatchetRole.peer_peer]
        exact soundSide.requests bytes new
    · simp only [PairedChat.finish, Function.update_of_ne same] at member
      exact sound.frames other bytes member
  acknowledged := sound.acknowledged
  distinct := sound.distinct

theorem call {Result : Type} {method : ChatResult P Result} (sound : Sound wire state)
    {moment : Moment}
    (ensures : method.Ensures ((state.endpoints side).begun moment)
      (fun _ => SoundSide wire state side) (fun _ => SoundSide wire state side)) :
    Sound wire (state.call side moment method).2 :=
  sound.finish ensures.reached _

theorem setRunning (sound : Sound wire state) (side : RatchetRole) (running : Bool) :
    Sound wire (state.setRunning side running) :=
  ⟨sound.stored, sound.frames, sound.acknowledged, sound.distinct⟩

/-- An unused id is given to a line. -/
theorem assign (sound : Sound wire state) {messageId : Option String} {line : String}
    (unused : ∀ new, messageId = some new → state.Unused side new) :
    Sound wire (state.assign side messageId line) where
  stored other := by
    refine ⟨fun row member => typed_assign.mpr (.inl ((sound.stored other).pending row member)), ?_,
      (sound.stored other).known⟩
    intro row member text typed
    rcases typed_assign.mp typed with old | ⟨there, new, rfl⟩
    · exact (sound.stored other).messages row member text old
    · subst there
      have notSaved := (unused _ new).2
      rw [Saved, RatchetRole.peer_peer] at notSaved
      exact absurd ⟨row, member, rfl⟩ notSaved
  frames other bytes member :=
    (sound.frames other bytes member).mono fun _ _ old => typed_assign.mpr (.inl old)
  acknowledged other messageId acknowledged := by
    obtain ⟨text, typed⟩ := sound.acknowledged other messageId acknowledged
    exact ⟨text, typed_assign.mpr (.inl typed)⟩
  distinct := by
    intro first second name text otherText typed otherTyped
    rcases typed_assign.mp typed with old | ⟨rfl, new, rfl⟩
    · rcases typed_assign.mp otherTyped with otherOld | ⟨rfl, otherNew, rfl⟩
      · exact sound.distinct old otherOld
      · exact absurd old ((unused name otherNew).1 _ _)
    · rcases typed_assign.mp otherTyped with otherOld | ⟨rfl, otherNew, rfl⟩
      · exact absurd otherOld ((unused name new).1 _ _)
      · exact ⟨rfl, rfl⟩

/-- An acknowledged message is in the history of the side that acknowledges it. -/
theorem acknowledge (sound : Sound wire state) {messageId text : String}
    (typed : state.Typed side messageId text) (saved : state.Saved side.peer messageId) :
    Sound wire (state.acknowledge side messageId) where
  stored other := by
    refine ⟨(sound.stored other).pending, (sound.stored other).messages, ?_⟩
    intro old acknowledged
    rcases acknowledged_acknowledge.mp acknowledged with before | ⟨there, rfl⟩
    · exact (sound.stored other).known old before
    · subst there
      rwa [Saved, RatchetRole.peer_peer] at saved
  frames := sound.frames
  acknowledged other old acknowledged := by
    rcases acknowledged_acknowledge.mp acknowledged with before | ⟨rfl, rfl⟩
    · exact sound.acknowledged other old before
    · exact ⟨text, typed⟩
  distinct := sound.distinct

theorem confirm (sound : Sound wire state) {messageId : String}
    (acknowledged : messageId ∈ state.acks side) : Sound wire (state.confirm side messageId) := by
  have before : ∀ {other old}, (state.confirm side messageId).Acknowledged other old →
      state.Acknowledged other old := by
    rintro other old (waiting | confirmed)
    · exact .inl waiting
    · rcases mem_update_cons.mp confirmed with earlier | ⟨rfl, rfl⟩
      · exact .inr earlier
      · exact .inl acknowledged
  refine ⟨fun other => (sound.stored other).weaken fun _ => before, sound.frames, ?_,
    sound.distinct⟩
  exact fun other old acknowledgedThere => sound.acknowledged other old (before acknowledgedThere)

theorem frame (sound : Sound wire state) (ideal : P.AeadIdeal) {bytes : Bytes}
    (inFlight : bytes ∈ state.frames side) (moment : Moment) :
    Sound wire (state.next wire (.frame side bytes, moment)) := by
  obtain ⟨carried, senderDisplayName, message, text, parsed, typed, sealed⟩ :=
    sound.frames side bytes inFlight
  have ensures := PairingChat.handleRequest_ensures (sound.begun side moment) parsed
    fun opened opens other otherTyped =>
      (sealed.text_eq ideal opens).trans (sound.distinct otherTyped typed).2
  have called := sound.call (ensures.mono (fun _ _ handled => handled.2.weaken) fun _ _ => id)
  simp only [next]
  split
  · next messageId after outcome =>
      obtain ⟨reached, run, rfl⟩ := call_eq_ok outcome
      obtain ⟨same, handled⟩ := ensures.of_ok run
      obtain rfl := Option.some.inj same
      rw [outcome] at called
      dsimp only at called
      refine called.acknowledge typed ?_
      rw [Saved, RatchetRole.peer_peer, finish_endpoints_self]
      exact handled.database.known messageId (.inr rfl)
  · next result after _ outcome => rwa [outcome] at called

/-- Every event keeps what is in flight and stored sound. -/
theorem next (sound : Sound wire state) (ideal : P.AeadIdeal)
    (frames : wire.chatFrame.RoundTrip) {event : PairedChatEvent P × Moment}
    (enabled : state.Enabled event.1) (distinct : state.DistinctIds wire event) :
    Sound wire (state.next wire event) := by
  obtain ⟨event, moment⟩ := event
  cases event with
  | line side line random =>
      have assigned : Sound wire (state.assign side _ line) := sound.assign distinct
      have called := assigned.call (PairingChat.submit_ensures frames (assigned.apart side)
        (assigned.begun side moment) fun messageId given =>
          typed_assign.mpr (.inr ⟨rfl, given, rfl⟩))
      exact called.setRunning side _
  | frame side bytes => exact sound.frame ideal enabled.2 moment
  | ack side messageId =>
      have called := sound.call
        (PairingChat.keeps_handleResponse messageId _ (sound.begun side moment))
      simp only [PairedChat.next]
      split
      · exact called.confirm enabled.2
      · exact called
  | connected side =>
      exact sound.call (PairingChat.keeps_connected frames (sound.apart side) _
        (sound.begun side moment))
  | disconnected side =>
      exact sound.call (PairingChat.keeps_disconnected _ (sound.begun side moment))
  | start side role context =>
      have started : SoundSide wire state side
          (.begun { state.endpoints side with role, context, online := true } moment) :=
        ⟨sound.stored side, fun _ member => absurd member List.not_mem_nil⟩
      have kept := PairingChat.keeps_sendPending frames (sound.apart side) _ started
      exact sound.finish kept.reached _
  | saveContact side contactId displayName identityPublicKey discoveryHint =>
      exact sound.call (PairingChat.keeps_onStorage (keeps_saveContactForChat _ _ _ _) _
        (sound.begun side moment))

theorem of_begins (begins : Begins state) : Sound wire state := by
  have queued : ∀ {side messageId text}, state.Typed side messageId text →
      ∃ row ∈ (state.endpoints side).database.storage.pendingPeerMessages,
        row.messageId = messageId ∧ row.plaintext = text := by
    intro side messageId text typed
    simpa [Typed, begins.typed, Table.mem_def] using typed
  have quiet : ∀ side messageId, ¬ state.Acknowledged side messageId := by
    simp [Acknowledged, begins.acks, begins.confirmed]
  refine ⟨fun side => ⟨?_, ?_, ?_⟩, ?_, ?_, ?_⟩
  · intro row member
    rw [Typed, begins.typed]
    exact List.mem_map_of_mem member
  · intro row member text typed
    obtain ⟨waiting, waitingMember, sameId, rfl⟩ := queued typed
    refine begins.received side.peer waiting waitingMember row ?_ sameId.symm
    rwa [RatchetRole.peer_peer]
  · exact fun messageId acknowledged => absurd acknowledged (quiet _ _)
  · simp [begins.frames]
  · exact fun side messageId acknowledged => absurd acknowledged (quiet _ _)
  · intro side other messageId text otherText typed otherTyped
    obtain ⟨row, member, sameId, rfl⟩ := queued typed
    obtain ⟨otherRow, otherMember, otherSameId, rfl⟩ := queued otherTyped
    rcases other.eq_or_eq_peer side with rfl | rfl
    · rw [Table.eq_of_key_eq member otherMember (sameId.trans otherSameId.symm)]
      exact ⟨rfl, rfl⟩
    · exact absurd ⟨otherRow, otherMember, otherSameId⟩
        (begins.apart side messageId ⟨row, member, sameId⟩)

theorem of_reachable (ideal : P.AeadIdeal) (frames : wire.chatFrame.RoundTrip)
    (reachable : (system wire).Reachable state) : Sound wire state :=
  reachable.invariant (Sound wire) (fun _ => of_begins) fun _ _ sound permitted =>
    sound.next ideal frames permitted.1 permitted.2

end Sound

/-- A message that has its row is not stored again. -/
theorem frame_of_saved {bytes : Bytes} {messageId senderDisplayName : String}
    {message : RatchetMessage P} (moment : Moment)
    (parsed : wire.chatFrame.deserialize bytes =
      some (.message messageId senderDisplayName message))
    (saved : state.Saved side messageId) :
    ((state.next wire (.frame side bytes, moment)).endpoints side).database.storage =
      (state.endpoints side).database.storage := by
  have handled : ((state.call side moment (PairingChat.handleRequest wire bytes)).2.endpoints
      side).database.storage = (state.endpoints side).database.storage := by
    rw [call]
    dsimp only
    rw [finish_endpoints_self]
    have begunSaved : ((state.endpoints side).begun moment).database.storage.messages.Contains
        messageId := saved
    exact (PairingChat.handleRequest_duplicate parsed begunSaved).reached
  simp only [next]
  split
  · next outcome => rwa [outcome] at handled
  · next outcome => rwa [outcome] at handled

/-- What an acknowledgement removed from the queue is in the peer's history once, as it
was typed; and a message that has its row is not stored again. -/
theorem delivered_when_removed (ideal : P.AeadIdeal) (frames : wire.chatFrame.RoundTrip)
    (reachable : (system wire).Reachable state) :
    (∀ side messageId, messageId ∈ state.confirmed side →
      ∃ text row, (∀ other, (messageId, other) ∈ state.typed side ↔ other = text) ∧
        ((state.endpoints side.peer).database.storage.messages.rows.filter fun other =>
          other.messageId = messageId) = [row] ∧
        row.direction = .received ∧ row.plaintext = some text) ∧
    ∀ side bytes moment messageId senderDisplayName message,
      wire.chatFrame.deserialize bytes = some (.message messageId senderDisplayName message) →
      state.Saved side messageId →
        ((state.next wire (.frame side bytes, moment)).endpoints side).database.storage =
          (state.endpoints side).database.storage := by
  have sound := Sound.of_reachable ideal frames reachable
  constructor
  · intro side messageId confirmed
    obtain ⟨text, typed⟩ := sound.acknowledged side messageId (.inr confirmed)
    have stored := sound.stored side.peer
    rw [RatchetRole.peer_peer] at stored
    obtain ⟨row, member, rfl⟩ := stored.known messageId (.inr confirmed)
    refine ⟨text, row, fun other => ?_, Table.filter_key_eq member,
      stored.messages row member text typed⟩
    exact ⟨fun otherTyped => (sound.distinct typed otherTyped).2, fun same => same ▸ typed⟩
  · exact fun side bytes moment messageId _ _ => frame_of_saved moment

end PairedChat

/-! ## A delivered greeting -/

namespace Symbolic

/-- The id that Alice's first message gets. -/
def greetingId : String := chatMessageId primitives "chat" .sent (some 0) []

def stateless {Value : Type} : Format Value where
  serialize _ := some []
  deserialize _ := none

/-- The serialization that knows these messages of Alice, all with one id. -/
def wireOf (messages : List (RatchetMessage primitives)) : Wire primitives where
  ratchetMessage := .listed messages
  chatFrame := .listed (messages.map (.message greetingId "Alice"))
  initialMessage := stateless
  chatInitialMessage := stateless
  legacyChatInitialMessage := stateless
  aliceState := stateless
  bobState := stateless

def endpoint (side : RatchetRole) : PairingChat primitives where
  role := match side with
    | .alice => .alice { alice with session := some (sessions .alice) }
    | .bob => .bob { bob with session := some (sessions .bob) }
  context := match side with
    | .alice => ⟨"Alice", "Bob", "chat"⟩
    | .bob => ⟨"Bob", "Alice", "chat"⟩
  online := true
  database := ⟨.empty, 0, []⟩
  requests := []

/-- Both chat loops have just started, with empty databases. -/
def paired : PairedChat primitives where
  endpoints := endpoint
  running _ := true
  frames _ := []
  acks _ := []
  typed _ := []
  confirmed _ := []

theorem paired_begins : PairedChat.Begins paired where
  frames _ := rfl
  acks _ := rfl
  confirmed _ := rfl
  typed _ := rfl
  apart _ _ _ := by rintro ⟨_, member, _⟩; cases member
  received _ _ member := by cases member

def undisturbed : Moment := ⟨0, []⟩

/-- The messages that a session returns when it encrypts the texts. -/
def encryptions : List String → RatchetSession primitives → List (RatchetMessage primitives)
  | [], _ => []
  | text :: texts, session =>
      let (result, reached) := (RatchetSession.encrypt text).run session
      result.toOption.toList ++ encryptions texts reached

/-- The id that Alice's second message gets. -/
def secondId : String := chatMessageId primitives "chat" .sent (some 1) [0]

/-- Two lines of Alice, and both again. -/
def lineFrames : List (String × RatchetMessage primitives) :=
  [greetingId, secondId, greetingId, secondId].zip
    (encryptions ["hello", "again", "hello", "again"] (sessions .alice))

def lineWire : Wire primitives :=
  { wireOf [] with
    ratchetMessage := .listed (lineFrames.map Prod.snd)
    chatFrame := .listed (lineFrames.map fun frame => .message frame.1 "Alice" frame.2) }

/-- Alice types two lines, and the second frame overtakes the first one. -/
def linesRun : List (PairedChatEvent primitives × Moment) :=
  [(.line .alice "hello" [], undisturbed), (.line .alice "again" [], undisturbed),
    (.frame .bob [0], undisturbed), (.frame .bob [], undisturbed),
    (.ack .alice greetingId, undisturbed), (.ack .alice secondId, undisturbed)]

theorem linesRun_permits : (PairedChat.system lineWire).Permits paired linesRun := by
  refine ⟨⟨rfl, ?_⟩, ⟨?_, ?_⟩, ⟨⟨?_, ?_⟩, trivial⟩, ⟨⟨?_, ?_⟩, trivial⟩, ⟨⟨?_, ?_⟩, trivial⟩,
    ⟨⟨?_, ?_⟩, trivial⟩, trivial⟩
  · intro _ _
    exact ⟨fun _ _ => List.not_mem_nil, fun ⟨_, member, _⟩ => by cases member⟩
  rotate_left
  · -- The second line does not get the id of the first one.
    intro messageId assigned
    obtain rfl : messageId = secondId := Option.some.inj (assigned.symm.trans (by decide +kernel))
    refine ⟨fun other text member => ?_, by decide +kernel⟩
    have different : ∀ entry ∈ ((PairedChat.system lineWire).run paired
        (linesRun.take 1)).typed other, entry.1 ≠ secondId := by
      cases other <;> decide +kernel
    exact different _ member rfl
  all_goals decide +kernel

/-- Bob has both lines once, and a frame that comes again stores nothing. -/
theorem lines_delivered :
    let state := (PairedChat.system lineWire).run paired linesRun
    (∀ messageId ∈ [greetingId, secondId],
      ∃ text row, (∀ other, (messageId, other) ∈ state.typed .alice ↔ other = text) ∧
        ((state.endpoints .bob).database.storage.messages.rows.filter fun other =>
          other.messageId = messageId) = [row] ∧
        row.direction = .received ∧ row.plaintext = some text) ∧
      ((state.next lineWire (.frame .bob [0], undisturbed)).endpoints .bob).database.storage =
        (state.endpoints .bob).database.storage := by
  intro state
  have confirmed : ∀ messageId ∈ [greetingId, secondId], messageId ∈ state.confirmed .alice := by
    decide +kernel
  have parsed : lineWire.chatFrame.deserialize [0] = some (.message secondId "Alice"
      (lineFrames.get ⟨1, by decide +kernel⟩).2) := by decide +kernel
  have saved : state.Saved .bob secondId := by decide +kernel
  obtain ⟨delivered, repeated⟩ := PairedChat.delivered_when_removed aeadIdeal
    (Format.roundTrip_listed _) ⟨paired, paired_begins, linesRun_permits.reaches⟩
  exact ⟨fun messageId member => delivered .alice messageId (confirmed messageId member),
    repeated .bob [0] undisturbed secondId "Alice" _ parsed saved⟩

end Symbolic

end CipherMesh
