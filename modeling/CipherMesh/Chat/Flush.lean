import CipherMesh.Chat.Loop

/-!
# A flush and its connection

The flush with everything its connection can do: writes that fail or find the peer gone,
frames in any order, and the ends of a wait.  On a connection on which every write succeeds
it is the flush of the chat loop.
-/

namespace CipherMesh

open Foundation
open Foundation.Mutation

variable {P : Primitives} {wire : Wire P}

/-- What comes of waiting for the next stream and reading it. -/
inductive Arrival where
  | frame (bytes : Bytes)
  | timedOut
  | peerDisconnected
  | failed

/-- A chat on a connection.  `outcomes` are those of the writes to come, and later writes
succeed; `received` are the frames that were read, each with the id that was awaited. -/
structure FlushConnection (P : Primitives) where
  chat : PairingChat P
  outcomes : List SendOutcome
  received : List (String × ChatFrame P)

abbrev FlushResult (P : Primitives) := Mutation (FlushConnection P) AppError

namespace FlushConnection

def onChat {Result : Type} (method : ChatResult P Result) : FlushResult P Result :=
  focus chat (fun chat connection => { connection with chat }) method

/-- The result is whether the peer is still there. -/
def sendChatFrame (wire : Wire P) (frame : ChatFrame P) : FlushResult P Bool := do
  let bytes ← okOr .format (wire.chatFrame.serialize frame)
  let connection ← get
  modify fun connection => { connection with outcomes := connection.outcomes.tail }
  onChat (PairingChat.writeFrame bytes (connection.outcomes.headD .sent))

/-- `handle_incoming_during_alice_flush` and `handle_incoming_during_bob_flush`.  A peer that
is gone is not told of the message. -/
def handleIncomingDuringFlush (wire : Wire P) (bytes : Bytes) : ChatFrame P → FlushResult P Unit
  | .ack _ => return ()
  | .message messageId senderDisplayName message => do
      let saved ← onChat (PairingChat.onStorage (chatMessageAlreadySaved messageId))
      if !saved then
        onChat (PairingChat.receiveDuringFlush wire bytes messageId senderDisplayName message)
      let _ ← sendChatFrame wire (.ack messageId)
      return ()

/-- `wait_for_chat_ack_as_alice` and `wait_for_chat_ack_as_bob`.  When nothing more arrives
the wait times out. -/
def waitForChatAck (wire : Wire P) (expectedMessageId : String) :
    List Arrival → FlushResult P (Bool × List Arrival)
  | [] => return (false, [])
  | .timedOut :: arrivals => return (false, arrivals)
  | .peerDisconnected :: arrivals => return (false, arrivals)
  | .failed :: _ => fail (.message "connection")
  | .frame bytes :: arrivals => do
      let frame ← okOr .format (wire.chatFrame.deserialize bytes)
      modify fun connection =>
        { connection with received := connection.received ++ [(expectedMessageId, frame)] }
      if frame = .ack expectedMessageId then return (true, arrivals)
      else do
        handleIncomingDuringFlush wire bytes frame
        waitForChatAck wire expectedMessageId arrivals

/-- The loop of `flush_pending_messages_to_bob` and `flush_pending_messages_to_alice` before
it waits. -/
def sendPendingItem (wire : Wire P) (item : PendingPeerMessage) : FlushResult P Bool := do
  onChat (PairingChat.onStorage (Database.recordPendingPeerMessageAttempt item.messageId))
  let message ← onChat (PairingChat.onRole (PairingChatRole.encrypt item.plaintext))
  onChat (PairingChat.saveIdentity wire)
  let connection ← get
  sendChatFrame wire
    (.message item.messageId connection.chat.context.localDisplayName message)

def flushItems (wire : Wire P) : List PendingPeerMessage → List Arrival → FlushResult P Unit
  | [], _ => return ()
  | item :: items, arrivals => do
      let connected ← sendPendingItem wire item
      if connected then do
        let (acknowledged, arrivals) ← waitForChatAck wire item.messageId arrivals
        if acknowledged then do
          onChat (PairingChat.onStorage (Database.removePendingPeerMessage item.messageId))
          onChat (PairingChat.onStorage (Database.updateMessageStatus item.messageId .sent))
          flushItems wire items arrivals
        else return ()
      else return ()

def flushPendingMessages (wire : Wire P) (arrivals : List Arrival) : FlushResult P Unit := do
  let connection ← get
  let peerId ← onChat (PairingChat.onStorage
    (pendingPeerIdForConversation P connection.chat.context.conversationId))
  let pending ← onChat (PairingChat.onStorage (Database.pendingPeerMessagesForPeer peerId))
  if pending = [] then return ()
  else flushItems wire pending arrivals

def storage (connection : FlushConnection P) : Storage := connection.chat.database.storage

/-! ## A connection on which every write succeeds -/

variable {First Second Result Other : Type}

/-- While every write succeeds the method does to the chat what the other method does. -/
def Mirrors (relate : First → Second → Prop) (method : FlushResult P First)
    (model : ChatResult P Second) : Prop :=
  ∀ connection : FlushConnection P, connection.outcomes = [] →
    method.Ensures connection
      (fun result after => after.outcomes = [] ∧ model.Ensures connection.chat
        (fun value chat => relate result value ∧ chat = after.chat) fun _ _ => False)
      (fun error after => model.Ensures connection.chat (fun _ _ => False)
        fun failure chat => failure = error ∧ chat = after.chat)

namespace Mirrors

theorem pure {relate : First → Second → Prop} {result : First} {value : Second}
    (related : relate result value) :
    Mirrors relate (Pure.pure result : FlushResult P First) (Pure.pure value) :=
  fun _ fresh => ⟨fresh, related, rfl⟩

theorem fail (relate : First → Second → Prop) (error : AppError) :
    Mirrors (P := P) relate (Mutation.fail error) (Mutation.fail error) :=
  fun _ _ => ⟨rfl, rfl⟩

theorem bind {relate : First → Second → Prop} {related : Result → Other → Prop}
    {method : FlushResult P First} {model : ChatResult P Second}
    {next : First → FlushResult P Result} {modelNext : Second → ChatResult P Other}
    (first : Mirrors relate method model)
    (rest : ∀ result value, relate result value →
      Mirrors related (next result) (modelNext value)) :
    Mirrors related (method >>= next) (model >>= modelNext) := by
  intro connection fresh
  rw [ensures_bind]
  refine (first connection fresh).mono ?_ ?_
  · rintro result after ⟨stillFresh, reached⟩
    rcases ran : model.run connection.chat with ⟨error | value, chat⟩
    · exact (reached.of_error ran).elim
    · obtain ⟨isRelated, rfl⟩ := reached.of_ok ran
      refine (rest result value isRelated after stillFresh).mono ?_ ?_
      · intro final last outcome
        refine ⟨outcome.1, ?_⟩
        rw [ensures_bind, Ensures, ran]
        exact outcome.2
      · intro error last outcome
        rw [ensures_bind, Ensures, ran]
        exact outcome
  · intro error after failed
    rcases ran : model.run connection.chat with ⟨failure | value, chat⟩
    · rw [ensures_bind, Ensures, ran]
      exact failed.of_error ran
    · exact (failed.of_ok ran).elim

theorem onChat (method : ChatResult P Result) :
    Mirrors (· = ·) (FlushConnection.onChat method) method := by
  intro connection fresh
  rw [FlushConnection.onChat, ensures_focus]
  refine Ensures.run.mono (fun value chat ran => ?_) fun error chat ran => ?_
  · refine ⟨fresh, ?_⟩
    rw [Ensures, ran]
    exact ⟨rfl, rfl⟩
  · rw [Ensures, ran]
    exact ⟨rfl, rfl⟩

theorem read {related : Result → Other → Prop} {next : FlushConnection P → FlushResult P Result}
    {modelNext : PairingChat P → ChatResult P Other}
    (rest : ∀ connection, Mirrors related (next connection) (modelNext connection.chat)) :
    Mirrors related (get >>= next) (get >>= modelNext) :=
  fun connection => rest connection connection

theorem okOr (error : AppError) (value : Option Result) :
    Mirrors (P := P) (· = ·) (Mutation.okOr error value) (Mutation.okOr error value) := by
  cases value with
  | none => exact fun _ _ => ⟨rfl, rfl⟩
  | some value => exact fun _ fresh => ⟨fresh, rfl, rfl⟩

theorem sendChatFrame (frame : ChatFrame P) :
    Mirrors (fun connected _ => connected = true) (FlushConnection.sendChatFrame wire frame)
      (PairingChat.sendChatFrame wire frame) := by
  rw [FlushConnection.sendChatFrame, PairingChat.sendChatFrame]
  refine (okOr _ _).bind ?_
  rintro bytes _ rfl connection fresh
  rw [ensures_bind, ensures_get, ensures_bind, ensures_modify, fresh]
  exact ⟨rfl, rfl, rfl⟩

/-- Whether the peer heard of it does not matter. -/
theorem ignore {relate : First → Second → Prop} {method : FlushResult P First}
    {model : ChatResult P Second} (mirrors : Mirrors relate method model) :
    Mirrors (fun _ _ => True) (method >>= fun _ => Pure.pure ()) model := by
  intro connection fresh
  rw [ensures_bind]
  refine (mirrors connection fresh).mono ?_ fun _ _ => id
  intro result after reached
  exact ⟨reached.1, reached.2.mono (fun _ _ same => ⟨trivial, same.2⟩) fun _ _ => id⟩

theorem handleIncomingDuringFlush (bytes : Bytes) (frame : ChatFrame P) :
    Mirrors (fun _ _ => True) (FlushConnection.handleIncomingDuringFlush wire bytes frame)
      (PairingChat.handleIncomingDuringFlush wire bytes frame) := by
  cases frame with
  | ack acknowledged => exact pure trivial
  | message messageId senderDisplayName message =>
      refine (onChat _).bind ?_
      rintro saved _ rfl
      cases saved with
      | true => exact (sendChatFrame _).ignore
      | false => exact (onChat _).bind fun _ _ _ => (sendChatFrame _).ignore

theorem waitForChatAck (current : String) (incoming : List Bytes) :
    Mirrors (fun waited model => waited = (model.1, model.2.map Arrival.frame))
      (FlushConnection.waitForChatAck wire current (incoming.map .frame))
      (PairingChat.waitForChatAck wire current incoming) := by
  induction incoming with
  | nil => exact pure rfl
  | cons bytes incoming ih =>
      rw [List.map_cons, FlushConnection.waitForChatAck, PairingChat.waitForChatAck]
      refine (okOr _ _).bind ?_
      rintro frame _ rfl connection fresh
      rw [ensures_bind, ensures_modify]
      by_cases expected : frame = .ack current
      · rw [if_pos expected, if_pos expected]
        exact ⟨fresh, rfl, rfl⟩
      · rw [if_neg expected, if_neg expected]
        exact (handleIncomingDuringFlush bytes frame).bind (fun _ _ _ => ih) _ fresh

theorem sendPendingItem (item : PendingPeerMessage) :
    Mirrors (fun connected _ => connected = true) (FlushConnection.sendPendingItem wire item)
      (PairingChat.sendPendingItem wire item) := by
  rw [FlushConnection.sendPendingItem, PairingChat.sendPendingItem]
  refine (onChat _).bind fun _ _ _ => (onChat _).bind ?_
  rintro message _ rfl
  exact (onChat _).bind fun _ _ _ => read fun _ => sendChatFrame _

theorem flushItems (items : List PendingPeerMessage) (incoming : List Bytes) :
    Mirrors (fun _ _ => True) (FlushConnection.flushItems wire items (incoming.map .frame))
      (PairingChat.flushItems wire items incoming) := by
  induction items generalizing incoming with
  | nil => exact pure trivial
  | cons item items ih =>
      rw [PairingChat.flushItems_cons, FlushConnection.flushItems]
      refine (sendPendingItem item).bind ?_
      rintro connected _ rfl
      rw [if_pos rfl]
      refine (waitForChatAck item.messageId incoming).bind ?_
      rintro _ ⟨acknowledged, rest⟩ rfl
      cases acknowledged with
      | false => exact pure trivial
      | true =>
          simp only [if_true]
          rw [markDeliveredIfPending, PairingChat.onStorage_bind, sequence_assoc]
          exact (onChat _).bind fun _ _ _ => (onChat _).bind fun _ _ _ => ih rest

theorem flushPendingMessages (incoming : List Bytes) :
    Mirrors (fun _ _ => True) (FlushConnection.flushPendingMessages wire (incoming.map .frame))
      (PairingChat.flushPendingMessages wire incoming) := by
  refine read fun connection => (onChat _).bind ?_
  rintro peerId _ rfl
  refine (onChat _).bind ?_
  rintro pending _ rfl
  by_cases empty : pending = []
  · rw [if_pos empty, empty]
    exact pure trivial
  · rw [if_neg empty]
    exact flushItems pending incoming

end Mirrors

end FlushConnection

end CipherMesh
