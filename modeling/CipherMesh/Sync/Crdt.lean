import CipherMesh.Foundation.Collections
import CipherMesh.Foundation.Format
import CipherMesh.Storage.Database
import Mathlib.Data.Prod.Lex
import Mathlib.Data.String.Basic

/-!
# Materialized conversations

A conversation is a list of events whose payloads decode to conversation events.
Materialization replays them into the messages, tombstones, reactions and read
frontiers that a client shows.
-/

namespace CipherMesh

open Foundation

/-- The position of the event that added a reaction. -/
structure ReactionAddId where
  deviceId : String
  counter : UInt64

namespace ReactionAddId

def key (id : ReactionAddId) : String ×ₗ Nat :=
  toLex (id.deviceId, id.counter.toNat)

theorem key_injective : Function.Injective key := by
  rintro ⟨device, counter⟩ ⟨otherDevice, otherCounter⟩ same
  simpa [key, UInt64.toNat_inj] using same

/-- The derived order of the fields. -/
instance : LinearOrder ReactionAddId :=
  LinearOrder.lift' key key_injective

end ReactionAddId

inductive ConversationEvent where
  | messageCreated (messageId authorId : String) (payload : Bytes)
  | messageDeleted (messageId : String)
  | reactionAdded (messageId reaction actorId : String)
  | reactionRemoved (reactionAdd : ReactionAddId)
  | readAdvanced (actorId readDeviceId : String) (readCounter : UInt64)
  deriving DecidableEq

structure VisibleReaction where
  reaction : String
  actorId : String
  add : ReactionAddId
  deriving DecidableEq

structure MessageState where
  messageId : String
  authorId : String
  payload : Bytes
  deleted : Bool
  reactions : Finset VisibleReaction
  deriving DecidableEq

structure ConversationState where
  messages : Finmap fun _ : String => MessageState
  tombstones : Finset String
  readFrontiers : Finmap fun _ : String => Finmap fun _ : String => UInt64

structure ReactionAdd where
  messageId : String
  reaction : String
  actorId : String
  deriving DecidableEq

/-- The collections that the loop over the events fills. -/
structure Replay where
  messages : Finmap fun _ : String => MessageState
  tombstones : Finset String
  reactionAdds : Finmap fun _ : ReactionAddId => ReactionAdd
  removedReactions : Finset ReactionAddId
  readFrontiers : Finmap fun _ : String => Finmap fun _ : String => UInt64

namespace Replay

def start : Replay := ⟨∅, ∅, ∅, ∅, ∅⟩

/-- `get_mut` followed by an assignment. -/
def modifyMessage (change : MessageState → MessageState) (messageId : String)
    (messages : Finmap fun _ : String => MessageState) : Finmap fun _ : String => MessageState :=
  match messages.lookup messageId with
  | none => messages
  | some message => messages.insert messageId (change message)

/-- One iteration of the loop over the events, for a decoded payload. -/
def apply (replay : Replay) (record : EventRecord) : ConversationEvent → Replay
  | .messageCreated messageId authorId payload =>
      if messageId ∈ replay.messages then replay
      else
        { replay with
          messages := replay.messages.insert messageId {
            messageId, authorId, payload
            deleted := decide (messageId ∈ replay.tombstones)
            reactions := ∅ } }
  | .messageDeleted messageId =>
      { replay with
        tombstones := insert messageId replay.tombstones
        messages := modifyMessage (fun message => { message with deleted := true }) messageId
          replay.messages }
  | .reactionAdded messageId reaction actorId =>
      { replay with
        reactionAdds := replay.reactionAdds.insert ⟨record.deviceId, record.counter⟩
          ⟨messageId, reaction, actorId⟩ }
  | .reactionRemoved reactionAdd =>
      { replay with removedReactions := insert reactionAdd replay.removedReactions }
  | .readAdvanced actorId readDeviceId readCounter =>
      let frontier := (replay.readFrontiers.lookup actorId).getD ∅
      let current := (frontier.lookup readDeviceId).getD 0
      { replay with
        readFrontiers := replay.readFrontiers.insert actorId
          (frontier.insert readDeviceId (if current < readCounter then readCounter else current)) }

/-- One iteration of the loop over the reactions. -/
def attach (removedReactions : Finset ReactionAddId)
    (messages : Finmap fun _ : String => MessageState)
    (entry : ReactionAddId × ReactionAdd) : Finmap fun _ : String => MessageState :=
  if entry.1 ∈ removedReactions then messages
  else
    modifyMessage (fun message =>
      { message with
        reactions := insert ⟨entry.2.reaction, entry.2.actorId, entry.1⟩ message.reactions })
      entry.2.messageId messages

/-- What is returned after the loops. -/
def finish (replay : Replay) : ConversationState where
  messages := (entries replay.reactionAdds).foldl (attach replay.removedReactions) replay.messages
  tombstones := replay.tombstones
  readFrontiers := replay.readFrontiers

end Replay

/-- Replay the events; a payload that does not decode is passed over. -/
def materializeConversation (format : Format ConversationEvent) (events : List EventRecord) :
    ConversationState :=
  (events.foldl (fun replay record =>
    match format.deserialize record.payload with
    | none => replay
    | some event => replay.apply record event) Replay.start).finish

end CipherMesh
