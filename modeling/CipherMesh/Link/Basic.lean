import CipherMesh.Handshake.Established
import CipherMesh.Ratchet.Delivery

/-!
# Two sessions joined by a link

The state of a link has the two sessions and, as history, what each side's
`encrypt` produced from which text and what each side's `decrypt` returned for
which message.  The systems of the following modules share this state and the
effect of the calls; they differ in the messages that may be delivered.
-/

namespace CipherMesh

open Foundation
open Foundation.Mutation
open RatchetSession

variable {P : Primitives}

structure Link (P : Primitives) where
  sessions : RatchetRole → RatchetSession P
  produced : RatchetRole → List (RatchetMessage P × String)
  accepted : RatchetRole → List (RatchetMessage P × String)

/-- The calls on the sessions of a link. -/
inductive LinkEvent (P : Primitives) where
  | encrypt (side : RatchetRole) (text : String)
  | deliver (side : RatchetRole) (message : RatchetMessage P)
  | rotate (side : RatchetRole) (generated : P.PrivateKey)

namespace Link

/-- Nothing has been sent. -/
def start (sessions : RatchetRole → RatchetSession P) : Link P where
  sessions := sessions
  produced _ := []
  accepted _ := []

/-- Add what a call returned to the history of a side. -/
def record {Entry : Type} (history : RatchetRole → List Entry) (side : RatchetRole)
    (entry : Option Entry) : RatchetRole → List Entry :=
  Function.update history side (entry.toList ++ history side)

@[simp] theorem record_none {Entry : Type} (history : RatchetRole → List Entry)
    (side : RatchetRole) : record history side none = history :=
  Function.update_eq_self _ _

theorem mem_record {Entry : Type} {history : RatchetRole → List Entry}
    {side other : RatchetRole} {entry : Option Entry} {found : Entry} :
    found ∈ record history side entry other ↔
      (other = side ∧ entry = some found) ∨ found ∈ history other := by
  unfold record
  rcases eq_or_ne other side with rfl | different
  · simp
  · simp [different]

/-- The message that encrypting a text returns, with the text. -/
def encrypted (session : RatchetSession P) (text : String) :
    Option (RatchetMessage P × String) :=
  (((encrypt text).run session).1.toOption).map (·, text)

/-- The text that decrypting a message returns, with the message. -/
def decrypted (session : RatchetSession P) (message : RatchetMessage P) :
    Option (RatchetMessage P × String) :=
  (((decrypt message).run session).1.toOption).map (message, ·)

def next (link : Link P) : LinkEvent P → Link P
  | .encrypt side text =>
      { link with
        sessions := Function.update link.sessions side
          ((encrypt text).run (link.sessions side)).2
        produced := record link.produced side (encrypted (link.sessions side) text) }
  | .deliver side message =>
      { link with
        sessions := Function.update link.sessions side
          ((decrypt message).run (link.sessions side)).2
        accepted := record link.accepted side (decrypted (link.sessions side) message) }
  | .rotate side generated =>
      { link with
        sessions := Function.update link.sessions side
          ((rotateSendingRatchet generated).run (link.sessions side)).2 }

@[simp] theorem start_sessions (sessions : RatchetRole → RatchetSession P) :
    (start sessions).sessions = sessions := rfl

/-! ## Effects of the events -/

variable (link : Link P) (side other : RatchetRole) (text : String)
variable (message : RatchetMessage P) (generated : P.PrivateKey)

theorem sessions_encrypt :
    (link.next (.encrypt side text)).sessions other =
      if other = side then (link.sessions other).sent else link.sessions other := by
  rcases eq_or_ne other side with rfl | different
  · simp [next, run_encrypt_state]
  · simp [next, different]

theorem sessions_deliver :
    (link.next (.deliver side message)).sessions other =
      if other = side then ((decrypt message).run (link.sessions other)).2
      else link.sessions other := by
  rcases eq_or_ne other side with rfl | different
  · simp [next]
  · simp [next, different]

theorem sessions_rotate :
    (link.next (.rotate side generated)).sessions other =
      if other = side then (link.sessions other).rotated generated
      else link.sessions other := by
  rcases eq_or_ne other side with rfl | different
  · simp [next, run_rotateSendingRatchet]
  · simp [next, different]

variable {link side other message}

theorem mem_produced_encrypt {entry : RatchetMessage P × String} :
    entry ∈ (link.next (.encrypt side text)).produced other ↔
      (other = side ∧ encrypted (link.sessions side) text = some entry) ∨
        entry ∈ link.produced other :=
  mem_record

theorem mem_accepted_deliver {entry : RatchetMessage P × String} :
    entry ∈ (link.next (.deliver side message)).accepted other ↔
      (other = side ∧ decrypted (link.sessions side) message = some entry) ∨
        entry ∈ link.accepted other :=
  mem_record

/-- A message that `encrypt` returned carries the counter and the public key of the
session and the sealed text. -/
theorem encrypted_eq_some {session : RatchetSession P} {text found : String}
    {message : RatchetMessage P} (returned : encrypted session text = some (message, found)) :
    found = text ∧ message.number = session.sendCount ∧
      message.ratchetPublicKey = session.dhKeys.publicKey ∧
      session.sealNext text = some message.ciphertext := by
  rw [encrypted, run_encrypt] at returned
  cases sealed : session.sealNext text with
  | none => simp [sealed, Except.toOption] at returned
  | some ciphertext =>
      simp only [sealed, Except.toOption, Option.map_some, Option.some.injEq,
        Prod.mk.injEq] at returned
      obtain ⟨rfl, rfl⟩ := returned
      exact ⟨rfl, rfl, rfl, rfl⟩

/-- What a session encrypts is sealed in its epoch. -/
theorem sealedIn_of_encrypted {session : RatchetSession P} {epoch : Epoch P}
    (invariant : session.AtEpoch epoch) {text found : String} {message : RatchetMessage P}
    (returned : encrypted session text = some (message, found)) :
    SealedIn epoch session.role message (.ofText found) := by
  obtain ⟨rfl, number, publicKey, sealed⟩ := encrypted_eq_some returned
  rw [sealNext, invariant.sendChainKey, ← number, ← publicKey] at sealed
  exact sealed

/-- An entry that `decrypt` adds is the delivered message with the returned text. -/
theorem decrypted_eq_some {session : RatchetSession P} {text : String}
    {message found : RatchetMessage P}
    (returned : decrypted session message = some (found, text)) :
    found = message ∧ ((decrypt message).run session).1 = .ok text := by
  rw [decrypted] at returned
  cases outcome : ((decrypt message).run session).1 with
  | error error => simp [outcome, Except.toOption] at returned
  | ok value =>
      simp only [outcome, Except.toOption, Option.map_some, Option.some.injEq,
        Prod.mk.injEq] at returned
      obtain ⟨rfl, rfl⟩ := returned
      exact ⟨rfl, rfl⟩

theorem decrypted_of_ok {session : RatchetSession P} {text : String}
    {message : RatchetMessage P} (success : ((decrypt message).run session).1 = .ok text) :
    decrypted session message = some (message, text) := by
  rw [decrypted, success]
  rfl

end Link

end CipherMesh
