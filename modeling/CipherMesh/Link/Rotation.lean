import CipherMesh.Link.Basic
import CipherMesh.Foundation.Reachability

/-!
# Rotation over FIFO channels

Two sessions joined by reliable FIFO channels, both of which may rotate.  A
rotation replaces the receiving chain together with the sending chain, so it cuts
off what the peer has in flight and what the peer sends before it has seen the new
public key.  This module determines when a side may encrypt or rotate, and shows
that runs which keep to this deliver every text.

In such runs at most one side is ahead of the other.  The messages in flight from
that side form a `Stream`: each continues the chain of its predecessor or starts
the next epoch with the next public key.
-/

namespace CipherMesh

open Foundation
open Foundation.Mutation
open RatchetSession

variable {P : Primitives}

/-! ## The system -/

/-- `inFlight side` are the messages on their way to `side`, the next one first, each
with the text it was sealed from; `delivered side` are the results of its
deliveries, each with the text that was sealed. -/
structure FifoLink (P : Primitives) where
  sessions : RatchetRole → RatchetSession P
  inFlight : RatchetRole → List (RatchetMessage P × String)
  delivered : RatchetRole → List (Except CryptoError String × String)

inductive FifoEvent (P : Primitives) where
  | encrypt (side : RatchetRole) (text : String)
  | rotate (side : RatchetRole) (generated : P.PrivateKey)
  | deliver (side : RatchetRole)

namespace FifoLink

def start (sessions : RatchetRole → RatchetSession P) : FifoLink P where
  sessions := sessions
  inFlight _ := []
  delivered _ := []

def next (link : FifoLink P) : FifoEvent P → FifoLink P
  | .encrypt side text =>
      { link with
        sessions := Function.update link.sessions side
          ((encrypt text).run (link.sessions side)).2
        inFlight := Function.update link.inFlight side.peer
          (link.inFlight side.peer ++ (Link.encrypted (link.sessions side) text).toList) }
  | .rotate side generated =>
      { link with
        sessions := Function.update link.sessions side
          ((rotateSendingRatchet generated).run (link.sessions side)).2 }
  | .deliver side =>
      match link.inFlight side with
      | [] => link
      | (message, text) :: rest =>
          let (result, reached) := (decrypt message).run (link.sessions side)
          { sessions := Function.update link.sessions side reached
            inFlight := Function.update link.inFlight side rest
            delivered := Function.update link.delivered side
              ((result, text) :: link.delivered side) }

/-- All runs over FIFO channels. -/
def fifo : System (FifoLink P) (FifoEvent P) where
  initial link := ∃ sessions, Established sessions ∧ link = start sessions
  permitted _ _ := True
  next := next

/-- The side holds the current public key of its peer. -/
def KnowsPeer (link : FifoLink P) (side : RatchetRole) : Prop :=
  (link.sessions side).peerRatchetPublicKey = (link.sessions side.peer).dhKeys.publicKey

/-- The public key a reader holds after it has received the messages in flight. -/
def lastHeader (header : P.PublicKey) (queue : List (RatchetMessage P × String)) :
    P.PublicKey :=
  queue.foldl (fun _ entry => entry.1.ratchetPublicKey) header

/-- The peer holds the side's current public key or will, once it has received what is
in flight. -/
def Announced (link : FifoLink P) (side : RatchetRole) : Prop :=
  lastHeader (link.sessions side.peer).peerRatchetPublicKey (link.inFlight side.peer) =
    (link.sessions side).dhKeys.publicKey

/-- The public key is neither the one the peer holds for this side nor in flight to the
peer. -/
def Unused (link : FifoLink P) (side : RatchetRole) (publicKey : P.PublicKey) : Prop :=
  publicKey ≠ (link.sessions side.peer).peerRatchetPublicKey ∧
    ∀ entry ∈ link.inFlight side.peer, entry.1.ratchetPublicKey ≠ publicKey

instance (link : FifoLink P) (side : RatchetRole) : Decidable (link.KnowsPeer side) :=
  inferInstanceAs (Decidable (_ = _))

instance (link : FifoLink P) (side : RatchetRole) : Decidable (link.Announced side) :=
  inferInstanceAs (Decidable (_ = _))

instance (link : FifoLink P) (side : RatchetRole) (publicKey : P.PublicKey) :
    Decidable (link.Unused side publicKey) :=
  inferInstanceAs (Decidable (_ ∧ _))

/-- The runs in which a side encrypts only when it knows the peer's current key, and
rotates only when moreover nothing is in flight to it, its own current key is
announced and the generated key is new. -/
def careful : System (FifoLink P) (FifoEvent P) where
  initial := fifo.initial
  permitted link
    | .encrypt side text =>
        link.KnowsPeer side ∧ ((link.sessions side).sealNext text).isSome
    | .rotate side generated =>
        link.KnowsPeer side ∧ link.inFlight side = [] ∧ link.Announced side ∧
          link.Unused side (P.publicKey generated)
    | .deliver _ => True
  next := next

/-! ## Streams -/

/-- A place in the sequence of keys of one direction: the epoch, the public key that
messages of this epoch carry, and the next number. -/
structure Position (P : Primitives) where
  epoch : Epoch P
  header : P.PublicKey
  number : Nat

/-- `Stream keys sender final position queue`: a reader with these keys at `position`
can open the messages of `queue` one after the other and then is at `final`, or one
unannounced rotation behind it. -/
inductive Stream (keys : X25519KeyPair P) (sender : RatchetRole) (final : Position P) :
    Position P → List (RatchetMessage P × String) → Prop where
  | caughtUp : Stream keys sender final final []
  | unannounced {position : Position P}
      (epoch : final.epoch = position.epoch.ratchet (keys.dhBytes final.header))
      (header : position.header ≠ final.header) (number : final.number = 0) :
      Stream keys sender final position []
  | same {position : Position P} {message : RatchetMessage P} {text : String}
      {rest : List (RatchetMessage P × String)}
      (header : message.ratchetPublicKey = position.header)
      (number : message.number = position.number)
      (sealed : SealedIn position.epoch sender message (.ofText text))
      (settled : position.header = final.header → position.epoch = final.epoch)
      (continues : Stream keys sender final
        ⟨position.epoch, position.header, position.number + 1⟩ rest) :
      Stream keys sender final position ((message, text) :: rest)
  | jump {position : Position P} {message : RatchetMessage P} {text : String}
      {rest : List (RatchetMessage P × String)}
      (header : message.ratchetPublicKey ≠ position.header)
      (number : message.number = 0)
      (sealed : SealedIn
        (position.epoch.ratchet (keys.dhBytes message.ratchetPublicKey)) sender message
        (.ofText text))
      (settled : position.header ≠ final.header)
      (continues : Stream keys sender final
        ⟨position.epoch.ratchet (keys.dhBytes message.ratchetPublicKey),
          message.ratchetPublicKey, 1⟩ rest) :
      Stream keys sender final position ((message, text) :: rest)

namespace Stream

variable {keys : X25519KeyPair P} {sender : RatchetRole} {final position : Position P}
variable {queue : List (RatchetMessage P × String)}

/-- A reader that holds the sender's public key is in the sender's epoch. -/
theorem epoch_eq (stream : Stream keys sender final position queue)
    (header : position.header = final.header) : position.epoch = final.epoch := by
  cases stream with
  | caughtUp => rfl
  | unannounced epoch different number => exact absurd header different
  | same _ number sealed settled continues => exact settled header
  | jump _ number sealed settled continues => exact absurd header settled

/-- The sender seals its next message. -/
theorem snoc (stream : Stream keys sender final position queue) {message : RatchetMessage P}
    {text : String} (header : message.ratchetPublicKey = final.header)
    (number : message.number = final.number)
    (sealed : SealedIn final.epoch sender message (.ofText text)) :
    Stream keys sender ⟨final.epoch, final.header, final.number + 1⟩ position
      (queue ++ [(message, text)]) := by
  induction stream with
  | caughtUp => exact .same header number sealed (fun _ => rfl) .caughtUp
  | @unannounced position epoch different zero =>
      rw [zero] at number ⊢
      rw [epoch, ← header] at sealed
      rw [← header] at different
      refine .jump different.symm number sealed ?_ ?_
      · rwa [← header]
      · rw [epoch, ← header]
        exact .caughtUp
  | same sameHeader sameNumber sameSealed settled continues extended =>
      exact .same sameHeader sameNumber sameSealed settled extended
  | jump newHeader newNumber newSealed settled continues extended =>
      exact .jump newHeader newNumber newSealed settled extended

/-- The sender rotates to a new public key after its current one was announced. -/
theorem rotate (stream : Stream keys sender final position queue) {publicKey : P.PublicKey}
    (announced : lastHeader position.header queue = final.header)
    (newHere : publicKey ≠ position.header)
    (newInFlight : ∀ entry ∈ queue, entry.1.ratchetPublicKey ≠ publicKey) :
    Stream keys sender ⟨final.epoch.ratchet (keys.dhBytes publicKey), publicKey, 0⟩ position
      queue := by
  induction stream with
  | caughtUp => exact .unannounced rfl newHere.symm rfl
  | unannounced epoch different zero => exact absurd announced different
  | @same position message _ rest header number sealed settled continues rotated =>
      have restAnnounced : lastHeader position.header rest = final.header := by
        rwa [lastHeader, List.foldl_cons, header] at announced
      refine .same header number sealed (fun equal => absurd equal.symm newHere) ?_
      exact rotated restAnnounced newHere fun entry member =>
        newInFlight entry (List.mem_cons_of_mem _ member)
  | @jump position message text rest header number sealed settled continues rotated =>
      refine .jump header number sealed newHere.symm ?_
      refine rotated announced ?_ fun entry member =>
        newInFlight entry (List.mem_cons_of_mem _ member)
      exact (newInFlight (message, text) List.mem_cons_self).symm

/-- What the reader can say of the next message in flight. -/
theorem cons_cases {message : RatchetMessage P} {text : String}
    {rest : List (RatchetMessage P × String)}
    (stream : Stream keys sender final position ((message, text) :: rest)) :
    (message.ratchetPublicKey = position.header ∧ message.number = position.number ∧
        SealedIn position.epoch sender message (.ofText text) ∧
        Stream keys sender final
          ⟨position.epoch, position.header, position.number + 1⟩ rest) ∨
      (message.ratchetPublicKey ≠ position.header ∧ message.number = 0 ∧
        position.header ≠ final.header ∧
        SealedIn (position.epoch.ratchet (keys.dhBytes message.ratchetPublicKey)) sender
          message (.ofText text) ∧
        Stream keys sender final
          ⟨position.epoch.ratchet (keys.dhBytes message.ratchetPublicKey),
            message.ratchetPublicKey, 1⟩ rest) := by
  cases stream with
  | same header number sealed settled continues =>
      exact .inl ⟨header, number, sealed, continues⟩
  | jump header number sealed settled continues =>
      exact .inr ⟨header, number, settled, sealed, continues⟩

end Stream

/-! ## One direction -/

/-- The reader can receive everything the sender has in flight to it, and reaches the
sender's position or is one unannounced rotation behind it. -/
def Flows (reader sender : RatchetSession P) (readerEpoch senderEpoch : Epoch P)
    (queue : List (RatchetMessage P × String)) : Prop :=
  Stream reader.dhKeys sender.role
    ⟨senderEpoch, sender.dhKeys.publicKey, sender.sendCount⟩
    ⟨readerEpoch, reader.peerRatchetPublicKey, reader.recvCount⟩ queue

namespace Flows

variable {reader sender : RatchetSession P} {readerEpoch senderEpoch : Epoch P}
variable {queue : List (RatchetMessage P × String)}

theorem encrypt (flows : Flows reader sender readerEpoch senderEpoch queue)
    (invariant : sender.AtEpoch senderEpoch) {text found : String} {message : RatchetMessage P}
    (returned : Link.encrypted sender text = some (message, found)) :
    Flows reader sender.sent readerEpoch senderEpoch (queue ++ [(message, found)]) := by
  obtain ⟨_, number, header, _⟩ := Link.encrypted_eq_some returned
  exact Stream.snoc flows header number (Link.sealedIn_of_encrypted invariant returned)

theorem rotate (commutes : P.DhCommutes)
    (flows : Flows reader sender readerEpoch senderEpoch queue)
    (known : sender.peerRatchetPublicKey = reader.dhKeys.publicKey) {generated : P.PrivateKey}
    (announced : lastHeader reader.peerRatchetPublicKey queue = sender.dhKeys.publicKey)
    (newHere : P.publicKey generated ≠ reader.peerRatchetPublicKey)
    (newInFlight : ∀ entry ∈ queue, entry.1.ratchetPublicKey ≠ P.publicKey generated) :
    Flows reader (sender.rotated generated) readerEpoch
      (senderEpoch.ratchet (P.diffieHellman generated sender.peerRatchetPublicKey)) queue := by
  have secret : P.diffieHellman generated sender.peerRatchetPublicKey =
      reader.dhKeys.dhBytes (P.publicKey generated) := by
    rw [known]
    exact X25519KeyPair.dhBytes_comm commutes (.generate generated) reader.dhKeys
  rw [secret]
  exact Stream.rotate flows announced newHere newInFlight

/-- A message of the reader's epoch decrypts to its text. -/
theorem deliver_same (correct : P.AeadCorrect) {message : RatchetMessage P} {text : String}
    {rest : List (RatchetMessage P × String)} (invariant : reader.AtEpoch readerEpoch)
    (peer : reader.role.peer = sender.role)
    (flows : Flows reader sender readerEpoch senderEpoch ((message, text) :: rest))
    (header : message.ratchetPublicKey = reader.peerRatchetPublicKey) :
    ∃ reached, (decrypt message).run reader = (.ok text, reached) ∧
      reached.AtEpoch readerEpoch ∧ reached.dhKeys = reader.dhKeys ∧
      reached.role = reader.role ∧ reached.sendCount = reader.sendCount ∧
      reached.peerRatchetPublicKey = reader.peerRatchetPublicKey ∧
      Flows reached sender readerEpoch senderEpoch rest := by
  rcases Stream.cons_cases flows with ⟨_, number, sealed, continues⟩ | ⟨changed, _⟩
  · have genuine : reader.Genuine readerEpoch message text := ⟨header, peer ▸ sealed⟩
    have run := genuine.decrypt_next correct invariant number
    have after := invariant.decrypt message
    rw [enteredEpoch, if_pos header, run] at after
    exact ⟨_, run, after, rfl, rfl, rfl, rfl, continues⟩
  · exact absurd header changed

/-- A message that announces a new key decrypts to its text and takes the reader into
the next epoch. -/
theorem deliver_jump (correct : P.AeadCorrect) {message : RatchetMessage P} {text : String}
    {rest : List (RatchetMessage P × String)} (invariant : reader.AtEpoch readerEpoch)
    (peer : reader.role.peer = sender.role)
    (flows : Flows reader sender readerEpoch senderEpoch ((message, text) :: rest))
    (header : message.ratchetPublicKey ≠ reader.peerRatchetPublicKey) :
    reader.peerRatchetPublicKey ≠ sender.dhKeys.publicKey ∧
      ∃ reached, (decrypt message).run reader = (.ok text, reached) ∧
        reached.AtEpoch (readerEpoch.ratchet (reader.dhKeys.dhBytes message.ratchetPublicKey)) ∧
        reached.dhKeys = reader.dhKeys ∧ reached.role = reader.role ∧
        reached.sendCount = 0 ∧ reached.peerRatchetPublicKey = message.ratchetPublicKey ∧
        Flows reached sender
          (readerEpoch.ratchet (reader.dhKeys.dhBytes message.ratchetPublicKey)) senderEpoch
          rest := by
  rcases Stream.cons_cases flows with ⟨same, _⟩ | ⟨_, number, behind, sealed, continues⟩
  · exact absurd same header
  · have entered := invariant.entered message.ratchetPublicKey
    have after := invariant.decrypt message
    rw [enteredEpoch, if_neg header] at entered after
    have counters : (reader.entered message.ratchetPublicKey).recvCount = 0 ∧
        (reader.entered message.ratchetPublicKey).sendCount = 0 := by
      rw [RatchetSession.entered, if_neg header]
      exact ⟨rfl, rfl⟩
    have genuine : (reader.entered message.ratchetPublicKey).Genuine
        (readerEpoch.ratchet (reader.dhKeys.dhBytes message.ratchetPublicKey)) message text := by
      refine ⟨(entered_peerRatchetPublicKey _).symm, ?_⟩
      rwa [entered_role, peer]
    have run := genuine.decrypt_next correct entered (number.trans counters.1.symm)
    rw [← run_decrypt_entered] at run
    rw [run] at after
    refine ⟨behind, _, run, after, entered_dhKeys _, entered_role _, counters.2,
      entered_peerRatchetPublicKey _, ?_⟩
    change Stream (reader.entered _).dhKeys _ _
      ⟨_, (reader.entered _).peerRatchetPublicKey, (reader.entered _).recvCount + 1⟩ _
    rw [entered_dhKeys, entered_peerRatchetPublicKey, counters.1]
    exact continues

/-- The reader sees of the sender only its role, its keys and its counter. -/
theorem congr_sender (flows : Flows reader sender readerEpoch senderEpoch queue)
    {other : RatchetSession P} (role : other.role = sender.role)
    (keys : other.dhKeys = sender.dhKeys) (count : other.sendCount = sender.sendCount) :
    Flows reader other readerEpoch senderEpoch queue := by
  rw [Flows, role, keys, count]
  exact flows

end Flows

/-! ## The invariant -/

/-- What is in flight to a side flows. -/
def FlowsTo (link : FifoLink P) (epochs : RatchetRole → Epoch P) (side : RatchetRole) : Prop :=
  Flows (link.sessions side) (link.sessions side.peer) (epochs side) (epochs side.peer)
    (link.inFlight side)

/-- Either both sides are in one epoch, or one of them is ahead and the other has not
yet received its current public key. -/
inductive Phase (link : FifoLink P) (epochs : RatchetRole → Epoch P) : Prop where
  | level (known : ∀ side, link.KnowsPeer side) (flows : ∀ side, link.FlowsTo epochs side)
  | ahead (leader : RatchetRole) (known : link.KnowsPeer leader)
      (unknown : ¬ link.KnowsPeer leader.peer) (quiet : link.inFlight leader = [])
      (nothingReceived : (link.sessions leader).recvCount = 0)
      (flows : link.FlowsTo epochs leader.peer)

structure Orderly (link : FifoLink P) (epochs : RatchetRole → Epoch P) : Prop where
  role : ∀ side, (link.sessions side).role = side
  atEpoch : ∀ side, (link.sessions side).AtEpoch (epochs side)
  phase : link.Phase epochs
  delivered : ∀ side, ∀ entry ∈ link.delivered side, entry.1 = .ok entry.2

variable {link : FifoLink P} {epochs : RatchetRole → Epoch P} {side : RatchetRole}

/-- A side that knows the key of its peer flows to the peer. -/
theorem Phase.flows_of_knowsPeer (phase : link.Phase epochs) (known : link.KnowsPeer side) :
    link.FlowsTo epochs side.peer := by
  cases phase with
  | level _ flows => exact flows side.peer
  | ahead leader _ unknown _ _ flows =>
      rcases side.eq_or_eq_peer leader with rfl | rfl
      · exact flows
      · exact absurd known unknown

theorem Orderly.start {sessions : RatchetRole → RatchetSession P} {rootKey : P.Block}
    {keys : RatchetRole → X25519KeyPair P} (fresh : FreshPair sessions rootKey keys) :
    (start sessions).Orderly fun _ => .initial rootKey where
  role side := by
    change (sessions side).role = side
    rw [fresh.fresh]
    rfl
  atEpoch side := by
    change (sessions side).AtEpoch _
    rw [fresh.fresh]
    exact .fresh _ _ _ _
  phase := by
    refine .level ?_ ?_
    · intro side
      change (sessions side).peerRatchetPublicKey = (sessions side.peer).dhKeys.publicKey
      rw [fresh.fresh, fresh.fresh]
      rfl
    · intro side
      change Flows (sessions side) (sessions side.peer) _ _ []
      rw [fresh.fresh, fresh.fresh]
      exact .caughtUp
  delivered _ _ member := absurd member List.not_mem_nil

/-- A call at one side leaves the other in its epoch, and both in their roles. -/
theorem Orderly.sessions_of_call (orderly : link.Orderly epochs)
    {after : FifoLink P} {epoch : Epoch P}
    (there : after.sessions side.peer = link.sessions side.peer)
    (role : (after.sessions side).role = (link.sessions side).role)
    (atEpoch : (after.sessions side).AtEpoch epoch) :
    (∀ other, (after.sessions other).role = other) ∧
      ∀ other, (after.sessions other).AtEpoch (Function.update epochs side epoch other) := by
  constructor
  · intro other
    rcases other.eq_or_eq_peer side with rfl | rfl
    · rw [role, orderly.role]
    · rw [there, orderly.role]
  · intro other
    rcases other.eq_or_eq_peer side with rfl | rfl
    · rwa [Function.update_self]
    · rw [there, Function.update_of_ne (RatchetRole.peer_ne side)]
      exact orderly.atEpoch side.peer

theorem Orderly.encrypt (orderly : link.Orderly epochs) {text : String}
    (known : link.KnowsPeer side) (sealed : ((link.sessions side).sealNext text).isSome) :
    (link.next (.encrypt side text)).Orderly epochs := by
  obtain ⟨message, found, returned⟩ : ∃ message found,
      Link.encrypted (link.sessions side) text = some (message, found) := by
    obtain ⟨ciphertext, sealed⟩ := Option.isSome_iff_exists.mp sealed
    simp [Link.encrypted, run_encrypt, sealed, Except.toOption]
  have here : (link.next (.encrypt side text)).sessions side = (link.sessions side).sent := by
    simp [next, run_encrypt_state]
  have there : (link.next (.encrypt side text)).sessions side.peer = link.sessions side.peer := by
    simp [next]
  have knows : ∀ other, (link.next (.encrypt side text)).KnowsPeer other ↔
      link.KnowsPeer other := by
    intro other
    rcases other.eq_or_eq_peer side with rfl | rfl
    · rw [KnowsPeer, KnowsPeer, here, there]
      rfl
    · rw [KnowsPeer, KnowsPeer, RatchetRole.peer_peer, here, there]
      rfl
  have ahead : (link.next (.encrypt side text)).FlowsTo epochs side.peer := by
    have flows := orderly.phase.flows_of_knowsPeer known
    rw [FlowsTo, RatchetRole.peer_peer] at flows ⊢
    rw [here, there]
    have extended := flows.encrypt (orderly.atEpoch side) returned
    simpa [next, returned] using extended
  obtain ⟨role, atEpoch⟩ := orderly.sessions_of_call there (by rw [here]; rfl)
    (by rw [here]; exact (orderly.atEpoch side).sent)
  rw [Function.update_eq_self] at atEpoch
  exact {
    role
    atEpoch
    phase := by
      cases orderly.phase with
      | level known flows =>
          refine .level (fun other => (knows other).mpr (known other)) fun other => ?_
          rcases other.eq_or_eq_peer side with rfl | rfl
          · have kept := flows other
            rw [FlowsTo] at kept ⊢
            rw [here, there, show (link.next (.encrypt other text)).inFlight other =
              link.inFlight other by simp [next]]
            exact kept
          · exact ahead
      | ahead leader leads unknown quiet nothingReceived flows =>
          rcases side.eq_or_eq_peer leader with rfl | rfl
          · refine .ahead side ((knows side).mpr leads) (fun now => unknown ((knows _).mp now))
              ?_ ?_ ahead
            · simpa [next] using quiet
            · rw [here]
              exact nothingReceived
          · exact absurd known unknown
    delivered := orderly.delivered }

theorem Orderly.rotate (commutes : P.DhCommutes) (orderly : link.Orderly epochs)
    {generated : P.PrivateKey} (known : link.KnowsPeer side) (quiet : link.inFlight side = [])
    (announced : link.Announced side) (unused : link.Unused side (P.publicKey generated)) :
    (link.next (.rotate side generated)).Orderly (Function.update epochs side
      ((epochs side).ratchet
        (P.diffieHellman generated (link.sessions side).peerRatchetPublicKey))) := by
  have here : (link.next (.rotate side generated)).sessions side =
      (link.sessions side).rotated generated := by
    simp [next, run_rotateSendingRatchet]
  have there : (link.next (.rotate side generated)).sessions side.peer =
      link.sessions side.peer := by
    simp [next]
  obtain ⟨role, atEpoch⟩ := orderly.sessions_of_call there (by rw [here]; rfl)
    (by rw [here]; exact (orderly.atEpoch side).rotated generated)
  exact {
    role
    atEpoch
    phase := by
      refine .ahead side ?_ ?_ quiet ?_ ?_
      · rw [KnowsPeer, here, there]
        exact known
      · rw [KnowsPeer, RatchetRole.peer_peer, here, there]
        exact fun same => unused.1 same.symm
      · rw [here]
        rfl
      · have flows := orderly.phase.flows_of_knowsPeer known
        rw [FlowsTo, RatchetRole.peer_peer] at flows ⊢
        rw [here, there, Function.update_self, Function.update_of_ne (RatchetRole.peer_ne side)]
        exact flows.rotate commutes known announced unused.1 unused.2
    delivered := orderly.delivered }

theorem next_deliver {message : RatchetMessage P} {text : String} {reached : RatchetSession P}
    {result : Except CryptoError String} {rest : List (RatchetMessage P × String)}
    (queue : link.inFlight side = (message, text) :: rest)
    (run : (decrypt message).run (link.sessions side) = (result, reached)) :
    link.next (.deliver side) = {
      sessions := Function.update link.sessions side reached
      inFlight := Function.update link.inFlight side rest
      delivered := Function.update link.delivered side
        ((result, text) :: link.delivered side) } := by
  rw [next, queue]
  simp only [run]

/-- A delivery that returns the text leaves an orderly link if it leaves a phase. -/
theorem Orderly.received (orderly : link.Orderly epochs) {message : RatchetMessage P}
    {text : String} {reached : RatchetSession P} {epoch : Epoch P}
    {rest : List (RatchetMessage P × String)}
    (queue : link.inFlight side = (message, text) :: rest)
    (run : (decrypt message).run (link.sessions side) = (.ok text, reached))
    (role : reached.role = (link.sessions side).role) (atEpoch : reached.AtEpoch epoch)
    (phase : (link.next (.deliver side)).Phase (Function.update epochs side epoch)) :
    (link.next (.deliver side)).Orderly (Function.update epochs side epoch) := by
  have here : (link.next (.deliver side)).sessions side = reached := by
    simp [next_deliver queue run]
  have there : (link.next (.deliver side)).sessions side.peer = link.sessions side.peer := by
    simp [next_deliver queue run]
  rw [← here] at role atEpoch
  obtain ⟨roles, atEpochs⟩ := orderly.sessions_of_call there role atEpoch
  refine ⟨roles, atEpochs, phase, fun other entry member => ?_⟩
  rw [next_deliver queue run] at member
  rcases other.eq_or_eq_peer side with rfl | rfl
  · simp only [Function.update_self, List.mem_cons] at member
    rcases member with rfl | before
    · rfl
    · exact orderly.delivered other entry before
  · simp only [Function.update_of_ne (RatchetRole.peer_ne side)] at member
    exact orderly.delivered side.peer entry member

/-- Delivering between sides that are in one epoch. -/
theorem Orderly.deliver_level (correct : P.AeadCorrect) (orderly : link.Orderly epochs)
    {message : RatchetMessage P} {text : String} {rest : List (RatchetMessage P × String)}
    (queue : link.inFlight side = (message, text) :: rest)
    (known : ∀ side, link.KnowsPeer side) (flows : ∀ side, link.FlowsTo epochs side) :
    (link.next (.deliver side)).Orderly (Function.update epochs side (epochs side)) := by
  have peer : (link.sessions side).role.peer = (link.sessions side.peer).role := by
    rw [orderly.role, orderly.role]
  have mine := flows side
  rw [FlowsTo, queue] at mine
  have header : message.ratchetPublicKey = (link.sessions side).peerRatchetPublicKey := by
    by_contra changed
    exact (mine.deliver_jump correct (orderly.atEpoch side) peer changed).1 (known side)
  obtain ⟨reached, run, atEpoch, keys, role, count, publicKey, continues⟩ :=
    mine.deliver_same correct (orderly.atEpoch side) peer header
  apply orderly.received queue run role atEpoch
  rw [Function.update_eq_self, next_deliver queue run]
  refine .level ?_ ?_
  · intro other
    rcases other.eq_or_eq_peer side with rfl | rfl
    · simpa [KnowsPeer, publicKey] using known other
    · simpa [KnowsPeer, keys] using known side.peer
  · intro other
    rcases other.eq_or_eq_peer side with rfl | rfl
    · simpa [FlowsTo] using continues
    · have theirs := flows side.peer
      rw [FlowsTo, RatchetRole.peer_peer] at theirs
      simpa [FlowsTo] using theirs.congr_sender role keys count

/-- Delivering to the side that is behind. -/
theorem Orderly.deliver_behind (correct : P.AeadCorrect) (orderly : link.Orderly epochs)
    {message : RatchetMessage P} {text : String} {rest : List (RatchetMessage P × String)}
    (queue : link.inFlight side = (message, text) :: rest)
    (known : link.KnowsPeer side.peer) (unknown : ¬ link.KnowsPeer side)
    (quiet : link.inFlight side.peer = [])
    (nothingReceived : (link.sessions side.peer).recvCount = 0)
    (flows : link.FlowsTo epochs side) :
    ∃ epoch, (link.next (.deliver side)).Orderly (Function.update epochs side epoch) := by
  have peer : (link.sessions side).role.peer = (link.sessions side.peer).role := by
    rw [orderly.role, orderly.role]
  rw [FlowsTo, queue] at flows
  by_cases header : message.ratchetPublicKey = (link.sessions side).peerRatchetPublicKey
  · obtain ⟨reached, run, atEpoch, keys, role, count, publicKey, continues⟩ :=
      flows.deliver_same correct (orderly.atEpoch side) peer header
    refine ⟨_, orderly.received queue run role atEpoch ?_⟩
    rw [Function.update_eq_self, next_deliver queue run]
    refine .ahead side.peer ?_ ?_ ?_ ?_ ?_
    · simpa [KnowsPeer, keys] using known
    · simpa [KnowsPeer, publicKey] using unknown
    · simpa using quiet
    · simpa using nothingReceived
    · simpa [FlowsTo] using continues
  · obtain ⟨_, reached, run, atEpoch, keys, role, count, publicKey, continues⟩ :=
      flows.deliver_jump correct (orderly.atEpoch side) peer header
    refine ⟨_, orderly.received queue run role atEpoch ?_⟩
    rw [next_deliver queue run]
    by_cases current : reached.peerRatchetPublicKey = (link.sessions side.peer).dhKeys.publicKey
    · have sameEpoch : _ = epochs side.peer := Stream.epoch_eq continues current
      refine .level ?_ ?_
      · intro other
        rcases other.eq_or_eq_peer side with rfl | rfl
        · simpa [KnowsPeer] using current
        · simpa [KnowsPeer, keys] using known
      · intro other
        rcases other.eq_or_eq_peer side with rfl | rfl
        · simpa [FlowsTo] using continues
        · have answers : Flows (link.sessions side.peer) reached (epochs side.peer)
              ((epochs side).ratchet
                ((link.sessions side).dhKeys.dhBytes message.ratchetPublicKey)) [] := by
            rw [Flows, known, RatchetRole.peer_peer, keys, nothingReceived, count, ← sameEpoch]
            exact .caughtUp
          simpa [FlowsTo, quiet] using answers
    · refine .ahead side.peer ?_ ?_ ?_ ?_ ?_
      · simpa [KnowsPeer, keys] using known
      · simpa [KnowsPeer] using current
      · simpa using quiet
      · simpa using nothingReceived
      · simpa [FlowsTo] using continues

theorem Orderly.deliver (correct : P.AeadCorrect) (orderly : link.Orderly epochs)
    (side : RatchetRole) : ∃ epochs, (link.next (.deliver side)).Orderly epochs := by
  cases queue : link.inFlight side with
  | nil =>
      rw [next, queue]
      exact ⟨epochs, orderly⟩
  | cons entry rest =>
      obtain ⟨message, text⟩ := entry
      cases orderly.phase with
      | level known flows => exact ⟨_, orderly.deliver_level correct queue known flows⟩
      | ahead leader known unknown quiet nothingReceived flows =>
          rcases side.eq_or_eq_peer leader with rfl | rfl
          · rw [quiet] at queue
            cases queue
          · obtain ⟨epoch, after⟩ := orderly.deliver_behind correct queue
              (by rwa [RatchetRole.peer_peer]) unknown (by rwa [RatchetRole.peer_peer])
              (by rwa [RatchetRole.peer_peer]) flows
            exact ⟨_, after⟩

/-! ## Every delivery of a careful run -/

theorem orderly_of_reachable (commutes : P.DhCommutes) (correct : P.AeadCorrect)
    (reachable : careful.Reachable link) : ∃ epochs, link.Orderly epochs := by
  apply reachable.invariant fun link => ∃ epochs, link.Orderly epochs
  · rintro _ ⟨sessions, established, rfl⟩
    obtain ⟨_, _, fresh⟩ := established.freshPair commutes
    exact ⟨_, .start fresh⟩
  · rintro link event ⟨epochs, orderly⟩ permitted
    cases event with
    | encrypt side text => exact ⟨epochs, orderly.encrypt permitted.1 permitted.2⟩
    | rotate side generated =>
        obtain ⟨known, quiet, announced, unused⟩ := permitted
        exact ⟨_, orderly.rotate commutes known quiet announced unused⟩
    | deliver side => exact orderly.deliver correct side

/-- In careful runs every delivered message decrypts to its text. -/
theorem delivered_ok (commutes : P.DhCommutes) (correct : P.AeadCorrect) (link : FifoLink P)
    (reachable : careful.Reachable link) (side : RatchetRole)
    (result : Except CryptoError String) (text : String)
    (delivered : (result, text) ∈ link.delivered side) : result = .ok text := by
  obtain ⟨epochs, orderly⟩ := orderly_of_reachable commutes correct reachable
  exact orderly.delivered side _ delivered

/-- Bob rotates after he has received Alice's message, and answers. -/
def answeredRun : List (FifoEvent Symbolic.primitives) :=
  [.encrypt .alice "hello", .deliver .bob, .rotate .bob (Bytes.ofText "rotated"),
    .encrypt .bob "welcome", .deliver .alice]

theorem answered_after_rotation :
    ∃ result, (result, "welcome") ∈
        (careful.run (start Symbolic.sessions) answeredRun).delivered .alice ∧
      result = .ok "welcome" := by
  have permits : careful.Permits (start Symbolic.sessions) answeredRun := by
    refine ⟨⟨?_, ?_⟩, trivial, ⟨?_, rfl, ?_, ?_⟩, ⟨?_, ?_⟩, trivial, trivial⟩ <;> decide
  have delivered : (careful.run (start Symbolic.sessions) answeredRun).delivered .alice =
      [(.ok "welcome", "welcome")] := by
    decide
  have member := delivered ▸ List.mem_singleton_self _
  exact ⟨_, member, delivered_ok Symbolic.dhCommutes Symbolic.aeadCorrect _
    ⟨_, ⟨_, Symbolic.sessions_established, rfl⟩, permits.reaches⟩ .alice _ _ member⟩

/-- Alice rotates while a message of Bob is in flight, and can no longer read it. -/
theorem rotation_drops_message_in_flight :
    ∃ link : FifoLink Symbolic.primitives, fifo.Reachable link ∧
      link.delivered .alice = [(.error .decrypt, "welcome")] := by
  have permits : fifo.Permits (start Symbolic.sessions)
      [.encrypt .bob "welcome", .rotate .alice (Bytes.ofText "rotated"), .deliver .alice] :=
    ⟨trivial, trivial, trivial, trivial⟩
  exact ⟨_, ⟨_, ⟨_, Symbolic.sessions_established, rfl⟩, permits.reaches⟩, by decide⟩

end FifoLink

end CipherMesh
