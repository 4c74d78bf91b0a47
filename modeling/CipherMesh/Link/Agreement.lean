import CipherMesh.Link.Basic
import CipherMesh.Foundation.Reachability

/-!
# Agreement under attack

An attacker that does not know the root key delivers whatever it can make, and the
two sides encrypt, decrypt, rotate, export their state and restart from the last
exported state.  Every accepted message was produced by the other side from the
returned text.  A message is accepted once, unless a side restarts from a state
that was exported before it accepted the message: with such a restart the side
forgets the acceptance.

The argument is about the tree of derived keys.  All keys that are ever used hang
below the handshake root, so the attacker knows none of them, and a message key
determines the epoch, the sender and the number of whatever is sealed under it.
-/

namespace CipherMesh

open Foundation
open Foundation.Mutation
open RatchetSession

variable {P : Primitives}

/-! ## The system -/

/-- A link whose sides export their sessions.  `remembered` are the accepted messages in
the past of a session, and `reflected` those at the last export. -/
structure Deployment (P : Primitives) where
  link : Link P
  saved : RatchetRole → RatchetSessionState P
  remembered : RatchetRole → List (RatchetMessage P × String)
  reflected : RatchetRole → List (RatchetMessage P × String)

inductive DeploymentEvent (P : Primitives) where
  | call (event : LinkEvent P)
  | exportState (side : RatchetRole)
  | restart (side : RatchetRole)

namespace Deployment

/-- Both sides have exported the state they start with. -/
def start (sessions : RatchetRole → RatchetSession P) : Deployment P where
  link := .start sessions
  saved side := (sessions side).state
  remembered _ := []
  reflected _ := []

/-- A session remembers what it accepts. -/
def remember (deployment : Deployment P) :
    LinkEvent P → RatchetRole → List (RatchetMessage P × String)
  | .deliver side message =>
      Link.record deployment.remembered side
        (Link.decrypted (deployment.link.sessions side) message)
  | _ => deployment.remembered

/-- A restart takes the past of the exported session. -/
def next (deployment : Deployment P) : DeploymentEvent P → Deployment P
  | .call event =>
      { deployment with
        link := deployment.link.next event
        remembered := deployment.remember event }
  | .exportState side =>
      { deployment with
        saved := Function.update deployment.saved side (deployment.link.sessions side).state
        reflected := Function.update deployment.reflected side (deployment.remembered side) }
  | .restart side =>
      { deployment with
        link := { deployment.link with
          sessions := Function.update deployment.link.sessions side
            (fromState (deployment.saved side)) }
        remembered :=
          Function.update deployment.remembered side (deployment.reflected side) }

@[simp] theorem next_call_link (deployment : Deployment P) (event : LinkEvent P) :
    (deployment.next (.call event)).link = deployment.link.next event := rfl

@[simp] theorem next_call_remembered (deployment : Deployment P) (event : LinkEvent P) :
    (deployment.next (.call event)).remembered = deployment.remember event := rfl

/-- What the attacker can deliver: any number and public key, with a ciphertext it
has seen or one that nobody without the key could have sealed but the attacker. -/
def Deliverable (attacker : P.Knowledge) (link : Link P) (message : RatchetMessage P) : Prop :=
  (∃ side seen text, (seen, text) ∈ link.produced side ∧
      seen.ciphertext = message.ciphertext) ∨
    ∀ key nonce aad plaintext,
      P.aeadSeal key nonce aad plaintext = some message.ciphertext → attacker.knows key

/-- All runs under attack. -/
def attacked (attacker : P.Knowledge) : System (Deployment P) (DeploymentEvent P) where
  initial deployment := ∃ sessions, Established sessions ∧
    ¬ attacker.knows (sessions .alice).rootKey ∧ deployment = start sessions
  permitted deployment
    | .call (.deliver _ message) => Deliverable attacker deployment.link message
    | _ => True
  next := next

/-- The runs in which a side restarts only from a state that was exported after the
last message it accepted. -/
def attackedInStep (attacker : P.Knowledge) : System (Deployment P) (DeploymentEvent P) where
  initial := (attacked attacker).initial
  permitted deployment event := (attacked attacker).permitted deployment event ∧
    ∀ side, event = .restart side →
      deployment.reflected side = deployment.link.accepted side
  next := next

/-! ## Sessions below the root -/

/-- The session of `side` is in an epoch below the root. -/
def Below (root : P.Block) (side : RatchetRole) (session : RatchetSession P)
    (epoch : Epoch P) : Prop :=
  session.role = side ∧ session.AtEpoch epoch ∧ epoch.base = root

variable {root : P.Block} {side : RatchetRole} {session : RatchetSession P} {epoch : Epoch P}

theorem Below.sent (below : Below root side session epoch) :
    Below root side session.sent epoch :=
  ⟨below.1, below.2.1.sent, below.2.2⟩

theorem Below.rotated (below : Below root side session epoch) (generated : P.PrivateKey) :
    Below root side (session.rotated generated)
      (epoch.ratchet (P.diffieHellman generated session.peerRatchetPublicKey)) :=
  ⟨below.1, below.2.1.rotated generated, below.2.2⟩

theorem Below.entered (below : Below root side session epoch) (publicKey : P.PublicKey) :
    Below root side (session.entered publicKey) (session.enteredEpoch epoch publicKey) := by
  refine ⟨(entered_role publicKey).trans below.1, below.2.1.entered publicKey, ?_⟩
  unfold enteredEpoch
  split
  · exact below.2.2
  · exact below.2.2

theorem Below.decrypt (below : Below root side session epoch) (message : RatchetMessage P) :
    Below root side ((RatchetSession.decrypt message).run session).2
      (session.enteredEpoch epoch message.ratchetPublicKey) := by
  have outcome := decrypt_outcome below.2.1.toWellFormed message
  have entered := below.entered message.ratchetPublicKey
  exact ⟨outcome.frame.1.trans entered.1, below.2.1.decrypt message, entered.2.2⟩

/-- An accepted message was sealed for the epoch its header entered. -/
theorem Below.sealed_of_ok (ideal : P.AeadIdeal) (below : Below root side session epoch)
    {message : RatchetMessage P} {text : String}
    (success : ((RatchetSession.decrypt message).run session).1 = .ok text) :
    ∃ plaintext, SealedIn (session.enteredEpoch epoch message.ratchetPublicKey) side.peer
        message plaintext ∧ plaintext.toText = some text ∧
      message.number ∉ (session.entered message.ratchetPublicKey).consumedMessageNumbers ∧
      message.number ∈
        ((RatchetSession.decrypt message).run session).2.consumedMessageNumbers := by
  have outcome := decrypt_outcome below.2.1.toWellFormed message
  have entered := below.entered message.ratchetPublicKey
  rcases run : (RatchetSession.decrypt message).run session with ⟨result, reached⟩
  rw [run] at outcome success
  cases success
  cases outcome with
  | @accepted _ _ plaintext _ taken opened decoded =>
      rw [entered.2.1.taken_messageKey taken, entered.1] at opened
      refine ⟨plaintext, ideal.seal_of_opened opened, decoded, ?_,
        Finset.mem_insert_self _ _⟩
      exact fun consumed => taken.inWindow.1 (.inl consumed)

/-! ## Authenticity -/

/-- Every key that is in use or saved hangs below the root, and every accepted
message was produced by the peer. -/
structure Authentic (root : P.Block) (deployment : Deployment P) : Prop where
  live : ∀ side, ∃ epoch, Below root side (deployment.link.sessions side) epoch
  saved : ∀ side, ∃ epoch, Below root side (fromState (deployment.saved side)) epoch
  sealed : ∀ {side message text}, (message, text) ∈ deployment.link.produced side →
    ∃ epoch, epoch.base = root ∧ SealedIn epoch side message (.ofText text)
  agreed : ∀ {side message text}, (message, text) ∈ deployment.link.accepted side →
    (message, text) ∈ deployment.link.produced side.peer

variable {deployment : Deployment P} {attacker : P.Knowledge}

/-- An accepted message is one the peer produced, with the text the peer sealed. -/
theorem Authentic.agreed_of_ok (ideal : P.Ideal) (authentic : Authentic root deployment)
    (secret : ¬ attacker.knows root) {message : RatchetMessage P} {text : String}
    (deliverable : Deliverable attacker deployment.link message)
    (success : ((decrypt message).run (deployment.link.sessions side)).1 = .ok text) :
    (message, text) ∈ deployment.link.produced side.peer := by
  obtain ⟨epoch, below⟩ := authentic.live side
  obtain ⟨plaintext, sealed, decoded, _⟩ := below.sealed_of_ok ideal.aead success
  rcases deliverable with ⟨sender, seen, seenText, produced, same⟩ | unknown
  · obtain ⟨origin, _, seenSealed⟩ := authentic.sealed produced
    obtain ⟨_, rfl, rfl, rfl⟩ := sealed.unique ideal seenSealed same
    rw [Bytes.toText_ofText] at decoded
    obtain rfl := Option.some.inj decoded
    exact produced
  · have known := unknown _ _ _ _ sealed
    have secretBase : ¬ attacker.knows
        ((deployment.link.sessions side).enteredEpoch epoch message.ratchetPublicKey).base := by
      rwa [(below.entered message.ratchetPublicKey).2.2]
    exact absurd known (Epoch.not_knows_messageKey attacker secretBase _ _)

theorem Authentic.call (ideal : P.Ideal) (authentic : Authentic root deployment)
    (secret : ¬ attacker.knows root) {event : LinkEvent P}
    (permitted : (attacked attacker).permitted deployment (.call event)) :
    Authentic root (deployment.next (.call event)) := by
  cases event with
  | encrypt side text =>
      exact {
        live := by
          intro other
          obtain ⟨epoch, below⟩ := authentic.live other
          refine ⟨epoch, ?_⟩
          rw [next_call_link, Link.sessions_encrypt]
          split
          · exact below.sent
          · exact below
        saved := authentic.saved
        sealed := by
          intro other message found member
          rcases (Link.mem_produced_encrypt text).mp member with ⟨rfl, returned⟩ | before
          · obtain ⟨epoch, below⟩ := authentic.live other
            have sealed := Link.sealedIn_of_encrypted below.2.1 returned
            exact ⟨epoch, below.2.2, below.1 ▸ sealed⟩
          · exact authentic.sealed before
        agreed := fun member =>
          (Link.mem_produced_encrypt text).mpr (.inr (authentic.agreed member)) }
  | deliver side message =>
      exact {
        live := by
          intro other
          obtain ⟨epoch, below⟩ := authentic.live other
          rw [next_call_link, Link.sessions_deliver]
          split
          · exact ⟨_, below.decrypt message⟩
          · exact ⟨epoch, below⟩
        saved := authentic.saved
        sealed := authentic.sealed
        agreed := by
          intro other delivered found member
          rcases Link.mem_accepted_deliver.mp member with ⟨rfl, returned⟩ | before
          · obtain ⟨rfl, success⟩ := Link.decrypted_eq_some returned
            exact authentic.agreed_of_ok ideal secret permitted success
          · exact authentic.agreed before }
  | rotate side generated =>
      exact {
        live := by
          intro other
          obtain ⟨epoch, below⟩ := authentic.live other
          rw [next_call_link, Link.sessions_rotate]
          split
          · exact ⟨_, below.rotated generated⟩
          · exact ⟨epoch, below⟩
        saved := authentic.saved
        sealed := authentic.sealed
        agreed := authentic.agreed }

/-- One step of any run under attack keeps authenticity. -/
theorem Authentic.next (ideal : P.Ideal) (authentic : Authentic root deployment)
    (secret : ¬ attacker.knows root) {event : DeploymentEvent P}
    (permitted : (attacked attacker).permitted deployment event) :
    Authentic root (deployment.next event) := by
  cases event with
  | call event => exact authentic.call ideal secret permitted
  | exportState side =>
      refine ⟨authentic.live, ?_, authentic.sealed, authentic.agreed⟩
      intro other
      rcases eq_or_ne other side with rfl | different
      · simpa [Deployment.next] using authentic.live other
      · simpa [Deployment.next, different] using authentic.saved other
  | restart side =>
      refine ⟨?_, authentic.saved, authentic.sealed, authentic.agreed⟩
      intro other
      rcases eq_or_ne other side with rfl | different
      · simpa [Deployment.next] using authentic.saved other
      · simpa [Deployment.next, different] using authentic.live other

theorem Authentic.start {sessions : RatchetRole → RatchetSession P}
    {keys : RatchetRole → X25519KeyPair P} (fresh : FreshPair sessions root keys) :
    Authentic root (start sessions) := by
  have below : ∀ side, Below root side (sessions side) (.initial root) := by
    intro side
    rw [fresh.fresh]
    exact ⟨rfl, .fresh _ _ _ _, rfl⟩
  refine ⟨fun side => ⟨_, below side⟩, fun side => ⟨.initial root, ?_⟩,
    fun member => absurd member List.not_mem_nil, fun member => absurd member List.not_mem_nil⟩
  rw [show (Deployment.start sessions).saved side = (sessions side).state from rfl,
    fromState_state]
  exact below side

/-! ## At most once -/

/-- The message was accepted in an earlier epoch, or in this one, where its number is
consumed. -/
def Spent (root : P.Block) (side : RatchetRole) (session : RatchetSession P)
    (epoch : Epoch P) (message : RatchetMessage P) : Prop :=
  ∃ origin plaintext, origin.base = root ∧ SealedIn origin side.peer message plaintext ∧
    (origin.depth < epoch.depth ∨
      (origin = epoch ∧ message.number ∈ session.consumedMessageNumbers))

/-- The session and every message of a history: the session is below the root and the
messages are spent for it. -/
def Exhausts (root : P.Block) (side : RatchetRole) (session : RatchetSession P)
    (history : List (RatchetMessage P × String)) : Prop :=
  ∃ epoch, Below root side session epoch ∧
    ∀ entry ∈ history, Spent root side session epoch entry.1

/-- Nothing occurs twice in the past of a session, which has exhausted it. -/
def SpendsOnce (root : P.Block) (side : RatchetRole) (session : RatchetSession P)
    (history : List (RatchetMessage P × String)) : Prop :=
  Exhausts root side session history ∧ (history.map Prod.fst).Nodup

/-- The live and the exported sessions accepted nothing twice. -/
structure Once (root : P.Block) (deployment : Deployment P) : Prop where
  live : ∀ side, SpendsOnce root side (deployment.link.sessions side)
    (deployment.remembered side)
  saved : ∀ side, SpendsOnce root side (fromState (deployment.saved side))
    (deployment.reflected side)

theorem Spent.mono {later : RatchetSession P} {laterEpoch : Epoch P}
    {message : RatchetMessage P} (spent : Spent root side session epoch message)
    (depth : epoch.depth ≤ laterEpoch.depth)
    (consumed : laterEpoch = epoch →
      session.consumedMessageNumbers ⊆ later.consumedMessageNumbers)
    (sameEpoch : epoch.depth = laterEpoch.depth → laterEpoch = epoch) :
    Spent root side later laterEpoch message := by
  obtain ⟨origin, plaintext, base, sealed, earlier | ⟨rfl, number⟩⟩ := spent
  · exact ⟨origin, plaintext, base, sealed, .inl (Nat.lt_of_lt_of_le earlier depth)⟩
  · rcases Nat.lt_or_eq_of_le depth with deeper | equal
    · exact ⟨origin, plaintext, base, sealed, .inl deeper⟩
    · exact ⟨origin, plaintext, base, sealed,
        .inr ⟨(sameEpoch equal).symm, consumed (sameEpoch equal) number⟩⟩

/-- What was spent before a call of `decrypt` is spent after it. -/
theorem Spent.decrypt (below : Below root side session epoch)
    {spentMessage : RatchetMessage P} (spent : Spent root side session epoch spentMessage)
    (message : RatchetMessage P) :
    Spent root side ((RatchetSession.decrypt message).run session).2
      (session.enteredEpoch epoch message.ratchetPublicKey) spentMessage := by
  have outcome := decrypt_outcome below.2.1.toWellFormed message
  rcases session.enteredEpoch_cases epoch message.ratchetPublicKey with
    ⟨sameEpoch, sameSession⟩ | deeper
  · rw [sameSession] at outcome
    rw [sameEpoch]
    exact spent.mono (Nat.le_refl _) (fun _ => outcome.consumed_subset) fun _ => rfl
  · exact spent.mono deeper.le (fun equal => absurd deeper (by rw [equal]; exact lt_irrefl _))
      fun equal => absurd deeper (by rw [equal]; exact lt_irrefl _)

section Ideal

variable (ideal : P.Ideal) (grounded : Epoch.HandshakeRoot root)
include ideal grounded

/-- A spent message is not accepted. -/
theorem Spent.not_ok (below : Below root side session epoch) {message : RatchetMessage P}
    {text : String} (spent : Spent root side session epoch message) :
    ((RatchetSession.decrypt message).run session).1 ≠ .ok text := by
  intro success
  obtain ⟨plaintext, sealed, _, unconsumed, _⟩ := below.sealed_of_ok ideal.aead success
  obtain ⟨origin, _, base, originSealed, place⟩ := spent
  obtain ⟨rootEqual, _⟩ := sealed.unique ideal originSealed rfl
  have enteredBase := (below.entered message.ratchetPublicKey).2.2
  have sameEpoch : session.enteredEpoch epoch message.ratchetPublicKey = origin :=
    Epoch.rootKey_injective ideal.hkdfInjective (enteredBase ▸ grounded)
      (base ▸ grounded) rootEqual
  rcases session.enteredEpoch_cases epoch message.ratchetPublicKey with
    ⟨stays, sameSession⟩ | deeper
  · rw [sameSession] at unconsumed
    rcases place with earlier | ⟨_, consumed⟩
    · rw [← sameEpoch, stays] at earlier
      exact lt_irrefl _ earlier
    · exact unconsumed consumed
  · rw [sameEpoch] at deeper
    rcases place with earlier | ⟨here, _⟩
    · exact lt_asymm deeper earlier
    · rw [here] at deeper
      exact lt_irrefl _ deeper

theorem Once.deliver (once : Once root deployment) (side : RatchetRole)
    (message : RatchetMessage P) :
    Once root (deployment.next (.call (.deliver side message))) := by
  obtain ⟨⟨epoch, below, spent⟩, nodup⟩ := once.live side
  refine ⟨fun other => ?_, once.saved⟩
  rw [next_call_link, Link.sessions_deliver, next_call_remembered, remember]
  split
  · next here =>
      subst here
      refine ⟨⟨_, below.decrypt message, ?_⟩, ?_⟩
      · rintro ⟨delivered, text⟩ member
        rcases Link.mem_record.mp member with ⟨_, returned⟩ | before
        · obtain ⟨rfl, success⟩ := Link.decrypted_eq_some returned
          obtain ⟨plaintext, sealed, _, _, consumed⟩ := below.sealed_of_ok ideal.aead success
          exact ⟨_, plaintext, (below.entered _).2.2, sealed, .inr ⟨rfl, consumed⟩⟩
        · exact (spent _ before).decrypt below message
      · rcases returned : Link.decrypted (deployment.link.sessions other) message with
          _ | ⟨delivered, text⟩
        · simpa using nodup
        · obtain ⟨rfl, success⟩ := Link.decrypted_eq_some returned
          have new : delivered ∉ (deployment.remembered other).map Prod.fst := by
            intro member
            obtain ⟨entry, before, rfl⟩ := List.mem_map.mp member
            exact (spent entry before).not_ok ideal grounded below success
          simpa [Link.record, new] using nodup
  · next different =>
      rw [Link.record, Function.update_of_ne different]
      exact once.live other

/-- One step of any run under attack keeps what a session remembers spent once. -/
theorem Once.next (once : Once root deployment) (event : DeploymentEvent P) :
    Once root (deployment.next event) := by
  cases event with
  | call event =>
      cases event with
      | encrypt side text =>
          refine ⟨fun other => ?_, once.saved⟩
          obtain ⟨⟨epoch, below, spent⟩, nodup⟩ := once.live other
          rw [next_call_link, Link.sessions_encrypt]
          split
          · exact ⟨⟨epoch, below.sent, spent⟩, nodup⟩
          · exact ⟨⟨epoch, below, spent⟩, nodup⟩
      | deliver side message => exact once.deliver ideal grounded side message
      | rotate side generated =>
          refine ⟨fun other => ?_, once.saved⟩
          obtain ⟨⟨epoch, below, spent⟩, nodup⟩ := once.live other
          rw [next_call_link, Link.sessions_rotate]
          split
          · refine ⟨⟨_, below.rotated generated, ?_⟩, nodup⟩
            intro entry member
            obtain ⟨origin, plaintext, base, sealed, place⟩ := spent entry member
            refine ⟨origin, plaintext, base, sealed, .inl ?_⟩
            rcases place with earlier | ⟨rfl, _⟩
            · exact Nat.lt_succ_of_lt earlier
            · exact Nat.lt_succ_self _
          · exact ⟨⟨epoch, below, spent⟩, nodup⟩
  | exportState side =>
      refine ⟨once.live, fun other => ?_⟩
      rcases eq_or_ne other side with rfl | different
      · simpa [Deployment.next] using once.live other
      · simpa [Deployment.next, different] using once.saved other
  | restart side =>
      refine ⟨fun other => ?_, once.saved⟩
      rcases eq_or_ne other side with rfl | different
      · simpa [Deployment.next] using once.saved other
      · simpa [Deployment.next, different] using once.live other

end Ideal

theorem Once.start {sessions : RatchetRole → RatchetSession P}
    {keys : RatchetRole → X25519KeyPair P} (fresh : FreshPair sessions root keys) :
    Once root (start sessions) := by
  have spends : ∀ side, SpendsOnce root side (sessions side) [] := by
    intro side
    rw [fresh.fresh]
    exact ⟨⟨_, ⟨rfl, .fresh _ _ _ _, rfl⟩, fun _ member => absurd member List.not_mem_nil⟩,
      List.nodup_nil⟩
  refine ⟨spends, fun side => ?_⟩
  rw [show (Deployment.start sessions).saved side = (sessions side).state from rfl,
    fromState_state]
  exact spends side

/-- With restarts in step a session remembers all that its side accepted. -/
theorem remembered_eq_accepted (reachable : (attackedInStep attacker).Reachable deployment) :
    deployment.remembered = deployment.link.accepted := by
  refine reachable.invariant (fun deployment => deployment.remembered = deployment.link.accepted)
    ?_ fun deployment event same permitted => ?_
  · rintro _ ⟨_, _, _, rfl⟩
    rfl
  · cases event with
    | call event =>
        change deployment.remember event = (deployment.link.next event).accepted
        cases event with
        | deliver side message => rw [remember, same, Link.next]
        | encrypt | rotate => exact same
    | exportState side => exact same
    | restart side =>
        change Function.update deployment.remembered side (deployment.reflected side) = _
        rw [permitted.2 side rfl, same, Function.update_eq_self]
        rfl

/-! ## Injective agreement -/

theorem authentic_of_reachable (ideal : P.Ideal)
    (reachable : (attacked attacker).Reachable deployment) :
    ∃ root, ¬ attacker.knows root ∧ Authentic root deployment := by
  obtain ⟨_, ⟨sessions, established, secret, rfl⟩, run⟩ := reachable
  obtain ⟨root, keys, fresh⟩ := established.freshPair ideal.dhCommutes
  rw [fresh.fresh] at secret
  exact ⟨root, secret, run.invariant (.start fresh)
    fun _ _ authentic permitted => authentic.next ideal secret permitted⟩

theorem once_of_reachable (ideal : P.Ideal)
    (reachable : (attacked attacker).Reachable deployment) :
    ∃ root, Epoch.HandshakeRoot root ∧ Once root deployment := by
  obtain ⟨_, ⟨sessions, established, secret, rfl⟩, run⟩ := reachable
  obtain ⟨root, keys, fresh⟩ := established.freshPair ideal.dhCommutes
  exact ⟨root, fresh.grounded, run.invariant (.start fresh)
    fun _ event once _ => once.next ideal fresh.grounded event⟩

theorem attacked_of_inStep (reachable : (attackedInStep attacker).Reachable deployment) :
    (attacked attacker).Reachable deployment := by
  obtain ⟨start, initial, run⟩ := reachable
  have sameNext : (attacked attacker).next = (attackedInStep attacker).next := rfl
  exact ⟨start, initial, run.mono sameNext fun _ _ permitted => permitted.1⟩

/-- A ciphertext was produced once, with one header. -/
theorem Authentic.produced_unique (ideal : P.Ideal) (authentic : Authentic root deployment)
    {sender other : RatchetRole} {message seen : RatchetMessage P} {text seenText : String}
    (produced : (message, text) ∈ deployment.link.produced sender)
    (seenProduced : (seen, seenText) ∈ deployment.link.produced other)
    (same : seen.ciphertext = message.ciphertext) : other = sender ∧ seen = message := by
  obtain ⟨_, _, sealed⟩ := authentic.sealed produced
  obtain ⟨_, _, seenSealed⟩ := authentic.sealed seenProduced
  obtain ⟨_, senderEqual, messageEqual, _⟩ := sealed.unique ideal seenSealed same
  exact ⟨senderEqual.symm, messageEqual.symm⟩

/-- A message has one text, however often it was produced. -/
theorem Authentic.text_unique (ideal : P.Ideal) (authentic : Authentic root deployment)
    {sender other : RatchetRole} {message : RatchetMessage P} {text seenText : String}
    (produced : (message, text) ∈ deployment.link.produced sender)
    (seenProduced : (message, seenText) ∈ deployment.link.produced other) : seenText = text := by
  obtain ⟨_, _, sealed⟩ := authentic.sealed produced
  obtain ⟨_, _, seenSealed⟩ := authentic.sealed seenProduced
  obtain ⟨_, _, _, textEqual⟩ := sealed.unique ideal seenSealed rfl
  exact (Bytes.ofText_injective textEqual).symm

/-- Nobody but the sides could have sealed what they produced. -/
theorem Authentic.secret (authentic : Authentic root deployment) (secret : ¬ attacker.knows root)
    {sender : RatchetRole} {message : RatchetMessage P} {text : String}
    (produced : (message, text) ∈ deployment.link.produced sender) :
    ∃ key nonce aad, P.aeadSeal key nonce aad (.ofText text) = some message.ciphertext ∧
      ¬ attacker.knows key := by
  obtain ⟨epoch, rfl, sealed⟩ := authentic.sealed produced
  exact ⟨_, _, _, sealed, Epoch.not_knows_messageKey attacker secret _ _⟩

/-- A message that decrypts was produced by the peer. -/
theorem produced_of_ok (ideal : P.Ideal) (reachable : (attacked attacker).Reachable deployment)
    {message : RatchetMessage P} {text : String}
    (deliverable : Deliverable attacker deployment.link message)
    (success : ((decrypt message).run (deployment.link.sessions side)).1 = .ok text) :
    (message, text) ∈ deployment.link.produced side.peer := by
  have delivers : (attacked attacker).Permits deployment [.call (.deliver side message)] :=
    ⟨deliverable, trivial⟩
  obtain ⟨start, initial, run⟩ := reachable
  obtain ⟨_, _, authentic⟩ := authentic_of_reachable ideal
    ⟨start, initial, run.trans delivers.reaches⟩
  exact authentic.agreed (Link.mem_accepted_deliver.mpr (.inl ⟨rfl, Link.decrypted_of_ok success⟩))

/-- A message that decrypts was not accepted before. -/
theorem new_of_ok (ideal : P.Ideal) (reachable : (attackedInStep attacker).Reachable deployment)
    {message : RatchetMessage P} {text : String}
    (success : ((decrypt message).run (deployment.link.sessions side)).1 = .ok text) :
    message ∉ (deployment.link.accepted side).map Prod.fst := by
  obtain ⟨root, grounded, once⟩ := once_of_reachable ideal (attacked_of_inStep reachable)
  obtain ⟨⟨epoch, below, spent⟩, _⟩ := once.live side
  rw [← remembered_eq_accepted reachable]
  intro member
  obtain ⟨entry, before, rfl⟩ := List.mem_map.mp member
  exact (spent entry before).not_ok ideal grounded below success

/-- No message is accepted by both sides. -/
theorem Authentic.disjoint (ideal : P.Ideal) (authentic : Authentic root deployment) :
    List.Disjoint ((deployment.link.accepted .alice).map Prod.fst)
      ((deployment.link.accepted .bob).map Prod.fst) := by
  intro message aliceAccepted bobAccepted
  obtain ⟨⟨_, aliceText⟩, aliceEntry, rfl⟩ := List.mem_map.mp aliceAccepted
  obtain ⟨⟨_, bobText⟩, bobEntry, same⟩ := List.mem_map.mp bobAccepted
  obtain rfl : _ = _ := same
  obtain ⟨_, _, bobSealed⟩ := authentic.sealed (authentic.agreed aliceEntry)
  obtain ⟨_, _, aliceSealed⟩ := authentic.sealed (authentic.agreed bobEntry)
  obtain ⟨_, sender, _⟩ := bobSealed.unique ideal aliceSealed rfl
  exact absurd sender (by decide)

/-- Injective agreement.  Under attack, whatever a side accepts its peer produced
from the returned text, and a side accepts a message again only after a restart that
makes it forget the message; in runs whose restarts reflect every accepted message,
no message is accepted twice, by either side. -/
theorem injective_agreement (ideal : P.Ideal) (attacker : P.Knowledge)
    (deployment : Deployment P) :
    ((attacked attacker).Reachable deployment →
        (∀ side message text, (message, text) ∈ deployment.link.accepted side →
          (message, text) ∈ deployment.link.produced side.peer) ∧
        ∀ side, ((deployment.remembered side).map Prod.fst).Nodup) ∧
      ((attackedInStep attacker).Reachable deployment →
        ((deployment.link.accepted .alice ++ deployment.link.accepted .bob).map
          Prod.fst).Nodup) := by
  refine ⟨?_, ?_⟩
  · intro reachable
    obtain ⟨_, _, authentic⟩ := authentic_of_reachable ideal reachable
    obtain ⟨_, _, once⟩ := once_of_reachable ideal reachable
    exact ⟨fun _ _ _ accepted => authentic.agreed accepted, fun side => (once.live side).2⟩
  · intro reachable
    have attackedRun := attacked_of_inStep reachable
    obtain ⟨_, _, once⟩ := once_of_reachable ideal attackedRun
    obtain ⟨_, _, authentic⟩ := authentic_of_reachable ideal attackedRun
    have nodup : ∀ side, ((deployment.link.accepted side).map Prod.fst).Nodup := by
      rw [← remembered_eq_accepted reachable]
      exact fun side => (once.live side).2
    rw [List.map_append, List.nodup_append']
    exact ⟨nodup .alice, nodup .bob, authentic.disjoint ideal⟩

/-- An attacker that knows no secret. -/
def outsider : Symbolic.primitives.Knowledge where
  knows _ := False
  salt_of_hkdf known := known.elim
  input_of_hkdf known := known.elim

/-- Alice encrypts and Bob receives. -/
def exchange : List (DeploymentEvent Symbolic.primitives) :=
  [.call (.encrypt .alice "hello"), .call (.deliver .bob Symbolic.greeting)]

/-- The attacker can deliver what it has seen. -/
theorem deliverable_of_produced {link : Link P} {message : RatchetMessage P}
    (sender : RatchetRole) (text : String)
    (produced : (message, text) ∈ link.produced sender) :
    Deliverable attacker link message :=
  .inl ⟨sender, message, text, produced, rfl⟩

/-- The runs that start with the exchange of the concrete pair. -/
private theorem exchange_reaches (rest : List (DeploymentEvent Symbolic.primitives))
    (permits : (attacked outsider).Permits
      ((attacked outsider).run (start Symbolic.sessions) exchange) rest) :
    (attacked outsider).Reachable
      ((attacked outsider).run (start Symbolic.sessions) (exchange ++ rest)) := by
  have events : (attacked outsider).Permits (start Symbolic.sessions) (exchange ++ rest) :=
    ⟨trivial, deliverable_of_produced .alice "hello" (by decide), permits⟩
  exact ⟨_, ⟨_, Symbolic.sessions_established, id, rfl⟩, events.reaches⟩

theorem greeting_agreed :
    (Symbolic.greeting, "hello") ∈
      ((attacked outsider).run (start Symbolic.sessions) exchange).link.produced .alice :=
  ((injective_agreement Symbolic.ideal outsider _).1 (exchange_reaches [] trivial)).1 .bob
    Symbolic.greeting "hello" (by decide)

/-- A restart from the state that was exported before Bob accepted the message makes
him accept it again. -/
theorem accepted_again_after_stale_restart :
    ∃ deployment, (attacked outsider).Reachable deployment ∧
      deployment.link.accepted .bob =
        [(Symbolic.greeting, "hello"), (Symbolic.greeting, "hello")] := by
  refine ⟨_, exchange_reaches
    [.restart .bob, .call (.deliver .bob Symbolic.greeting)] ⟨trivial, ?_, trivial⟩, by decide⟩
  exact deliverable_of_produced .alice "hello" (by decide)

end Deployment

end CipherMesh
