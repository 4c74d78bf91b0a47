import CipherMesh.Link.Basic
import CipherMesh.Foundation.Reachability

/-!
# Delivery within the skip window

Both sides encrypt and receive genuine messages of the other side in any order,
with omissions and duplicates, and nobody rotates.  Then both sessions stay in
the epoch of the handshake, and each side has consumed or stored the key of every
number its receiving chain has passed.
-/

namespace CipherMesh

open Foundation
open Foundation.Mutation
open RatchetSession

variable {P : Primitives}

namespace Link

variable {link : Link P} {rootKey : P.Block} {keys : RatchetRole → X25519KeyPair P}

/-- Encryption on both sides and delivery of produced messages, any number of times
and in any order. -/
def genuineDelivery : System (Link P) (LinkEvent P) where
  initial link := ∃ sessions, Established sessions ∧ link = start sessions
  permitted link
    | .encrypt _ _ => True
    | .deliver side message => ∃ text, (message, text) ∈ link.produced side.peer
    | .rotate _ _ => False
  next := next

/-- The two ends are in the epoch of the handshake, and the histories agree with
the sessions. -/
structure InStep (rootKey : P.Block) (keys : RatchetRole → X25519KeyPair P)
    (link : Link P) : Prop where
  role : ∀ side, (link.sessions side).role = side
  dhKeys : ∀ side, (link.sessions side).dhKeys = keys side
  header : ∀ side, (link.sessions side).peerRatchetPublicKey = (keys side.peer).publicKey
  atEpoch : ∀ side, (link.sessions side).AtEpoch (.initial rootKey)
  covered : ∀ side, (link.sessions side).Covered
  number_lt : ∀ {side message text}, (message, text) ∈ link.produced side →
    message.number < (link.sessions side).sendCount
  genuine : ∀ {side message text}, (message, text) ∈ link.produced side.peer →
    (link.sessions side).Genuine (.initial rootKey) message text
  unique : ∀ {side first second firstText secondText},
    (first, firstText) ∈ link.produced side → (second, secondText) ∈ link.produced side →
      first.number = second.number → first = second ∧ firstText = secondText
  accepted : ∀ {side message text}, (message, text) ∈ link.accepted side →
    (message, text) ∈ link.produced side.peer ∧
      message.number ∈ (link.sessions side).consumedMessageNumbers
  consumed : ∀ {side number}, number ∈ (link.sessions side).consumedMessageNumbers →
    ∃ message text, (message, text) ∈ link.accepted side ∧ message.number = number

/-! ## The invariant -/

theorem InStep.start {sessions : RatchetRole → RatchetSession P}
    (fresh : FreshPair sessions rootKey keys) : InStep rootKey keys (start sessions) where
  role side := by rw [start_sessions, fresh.fresh]; rfl
  dhKeys side := by rw [start_sessions, fresh.fresh]; rfl
  header side := by rw [start_sessions, fresh.fresh]; rfl
  atEpoch side := by rw [start_sessions, fresh.fresh]; exact .fresh _ _ _ _
  covered side := by
    intro number below
    rw [start_sessions, fresh.fresh] at below
    exact absurd below (Nat.not_lt_zero _)
  number_lt member := absurd member List.not_mem_nil
  genuine member := absurd member List.not_mem_nil
  unique member := absurd member List.not_mem_nil
  accepted member := absurd member List.not_mem_nil
  consumed := by
    intro side number member
    rw [start_sessions, fresh.fresh] at member
    exact absurd member (Finset.notMem_empty _)

/-- What a side encrypts is genuine for its peer. -/
theorem InStep.encrypted_genuine (inStep : InStep rootKey keys link) {side : RatchetRole}
    {message : RatchetMessage P} {text found : String}
    (returned : encrypted (link.sessions side.peer) text = some (message, found)) :
    (link.sessions side).Genuine (.initial rootKey) message found := by
  have sealed := sealedIn_of_encrypted (inStep.atEpoch side.peer) returned
  obtain ⟨_, _, publicKey, _⟩ := encrypted_eq_some returned
  refine ⟨?_, ?_⟩
  · rw [publicKey, inStep.dhKeys, inStep.header]
  · rw [inStep.role] at sealed ⊢
    exact sealed

/-- Encrypting changes only how far its side has sent. -/
theorem frame_encrypt (link : Link P) (side : RatchetRole) (text : String)
    (other : RatchetRole) :
    let after := (link.next (.encrypt side text)).sessions other
    after.role = (link.sessions other).role ∧
      after.peerRatchetPublicKey = (link.sessions other).peerRatchetPublicKey ∧
      after.dhKeys = (link.sessions other).dhKeys ∧
      after.consumedMessageNumbers = (link.sessions other).consumedMessageNumbers ∧
      (link.sessions other).sendCount ≤ after.sendCount := by
  intro after
  rw [show after = _ from link.sessions_encrypt side other text]
  split
  · exact ⟨rfl, rfl, rfl, rfl, Nat.le_succ _⟩
  · exact ⟨rfl, rfl, rfl, rfl, Nat.le_refl _⟩

/-- The number of a new message is that of no message before. -/
theorem InStep.unique_encrypt (inStep : InStep rootKey keys link) {side other : RatchetRole}
    {text firstText secondText : String} {first second : RatchetMessage P}
    (firstMember : (first, firstText) ∈ (link.next (.encrypt side text)).produced other)
    (secondMember : (second, secondText) ∈ (link.next (.encrypt side text)).produced other)
    (same : first.number = second.number) : first = second ∧ firstText = secondText := by
  rcases (mem_produced_encrypt text).mp firstMember with ⟨rfl, firstReturned⟩ | firstBefore <;>
    rcases (mem_produced_encrypt text).mp secondMember with
      ⟨here, secondReturned⟩ | secondBefore
  · rw [firstReturned] at secondReturned
    simpa using secondReturned
  · obtain ⟨_, number, _⟩ := encrypted_eq_some firstReturned
    have below := inStep.number_lt secondBefore
    omega
  · subst here
    obtain ⟨_, number, _⟩ := encrypted_eq_some secondReturned
    have below := inStep.number_lt firstBefore
    omega
  · exact inStep.unique firstBefore secondBefore same

theorem InStep.encrypt (inStep : InStep rootKey keys link) (side : RatchetRole)
    (text : String) : InStep rootKey keys (link.next (.encrypt side text)) := by
  have kept := link.frame_encrypt side text
  exact {
    role := fun other => (kept other).1.trans (inStep.role other)
    dhKeys := fun other => (kept other).2.2.1.trans (inStep.dhKeys other)
    header := fun other => (kept other).2.1.trans (inStep.header other)
    atEpoch := by
      intro other
      rw [sessions_encrypt]
      split
      · exact (inStep.atEpoch other).sent
      · exact inStep.atEpoch other
    covered := by
      intro other
      rw [sessions_encrypt]
      split
      · exact inStep.covered other
      · exact inStep.covered other
    number_lt := by
      intro other message found member
      rcases (mem_produced_encrypt text).mp member with ⟨rfl, returned⟩ | before
      · obtain ⟨_, number, _⟩ := encrypted_eq_some returned
        rw [sessions_encrypt, if_pos rfl, number]
        exact Nat.lt_succ_self _
      · exact Nat.lt_of_lt_of_le (inStep.number_lt before) (kept other).2.2.2.2
    genuine := by
      intro other message found member
      apply Genuine.congr _ (kept other).1 (kept other).2.1
      rcases (mem_produced_encrypt text).mp member with ⟨rfl, returned⟩ | before
      · exact inStep.encrypted_genuine returned
      · exact inStep.genuine before
    unique := inStep.unique_encrypt
    accepted := by
      intro other message found member
      obtain ⟨before, consumed⟩ := inStep.accepted member
      exact ⟨(mem_produced_encrypt text).mpr (.inr before), (kept other).2.2.2.1 ▸ consumed⟩
    consumed := by
      intro other number member
      rw [(kept other).2.2.2.1] at member
      exact inStep.consumed member }

section

variable {side : RatchetRole} {message : RatchetMessage P} {text : String}

/-- Delivering a message of the epoch changes only how far its side has received. -/
theorem InStep.frame_deliver (inStep : InStep rootKey keys link)
    (genuine : (link.sessions side).Genuine (.initial rootKey) message text)
    (other : RatchetRole) :
    let after := (link.next (.deliver side message)).sessions other
    after.role = (link.sessions other).role ∧
      after.sendCount = (link.sessions other).sendCount ∧
      after.dhKeys = (link.sessions other).dhKeys ∧
      after.peerRatchetPublicKey = (link.sessions other).peerRatchetPublicKey := by
  intro after
  rw [show after = _ from link.sessions_deliver side other message]
  split
  · next here =>
      subst here
      exact decrypt_frame (inStep.atEpoch other).toWellFormed genuine.header
  · exact ⟨rfl, rfl, rfl, rfl⟩

/-- Numbers stay consumed. -/
theorem InStep.consumed_subset_deliver (correct : P.AeadCorrect)
    (inStep : InStep rootKey keys link)
    (genuine : (link.sessions side).Genuine (.initial rootKey) message text)
    (other : RatchetRole) : (link.sessions other).consumedMessageNumbers ⊆
      ((link.next (.deliver side message)).sessions other).consumedMessageNumbers := by
  rw [sessions_deliver]
  split
  · next here =>
      subst here
      rcases genuine.decrypt_progress correct (inStep.atEpoch other) with
        ⟨_, numbers⟩ | ⟨_, numbers⟩
      · rw [numbers]
        exact Finset.subset_insert _ _
      · rw [numbers]
  · exact Finset.Subset.refl _

/-- What is accepted was produced by the peer, and its number is consumed. -/
theorem InStep.accepted_deliver (correct : P.AeadCorrect) (inStep : InStep rootKey keys link)
    (sent : (message, text) ∈ link.produced side.peer) {other : RatchetRole}
    {delivered : RatchetMessage P} {found : String}
    (member : (delivered, found) ∈ (link.next (.deliver side message)).accepted other) :
    (delivered, found) ∈ link.produced other.peer ∧ delivered.number ∈
      ((link.next (.deliver side message)).sessions other).consumedMessageNumbers := by
  have genuine := inStep.genuine sent
  rcases mem_accepted_deliver.mp member with ⟨rfl, returned⟩ | before
  · obtain ⟨rfl, result⟩ := decrypted_eq_some returned
    rcases genuine.decrypt_progress correct (inStep.atEpoch other) with
      ⟨success, numbers⟩ | ⟨⟨error, failure⟩, _⟩
    · obtain rfl := Except.ok.inj (success.symm.trans result)
      refine ⟨sent, ?_⟩
      rw [sessions_deliver, if_pos rfl, numbers]
      exact Finset.mem_insert_self _ _
    · rw [failure] at result
      cases result
  · obtain ⟨produced, consumed⟩ := inStep.accepted before
    exact ⟨produced, inStep.consumed_subset_deliver correct genuine other consumed⟩

/-- A number is consumed for a message that was accepted. -/
theorem InStep.consumed_deliver (correct : P.AeadCorrect) (inStep : InStep rootKey keys link)
    (genuine : (link.sessions side).Genuine (.initial rootKey) message text)
    {other : RatchetRole} {number : Nat} (member : number ∈
      ((link.next (.deliver side message)).sessions other).consumedMessageNumbers) :
    ∃ delivered found, (delivered, found) ∈
      (link.next (.deliver side message)).accepted other ∧ delivered.number = number := by
  have earlier : number ∈ (link.sessions other).consumedMessageNumbers →
      ∃ delivered found, (delivered, found) ∈
        (link.next (.deliver side message)).accepted other ∧ delivered.number = number := by
    intro before
    obtain ⟨delivered, found, entry, same⟩ := inStep.consumed before
    exact ⟨delivered, found, mem_accepted_deliver.mpr (.inr entry), same⟩
  rw [sessions_deliver] at member
  split at member
  · next here =>
      subst here
      rcases genuine.decrypt_progress correct (inStep.atEpoch other) with
        ⟨success, numbers⟩ | ⟨_, numbers⟩
      · rw [numbers] at member
        rcases Finset.mem_insert.mp member with rfl | before
        · refine ⟨message, text, mem_accepted_deliver.mpr (.inl ⟨rfl, ?_⟩), rfl⟩
          simp [decrypted, success, Except.toOption]
        · exact earlier before
      · exact earlier (numbers ▸ member)
  · exact earlier member

theorem InStep.deliver (correct : P.AeadCorrect) (inStep : InStep rootKey keys link)
    (sent : (message, text) ∈ link.produced side.peer) :
    InStep rootKey keys (link.next (.deliver side message)) := by
  have genuine := inStep.genuine sent
  have kept := inStep.frame_deliver genuine
  exact {
    role := fun other => (kept other).1.trans (inStep.role other)
    dhKeys := fun other => (kept other).2.2.1.trans (inStep.dhKeys other)
    header := fun other => (kept other).2.2.2.trans (inStep.header other)
    atEpoch := by
      intro other
      rw [sessions_deliver]
      split
      · next here =>
          subst here
          have after := (inStep.atEpoch other).decrypt message
          rwa [enteredEpoch, if_pos genuine.header] at after
      · exact inStep.atEpoch other
    covered := by
      intro other
      rw [sessions_deliver]
      split
      · next here =>
          subst here
          exact (inStep.covered other).decrypt correct (inStep.atEpoch other) genuine
      · exact inStep.covered other
    number_lt := fun member => (kept _).2.1 ▸ inStep.number_lt member
    genuine := fun member => (inStep.genuine member).congr (kept _).1 (kept _).2.2.2
    unique := inStep.unique
    accepted := inStep.accepted_deliver correct sent
    consumed := inStep.consumed_deliver correct genuine }

end

/-- Both ends stay in step on every run. -/
theorem inStep_of_reachable (commutes : P.DhCommutes) (correct : P.AeadCorrect)
    (reachable : genuineDelivery.Reachable link) :
    ∃ rootKey keys, InStep rootKey keys link := by
  obtain ⟨_, ⟨sessions, established, rfl⟩, run⟩ := reachable
  obtain ⟨rootKey, keys, fresh⟩ := established.freshPair commutes
  refine ⟨rootKey, keys, run.invariant (.start fresh) ?_⟩
  intro link event inStep permitted
  cases event with
  | encrypt side text => exact inStep.encrypt side text
  | deliver side message =>
      obtain ⟨text, sent⟩ := permitted
      exact inStep.deliver correct sent
  | rotate side generated => exact permitted.elim

/-! ## Delivery -/

/-- The number is behind the receive counter or at most so far ahead that its
predecessors' keys can be stored. -/
def WithinSkipWindow (session : RatchetSession P) (number : Nat) : Prop :=
  number < session.recvCount ∨
    session.skippedMessageKeys.keys.card + (number - session.recvCount) ≤
      maxSkippedMessageKeys

theorem InStep.accepted_of_consumed (inStep : InStep rootKey keys link) {side : RatchetRole}
    {message : RatchetMessage P} {text : String}
    (sent : (message, text) ∈ link.produced side.peer)
    (consumed : message.number ∈ (link.sessions side).consumedMessageNumbers) :
    (message, text) ∈ link.accepted side := by
  obtain ⟨delivered, found, entry, same⟩ := inStep.consumed consumed
  obtain ⟨rfl, rfl⟩ := inStep.unique (inStep.accepted entry).1 sent same
  exact entry

/-- A produced message that was not accepted yet is accepted when its number is in
the window. -/
theorem InStep.decrypt_first (correct : P.AeadCorrect) (inStep : InStep rootKey keys link)
    {side : RatchetRole} {message : RatchetMessage P} {text : String}
    (sent : (message, text) ∈ link.produced side.peer)
    (first : (message, text) ∉ link.accepted side)
    (inWindow : WithinSkipWindow (link.sessions side) message.number) :
    ((decrypt message).run (link.sessions side)).1 = .ok text := by
  have unconsumed : message.number ∉ (link.sessions side).consumedMessageNumbers :=
    fun consumed => first (inStep.accepted_of_consumed sent consumed)
  have unreceived := (inStep.covered side).unreceived unconsumed
  have reachableKey : (link.sessions side).InWindow message.number := by
    by_cases below : message.number < (link.sessions side).recvCount
    · exact .inl ((inStep.covered side _ below).resolve_left unconsumed)
    · exact .inr ⟨Nat.le_of_not_lt below, inWindow.resolve_left below⟩
  obtain ⟨_, _, _, run⟩ :=
    (inStep.genuine sent).decrypt_ok correct (inStep.atEpoch side) unreceived reachableKey
  rw [run]

/-- A produced message outside the window is refused. -/
theorem InStep.decrypt_outside (correct : P.AeadCorrect) (inStep : InStep rootKey keys link)
    {side : RatchetRole} {message : RatchetMessage P} {text : String}
    (sent : (message, text) ∈ link.produced side.peer)
    (outside : ¬ WithinSkipWindow (link.sessions side) message.number) :
    ((decrypt message).run (link.sessions side)).1 = .error .tooManySkippedMessages := by
  have invariant := inStep.atEpoch side
  rw [WithinSkipWindow, not_or, not_lt, not_le] at outside
  obtain ⟨ahead, noRoom⟩ := outside
  rcases (inStep.genuine sent).decrypt_cases correct invariant with
    ⟨consumed | ⟨_, below⟩, _⟩ | ⟨_, _, taken, _⟩ | ⟨_, run⟩
  · exact absurd (invariant.consumed_lt consumed) (by omega)
  · omega
  · rcases taken.inWindow.2 with member | ⟨_, room⟩
    · exact absurd (invariant.skipped_lt member) (by omega)
    · omega
  · rw [run]

/-- An accepted message is a replay. -/
theorem InStep.decrypt_again (inStep : InStep rootKey keys link) {side : RatchetRole}
    {message : RatchetMessage P} {text : String}
    (again : (message, text) ∈ link.accepted side) :
    (decrypt message).run (link.sessions side) = (.error .replay, link.sessions side) := by
  obtain ⟨sent, consumed⟩ := inStep.accepted again
  exact decrypt_consumed (inStep.atEpoch side).toWellFormed (inStep.genuine sent).header
    consumed

/-- The delivery theorem.  On every run of genuine deliveries, the first delivery of
a message in the window returns its text, later deliveries are replays that change
nothing, and a refusal for lack of room keeps every number that was passed consumed
or decryptable. -/
theorem delivery_within_window (commutes : P.DhCommutes) (correct : P.AeadCorrect)
    (reachable : genuineDelivery.Reachable link) {side : RatchetRole}
    {message : RatchetMessage P} {text : String}
    (sent : (message, text) ∈ link.produced side.peer) :
    ((message, text) ∉ link.accepted side →
        WithinSkipWindow (link.sessions side) message.number →
          ((decrypt message).run (link.sessions side)).1 = .ok text) ∧
      ((message, text) ∈ link.accepted side →
        (decrypt message).run (link.sessions side) =
          (.error .replay, link.sessions side)) ∧
      (∀ refused, (decrypt message).run (link.sessions side) =
          (.error .tooManySkippedMessages, refused) →
        ∀ number < refused.recvCount,
          number ∈ refused.consumedMessageNumbers ∨
            (number ∈ refused.skippedMessageKeys ∧
              ∀ other otherText, (other, otherText) ∈ link.produced side.peer →
                other.number = number →
                  ((decrypt other).run refused).1 = .ok otherText)) := by
  obtain ⟨rootKey, keys, inStep⟩ := inStep_of_reachable commutes correct reachable
  refine ⟨inStep.decrypt_first correct sent, inStep.decrypt_again, ?_⟩
  intro refused run number below
  have after := inStep.deliver correct sent
  have session : (link.next (.deliver side message)).sessions side = refused := by
    rw [sessions_deliver, if_pos rfl, run]
  have covered := after.covered side number (session ▸ below)
  rw [session] at covered
  rcases covered with consumed | stored
  · exact .inl consumed
  · refine .inr ⟨stored, ?_⟩
    rintro other otherText otherSent rfl
    have unconsumed : other.number ∉ refused.consumedMessageNumbers := by
      intro consumed
      have wf := (after.atEpoch side).toWellFormed
      rw [session] at wf
      exact wf.consumed_not_skipped consumed stored
    have unaccepted : (other, otherText) ∉
        (link.next (.deliver side message)).accepted side := by
      intro entry
      exact unconsumed (session ▸ (after.accepted entry).2)
    have first := after.decrypt_first correct otherSent unaccepted
      (.inl (session.symm ▸ below))
    rwa [session] at first

/-- Alice's second message. -/
def secondMessage : RatchetMessage Symbolic.primitives where
  number := 1
  ratchetPublicKey := (Symbolic.keys .alice).publicKey
  ciphertext := {
    key := chainMessageKey (nextChainKey (Symbolic.sessions .alice).sendChainKey)
    nonce := nonceFor 1
    aad := ratchetAad 1 (Symbolic.keys .alice).publicKey
    message := .ofText "again" }

/-- It overtakes the first one. -/
def overtaken : List (LinkEvent Symbolic.primitives) :=
  [.encrypt .alice "hello", .encrypt .alice "again", .deliver .bob secondMessage]

/-- The late message is opened with the key that was skipped, and the other one is a replay
when it comes again. -/
theorem greeting_within_window :
    let link := genuineDelivery.run (start Symbolic.sessions) overtaken
    0 ∈ (link.sessions .bob).skippedMessageKeys ∧
      ((decrypt Symbolic.greeting).run (link.sessions .bob)).1 = .ok "hello" ∧
      (decrypt secondMessage).run (link.sessions .bob) = (.error .replay, link.sessions .bob) := by
  intro link
  have permits : genuineDelivery.Permits (start Symbolic.sessions) overtaken :=
    ⟨trivial, trivial, ⟨"again", by decide +kernel⟩, trivial⟩
  have reachable : genuineDelivery.Reachable link :=
    ⟨_, ⟨_, Symbolic.sessions_established, rfl⟩, permits.reaches⟩
  have sent : (Symbolic.greeting, "hello") ∈ link.produced RatchetRole.bob.peer ∧
      (secondMessage, "again") ∈ link.produced RatchetRole.bob.peer := by decide +kernel
  have received : (Symbolic.greeting, "hello") ∉ link.accepted .bob ∧
      (secondMessage, "again") ∈ link.accepted .bob := by decide +kernel
  have late := delivery_within_window Symbolic.dhCommutes Symbolic.aeadCorrect reachable sent.1
  have again := delivery_within_window Symbolic.dhCommutes Symbolic.aeadCorrect reachable sent.2
  exact ⟨by decide +kernel, late.1 received.1 (.inl (by decide +kernel)), again.2.1 received.2⟩

/-! ## The prekey handshake as a run -/

/-- Alice's initial message and Bob's decryption of it are the first encryption and
the first delivery of a run, and Bob reads the text. -/
theorem initial_message_delivered (commutes : P.DhCommutes) (correct : P.AeadCorrect)
    {alice aliceReached : Alice P} {bob : Bob P} {bundle : PreKeyBundle P} {text : String}
    {generated : P.PrivateKey} {initial : InitialMessage P}
    (published : bob.prekeyBundle = .ok bundle)
    (encrypts : (Alice.encryptInitialMessage bundle text generated).run alice =
      (.ok initial, aliceReached)) :
    ∃ link bobReached, genuineDelivery.Reachable link ∧
      (Bob.decryptInitialMessage initial).run bob = (.ok text, bobReached) ∧
      aliceReached.session = some (link.sessions .alice) ∧
      bobReached.session = some (link.sessions .bob) ∧
      (initial.message, text) ∈ link.accepted .bob := by
  obtain ⟨aliceStarted, aliceSession, starts, holds, encryption, aliceAfter, carried, id⟩ :=
    Alice.encryptInitialMessage_eq_ok encrypts
  cases present : bob.oneTimePrekey with
  | none => simp [Bob.prekeyBundle, present] at published
  | some oneTimePrekey =>
      have named : oneTimePrekey.id = initial.oneTimePrekeyId := by
        rw [id]
        rw [Bob.prekeyBundle, present] at published
        rw [← Except.ok.inj published]
      have produced : encrypted aliceSession text = some (initial.message, text) := by
        rw [encrypted, encryption]
        rfl
      obtain ⟨_, number, publicKey, _⟩ := encrypted_eq_some produced
      have established := Established.prekey published starts holds (carried.trans publicKey)
        (Bob.run_openInitialSession present named) rfl
      obtain ⟨rootKey, keys, fresh⟩ := established.freshPair commutes
      let opening := start (pair aliceSession (bob.initialSession oneTimePrekey initial))
      let sending := opening.next (.encrypt .alice text)
      have inStep : InStep rootKey keys sending := (InStep.start fresh).encrypt .alice text
      have sent : (initial.message, text) ∈ sending.produced RatchetRole.bob.peer :=
        (mem_produced_encrypt text).mpr (.inl ⟨rfl, produced⟩)
      have bobSession : sending.sessions .bob = bob.initialSession oneTimePrekey initial :=
        opening.sessions_encrypt .alice .bob text
      have numberZero : initial.message.number = 0 :=
        number.trans (congrArg sendCount (fresh.fresh .alice))
      have first : ((decrypt initial.message).run (sending.sessions .bob)).1 = .ok text := by
        refine inStep.decrypt_first correct sent List.not_mem_nil (.inr ?_)
        rw [bobSession, numberZero]
        exact Nat.zero_le _
      let received := sending.next (.deliver .bob initial.message)
      have bobAfter : received.sessions .bob =
          ((decrypt initial.message).run (bob.initialSession oneTimePrekey initial)).2 := by
        rw [← bobSession]
        exact sending.sessions_deliver .bob .bob initial.message
      have aliceUnchanged : received.sessions .alice = aliceSession.sent :=
        (sending.sessions_deliver .bob .alice initial.message).trans
          (opening.sessions_encrypt .alice .alice text)
      refine ⟨received, { bob with
        oneTimePrekey := none
        session := some (received.sessions .bob) }, ⟨_, ⟨_, established, rfl⟩, ?_⟩, ?_, ?_, rfl,
        ?_⟩
      · have events : genuineDelivery.Permits opening
            [.encrypt .alice text, .deliver .bob initial.message] :=
          ⟨trivial, ⟨text, sent⟩, trivial⟩
        exact events.reaches
      · rw [Bob.run_decryptInitialMessage present named, ← bobAfter, ← bobSession, first]
      · rw [aliceAfter, run_encrypt_state, aliceUnchanged]
      · refine mem_accepted_deliver.mpr (.inl ⟨rfl, ?_⟩)
        rw [decrypted, first]
        rfl

end Link

end CipherMesh
