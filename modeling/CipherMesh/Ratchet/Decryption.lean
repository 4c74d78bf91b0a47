import CipherMesh.Ratchet.KeyTree

/-!
# What the session methods do

Each method is evaluated once.  `encrypt`, `rotateSendingRatchet` and the header
step of `decrypt` have closed results; the ways in which `decrypt` can end are the
constructors of `Outcome`, with the state each of them leaves behind.  Later
modules argue about these and do not unfold the methods.
-/

namespace CipherMesh

open Foundation
open Foundation.Mutation

variable {P : Primitives}

namespace RatchetSession

variable {session ready : RatchetSession P}

/-! ## Creation -/

/-- A session over a root key with nothing sent or received. -/
def fresh (rootKey : P.Block) (role : RatchetRole) (dhKeys : X25519KeyPair P)
    (peerRatchetPublicKey : P.PublicKey) : RatchetSession P where
  role := role
  rootKey := rootKey
  sendChainKey := P.hkdf none [rootKey] initialChainInfo role.index
  recvChainKey := P.hkdf none [rootKey] initialChainInfo role.peer.index
  sendCount := 0
  recvCount := 0
  skippedMessageKeys := ∅
  consumedMessageNumbers := ∅
  dhKeys := dhKeys
  peerRatchetPublicKey := peerRatchetPublicKey

theorem new_eq (rootKey : P.Block) (role : RatchetRole) (dhKeys : X25519KeyPair P)
    (peerRatchetPublicKey : P.PublicKey) :
    new rootKey role dhKeys peerRatchetPublicKey =
      .ok (fresh rootKey role dhKeys peerRatchetPublicKey) := by
  cases role <;> rfl

/-! ## Sending -/

/-- The session after one message was encrypted. -/
def sent (session : RatchetSession P) : RatchetSession P :=
  { session with
    sendChainKey := nextChainKey session.sendChainKey
    sendCount := session.sendCount + 1 }

/-- Seal a text for the next number of the sending chain. -/
def sealNext (session : RatchetSession P) (message : String) : Option P.Ciphertext :=
  P.aeadSeal (chainMessageKey session.sendChainKey) (nonceFor session.sendCount)
    (ratchetAad session.sendCount session.dhKeys.publicKey) (.ofText message)

theorem run_encrypt (session : RatchetSession P) (message : String) :
    (encrypt message).run session =
      match session.sealNext message with
      | some ciphertext =>
          (.ok ⟨session.sendCount, session.dhKeys.publicKey, ciphertext⟩, session.sent)
      | none => (.error .encrypt, session.sent) := by
  simp only [encrypt, nextSendMessageKey, run_bind, run_get, run_lift, run_modify, run_pure,
    advanceChain_eq, sealNext]
  cases P.aeadSeal (chainMessageKey session.sendChainKey) (nonceFor session.sendCount)
    (ratchetAad session.sendCount session.dhKeys.publicKey) (.ofText message) <;> rfl

/-! ## DH ratchet steps -/

/-- The session after a DH ratchet with the given DH output. -/
def ratcheted (session : RatchetSession P) (dhOutput : P.Block) : RatchetSession P :=
  { session with
    rootKey := P.hkdf (some session.rootKey) [dhOutput] dhRatchetInfo 0
    sendChainKey :=
      P.hkdf (some session.rootKey) [dhOutput] dhRatchetInfo (session.role.index + 1)
    recvChainKey :=
      P.hkdf (some session.rootKey) [dhOutput] dhRatchetInfo (session.role.peer.index + 1)
    sendCount := 0
    recvCount := 0
    skippedMessageKeys := ∅
    consumedMessageNumbers := ∅ }

theorem run_applyDhRatchet (session : RatchetSession P) (dhOutput : P.Block) :
    (applyDhRatchet dhOutput).run session = (.ok (), session.ratcheted dhOutput) := by
  obtain ⟨role, rootKey⟩ := session
  cases role <;> rfl

/-- The session after `rotateSendingRatchet` drew the given private key. -/
def rotated (session : RatchetSession P) (generated : P.PrivateKey) : RatchetSession P :=
  { session with dhKeys := .generate generated }.ratcheted
    (P.diffieHellman generated session.peerRatchetPublicKey)

theorem run_rotateSendingRatchet (session : RatchetSession P) (generated : P.PrivateKey) :
    (rotateSendingRatchet generated).run session = (.ok (), session.rotated generated) := by
  simp only [rotateSendingRatchet, run_bind, run_modify, run_get, run_applyDhRatchet]
  rfl

/-- The session in which `decrypt` looks for the message key: a header with a new
public key has moved it to the next epoch. -/
def entered (session : RatchetSession P) (publicKey : P.PublicKey) : RatchetSession P :=
  if publicKey = session.peerRatchetPublicKey then session
  else
    { session with peerRatchetPublicKey := publicKey }.ratcheted
      (session.dhKeys.dhBytes publicKey)

theorem entered_same : session.entered session.peerRatchetPublicKey = session :=
  if_pos rfl

theorem run_receiveDhRatchet (session : RatchetSession P) {publicKey : P.PublicKey}
    (changed : publicKey ≠ session.peerRatchetPublicKey) :
    (receiveDhRatchet publicKey).run session = (.ok (), session.entered publicKey) := by
  simp only [receiveDhRatchet, run_bind, run_get, run_modify, run_applyDhRatchet]
  rw [entered, if_neg changed]

@[simp] theorem entered_role (publicKey : P.PublicKey) :
    (session.entered publicKey).role = session.role := by
  unfold entered
  split <;> rfl

@[simp] theorem entered_dhKeys (publicKey : P.PublicKey) :
    (session.entered publicKey).dhKeys = session.dhKeys := by
  unfold entered
  split <;> rfl

@[simp] theorem entered_peerRatchetPublicKey (publicKey : P.PublicKey) :
    (session.entered publicKey).peerRatchetPublicKey = publicKey := by
  unfold entered
  split <;> simp_all [ratcheted]

/-! ## Skipping message keys -/

/-- The stored keys after `count` further numbers of the receiving chain were
skipped. -/
def storedKeys (session : RatchetSession P) : Nat → Finmap fun _ : Nat => P.Block
  | 0 => session.skippedMessageKeys
  | count + 1 =>
      (session.storedKeys count).insert (session.recvCount + count)
        (chainMessageKey (chainKeyAfter session.recvChainKey count))

/-- The session after `count` further numbers of the receiving chain were
skipped. -/
def skipping (session : RatchetSession P) (count : Nat) : RatchetSession P :=
  { session with
    recvChainKey := chainKeyAfter session.recvChainKey count
    recvCount := session.recvCount + count
    skippedMessageKeys := session.storedKeys count }

@[simp] theorem skipping_zero : session.skipping 0 = session := rfl

theorem skipping_skipping (first second : Nat) :
    (session.skipping first).skipping second = session.skipping (first + second) := by
  have stored : (session.skipping first).storedKeys second =
      session.storedKeys (first + second) := by
    induction second with
    | zero => rfl
    | succ second equal =>
        rw [storedKeys, equal, ← Nat.add_assoc, storedKeys]
        simp only [skipping, chainKeyAfter_add, Nat.add_assoc]
  rw [skipping, stored]
  simp only [skipping, chainKeyAfter_add, Nat.add_assoc]

theorem lookup_storedKeys (count number : Nat) :
    (session.storedKeys count).lookup number =
      if session.recvCount ≤ number ∧ number < session.recvCount + count then
        some (chainMessageKey (chainKeyAfter session.recvChainKey (number - session.recvCount)))
      else session.skippedMessageKeys.lookup number := by
  induction count with
  | zero => rw [storedKeys, if_neg (by omega)]
  | succ count equal =>
      rw [storedKeys]
      rcases eq_or_ne number (session.recvCount + count) with rfl | different
      · rw [Finmap.lookup_insert, if_pos (by omega), Nat.add_sub_cancel_left]
      · rw [Finmap.lookup_insert_of_ne _ different, equal]
        congr 1
        simp only [eq_iff_iff]
        omega

/-- The receiving chain moves past one number without storing its key. -/
def received (session : RatchetSession P) : RatchetSession P :=
  { session with
    recvChainKey := nextChainKey session.recvChainKey
    recvCount := session.recvCount + 1 }

theorem run_nextRecvMessageKey (session : RatchetSession P) :
    nextRecvMessageKey.run session =
      (.ok (chainMessageKey session.recvChainKey), session.received) := rfl

/-! ## Bookkeeping of received numbers -/

/-- Stored keys and consumed numbers are disjoint and lie below the receive
counter, and at most eight keys are stored. -/
structure WellFormed (session : RatchetSession P) : Prop where
  skipped_lt : ∀ {number}, number ∈ session.skippedMessageKeys → number < session.recvCount
  skipped_card : session.skippedMessageKeys.keys.card ≤ maxSkippedMessageKeys
  consumed_lt : ∀ {number}, number ∈ session.consumedMessageNumbers →
    number < session.recvCount
  consumed_not_skipped : ∀ {number}, number ∈ session.consumedMessageNumbers →
    number ∉ session.skippedMessageKeys

theorem card_storedKeys (wf : session.WellFormed) (count : Nat) :
    (session.storedKeys count).keys.card = session.skippedMessageKeys.keys.card + count := by
  induction count with
  | zero => rfl
  | succ count equal =>
      have fresh : session.recvCount + count ∉ (session.storedKeys count).keys := by
        rw [Finmap.mem_keys, ← Finmap.lookup_isSome, lookup_storedKeys, if_neg (by omega),
          Finmap.lookup_isSome]
        intro member
        have := wf.skipped_lt member
        omega
      rw [storedKeys, keys_insert, Finset.card_insert_of_notMem fresh, equal,
        Nat.add_assoc]

theorem mem_storedKeys (count : Nat) {number : Nat} :
    number ∈ session.storedKeys count ↔
      (session.recvCount ≤ number ∧ number < session.recvCount + count) ∨
        number ∈ session.skippedMessageKeys := by
  rw [← Finmap.lookup_isSome, lookup_storedKeys, ← Finmap.lookup_isSome]
  split
  · next inside => simp [inside]
  · next outside => simp [outside]

theorem WellFormed.skipping (wf : session.WellFormed) {count : Nat}
    (room : session.skippedMessageKeys.keys.card + count ≤ maxSkippedMessageKeys) :
    (session.skipping count).WellFormed where
  skipped_lt := by
    intro number member
    rcases (mem_storedKeys count).mp member with inside | before
    · exact inside.2
    · exact Nat.lt_add_right count (wf.skipped_lt before)
  skipped_card := by
    change (session.storedKeys count).keys.card ≤ _
    rwa [card_storedKeys wf]
  consumed_lt member := Nat.lt_add_right count (wf.consumed_lt member)
  consumed_not_skipped := by
    intro number consumed member
    rcases (mem_storedKeys count).mp member with inside | before
    · have := wf.consumed_lt consumed
      omega
    · exact wf.consumed_not_skipped consumed before

theorem WellFormed.ratcheted (session : RatchetSession P) (dhOutput : P.Block) :
    (session.ratcheted dhOutput).WellFormed where
  skipped_lt member := absurd member Finmap.notMem_empty
  skipped_card := Nat.zero_le _
  consumed_lt member := absurd member (Finset.notMem_empty _)
  consumed_not_skipped member := absurd member (Finset.notMem_empty _)

theorem WellFormed.entered (wf : session.WellFormed) (publicKey : P.PublicKey) :
    (session.entered publicKey).WellFormed := by
  unfold RatchetSession.entered
  split
  · exact wf
  · exact .ratcheted _ _

/-- The loop of `decrypt` either skips all numbers before `number` or stops when
eight keys are stored. -/
theorem run_skipMessageKeys {number : Nat} :
    ∀ {fuel : Nat} {session : RatchetSession P}, session.WellFormed →
      number - session.recvCount ≤ fuel →
        (skipMessageKeys number fuel).run session =
          if session.skippedMessageKeys.keys.card + (number - session.recvCount) ≤
              maxSkippedMessageKeys then
            (.ok (), session.skipping (number - session.recvCount))
          else
            (.error .tooManySkippedMessages,
              session.skipping
                (maxSkippedMessageKeys - session.skippedMessageKeys.keys.card)) := by
  intro fuel
  induction fuel with
  | zero =>
      intro session wf enough
      have none : number - session.recvCount = 0 := Nat.le_zero.mp enough
      rw [none, Nat.add_zero, if_pos wf.skipped_card]
      rfl
  | succ fuel fuelIH =>
      intro session wf enough
      by_cases before : session.recvCount < number
      · by_cases full : session.skippedMessageKeys.keys.card ≥ maxSkippedMessageKeys
        · rw [if_neg (by omega), Nat.sub_eq_zero_of_le full]
          simp [skipMessageKeys, before, full]
        · have room : session.skippedMessageKeys.keys.card + 1 ≤ maxSkippedMessageKeys := by
            omega
          have next := fuelIH (wf.skipping room)
            (show number - (session.recvCount + 1) ≤ fuel by omega)
          have oneMore : (session.skipping 1).skippedMessageKeys.keys.card =
              session.skippedMessageKeys.keys.card + 1 := card_storedKeys wf 1
          have distance : 1 + (number - (session.skipping 1).recvCount) =
              number - session.recvCount := by
            simp only [RatchetSession.skipping]
            omega
          have space : 1 + (maxSkippedMessageKeys - (session.skippedMessageKeys.keys.card + 1)) =
              maxSkippedMessageKeys - session.skippedMessageKeys.keys.card := by
            omega
          rw [skipping_skipping, skipping_skipping, oneMore, distance, Nat.add_assoc, distance,
            space] at next
          have step : (skipMessageKeys number (fuel + 1)).run session =
              (skipMessageKeys number fuel).run (session.skipping 1) := by
            simp only [skipMessageKeys, run_bind, run_get, before, full, if_true, if_false,
              run_nextRecvMessageKey, run_modify]
            rfl
          rw [step, next]
      · have none : number - session.recvCount = 0 := by omega
        simp [skipMessageKeys, before, none, wf.skipped_card]

/-! ## The ways decryption ends -/

/-- The number was consumed, or its key was passed and is no longer stored. -/
def AlreadyReceived (session : RatchetSession P) (number : Nat) : Prop :=
  number ∈ session.consumedMessageNumbers ∨
    (number ∉ session.skippedMessageKeys ∧ number < session.recvCount)

/-- The key of the number is stored or can be reached by skipping. -/
def InWindow (session : RatchetSession P) (number : Nat) : Prop :=
  number ∈ session.skippedMessageKeys ∨
    (session.recvCount ≤ number ∧
      session.skippedMessageKeys.keys.card + (number - session.recvCount) ≤
        maxSkippedMessageKeys)

/-- The message key and the state `decrypt` opens message `number` with. -/
inductive Ready (session : RatchetSession P) (number : Nat) :
    P.Block → RatchetSession P → Prop where
  | stored {messageKey : P.Block}
      (unconsumed : number ∉ session.consumedMessageNumbers)
      (present : session.skippedMessageKeys.lookup number = some messageKey) :
      Ready session number messageKey
        { session with skippedMessageKeys := session.skippedMessageKeys.erase number }
  | reached
      (unconsumed : number ∉ session.consumedMessageNumbers)
      (absent : number ∉ session.skippedMessageKeys)
      (ahead : session.recvCount ≤ number)
      (room : session.skippedMessageKeys.keys.card + (number - session.recvCount) ≤
        maxSkippedMessageKeys) :
      Ready session number
        (chainMessageKey (chainKeyAfter session.recvChainKey (number - session.recvCount)))
        (session.skipping (number - session.recvCount)).received

theorem Ready.inWindow {number : Nat} {messageKey : P.Block}
    (taken : session.Ready number messageKey ready) :
    ¬ session.AlreadyReceived number ∧ session.InWindow number := by
  cases taken with
  | stored unconsumed present =>
      have member : number ∈ session.skippedMessageKeys := by
        rw [← Finmap.lookup_isSome, present]
        rfl
      refine ⟨?_, .inl member⟩
      rintro (consumed | ⟨absent, _⟩)
      · exact unconsumed consumed
      · exact absent member
  | reached unconsumed absent ahead room =>
      refine ⟨?_, .inr ⟨ahead, room⟩⟩
      rintro (consumed | ⟨_, below⟩)
      · exact unconsumed consumed
      · exact absurd below (Nat.not_lt.mpr ahead)

/-- Open a message with a message key. -/
def opens (messageKey : P.Block) (message : RatchetMessage P) : Option Bytes :=
  P.aeadOpen messageKey (nonceFor message.number)
    (ratchetAad message.number message.ratchetPublicKey) message.ciphertext

/-- The session after a message was opened under its number. -/
def consumed (session : RatchetSession P) (number : Nat) : RatchetSession P :=
  { session with consumedMessageNumbers := insert number session.consumedMessageNumbers }

/-- Results and final states of `decrypt`, from the session its header entered. -/
inductive Outcome (session : RatchetSession P) (message : RatchetMessage P) :
    Except CryptoError String → RatchetSession P → Prop where
  | replayed
      (seen : session.AlreadyReceived message.number) :
      Outcome session message (.error .replay) session
  | exhausted
      (unconsumed : message.number ∉ session.consumedMessageNumbers)
      (absent : message.number ∉ session.skippedMessageKeys)
      (ahead : session.recvCount ≤ message.number)
      (noRoom : maxSkippedMessageKeys < session.skippedMessageKeys.keys.card +
        (message.number - session.recvCount)) :
      Outcome session message (.error .tooManySkippedMessages)
        (session.skipping (maxSkippedMessageKeys - session.skippedMessageKeys.keys.card))
  | unopened {messageKey : P.Block} {ready : RatchetSession P}
      (taken : Ready session message.number messageKey ready)
      (refused : opens messageKey message = none) :
      Outcome session message (.error .decrypt) ready
  | garbled {messageKey : P.Block} {ready : RatchetSession P} {plaintext : Bytes}
      (taken : Ready session message.number messageKey ready)
      (opened : opens messageKey message = some plaintext)
      (malformed : plaintext.toText = none) :
      Outcome session message (.error .utf8) (ready.consumed message.number)
  | accepted {messageKey : P.Block} {ready : RatchetSession P} {plaintext : Bytes}
      {text : String}
      (taken : Ready session message.number messageKey ready)
      (opened : opens messageKey message = some plaintext)
      (decoded : plaintext.toText = some text) :
      Outcome session message (.ok text) (ready.consumed message.number)

theorem run_openMessage (session : RatchetSession P) (messageKey : P.Block)
    (message : RatchetMessage P) :
    (openMessage messageKey message).run session =
      match opens messageKey message with
      | none => (.error .decrypt, session)
      | some plaintext =>
          match plaintext.toText with
          | none => (.error .utf8, session.consumed message.number)
          | some text => (.ok text, session.consumed message.number) := by
  rw [openMessage, opens]
  cases P.aeadOpen messageKey (nonceFor message.number)
      (ratchetAad message.number message.ratchetPublicKey) message.ciphertext with
  | none => rfl
  | some plaintext =>
      simp only [run_bind, run_okOr_some, run_modify]
      cases plaintext.toText <;> rfl

/-- An unconsumed number is refused or yields a key to open the message with. -/
theorem takeMessageKey_cases (wf : session.WellFormed) {number : Nat}
    (unconsumed : number ∉ session.consumedMessageNumbers) :
    (∃ messageKey ready, session.Ready number messageKey ready ∧
        (takeMessageKey number).run session = (.ok messageKey, ready)) ∨
      ((number ∉ session.skippedMessageKeys ∧ number < session.recvCount) ∧
        (takeMessageKey number).run session = (.error .replay, session)) ∨
      ((number ∉ session.skippedMessageKeys ∧ session.recvCount ≤ number ∧
          maxSkippedMessageKeys < session.skippedMessageKeys.keys.card +
            (number - session.recvCount)) ∧
        (takeMessageKey number).run session =
          (.error .tooManySkippedMessages,
            session.skipping
              (maxSkippedMessageKeys - session.skippedMessageKeys.keys.card))) := by
  rcases present : session.skippedMessageKeys.lookup number with _ | messageKey
  · have absent : number ∉ session.skippedMessageKeys := Finmap.lookup_eq_none.mp present
    by_cases below : number < session.recvCount
    · right; left
      refine ⟨⟨absent, below⟩, ?_⟩
      simp [takeMessageKey, present, below]
    · have loop := run_skipMessageKeys wf (Nat.le_refl (number - session.recvCount))
      by_cases room : session.skippedMessageKeys.keys.card + (number - session.recvCount) ≤
          maxSkippedMessageKeys
      · left
        refine ⟨_, _, .reached unconsumed absent (Nat.le_of_not_lt below) room, ?_⟩
        rw [if_pos room] at loop
        simp [takeMessageKey, present, below, loop, run_nextRecvMessageKey]
        rfl
      · right; right
        refine ⟨⟨absent, Nat.le_of_not_lt below, Nat.lt_of_not_le room⟩, ?_⟩
        rw [if_neg room] at loop
        simp [takeMessageKey, present, below, loop]
  · left
    refine ⟨_, _, .stored unconsumed present, ?_⟩
    simp [takeMessageKey, present]

/-- The part of `decrypt` after the header. -/
def decryptBody (message : RatchetMessage P) :
    Mutation (RatchetSession P) CryptoError String := do
  if message.number ∈ (← get).consumedMessageNumbers then
    fail .replay
  let messageKey ← takeMessageKey message.number
  openMessage messageKey message

theorem run_decrypt (session : RatchetSession P) (message : RatchetMessage P) :
    (decrypt message).run session =
      (decryptBody message).run (session.entered message.ratchetPublicKey) := by
  by_cases changed : message.ratchetPublicKey = session.peerRatchetPublicKey
  · rw [changed, entered_same]
    simp [decrypt, decryptBody, changed]
  · simp [decrypt, decryptBody, changed, run_receiveDhRatchet]

/-- The header step can be taken first. -/
theorem run_decrypt_entered (session : RatchetSession P) (message : RatchetMessage P) :
    (decrypt message).run session =
      (decrypt message).run (session.entered message.ratchetPublicKey) := by
  have again : (session.entered message.ratchetPublicKey).entered message.ratchetPublicKey =
      session.entered message.ratchetPublicKey := by
    conv_lhs => rw [entered, entered_peerRatchetPublicKey, if_pos rfl]
  rw [run_decrypt, run_decrypt (session.entered _), again]

/-- Every call of `decrypt` ends in one of the listed ways. -/
theorem decrypt_outcome (wf : session.WellFormed) (message : RatchetMessage P) :
    (session.entered message.ratchetPublicKey).Outcome message
      ((decrypt message).run session).1 ((decrypt message).run session).2 := by
  have enteredWf := wf.entered message.ratchetPublicKey
  rw [run_decrypt, decryptBody]
  generalize session.entered message.ratchetPublicKey = current at enteredWf
  by_cases seen : message.number ∈ current.consumedMessageNumbers
  · simp only [run_bind, run_get, seen, if_true, run_fail]
    exact .replayed (.inl seen)
  · simp only [run_bind, run_get, seen, if_false]
    rcases takeMessageKey_cases enteredWf seen with
      ⟨messageKey, ready, taken, run⟩ | ⟨old, run⟩ | ⟨⟨absent, ahead, noRoom⟩, run⟩
    · simp only [run, run_openMessage]
      rcases opened : opens messageKey message with _ | plaintext
      · exact .unopened taken opened
      · rcases decoded : plaintext.toText with _ | text
        · simp only [decoded]
          exact .garbled taken opened decoded
        · simp only [decoded]
          exact .accepted taken opened decoded
    · simp only [run]
      exact .replayed (.inr old)
    · simp only [run]
      exact .exhausted seen absent ahead noRoom

end RatchetSession

end CipherMesh
