import CipherMesh.Link.Agreement
import CipherMesh.Ratchet.Rejection

/-!
# One-time prekeys

Bob publishes bundles, replenishes his one-time prekey under ids that may repeat, and is
given initial messages of any origin.  A message is sealed to a one-time public key when its
ciphertext was sealed in a session that was started with this key.  Bob accepts only
what is sealed to the key he holds, and the call that accepts it takes the key away,
so a key is used once, unless Bob restarts from a state that was exported before.
-/

namespace CipherMesh

open Foundation
open Foundation.Mutation
open RatchetSession

variable {P : Primitives}

/-! ## Sealed initial messages -/

/-- The ciphertext was sealed in a session that the owner of the initial public key started
with this one-time prekey. -/
def InitialMessage.SealedTo (message : InitialMessage P)
    (oneTimePrekeyPublicKey : P.PublicKey) : Prop :=
  ∃ initialKey firstDh epoch sender origin plaintext,
    P.publicKey initialKey = message.aliceInitialPublicKey ∧
      epoch.base = P.hkdf none
        [firstDh, P.diffieHellman initialKey oneTimePrekeyPublicKey] prekeyHkdfInfo 0 ∧
      SealedIn epoch sender origin plaintext ∧
      origin.ciphertext = message.message.ciphertext

/-- What `encryptInitialMessage` returns is sealed to the prekey of the bundle. -/
theorem Alice.sealedTo_of_encryptInitialMessage {alice reached : Alice P}
    {bundle : PreKeyBundle P} {text : String} {generated : P.PrivateKey}
    {initial : InitialMessage P}
    (success : (encryptInitialMessage bundle text generated).run alice =
      (.ok initial, reached)) :
    initial.SealedTo bundle.oneTimePrekeyPublicKey := by
  obtain ⟨started, session, starts, holds, returned, -, sameKey, -⟩ :=
    encryptInitialMessage_eq_ok success
  rw [run_startInitialSession starts] at holds
  obtain rfl := Option.some.inj holds
  have encrypted : Link.encrypted _ text = some (initial.message, text) :=
    congrArg (fun result => result.toOption.map (·, text)) returned
  have sealed := Link.sealedIn_of_encrypted (AtEpoch.fresh _ _ _ _) encrypted
  obtain ⟨-, -, publicKey, -⟩ := Link.encrypted_eq_some encrypted
  exact ⟨generated, _, _, _, _, _, (sameKey.trans publicKey).symm, rfl, sealed, rfl⟩

namespace Bob

variable {bob : Bob P} {message : InitialMessage P} {oneTimePrekey : OneTimePreKey P}

/-- A message that Bob accepts with a prekey is sealed to no other one. -/
theorem publicKey_eq_of_sealedTo (ideal : P.Ideal) (injective : P.DhInjective)
    {text : String} {key : P.PrivateKey}
    (success : ((RatchetSession.decrypt message.message).run
      (bob.initialSession oneTimePrekey message)).1 = .ok text)
    (sealedTo : message.SealedTo (P.publicKey key)) :
    P.publicKey key = oneTimePrekey.keys.publicKey := by
  obtain ⟨initialKey, firstDh, epoch, sender, origin, plaintext, initialKeyEqual, base, sealed,
    sameCiphertext⟩ := sealedTo
  have below : Deployment.Below _ .bob (bob.initialSession oneTimePrekey message) _ :=
    ⟨rfl, .fresh _ _ _ _, rfl⟩
  obtain ⟨received, opened, -⟩ := below.sealed_of_ok ideal.aead success
  have enteredBase := (below.entered message.message.ratchetPublicKey).2.2
  -- both seals are below roots of handshakes, so the roots are one root
  obtain ⟨rootEqual, -⟩ := opened.unique ideal sealed sameCiphertext
  have sameEpoch := Epoch.rootKey_injective ideal.hkdfInjective
    (enteredBase ▸ ⟨_, _, _, rfl⟩) (base ▸ ⟨_, _, _, rfl⟩) rootEqual
  rw [sameEpoch, base] at enteredBase
  have sameSecret : P.diffieHellman initialKey (P.publicKey key) =
      oneTimePrekey.keys.dhBytes message.aliceInitialPublicKey :=
    List.head_eq_of_cons_eq (List.tail_eq_of_cons_eq (ideal.hkdfInjective enteredBase).2.1)
  rw [← initialKeyEqual, X25519KeyPair.dhBytes,
    ideal.dhCommutes oneTimePrekey.keys.privateKey] at sameSecret
  rw [oneTimePrekey.keys.publicKey_eq]
  exact injective sameSecret

/-- A bundle offers the one-time prekey that Bob holds. -/
theorem prekeyBundle_eq_ok {bundle : PreKeyBundle P} (published : bob.prekeyBundle = .ok bundle) :
    ∃ oneTimePrekey, bob.oneTimePrekey = some oneTimePrekey ∧
      bundle = {
        identityPublicKey := bob.identity.publicKey
        signedPrekeyPublicKey := bob.signedPrekey.publicKey
        signedPrekeySignature := bob.identity.signPrekey bob.signedPrekey.publicKey
        oneTimePrekeyId := oneTimePrekey.id
        oneTimePrekeyPublicKey := oneTimePrekey.keys.publicKey } := by
  cases present : bob.oneTimePrekey with
  | none => simp [prekeyBundle, present] at published
  | some oneTimePrekey =>
      rw [prekeyBundle, present] at published
      exact ⟨oneTimePrekey, rfl, (Except.ok.inj published).symm⟩

/-- A call of `decryptInitialMessage` fails, or it takes the prekey and returns what the
session of this prekey decrypts. -/
theorem decryptInitialMessage_cases (bob : Bob P) (message : InitialMessage P) :
    (∃ error reached, (decryptInitialMessage message).run bob = (.error error, reached) ∧
      (reached = bob ∨
        ∃ session, reached = { bob with oneTimePrekey := none, session := some session })) ∨
    ∃ text oneTimePrekey session,
      (decryptInitialMessage message).run bob =
        (.ok text, { bob with oneTimePrekey := none, session := some session }) ∧
      bob.oneTimePrekey = some oneTimePrekey ∧
      ((RatchetSession.decrypt message.message).run
        (bob.initialSession oneTimePrekey message)).1 = .ok text := by
  by_cases named : ∃ oneTimePrekey, bob.oneTimePrekey = some oneTimePrekey ∧
      oneTimePrekey.id = message.oneTimePrekeyId
  · obtain ⟨oneTimePrekey, present, sameId⟩ := named
    have run := run_decryptInitialMessage present sameId
    dsimp only at run
    cases result : ((RatchetSession.decrypt message.message).run
        (bob.initialSession oneTimePrekey message)).1 with
    | ok text =>
        rw [result] at run
        exact .inr ⟨text, oneTimePrekey, _, run, present, result⟩
    | error error =>
        rw [result] at run
        exact .inl ⟨error, _, run, .inr ⟨_, rfl⟩⟩
  · left
    have unnamed : ∀ oneTimePrekey, bob.oneTimePrekey = some oneTimePrekey →
        oneTimePrekey.id ≠ message.oneTimePrekeyId :=
      fun oneTimePrekey present sameId => named ⟨oneTimePrekey, present, sameId⟩
    exact ⟨_, bob, run_decryptInitialMessage_of_unnamed unnamed, .inl rfl⟩

end Bob

/-! ## Runs -/

/-- What Bob returned: a bundle, or the text of an initial message. -/
inductive PrekeyRecord (P : Primitives) where
  | published (bundle : PreKeyBundle P)
  | accepted (message : InitialMessage P)

/-- Bob with his last exported state and the history of what he returned, oldest first.
`remembered` is what the Bob that runs returned in his own past, and `reflected` that up to the
last export.  `held` are the one-time public keys he ever had, and `current` says that he has
accepted no message since the last export. -/
structure PrekeyRun (P : Primitives) where
  bob : Bob P
  saved : BobState P
  held : List P.PublicKey
  current : Bool
  history : List (PrekeyRecord P)
  remembered : List (PrekeyRecord P)
  reflected : List (PrekeyRecord P)

inductive PrekeyEvent (P : Primitives) where
  | prekeyBundle
  | replenishOneTimePrekey (id : Nat) (generated : P.PrivateKey)
  | decryptInitialMessage (message : InitialMessage P)
  | exportState
  | restart

/-- The public half of the one-time prekey. -/
def Bob.oneTimePublicKey (bob : Bob P) : Option P.PublicKey :=
  bob.oneTimePrekey.map fun oneTimePrekey => oneTimePrekey.keys.publicKey

namespace PrekeyRecord

/-- The record offers the one-time public key, or is of a message sealed to it. -/
def Uses (publicKey : P.PublicKey) : PrekeyRecord P → Prop
  | published bundle => bundle.oneTimePrekeyPublicKey = publicKey
  | accepted message => message.SealedTo publicKey

/-- No one-time key that the earlier record spends is used by the later one. -/
def SingleUse (earlier later : PrekeyRecord P) : Prop :=
  ∀ message, earlier = accepted message → ∀ key : P.PrivateKey,
    message.SealedTo (P.publicKey key) → ¬ later.Uses (P.publicKey key)

end PrekeyRecord

namespace PrekeyRun

/-- Bob has exported the state he starts with. -/
def start (bob : Bob P) : PrekeyRun P where
  bob := bob
  saved := bob.exportState
  held := bob.oneTimePublicKey.toList
  current := true
  history := []
  remembered := []
  reflected := []

/-- Bob returns something. -/
def record (run : PrekeyRun P) (record : PrekeyRecord P) : PrekeyRun P :=
  { run with
    history := run.history ++ [record]
    remembered := run.remembered ++ [record] }

/-- A restart takes the past of the exported Bob. -/
def next (run : PrekeyRun P) : PrekeyEvent P → PrekeyRun P
  | .prekeyBundle =>
      match run.bob.prekeyBundle with
      | .ok bundle => run.record (.published bundle)
      | .error _ => run
  | .replenishOneTimePrekey id generated =>
      let bob := run.bob.replenishOneTimePrekey id generated
      { run with bob, held := bob.oneTimePublicKey.toList ++ run.held }
  | .decryptInitialMessage message =>
      match (Bob.decryptInitialMessage message).run run.bob with
      | (.ok _, bob) => { run.record (.accepted message) with bob, current := false }
      | (.error _, bob) => { run with bob }
  | .exportState =>
      { run with saved := run.bob.exportState, current := true, reflected := run.remembered }
  | .restart => { run with bob := .fromState run.saved, remembered := run.reflected }

/-- Bob as a restart makes him. -/
def restored (run : PrekeyRun P) : Bob P := .fromState run.saved

theorem restored_start (bob : Bob P) : (start bob).restored = bob :=
  bob.fromState_exportState

theorem restored_exportState (run : PrekeyRun P) : (run.next .exportState).restored = run.bob :=
  run.bob.fromState_exportState

/-- All runs in which a key that is generated was never held before. -/
def prekeys : System (PrekeyRun P) (PrekeyEvent P) where
  initial run := ∃ bob, run = start bob
  permitted run
    | .replenishOneTimePrekey _ generated =>
        run.bob.oneTimePrekey.isNone = true → P.publicKey generated ∉ run.held
    | _ => True
  next := next

/-- The runs in which Bob restarts only from a state that was exported after the last
message he accepted. -/
def prekeysInStep : System (PrekeyRun P) (PrekeyEvent P) :=
  prekeys.restrict fun run event => event = .restart → run.current = true

/-! ## One identity -/

variable {run : PrekeyRun P} {origin : Bob P}

/-- The bundle carries Bob's identity and signed prekey. -/
def Identifies (bob : Bob P) (bundle : PreKeyBundle P) : Prop :=
  bundle.identityPublicKey = bob.identity.publicKey ∧
    bundle.signedPrekeyPublicKey = bob.signedPrekey.publicKey ∧
    bundle.signedPrekeySignature = bob.identity.signPrekey bob.signedPrekey.publicKey

/-- The live and the exported Bob are the one the run started with, and so is the Bob of every
bundle. -/
structure SameBob (origin : Bob P) (run : PrekeyRun P) : Prop where
  live : run.bob.identity = origin.identity ∧ run.bob.signedPrekey = origin.signedPrekey
  restored : run.restored.identity = origin.identity ∧
    run.restored.signedPrekey = origin.signedPrekey
  identifies : ∀ bundle, .published bundle ∈ run.history → Identifies origin bundle

theorem SameBob.identifies_record (same : SameBob origin run) {record : PrekeyRecord P}
    (recorded : ∀ bundle, record = .published bundle → Identifies origin bundle) :
    ∀ bundle, .published bundle ∈ run.history ++ [record] → Identifies origin bundle := by
  intro bundle member
  rcases List.mem_append.mp member with before | new
  · exact same.identifies bundle before
  · exact recorded bundle (List.mem_singleton.mp new).symm

theorem SameBob.next (same : SameBob origin run) (event : PrekeyEvent P) :
    SameBob origin (run.next event) := by
  cases event with
  | prekeyBundle =>
      rw [PrekeyRun.next]
      split
      · next bundle published =>
          refine ⟨same.live, same.restored, same.identifies_record ?_⟩
          rintro _ ⟨⟩
          obtain ⟨oneTimePrekey, -, rfl⟩ := Bob.prekeyBundle_eq_ok published
          rw [Identifies, ← same.live.1, ← same.live.2]
          exact ⟨rfl, rfl, rfl⟩
      · exact same
  | replenishOneTimePrekey id generated =>
      refine ⟨?_, same.restored, same.identifies⟩
      change (run.bob.replenishOneTimePrekey id generated).identity = _ ∧
        (run.bob.replenishOneTimePrekey id generated).signedPrekey = _
      rw [Bob.replenishOneTimePrekey]
      split <;> exact same.live
  | decryptInitialMessage message =>
      rw [PrekeyRun.next]
      rcases run.bob.decryptInitialMessage_cases message with
        ⟨error, reached, failed, rfl | ⟨session, rfl⟩⟩ |
          ⟨text, oneTimePrekey, session, accepted, -⟩
      · rw [failed]
        exact same
      · rw [failed]
        exact ⟨same.live, same.restored, same.identifies⟩
      · rw [accepted]
        refine ⟨same.live, same.restored, same.identifies_record ?_⟩
        rintro _ ⟨⟩
  | exportState =>
      refine ⟨same.live, ?_, same.identifies⟩
      rw [restored_exportState]
      exact same.live
  | restart => exact ⟨same.restored, same.restored, same.identifies⟩

theorem sameBob_of_reachable (reachable : prekeys.Reachable run) :
    ∃ origin, SameBob origin run := by
  obtain ⟨_, ⟨origin, rfl⟩, reaches⟩ := reachable
  refine ⟨origin, reaches.invariant ⟨⟨rfl, rfl⟩, ?_, nofun⟩ fun _ event same _ => same.next event⟩
  rw [restored_start]
  exact ⟨rfl, rfl⟩

/-! ## Single use -/

/-- No accepted message is sealed to the key. -/
def Unspent (history : List (PrekeyRecord P)) (publicKey : P.PublicKey) : Prop :=
  ∀ message, .accepted message ∈ history → ¬ message.SealedTo publicKey

/-- Accepted messages are sealed to keys that were held, Bob's key is not among them, and no
key is used after it was spent. -/
structure SpendsOnce (keys : List P.PublicKey) (bob : Bob P) (history : List (PrekeyRecord P)) :
    Prop where
  held : ∀ message, .accepted message ∈ history → ∀ key : P.PrivateKey,
    message.SealedTo (P.publicKey key) → P.publicKey key ∈ keys
  unspent : ∀ publicKey, bob.oneTimePublicKey = some publicKey →
    publicKey ∈ keys ∧ Unspent history publicKey
  singleUse : history.Pairwise PrekeyRecord.SingleUse

/-- The Bob that runs and the exported one use every key once in their own past. -/
structure UsedOnce (run : PrekeyRun P) : Prop where
  live : SpendsOnce run.held run.bob run.remembered
  restored : SpendsOnce run.held run.restored run.reflected

namespace SpendsOnce

variable {keys : List P.PublicKey} {bob other : Bob P} {history : List (PrekeyRecord P)}

theorem mono (once : SpendsOnce keys bob history) (more : List P.PublicKey) :
    SpendsOnce (more ++ keys) bob history where
  held message member key sealedTo :=
    List.mem_append_right _ (once.held message member key sealedTo)
  unspent publicKey holds :=
    ⟨List.mem_append_right _ (once.unspent publicKey holds).1, (once.unspent publicKey holds).2⟩
  singleUse := once.singleUse

/-- A record that uses an unspent key may be added. -/
theorem pairwise_append (once : SpendsOnce keys bob history) {record : PrekeyRecord P}
    {publicKey : P.PublicKey} (unspent : Unspent history publicKey)
    (uses : ∀ key : P.PrivateKey, record.Uses (P.publicKey key) → P.publicKey key = publicKey) :
    (history ++ [record]).Pairwise PrekeyRecord.SingleUse := by
  rw [List.pairwise_append]
  refine ⟨once.singleUse, List.pairwise_singleton _ _, ?_⟩
  rintro earlier member later new message rfl key sealedTo used
  obtain rfl := List.mem_singleton.mp new
  rw [uses key used] at sealedTo
  exact unspent message member sealedTo

/-- Bob publishes the key that he holds. -/
theorem publish (once : SpendsOnce keys bob history) {bundle : PreKeyBundle P}
    (published : bob.prekeyBundle = .ok bundle) :
    SpendsOnce keys bob (history ++ [.published bundle]) := by
  obtain ⟨oneTimePrekey, present, rfl⟩ := Bob.prekeyBundle_eq_ok published
  have offered : bob.oneTimePublicKey = some oneTimePrekey.keys.publicKey := by
    rw [Bob.oneTimePublicKey, present]
    rfl
  have accepted_mem {message : InitialMessage P} {bundle : PreKeyBundle P}
      (member : .accepted message ∈ history ++ [.published bundle]) :
      .accepted message ∈ history :=
    (List.mem_append.mp member).resolve_right fun new => by cases List.mem_singleton.mp new
  refine ⟨fun message member => once.held message (accepted_mem member), ?_,
    once.pairwise_append (once.unspent _ offered).2 fun key used => used.symm⟩
  intro publicKey holds
  obtain ⟨inHeld, unspent⟩ := once.unspent publicKey holds
  exact ⟨inHeld, fun message member => unspent message (accepted_mem member)⟩

/-- A prekey that is generated was never held before. -/
theorem replenish (once : SpendsOnce keys bob history) {id : Nat} {generated : P.PrivateKey}
    (fresh : bob.oneTimePrekey.isNone = true → P.publicKey generated ∉ keys) :
    SpendsOnce ((bob.replenishOneTimePrekey id generated).oneTimePublicKey.toList ++ keys)
      (bob.replenishOneTimePrekey id generated) history := by
  refine ⟨(once.mono _).held, fun publicKey holds =>
    ⟨List.mem_append_left _ (Option.mem_toList.mpr holds), ?_⟩, once.singleUse⟩
  rw [Bob.replenishOneTimePrekey] at holds
  split at holds
  · exact (once.unspent publicKey holds).2
  · next absent =>
      obtain rfl : P.publicKey generated = publicKey := Option.some.inj holds
      intro message member sealedTo
      rw [absent] at fresh
      exact fresh rfl (once.held message member generated sealedTo)

/-- Bob without a prekey. -/
theorem spent (once : SpendsOnce keys bob history) (absent : other.oneTimePublicKey = none) :
    SpendsOnce keys other history :=
  ⟨once.held, fun _ holds => (nomatch absent.symm.trans holds), once.singleUse⟩

/-- Bob accepts a message with the key that he holds. -/
theorem accept (ideal : P.Ideal) (injective : P.DhInjective) (once : SpendsOnce keys bob history)
    {message : InitialMessage P} {oneTimePrekey : OneTimePreKey P} {text : String}
    (present : bob.oneTimePrekey = some oneTimePrekey)
    (success : ((RatchetSession.decrypt message.message).run
      (bob.initialSession oneTimePrekey message)).1 = .ok text)
    (absent : other.oneTimePublicKey = none) :
    SpendsOnce keys other (history ++ [.accepted message]) := by
  have taken : bob.oneTimePublicKey = some oneTimePrekey.keys.publicKey := by
    rw [Bob.oneTimePublicKey, present]
    rfl
  have sealedTo_taken : ∀ key : P.PrivateKey, message.SealedTo (P.publicKey key) →
      P.publicKey key = oneTimePrekey.keys.publicKey :=
    fun key => Bob.publicKey_eq_of_sealedTo ideal injective success
  obtain ⟨inHeld, unspent⟩ := once.unspent _ taken
  refine ⟨?_, fun _ holds => (nomatch absent.symm.trans holds),
    once.pairwise_append unspent sealedTo_taken⟩
  intro found member key sealedTo
  rcases List.mem_append.mp member with before | new
  · exact once.held found before key sealedTo
  · obtain rfl := PrekeyRecord.accepted.inj (List.mem_singleton.mp new)
    rw [sealedTo_taken key sealedTo]
    exact inHeld

end SpendsOnce

/-- One step of any run keeps every one-time prekey used once. -/
theorem UsedOnce.next (ideal : P.Ideal) (injective : P.DhInjective) (once : UsedOnce run)
    {event : PrekeyEvent P} (permitted : prekeys.permitted run event) :
    UsedOnce (run.next event) := by
  cases event with
  | prekeyBundle =>
      rw [PrekeyRun.next]
      split
      · next bundle published => exact ⟨once.live.publish published, once.restored⟩
      · exact once
  | replenishOneTimePrekey id generated =>
      exact ⟨once.live.replenish permitted, once.restored.mono _⟩
  | decryptInitialMessage message =>
      rw [PrekeyRun.next]
      rcases run.bob.decryptInitialMessage_cases message with
        ⟨error, reached, failed, rfl | ⟨session, rfl⟩⟩ |
          ⟨text, oneTimePrekey, session, accepted, present, success⟩
      · rw [failed]
        exact once
      · rw [failed]
        exact ⟨once.live.spent rfl, once.restored⟩
      · rw [accepted]
        exact ⟨once.live.accept ideal injective present success rfl, once.restored⟩
  | exportState =>
      refine ⟨once.live, ?_⟩
      rw [restored_exportState]
      exact once.live
  | restart => exact ⟨once.restored, once.restored⟩

theorem UsedOnce.start (bob : Bob P) : UsedOnce (start bob) := by
  have once : SpendsOnce bob.oneTimePublicKey.toList bob [] :=
    ⟨nofun, fun publicKey holds => ⟨Option.mem_toList.mpr holds, nofun⟩, .nil⟩
  refine ⟨once, ?_⟩
  rw [restored_start]
  exact once

theorem usedOnce_of_reachable (ideal : P.Ideal) (injective : P.DhInjective)
    (reachable : prekeys.Reachable run) : UsedOnce run := by
  refine reachable.invariant UsedOnce ?_ fun _ _ once permitted =>
    once.next ideal injective permitted
  rintro _ ⟨bob, rfl⟩
  exact .start bob

/-- With restarts in step Bob remembers every message that he accepted. -/
structure Recalls (run : PrekeyRun P) : Prop where
  remembered : ∀ message, .accepted message ∈ run.history → .accepted message ∈ run.remembered
  reflected : run.current = true →
    ∀ message, .accepted message ∈ run.history → .accepted message ∈ run.reflected
  singleUse : run.history.Pairwise PrekeyRecord.SingleUse

/-- What Bob remembers is used once, and so is what he returned. -/
theorem Recalls.pairwise_append (recalls : Recalls run) {record : PrekeyRecord P}
    (once : (run.remembered ++ [record]).Pairwise PrekeyRecord.SingleUse) :
    (run.history ++ [record]).Pairwise PrekeyRecord.SingleUse := by
  rw [List.pairwise_append] at once ⊢
  refine ⟨recalls.singleUse, List.pairwise_singleton _ _, ?_⟩
  rintro earlier member later new message rfl
  exact once.2.2 _ (recalls.remembered message member) later new message rfl

theorem Recalls.mem_remembered (recalls : Recalls run) {record : PrekeyRecord P}
    (message : InitialMessage P) (member : .accepted message ∈ run.history ++ [record]) :
    .accepted message ∈ run.remembered ++ [record] :=
  List.mem_append.mpr ((List.mem_append.mp member).imp_left (recalls.remembered message))

/-- One step of a run in step. -/
theorem Recalls.next (recalls : Recalls run) {event : PrekeyEvent P}
    (permitted : prekeysInStep.permitted run event) (once : UsedOnce (run.next event)) :
    Recalls (run.next event) := by
  cases event with
  | prekeyBundle =>
      rw [PrekeyRun.next] at once ⊢
      split at once
      · next bundle published =>
          refine ⟨recalls.mem_remembered, fun current message member => ?_,
            recalls.pairwise_append once.live.singleUse⟩
          refine recalls.reflected current message ((List.mem_append.mp member).resolve_right ?_)
          exact fun new => by cases List.mem_singleton.mp new
      · exact recalls
  | replenishOneTimePrekey id generated =>
      exact ⟨recalls.remembered, recalls.reflected, recalls.singleUse⟩
  | decryptInitialMessage message =>
      rw [PrekeyRun.next] at once ⊢
      split at once
      · exact ⟨recalls.mem_remembered, nofun, recalls.pairwise_append once.live.singleUse⟩
      · exact ⟨recalls.remembered, recalls.reflected, recalls.singleUse⟩
  | exportState =>
      exact ⟨recalls.remembered, fun _ => recalls.remembered, recalls.singleUse⟩
  | restart =>
      have current := permitted.2 rfl
      exact ⟨recalls.reflected current, fun _ => recalls.reflected current, recalls.singleUse⟩

/-- One-time prekeys are single use.  All bundles of a run carry one identity and signed
prekey, and a key to which an accepted message is sealed is offered or opens a message again
only after a restart that makes Bob forget the message; in runs whose restarts reflect every
accepted message, never. -/
theorem oneTimePrekeys_singleUse (ideal : P.Ideal) (injective : P.DhInjective)
    (run : PrekeyRun P) :
    (prekeys.Reachable run →
      (∀ first second, .published first ∈ run.history → .published second ∈ run.history →
        first.identityPublicKey = second.identityPublicKey ∧
          first.signedPrekeyPublicKey = second.signedPrekeyPublicKey ∧
          first.signedPrekeySignature = second.signedPrekeySignature) ∧
      run.remembered.Pairwise PrekeyRecord.SingleUse) ∧
    (prekeysInStep.Reachable run → run.history.Pairwise PrekeyRecord.SingleUse) := by
  constructor
  · intro reachable
    refine ⟨fun first second firstPublished secondPublished => ?_,
      (usedOnce_of_reachable ideal injective reachable).live.singleUse⟩
    obtain ⟨origin, same⟩ := sameBob_of_reachable reachable
    obtain ⟨firstIdentity, firstKey, firstSignature⟩ := same.identifies first firstPublished
    obtain ⟨identity, key, signature⟩ := same.identifies second secondPublished
    rw [firstIdentity, firstKey, firstSignature, identity, key, signature]
    exact ⟨rfl, rfl, rfl⟩
  · intro reachable
    have recalls : UsedOnce run ∧ Recalls run := by
      refine reachable.invariant (fun run => UsedOnce run ∧ Recalls run) ?_ ?_
      · rintro _ ⟨bob, rfl⟩
        exact ⟨.start bob, nofun, fun _ => nofun, .nil⟩
      · rintro run event ⟨once, recalls⟩ permitted
        have next := once.next ideal injective permitted.1
        exact ⟨next, recalls.next permitted next⟩
    exact recalls.2.singleUse

end PrekeyRun

/-! ## Concrete runs -/

namespace Symbolic

/-- What `receivingBob` publishes. -/
def receivingBundle : PreKeyBundle primitives where
  identityPublicKey := bob.identity.publicKey
  signedPrekeyPublicKey := bob.signedPrekey.publicKey
  signedPrekeySignature := bob.identity.signPrekey bob.signedPrekey.publicKey
  oneTimePrekeyId := 1
  oneTimePrekeyPublicKey := Bytes.ofText "prekey"

/-- The message with which Alice answers this bundle. -/
def initialGreeting : InitialMessage primitives :=
  let initialKey : primitives.PrivateKey := Bytes.ofText "initial"
  let rootKey := primitives.hkdf none
    [primitives.diffieHellman initialKey receivingBundle.signedPrekeyPublicKey,
      primitives.diffieHellman initialKey receivingBundle.oneTimePrekeyPublicKey]
    prekeyHkdfInfo 0
  { aliceInitialPublicKey := primitives.publicKey initialKey
    oneTimePrekeyId := 1
    message := {
      number := 0
      ratchetPublicKey := primitives.publicKey initialKey
      ciphertext := {
        key := (Epoch.initial rootKey).messageKey .alice 0
        nonce := nonceFor 0
        aad := ratchetAad 0 (primitives.publicKey initialKey)
        message := .ofText "hello" } } }

theorem initialGreeting_sealedTo :
    initialGreeting.SealedTo (primitives.publicKey (Bytes.ofText "prekey")) := by
  have answered : (Alice.encryptInitialMessage receivingBundle "hello"
      (Bytes.ofText "initial")).run alice = (.ok initialGreeting, _) := rfl
  exact Alice.sealedTo_of_encryptInitialMessage answered

/-- Bob accepts the greeting, is given it again, and publishes a second prekey under the id of
the first. -/
def reusedId : List (PrekeyEvent primitives) :=
  [.prekeyBundle, .decryptInitialMessage initialGreeting, .decryptInitialMessage initialGreeting,
    .replenishOneTimePrekey 1 (Bytes.ofText "second"), .exportState, .restart, .prekeyBundle,
    .decryptInitialMessage initialGreeting]

theorem reusedId_singleUse :
    ∃ run : PrekeyRun primitives,
      run.history = [.published receivingBundle, .accepted initialGreeting,
        .published { receivingBundle with oneTimePrekeyPublicKey := Bytes.ofText "second" }] ∧
      run.history.Pairwise PrekeyRecord.SingleUse := by
  have permits : PrekeyRun.prekeysInStep.Permits (.start receivingBob) reusedId :=
    ⟨⟨trivial, nofun⟩, ⟨trivial, nofun⟩, ⟨trivial, nofun⟩, ⟨fun _ => by decide, nofun⟩,
      ⟨trivial, nofun⟩, ⟨trivial, fun _ => rfl⟩, ⟨trivial, nofun⟩, ⟨trivial, nofun⟩, trivial⟩
  exact ⟨_, rfl, (PrekeyRun.oneTimePrekeys_singleUse ideal dhInjective _).2
    ⟨_, ⟨_, rfl⟩, permits.reaches⟩⟩

/-- A restart from the state that was exported before Bob accepted the greeting makes him
accept it again. -/
theorem prekey_used_again_after_stale_restart :
    ∃ run : PrekeyRun primitives, PrekeyRun.prekeys.Reachable run ∧
      run.history = [.accepted initialGreeting, .published receivingBundle,
        .accepted initialGreeting] ∧
      ¬ run.history.Pairwise PrekeyRecord.SingleUse := by
  have permits : PrekeyRun.prekeys.Permits (.start receivingBob)
      [.decryptInitialMessage initialGreeting, .restart, .prekeyBundle,
        .decryptInitialMessage initialGreeting] :=
    ⟨trivial, trivial, trivial, trivial, trivial⟩
  refine ⟨_, ⟨_, ⟨_, rfl⟩, permits.reaches⟩, rfl, ?_⟩
  intro singleUse
  exact List.rel_of_pairwise_cons singleUse (List.mem_cons_self ..) initialGreeting rfl
    (Bytes.ofText "prekey") initialGreeting_sealedTo rfl

end Symbolic

end CipherMesh
