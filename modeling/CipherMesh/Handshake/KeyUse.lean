import CipherMesh.Handshake.Established
import CipherMesh.Ratchet.Invariant

/-!
# Key and nonce use across sessions

Any number of devices and actors create sessions from their static keys, in either
role and repeatedly, and use them.  `used` records the message key and the nonce of
every call of `encrypt`.  Sessions of one role over one root key derive the same
message keys, so the pairs stay distinct as long as only one session object of
each role encrypts under a root key.
-/

namespace CipherMesh

open Foundation
open Foundation.Mutation
open RatchetSession

variable {P : Primitives}

/-- The ways to create a session from static keys. -/
inductive Creation (P : Primitives) where
  | outbound (device : DeviceIdentity P) (remoteAccountPublicKey : P.IdentityKey)
      (remoteCertificate : DeviceCertificate P)
  | inbound (device : DeviceIdentity P) (remoteDeviceId : DeviceId)
      (remoteDeviceX25519PublicKey : P.PublicKey)
  | aliceDerives (alice : Alice P) (bobExchange : SignedKeyExchange P)
  | bobDerives (bob : Bob P) (aliceExchange : SignedKeyExchange P)

/-- The created session, if the handshake succeeds. -/
def Creation.session : Creation P → Option (RatchetSession P)
  | outbound device remoteAccountPublicKey remoteCertificate =>
      (device.createOutboundSession remoteAccountPublicKey remoteCertificate).toOption.map
        (·.session)
  | inbound device remoteDeviceId remoteDeviceX25519PublicKey =>
      (device.createInboundSession remoteDeviceId remoteDeviceX25519PublicKey).toOption.map
        (·.session)
  | aliceDerives alice bobExchange =>
      match (Alice.deriveSessionKey bobExchange).run alice with
      | (.ok (), reached) => reached.session
      | (.error _, _) => none
  | bobDerives bob aliceExchange =>
      match (Bob.deriveSessionKey aliceExchange).run bob with
      | (.ok (), reached) => reached.session
      | (.error _, _) => none

/-- A call of `encrypt`: which session object made it, in which role and under which
root key, and the key and nonce it sealed with. -/
structure KeyUse (P : Primitives) where
  session : Nat
  role : RatchetRole
  rootKey : P.Block
  messageKey : P.Block
  nonce : Bytes

/-- The key and the nonce of the use. -/
def KeyUse.pair (use : KeyUse P) : P.Block × Bytes := (use.messageKey, use.nonce)

/-- All session objects in the order of their creation, and all calls of `encrypt`. -/
structure Fleet (P : Primitives) where
  sessions : List (RatchetSession P)
  used : List (KeyUse P)

inductive FleetEvent (P : Primitives) where
  | create (creation : Creation P)
  | encrypt (index : Nat) (text : String)
  | decrypt (index : Nat) (message : RatchetMessage P)
  | rotate (index : Nat) (generated : P.PrivateKey)

namespace Fleet

/-- The key and nonce with which the session seals its next message. -/
def nextUse (index : Nat) (session : RatchetSession P) : KeyUse P where
  session := index
  role := session.role
  rootKey := session.rootKey
  messageKey := chainMessageKey session.sendChainKey
  nonce := nonceFor session.sendCount

/-- `nextUse` is what `encrypt` seals with. -/
theorem sealNext_eq (index : Nat) (session : RatchetSession P) (text : String) :
    session.sealNext text =
      P.aeadSeal (nextUse index session).messageKey (nextUse index session).nonce
        (ratchetAad session.sendCount session.dhKeys.publicKey) (.ofText text) := rfl

def next (fleet : Fleet P) : FleetEvent P → Fleet P
  | .create creation => { fleet with sessions := fleet.sessions ++ creation.session.toList }
  | .encrypt index text =>
      match fleet.sessions[index]? with
      | none => fleet
      | some session => {
          sessions := fleet.sessions.set index ((encrypt text).run session).2
          used := nextUse index session :: fleet.used }
  | .decrypt index message =>
      match fleet.sessions[index]? with
      | none => fleet
      | some session =>
          { fleet with
            sessions := fleet.sessions.set index ((decrypt message).run session).2 }
  | .rotate index generated =>
      match fleet.sessions[index]? with
      | none => fleet
      | some session =>
          { fleet with
            sessions := fleet.sessions.set index
              ((rotateSendingRatchet generated).run session).2 }

/-- All runs. -/
def operations : System (Fleet P) (FleetEvent P) where
  initial fleet := fleet = ⟨[], []⟩
  permitted _ _ := True
  next := next

/-- No other session object in the same role has encrypted under the root key of
session `index`. -/
def Undisputed (fleet : Fleet P) (index : Nat) : Prop :=
  ∀ session, fleet.sessions[index]? = some session →
    ∀ use ∈ fleet.used, use.rootKey = session.rootKey → use.role = session.role →
      use.session = index

/-- The runs in which a session object encrypts only while its root key is
undisputed. -/
def undisputedOperations : System (Fleet P) (FleetEvent P) where
  initial := operations.initial
  permitted fleet event := ∀ index text, event = .encrypt index text → fleet.Undisputed index
  next := next

/-! ## The invariant -/

/-- The message key of the use is the one of this epoch and number. -/
structure Placed (use : KeyUse P) (epoch : Epoch P) (number : Nat) : Prop where
  grounded : Epoch.HandshakeRoot epoch.base
  rootKey : use.rootKey = epoch.rootKey
  messageKey : use.messageKey = epoch.messageKey use.role number

/-- The use lies behind the sending position of a session. -/
def Behind (use : KeyUse P) (session : RatchetSession P) (epoch : Epoch P) : Prop :=
  use.role = session.role ∧ ∃ origin number, Placed use origin number ∧
    (origin.depth < epoch.depth ∨ (origin = epoch ∧ number < session.sendCount))

/-- The session is in an epoch below a handshake root, and the uses it made lie
behind it. -/
def Tracked (used : List (KeyUse P)) (index : Nat) (session : RatchetSession P) : Prop :=
  ∃ epoch, session.AtEpoch epoch ∧ Epoch.HandshakeRoot epoch.base ∧
    ∀ use ∈ used, use.session = index → Behind use session epoch

structure Distinct (fleet : Fleet P) : Prop where
  tracked : ∀ {index session}, fleet.sessions[index]? = some session →
    Tracked fleet.used index session
  placed : ∀ {use}, use ∈ fleet.used → ∃ epoch number, Placed use epoch number
  session_lt : ∀ {use}, use ∈ fleet.used → use.session < fleet.sessions.length
  nodup : (fleet.used.map KeyUse.messageKey).Nodup

variable {fleet : Fleet P}

/-- Replacing one session by a tracked one keeps the invariant. -/
theorem Distinct.set (distinct : Distinct fleet) {index : Nat} {session : RatchetSession P}
    (tracked : Tracked fleet.used index session) :
    Distinct { fleet with sessions := fleet.sessions.set index session } where
  tracked := by
    intro other found present
    rw [List.getElem?_set] at present
    split at present
    · next same =>
        subst same
        split at present
        · obtain rfl := Option.some.inj present
          exact tracked
        · cases present
    · exact distinct.tracked present
  placed := distinct.placed
  session_lt := fun member => by
    rw [List.length_set]
    exact distinct.session_lt member
  nodup := distinct.nodup

theorem Creation.session_fresh {creation : Creation P} {session : RatchetSession P}
    (created : creation.session = some session) :
    ∃ rootKey role dhKeys publicKey, Epoch.HandshakeRoot rootKey ∧
      session = fresh rootKey role dhKeys publicKey := by
  cases creation with
  | outbound device accountPublicKey certificate =>
      rw [Creation.session] at created
      cases outcome : device.createOutboundSession accountPublicKey certificate with
      | error error => simp [outcome, Except.toOption] at created
      | ok device =>
          simp only [outcome, Except.toOption, Option.map_some, Option.some.injEq] at created
          rw [← created, DeviceIdentity.createOutboundSession_eq outcome]
          exact ⟨_, _, _, _, ⟨_, _, _, rfl⟩, rfl⟩
  | inbound device remoteId publicKey =>
      rw [Creation.session, DeviceIdentity.createInboundSession_eq] at created
      simp only [Except.toOption, Option.map_some, Option.some.injEq] at created
      rw [← created]
      exact ⟨_, _, _, _, ⟨_, _, _, rfl⟩, rfl⟩
  | aliceDerives alice exchange =>
      rw [Creation.session] at created
      split at created
      · next success =>
          rw [Alice.run_deriveSessionKey success] at created
          exact ⟨_, _, _, _, ⟨_, _, _, rfl⟩, (Option.some.inj created).symm⟩
      · cases created
  | bobDerives bob exchange =>
      rw [Creation.session] at created
      split at created
      · next success =>
          rw [Bob.run_deriveSessionKey success] at created
          exact ⟨_, _, _, _, ⟨_, _, _, rfl⟩, (Option.some.inj created).symm⟩
      · cases created

theorem Distinct.create (distinct : Distinct fleet) (creation : Creation P) :
    Distinct (fleet.next (.create creation)) := by
  rw [next]
  cases created : creation.session with
  | none => simpa using distinct
  | some session =>
      refine ⟨?_, distinct.placed, ?_, distinct.nodup⟩
      · intro index found present
        rw [Option.toList_some, List.getElem?_append] at present
        split at present
        · exact distinct.tracked present
        · next beyond =>
            obtain ⟨here, rfl⟩ : index - fleet.sessions.length = 0 ∧ session = found := by
              rw [List.getElem?_singleton] at present
              split at present
              · next zero => exact ⟨zero, Option.some.inj present⟩
              · cases present
            obtain ⟨rootKey, role, dhKeys, publicKey, grounded, rfl⟩ :=
              Creation.session_fresh created
            refine ⟨_, .fresh rootKey role dhKeys publicKey, grounded, ?_⟩
            intro use member same
            have bound := distinct.session_lt member
            omega
      · intro use member
        rw [List.length_append]
        exact Nat.lt_add_right _ (distinct.session_lt member)

/-- What lies behind a session stays behind it when it moves on. -/
theorem Behind.mono {use : KeyUse P} {session later : RatchetSession P}
    {epoch laterEpoch : Epoch P} (behind : Behind use session epoch)
    (role : later.role = session.role)
    (moved : epoch.depth < laterEpoch.depth ∨
      (laterEpoch = epoch ∧ session.sendCount ≤ later.sendCount)) :
    Behind use later laterEpoch := by
  obtain ⟨sameRole, origin, number, placed, place⟩ := behind
  refine ⟨sameRole.trans role.symm, origin, number, placed, ?_⟩
  rcases moved with deeper | ⟨rfl, count⟩
  · rcases place with earlier | ⟨rfl, _⟩
    · exact .inl (earlier.trans deeper)
    · exact .inl deeper
  · rcases place with earlier | ⟨rfl, below⟩
    · exact .inl earlier
    · exact .inr ⟨rfl, Nat.lt_of_lt_of_le below count⟩

theorem Tracked.decrypt {used : List (KeyUse P)} {index : Nat} {session : RatchetSession P}
    (tracked : Tracked used index session) (message : RatchetMessage P) :
    Tracked used index ((RatchetSession.decrypt message).run session).2 := by
  obtain ⟨epoch, invariant, grounded, behind⟩ := tracked
  have outcome := decrypt_outcome invariant.toWellFormed message
  obtain ⟨role, _, _, count, _, _⟩ := outcome.frame
  refine ⟨_, invariant.decrypt message, ?_, ?_⟩
  · unfold enteredEpoch
    split <;> exact grounded
  · intro use member same
    refine (behind use member same).mono (role.trans (entered_role _)) ?_
    rcases session.enteredEpoch_cases epoch message.ratchetPublicKey with
      ⟨sameEpoch, sameSession⟩ | deeper
    · rw [sameSession] at count
      exact .inr ⟨sameEpoch, count.symm.le⟩
    · exact .inl deeper

theorem Tracked.rotated {used : List (KeyUse P)} {index : Nat} {session : RatchetSession P}
    (tracked : Tracked used index session) (generated : P.PrivateKey) :
    Tracked used index (session.rotated generated) := by
  obtain ⟨epoch, invariant, grounded, behind⟩ := tracked
  exact ⟨_, invariant.rotated generated, grounded, fun use member same =>
    (behind use member same).mono rfl (.inl (Nat.lt_succ_self _))⟩

/-- An undisputed session seals its next message under a new key. -/
theorem Distinct.new_messageKey (injective : P.HkdfInjective) (distinct : Distinct fleet)
    {index : Nat} {session : RatchetSession P} (present : fleet.sessions[index]? = some session)
    (undisputed : fleet.Undisputed index) :
    (nextUse index session).messageKey ∉ fleet.used.map KeyUse.messageKey := by
  intro member
  obtain ⟨use, used, same⟩ := List.mem_map.mp member
  obtain ⟨epoch, invariant, grounded, behind⟩ := distinct.tracked present
  have nextKey : (nextUse index session).messageKey =
      epoch.messageKey session.role session.sendCount :=
    congrArg chainMessageKey invariant.sendChainKey
  -- The root key and the role agree, so the session made the earlier use itself.
  have own : use.session = index := by
    obtain ⟨origin, number, placed⟩ := distinct.placed used
    obtain ⟨rootEqual, roleEqual, _⟩ := Epoch.messageKey_injective injective
      (placed.messageKey.symm.trans (same.trans nextKey))
    refine undisputed session present use used ?_ roleEqual
    rw [placed.rootKey, rootEqual, invariant.rootKey]
  obtain ⟨_, origin, number, placed, place⟩ := behind use used own
  obtain ⟨rootEqual, _, numberEqual⟩ := Epoch.messageKey_injective injective
    (placed.messageKey.symm.trans (same.trans nextKey))
  have sameEpoch : origin = epoch :=
    Epoch.rootKey_injective injective placed.grounded grounded rootEqual
  rcases place with earlier | ⟨_, below⟩
  · rw [sameEpoch] at earlier
    exact lt_irrefl _ earlier
  · rw [numberEqual] at below
    exact lt_irrefl _ below

theorem Distinct.encrypt (injective : P.HkdfInjective) (distinct : Distinct fleet)
    {index : Nat} {text : String} (undisputed : fleet.Undisputed index) :
    Distinct (fleet.next (.encrypt index text)) := by
  rw [next]
  cases present : fleet.sessions[index]? with
  | none => exact distinct
  | some session =>
      have new := distinct.new_messageKey injective present undisputed
      obtain ⟨epoch, invariant, grounded, behind⟩ := distinct.tracked present
      have placed : Placed (nextUse index session) epoch session.sendCount :=
        ⟨grounded, invariant.rootKey, congrArg chainMessageKey invariant.sendChainKey⟩
      have inRange : index < fleet.sessions.length :=
        (List.getElem?_eq_some_iff.mp present).1
      simp only [run_encrypt_state]
      refine ⟨?_, ?_, ?_, List.nodup_cons.mpr ⟨new, distinct.nodup⟩⟩
      · intro other found foundAt
        rw [List.getElem?_set] at foundAt
        split at foundAt
        · next same =>
            subst same
            obtain rfl := Option.some.inj foundAt
            refine ⟨epoch, invariant.sent, grounded, ?_⟩
            intro use member own
            rcases List.mem_cons.mp member with rfl | before
            · exact ⟨rfl, epoch, session.sendCount, placed, .inr ⟨rfl, Nat.lt_succ_self _⟩⟩
            · exact (behind use before own).mono rfl (.inr ⟨rfl, Nat.le_succ _⟩)
        · next different =>
            obtain ⟨otherEpoch, otherInvariant, otherGrounded, otherBehind⟩ :=
              distinct.tracked foundAt
            refine ⟨otherEpoch, otherInvariant, otherGrounded, ?_⟩
            intro use member own
            rcases List.mem_cons.mp member with rfl | before
            · exact absurd own different
            · exact otherBehind use before own
      · intro use member
        rcases List.mem_cons.mp member with rfl | before
        · exact ⟨epoch, session.sendCount, placed⟩
        · exact distinct.placed before
      · intro use member
        rw [List.length_set]
        rcases List.mem_cons.mp member with rfl | before
        · exact inRange
        · exact distinct.session_lt before

/-! ## Distinct pairs -/

/-- In every run in which session objects encrypt only under undisputed root keys, no
two calls of `encrypt` use the same message key and nonce. -/
theorem key_nonce_nodup (injective : P.HkdfInjective)
    (reachable : undisputedOperations.Reachable fleet) :
    (fleet.used.map KeyUse.pair).Nodup := by
  have distinct : Distinct fleet := by
    apply reachable.invariant
    · rintro start rfl
      exact ⟨fun present => by simp at present, fun member => absurd member List.not_mem_nil,
        fun member => absurd member List.not_mem_nil, List.nodup_nil⟩
    · intro fleet event distinct undisputed
      cases event with
      | create creation => exact distinct.create creation
      | encrypt index text => exact distinct.encrypt injective (undisputed index text rfl)
      | decrypt index message =>
          change Distinct (fleet.next (.decrypt index message))
          rw [next]
          cases present : fleet.sessions[index]? with
          | none => exact distinct
          | some session => exact distinct.set ((distinct.tracked present).decrypt message)
      | rotate index generated =>
          change Distinct (fleet.next (.rotate index generated))
          rw [next]
          cases present : fleet.sessions[index]? with
          | none => exact distinct
          | some session =>
              have rotated := (distinct.tracked present).rotated generated
              simp only [run_rotateSendingRatchet]
              exact distinct.set rotated
  have keys := distinct.nodup
  rw [List.Nodup, List.pairwise_map] at keys ⊢
  exact keys.imp fun different same => different (Prod.mk.inj same).1

/-! ## Two sessions over one root key -/

/-- Alice derives her session with Bob. -/
def derivation : FleetEvent Symbolic.primitives :=
  .create (.aliceDerives Symbolic.alice Symbolic.bob.signedKeyExchange)

theorem one_session_nodup :
    ((undisputedOperations.run ⟨[], []⟩
      [derivation, .encrypt 0 "first", .encrypt 0 "second"]).used.map
        KeyUse.pair).Nodup := by
  have events : undisputedOperations.Permits ⟨[], []⟩
      [derivation, .encrypt 0 "first", .encrypt 0 "second"] := by
    refine ⟨?_, ?_, ?_, trivial⟩
    · rintro index text equal
      cases equal
    · rintro index text - session - use member
      exact absurd member List.not_mem_nil
    · rintro index text equal session - use member - -
      cases equal
      exact congrArg KeyUse.session (List.mem_singleton.mp member)
  exact key_nonce_nodup Symbolic.hkdfInjective ⟨_, rfl, events.reaches⟩

/-- Deriving the session twice and encrypting once with either object seals twice
under one key and nonce. -/
theorem rederived_session_repeats_key :
    ∃ fleet : Fleet Symbolic.primitives, operations.Reachable fleet ∧ fleet.used.length = 2 ∧
      ¬ (fleet.used.map KeyUse.pair).Nodup := by
  have events : operations.Permits ⟨[], []⟩
      [derivation, derivation, .encrypt 0 "first", .encrypt 1 "second"] :=
    ⟨trivial, trivial, trivial, trivial, trivial⟩
  exact ⟨_, ⟨_, rfl, events.reaches⟩, by decide, by decide⟩

end Fleet

end CipherMesh
