import CipherMesh.Link.Agreement

/-!
# Envelopes between two devices

A device session wraps each ratchet message in an envelope that names the logical message
and the two devices.  The devices are compared with those of the session; the logical id
is bound to nothing.  Under attack an accepted envelope is therefore the produced one only
if it was delivered with the logical id that it was given.
-/

namespace CipherMesh

open Foundation
open Foundation.Mutation

variable {P : Primitives} {attacker : P.Knowledge}

namespace DeviceSession

/-- The envelope carries what the session encrypts. -/
theorem run_encrypt (device : DeviceSession P) (logicalMessageId plaintext : String) :
    (encrypt logicalMessageId plaintext).run device =
      (((RatchetSession.encrypt plaintext).run device.session).1.map fun message =>
        ⟨logicalMessageId, device.localDeviceId, device.remoteDeviceId, message⟩,
      { device with session := ((RatchetSession.encrypt plaintext).run device.session).2 }) := by
  simp only [encrypt, onSession, run_bind, run_get, run_focus]
  rcases (RatchetSession.encrypt plaintext).run device.session with ⟨error | message, reached⟩
  · rfl
  · rfl

/-- Both ids of the envelope are those of the session. -/
def Addressed (device : DeviceSession P) (envelope : DeviceDeliveryEnvelope P) : Prop :=
  envelope.recipientDeviceId = device.localDeviceId ∧
    envelope.senderDeviceId = device.remoteDeviceId

theorem run_decrypt {device : DeviceSession P} {envelope : DeviceDeliveryEnvelope P}
    (addressed : device.Addressed envelope) :
    (decrypt envelope).run device =
      (((RatchetSession.decrypt envelope.message).run device.session).1,
        { device with
          session := ((RatchetSession.decrypt envelope.message).run device.session).2 }) := by
  obtain ⟨recipient, sender⟩ := addressed
  simp only [decrypt, onSession, run_bind, run_get, recipient, sender, ne_eq, not_true_eq_false,
    or_self, if_false, run_focus]

/-- Another envelope is rejected before the session sees it. -/
theorem run_decrypt_of_not {device : DeviceSession P} {envelope : DeviceDeliveryEnvelope P}
    (other : ¬ device.Addressed envelope) :
    (decrypt envelope).run device = (.error .decrypt, device) := by
  rw [Addressed, not_and_or] at other
  simp only [decrypt, run_bind, run_get, ne_eq, other, if_true, run_fail]

end DeviceSession

/-! ## The system -/

/-- Two device sessions, their exported states, and as history the envelopes that each side
produced and accepted. -/
structure DevicePair (P : Primitives) where
  devices : RatchetRole → DeviceSession P
  saved : RatchetRole → DeviceSessionState P
  produced : RatchetRole → List (DeviceDeliveryEnvelope P × String)
  accepted : RatchetRole → List (DeviceDeliveryEnvelope P × String)

inductive DevicePairEvent (P : Primitives) where
  | encrypt (side : RatchetRole) (logicalMessageId plaintext : String)
  | deliver (side : RatchetRole) (envelope : DeviceDeliveryEnvelope P)
  | exportState (side : RatchetRole)
  | restart (side : RatchetRole)

/-- Sessions of one handshake that name each other. -/
structure EstablishedDevices (devices : RatchetRole → DeviceSession P) : Prop where
  sessions : Established fun side => (devices side).session
  named : ∀ side, (devices side).remoteDeviceId = (devices side.peer).localDeviceId

/-- Two devices, of which one certified the other, create such sessions. -/
theorem DeviceIdentity.establishedDevices {outbound inbound : DeviceIdentity P}
    {accountPublicKey : P.IdentityKey} {certificate : DeviceCertificate P}
    {outboundSession inboundSession : DeviceSession P}
    (certifiedId : certificate.deviceId = inbound.deviceId)
    (certifiedKey : certificate.deviceX25519PublicKey = inbound.x25519.publicKey)
    (outboundCreates : outbound.createOutboundSession accountPublicKey certificate =
      .ok outboundSession)
    (inboundCreates : inbound.createInboundSession outbound.deviceId outbound.x25519.publicKey =
      .ok inboundSession) :
    EstablishedDevices (pair outboundSession inboundSession) := by
  have sessions := Established.devices certifiedKey outboundCreates inboundCreates
  rw [DeviceIdentity.createInboundSession_eq] at inboundCreates
  obtain rfl := Except.ok.inj inboundCreates
  obtain rfl := DeviceIdentity.createOutboundSession_eq outboundCreates
  refine ⟨?_, ?_⟩
  · convert sessions using 2 with side
    cases side <;> rfl
  · intro side
    cases side with
    | alice => exact certifiedId
    | bob => rfl

namespace DevicePair

def start (devices : RatchetRole → DeviceSession P) : DevicePair P where
  devices := devices
  saved side := (devices side).exportState
  produced _ := []
  accepted _ := []

def next (pair : DevicePair P) : DevicePairEvent P → DevicePair P
  | .encrypt side logicalMessageId plaintext =>
      let (result, device) :=
        (DeviceSession.encrypt logicalMessageId plaintext).run (pair.devices side)
      { pair with
        devices := Function.update pair.devices side device
        produced := Link.record pair.produced side (result.toOption.map (·, plaintext)) }
  | .deliver side envelope =>
      let (result, device) := (DeviceSession.decrypt envelope).run (pair.devices side)
      { pair with
        devices := Function.update pair.devices side device
        accepted := Link.record pair.accepted side (result.toOption.map (envelope, ·)) }
  | .exportState side =>
      { pair with saved := Function.update pair.saved side (pair.devices side).exportState }
  | .restart side =>
      { pair with
        devices := Function.update pair.devices side (.fromState (pair.saved side)) }

/-- What the attacker can deliver: any envelope, around a ciphertext that it has seen or
could make. -/
def Deliverable (attacker : P.Knowledge) (pair : DevicePair P) (message : RatchetMessage P) :
    Prop :=
  (∃ side, ∃ entry ∈ pair.produced side, entry.1.message.ciphertext = message.ciphertext) ∨
    ∀ key nonce aad plaintext,
      P.aeadSeal key nonce aad plaintext = some message.ciphertext → attacker.knows key

/-- All runs under attack. -/
def attacked (attacker : P.Knowledge) : System (DevicePair P) (DevicePairEvent P) where
  initial pair := ∃ devices, EstablishedDevices devices ∧
    ¬ attacker.knows (devices .alice).session.rootKey ∧ pair = start devices
  permitted pair
    | .deliver _ envelope => pair.Deliverable attacker envelope.message
    | _ => True
  next := next

/-- A message that the peer produced is delivered under a logical id that it was given. -/
def KeepsLogicalId (pair : DevicePair P) : DevicePairEvent P → Prop
  | .deliver side envelope =>
      (∃ entry ∈ pair.produced side.peer, entry.1.message = envelope.message) →
        ∃ entry ∈ pair.produced side.peer, entry.1.message = envelope.message ∧
          entry.1.logicalMessageId = envelope.logicalMessageId
  | _ => True

/-! ## The deployment below -/

/-- The ratchet sessions of the devices and what they produced. -/
structure Shadows (pair : DevicePair P) (deployment : Deployment P) : Prop where
  sessions : ∀ side, deployment.link.sessions side = (pair.devices side).session
  saved : ∀ side, deployment.saved side = (pair.saved side).session
  produced : ∀ side, deployment.link.produced side =
    (pair.produced side).map fun entry => (entry.1.message, entry.2)

/-- The ids are those of the two devices throughout. -/
structure Named (ids : RatchetRole → DeviceId) (pair : DevicePair P) : Prop where
  devices : ∀ side, (pair.devices side).localDeviceId = ids side ∧
    (pair.devices side).remoteDeviceId = ids side.peer
  saved : ∀ side, (pair.saved side).localDeviceId = ids side ∧
    (pair.saved side).remoteDeviceId = ids side.peer
  produced : ∀ side, ∀ entry ∈ pair.produced side, entry.1.senderDeviceId = ids side ∧
    entry.1.recipientDeviceId = ids side.peer

/-- What was accepted is what the peer produced. -/
def Faithful (pair : DevicePair P) : Prop :=
  ∀ side, ∀ entry ∈ pair.accepted side, entry ∈ pair.produced side.peer

variable {pair : DevicePair P} {deployment : Deployment P} {ids : RatchetRole → DeviceId}

/-- The envelope that an encryption produces. -/
def encrypted (device : DeviceSession P) (logicalMessageId plaintext : String) :
    Option (DeviceDeliveryEnvelope P × String) :=
  (Link.encrypted device.session plaintext).map fun entry =>
    (⟨logicalMessageId, device.localDeviceId, device.remoteDeviceId, entry.1⟩, entry.2)

theorem next_encrypt (pair : DevicePair P) (side : RatchetRole)
    (logicalMessageId plaintext : String) :
    pair.next (.encrypt side logicalMessageId plaintext) =
      { pair with
        devices := Function.update pair.devices side { pair.devices side with
          session := ((RatchetSession.encrypt plaintext).run (pair.devices side).session).2 }
        produced := Link.record pair.produced side
          (encrypted (pair.devices side) logicalMessageId plaintext) } := by
  rw [next, DeviceSession.run_encrypt, encrypted, Link.encrypted]
  rcases (RatchetSession.encrypt plaintext).run (pair.devices side).session with
    ⟨error | message, reached⟩
  · rfl
  · rfl

theorem next_deliver {side : RatchetRole} {envelope : DeviceDeliveryEnvelope P}
    (addressed : (pair.devices side).Addressed envelope) :
    pair.next (.deliver side envelope) =
      { pair with
        devices := Function.update pair.devices side { pair.devices side with
          session :=
            ((RatchetSession.decrypt envelope.message).run (pair.devices side).session).2 }
        accepted := Link.record pair.accepted side
          ((Link.decrypted (pair.devices side).session envelope.message).map fun entry =>
            (envelope, entry.2)) } := by
  rw [next, DeviceSession.run_decrypt addressed, Link.decrypted]
  rcases (RatchetSession.decrypt envelope.message).run (pair.devices side).session with
    ⟨error | text, reached⟩
  · rfl
  · rfl

theorem next_deliver_of_not {side : RatchetRole} {envelope : DeviceDeliveryEnvelope P}
    (other : ¬ (pair.devices side).Addressed envelope) :
    pair.next (.deliver side envelope) = pair := by
  rw [next, DeviceSession.run_decrypt_of_not other]
  simp [Except.toOption]

theorem Shadows.deliverable (shadows : Shadows pair deployment) {message : RatchetMessage P}
    (deliverable : pair.Deliverable attacker message) :
    Deployment.Deliverable attacker deployment.link message := by
  refine deliverable.imp_left ?_
  rintro ⟨side, entry, produced, same⟩
  refine ⟨side, entry.1.message, entry.2, ?_, same⟩
  rw [shadows.produced]
  exact List.mem_map_of_mem produced

theorem Named.next (named : Named ids pair) (event : DevicePairEvent P) :
    Named ids (pair.next event) := by
  have updated : ∀ {side device}, device.localDeviceId = (pair.devices side).localDeviceId →
      device.remoteDeviceId = (pair.devices side).remoteDeviceId → ∀ other,
        (Function.update pair.devices side device other).localDeviceId = ids other ∧
          (Function.update pair.devices side device other).remoteDeviceId = ids other.peer := by
    intro side device sameLocal sameRemote other
    rcases eq_or_ne other side with rfl | different
    · rw [Function.update_self, sameLocal, sameRemote]
      exact named.devices other
    · rw [Function.update_of_ne different]
      exact named.devices other
  cases event with
  | encrypt side logicalMessageId plaintext =>
      rw [next_encrypt]
      refine ⟨updated rfl rfl, named.saved, ?_⟩
      intro other entry member
      rcases Link.mem_record.mp member with ⟨rfl, produced⟩ | before
      · obtain ⟨_, _, rfl⟩ := Option.map_eq_some_iff.mp produced
        exact named.devices other
      · exact named.produced other entry before
  | deliver side envelope =>
      by_cases addressed : (pair.devices side).Addressed envelope
      · rw [next_deliver addressed]
        exact ⟨updated rfl rfl, named.saved, named.produced⟩
      · rwa [next_deliver_of_not addressed]
  | exportState side =>
      refine ⟨named.devices, ?_, named.produced⟩
      intro other
      rcases eq_or_ne other side with rfl | different
      · simpa [DevicePair.next, DeviceSession.exportState] using named.devices other
      · simpa [DevicePair.next, different] using named.saved other
  | restart side =>
      refine ⟨?_, named.saved, named.produced⟩
      intro other
      rcases eq_or_ne other side with rfl | different
      · simpa [DevicePair.next, DeviceSession.fromState] using named.saved other
      · simpa [DevicePair.next, different] using named.devices other

/-- Every event is one of the deployment, or none when the envelope is not for the device. -/
theorem Shadows.next (shadows : Shadows pair deployment) {event : DevicePairEvent P}
    (permitted : (attacked attacker).permitted pair event) :
    ∃ reached, (Deployment.attacked attacker).Reaches deployment reached ∧
      Shadows (pair.next event) reached := by
  have steps : ∀ step, (Deployment.attacked attacker).permitted deployment step →
      Shadows (pair.next event) (deployment.next step) →
        ∃ reached, (Deployment.attacked attacker).Reaches deployment reached ∧
          Shadows (pair.next event) reached :=
    fun step allowed after => ⟨_, .step step .refl allowed, after⟩
  cases event with
  | encrypt side logicalMessageId plaintext =>
      apply steps (.call (.encrypt side plaintext)) trivial
      rw [next_encrypt]
      refine ⟨?_, shadows.saved, ?_⟩
      · intro other
        rcases eq_or_ne other side with rfl | different
        · simp [Link.next, shadows.sessions]
        · simpa [Link.next, different] using shadows.sessions other
      · intro other
        rcases eq_or_ne other side with rfl | different
        · cases returned : Link.encrypted (pair.devices other).session plaintext <;>
            simp [Link.next, Link.record, encrypted, shadows.sessions, shadows.produced, returned]
        · simpa [Link.next, Link.record, different] using shadows.produced other
  | deliver side envelope =>
      by_cases addressed : (pair.devices side).Addressed envelope
      · apply steps (.call (.deliver side envelope.message)) (shadows.deliverable permitted)
        rw [next_deliver addressed]
        refine ⟨?_, shadows.saved, shadows.produced⟩
        intro other
        rcases eq_or_ne other side with rfl | different
        · simp [Link.next, shadows.sessions]
        · simpa [Link.next, different] using shadows.sessions other
      · rw [next_deliver_of_not addressed]
        exact ⟨deployment, .refl, shadows⟩
  | exportState side =>
      apply steps (.exportState side) trivial
      refine ⟨shadows.sessions, ?_, shadows.produced⟩
      intro other
      rcases eq_or_ne other side with rfl | different
      · simp [DevicePair.next, Deployment.next, DeviceSession.exportState, shadows.sessions]
      · simpa [DevicePair.next, Deployment.next, different] using shadows.saved other
  | restart side =>
      apply steps (.restart side) trivial
      refine ⟨?_, shadows.saved, shadows.produced⟩
      intro other
      rcases eq_or_ne other side with rfl | different
      · simp [DevicePair.next, Deployment.next, DeviceSession.fromState, shadows.saved]
      · simpa [DevicePair.next, Deployment.next, different] using shadows.sessions other

theorem shadows_of_reachable (reachable : (attacked attacker).Reachable pair) :
    ∃ deployment, (Deployment.attacked attacker).Reachable deployment ∧
      Shadows pair deployment := by
  obtain ⟨_, ⟨devices, established, secret, rfl⟩, run⟩ := reachable
  have related : Shadows (start devices)
      (Deployment.start fun side => (devices side).session) :=
    ⟨fun _ => rfl, fun _ => rfl, fun _ => rfl⟩
  obtain ⟨deployment, reached, shadows⟩ :=
    System.simulates (fun _ _ _ shadows permitted => shadows.next permitted) related run
  exact ⟨deployment, ⟨_, ⟨_, established.sessions, secret, rfl⟩, reached⟩, shadows⟩

theorem named_of_reachable (reachable : (attacked attacker).Reachable pair) :
    ∃ ids, Named ids pair := by
  obtain ⟨_, ⟨devices, established, _, rfl⟩, run⟩ := reachable
  refine ⟨fun side => (devices side).localDeviceId,
    run.invariant ?_ fun _ _ named _ => named.next _⟩
  have named := fun side => And.intro (Eq.refl (devices side).localDeviceId)
    (established.named side)
  exact ⟨named, named, fun _ _ member => absurd member List.not_mem_nil⟩

/-- An envelope for the device that agrees with a produced one in message and logical id is
that one. -/
theorem Named.envelope_eq (named : Named ids pair) {side : RatchetRole}
    {envelope : DeviceDeliveryEnvelope P} (addressed : (pair.devices side).Addressed envelope)
    {entry : DeviceDeliveryEnvelope P × String} (produced : entry ∈ pair.produced side.peer)
    (sameMessage : entry.1.message = envelope.message)
    (sameId : entry.1.logicalMessageId = envelope.logicalMessageId) : entry.1 = envelope := by
  obtain ⟨sender, recipient⟩ := named.produced side.peer entry produced
  obtain ⟨localId, remoteId⟩ := named.devices side
  have sameSender := sender.trans (addressed.2.trans remoteId).symm
  rw [RatchetRole.peer_peer] at recipient
  have sameRecipient := recipient.trans (addressed.1.trans localId).symm
  obtain ⟨⟨_, _, _, _⟩, _⟩ := entry
  obtain ⟨_, _, _, _⟩ := envelope
  simp_all only

/-- One event keeps the accepted envelopes those that the peer produced. -/
theorem Faithful.next (ideal : P.Ideal) (reachable : (attacked attacker).Reachable pair)
    (faithful : Faithful pair) {event : DevicePairEvent P}
    (permitted : (attacked attacker).permitted pair event) (keepsId : pair.KeepsLogicalId event) :
    Faithful (pair.next event) := by
  cases event with
  | encrypt side logicalMessageId plaintext =>
      rw [next_encrypt]
      exact fun other entry accepted =>
        Link.mem_record.mpr (.inr (faithful other entry accepted))
  | deliver side envelope =>
      by_cases addressed : (pair.devices side).Addressed envelope
      · rw [next_deliver addressed]
        intro other entry accepted
        rcases Link.mem_record.mp accepted with ⟨rfl, returned⟩ | before
        · obtain ⟨⟨message, text⟩, opened, rfl⟩ := Option.map_eq_some_iff.mp returned
          obtain ⟨rfl, success⟩ := Link.decrypted_eq_some opened
          obtain ⟨deployment, reaches, shadows⟩ := shadows_of_reachable reachable
          rw [← shadows.sessions] at success
          have produced := Deployment.produced_of_ok ideal reaches (shadows.deliverable permitted)
            success
          have sent := produced
          rw [shadows.produced] at sent
          obtain ⟨first, firstMember, same⟩ := List.mem_map.mp sent
          obtain ⟨entry, member, sameMessage, sameId⟩ :=
            keepsId ⟨first, firstMember, congrArg Prod.fst same⟩
          -- The entry with this id has the same text.
          obtain ⟨_, _, authentic⟩ := Deployment.authentic_of_reachable ideal reaches
          have entryProduced :
              (envelope.message, entry.2) ∈ deployment.link.produced other.peer := by
            rw [shadows.produced, ← sameMessage]
            exact List.mem_map_of_mem member
          have sameText := authentic.text_unique ideal produced entryProduced
          obtain ⟨_, named⟩ := named_of_reachable reachable
          rwa [← named.envelope_eq addressed member sameMessage sameId, ← sameText]
        · exact faithful other entry before
      · rwa [next_deliver_of_not addressed]
  | exportState side => exact faithful
  | restart side => exact faithful

theorem faithful_of_reachable (ideal : P.Ideal)
    (reachable : ((attacked attacker).restrict KeepsLogicalId).Reachable pair) : Faithful pair := by
  refine (reachable.invariant (fun pair => (attacked attacker).Reachable pair ∧ Faithful pair)
    ?_ ?_).2
  · intro start initial
    refine ⟨⟨start, initial, .refl⟩, ?_⟩
    obtain ⟨_, _, _, rfl⟩ := initial
    exact fun _ _ member => absurd member List.not_mem_nil
  · rintro pair event ⟨⟨start, initial, run⟩, faithful⟩ ⟨permitted, keepsId⟩
    exact ⟨⟨start, initial, .step event run permitted⟩,
      faithful.next ideal ⟨start, initial, run⟩ permitted keepsId⟩

end DevicePair

/-! ## A concrete pair -/

namespace Symbolic

def devices (side : RatchetRole) : DeviceSession primitives :=
  let name := pair "phone" "laptop"
  ⟨name side, name side.peer, sessions side⟩

theorem devices_established : EstablishedDevices devices where
  sessions := sessions_established
  named _ := rfl

end Symbolic

end CipherMesh
