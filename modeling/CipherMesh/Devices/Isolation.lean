import CipherMesh.Devices.FanOutRun
import CipherMesh.Foundation.Hex
import CipherMesh.Sync.Revocation
import Mathlib.Data.List.Find

/-!
# Devices do not touch each other

The results about the fan-out.  Each device has numbers of its own, whatever happens to the
deliveries of the others; the outbox keeps the last envelope of a message for each device; and
a device opens what was queued for it and for nobody else.
-/

namespace CipherMesh

open Foundation

variable {P : Primitives}

/-- The devices have the ids that they generated. -/
def Generated (active : List (DeviceCertificate P)) : Prop :=
  ∀ certificate ∈ active,
    certificate.deviceId = deviceIdForPublicKey certificate.deviceEd25519PublicKey

theorem colon_notMem_deviceIdForPublicKey (publicKey : P.IdentityKey) :
    ':' ∉ (deviceIdForPublicKey publicKey).toList := by
  rw [deviceIdForPublicKey, shortHash, String.toList_append]
  intro member
  rcases List.mem_append.mp member with label | digits
  · exact absurd label (by decide)
  · exact Bytes.colon_notMem_hexEncode _ digits

/-- The id of a delivery names the message and the device, unless a device has a colon in its
id. -/
theorem deliveryOutboxId_eq_iff {envelope : DeviceDeliveryEnvelope P} {logicalMessageId : String}
    {device : DeviceId} (generated : ':' ∉ envelope.recipientDeviceId.toList)
    (deviceGenerated : ':' ∉ device.toList) :
    deliveryOutboxId envelope = logicalMessageId ++ ":" ++ device ↔
      envelope.logicalMessageId = logicalMessageId ∧ envelope.recipientDeviceId = device := by
  constructor
  · intro same
    have characters := congrArg String.toList same
    simp only [deliveryOutboxId, String.toList_append, List.append_assoc] at characters
    obtain ⟨sameMessage, sameDevice⟩ := append_separator_inj generated deviceGenerated characters
    exact ⟨String.toList_injective sameMessage, String.toList_injective sameDevice⟩
  · rintro ⟨rfl, rfl⟩
    rfl

namespace FanOut

variable {wire : FanOutWire P} {sender : DeviceIdentity P} {accountPublicKey : P.IdentityKey}
variable {active : List (DeviceCertificate P)} {run : FanOut P}

/-- The envelope that was queued last with a logical message for a device. -/
def lastFor (queued : List (DeviceDeliveryEnvelope P × String)) (logicalMessageId : String)
    (device : DeviceId) : Option (DeviceDeliveryEnvelope P) :=
  (queued.reverse.find? fun entry =>
    entry.1.logicalMessageId = logicalMessageId ∧ entry.1.recipientDeviceId = device).map Prod.fst

/-- In every run the envelopes for a device have increasing numbers of one epoch, below that of
the stored session, whatever fails for this device or any other. -/
theorem numbered_apart (ideal : P.AeadIdeal) (roundTrips : wire.RoundTrips)
    (reachable : (system wire sender accountPublicKey active).Reachable run) :
    ∃ epochs : DeviceId → Epoch P, ∀ device,
      Sequencer.runs.Reachable (run.numbers wire sender.deviceId device) ∧
        (run.numbers wire sender.deviceId device).Increasing ∧
        ∀ entry ∈ run.queued, entry.1.recipientDeviceId = device →
          SealedIn (epochs device) .alice entry.1.message (.ofText entry.2) := by
  obtain ⟨epochs, sound, numbered⟩ := sound_of_reachable ideal roundTrips reachable
  refine ⟨epochs, fun device => ⟨numbered device,
    Sequencer.increasing_of_reachable (numbered device), ?_⟩⟩
  rintro entry member rfl
  exact (sound.queued entry member).2.1

/-- The recipient of what was queued is active. -/
theorem Sound.recipient_active {localDeviceId : DeviceId} {epochs : DeviceId → Epoch P}
    (sound : run.Sound wire localDeviceId active epochs) {entry : DeviceDeliveryEnvelope P × String}
    (member : entry ∈ run.queued) :
    ∃ certificate ∈ active, certificate.deviceId = entry.1.recipientDeviceId := by
  obtain ⟨session, present⟩ := Option.isSome_iff_exists.mp (sound.queued entry member).1
  exact (sound.sessions _ session present).active

/-- The outbox of a run: for each message and device the envelope that was queued last, and for
a device nothing but what was queued for it. -/
structure Delivers (wire : FanOutWire P) (revocations : List (DeviceRevocation P))
    (accountPublicKey : P.IdentityKey) (run : FanOut P) : Prop where
  waits : ∀ entry ∈ run.queued, ∃ envelope payload,
    lastFor run.queued entry.1.logicalMessageId entry.1.recipientDeviceId = some envelope ∧
      wire.envelope.deserialize payload = some envelope ∧
      run.database.storage.queuedAs
          (entry.1.logicalMessageId ++ ":" ++ entry.1.recipientDeviceId) =
        some (entry.1.recipientDeviceId, payload)
  opened : ∀ entry ∈ run.opened, ∃ sent ∈ run.queued, sent.1.recipientDeviceId = entry.1 ∧
    deliveryOutboxId sent.1 = entry.2.1 ∧ sent.2 = entry.2.2
  revoked : ∀ device, NamesRevoked accountPublicKey device revocations →
    ∀ entry ∈ run.queued, entry.1.recipientDeviceId ≠ device

theorem delivers_to_devices (ideal : P.AeadIdeal) (roundTrips : wire.RoundTrips)
    {certificates : List (DeviceCertificate P)} {revocations : List (DeviceRevocation P)}
    (computed : activeDeviceCertificates accountPublicKey revocations certificates = .ok active)
    (generated : Generated active)
    (reachable : (system wire sender accountPublicKey active).Reachable run) :
    run.Delivers wire revocations accountPublicKey := by
  obtain ⟨epochs, sound, -⟩ := sound_of_reachable ideal roundTrips reachable
  have colonFree : ∀ entry ∈ run.queued, ':' ∉ entry.1.recipientDeviceId.toList := by
    intro entry member
    obtain ⟨certificate, isActive, same⟩ := sound.recipient_active member
    rw [← same, generated certificate isActive]
    exact colon_notMem_deviceIdForPublicKey _
  refine ⟨fun entry member => ?_, fun entry member => ?_, fun device isRevoked entry member => ?_⟩
  · have sameLast : lastQueued run.queued
        (entry.1.logicalMessageId ++ ":" ++ entry.1.recipientDeviceId) =
          lastFor run.queued entry.1.logicalMessageId entry.1.recipientDeviceId := by
      refine congrArg (Option.map Prod.fst) (List.find?_congr fun other otherMember => ?_)
      rw [decide_eq_decide]
      exact deliveryOutboxId_eq_iff (colonFree other (List.mem_reverse.mp otherMember))
        (colonFree entry member)
    obtain ⟨last, found⟩ : ∃ last, lastFor run.queued entry.1.logicalMessageId
        entry.1.recipientDeviceId = some last := by
      rw [← Option.isSome_iff_exists, lastFor, Option.isSome_map, List.find?_isSome]
      exact ⟨entry, List.mem_reverse.mpr member, decide_eq_true ⟨rfl, rfl⟩⟩
    obtain ⟨text, lastMember⟩ := (mem_of_lastQueued (sameLast.trans found)).2
    obtain ⟨payload, serialized⟩ :=
      Option.isSome_iff_exists.mp (sound.queued _ lastMember).2.2
    have recipient : last.recipientDeviceId = entry.1.recipientDeviceId := by
      obtain ⟨other, otherFound, rfl⟩ := Option.map_eq_some_iff.mp found
      have same := List.find?_some otherFound
      rw [decide_eq_true_iff] at same
      exact same.2
    refine ⟨last, payload, found, roundTrips.envelope serialized, ?_⟩
    rw [sound.outbox, sameLast, found, Option.bind_some, serialized, Option.map_some, recipient]
  · obtain ⟨sent, queued, sameId, recipient, text⟩ := sound.opened entry member
    exact ⟨sent, queued, recipient, sameId, text⟩
  · obtain ⟨certificate, isActive, same⟩ := sound.recipient_active member
    rintro rfl
    rw [← same] at isRevoked
    exact not_authorized_of_namesRevoked isRevoked (authorized_of_mem_active computed isActive)

end FanOut

/-! ## A laptop and an absent phone -/

namespace Symbolic

instance : DecidableEq (DeviceSessionState primitives) := fun first second =>
  decidable_of_iff (first.localDeviceId = second.localDeviceId ∧
      first.remoteDeviceId = second.remoteDeviceId ∧ first.session = second.session) (by
    cases first
    cases second
    simp only [DeviceSessionState.mk.injEq])

/-- The certificate of a generated device. -/
def generatedCertificate (name : String) : DeviceCertificate primitives :=
  let content : DeviceCertificate primitives := {
    accountId := account
    deviceId := deviceIdForPublicKey (P := primitives) (Bytes.ofText name)
    deviceEd25519PublicKey := Bytes.ofText name
    deviceX25519PublicKey := Bytes.ofText name
    signature := ⟨[], []⟩ }
  { content with
    signature := primitives.sign (Bytes.ofText "account") (deviceCertificateBytes content) }

/-- The device that sends, and its session with a device of the account. -/
def fanOutSender : DeviceIdentity primitives :=
  .generate "bob-account" (Bytes.ofText "bob") (Bytes.ofText "bob")

def sessionWith (name : String) : Option (DeviceSession primitives) :=
  (fanOutSender.createOutboundSession (Bytes.ofText "account")
    (generatedCertificate name)).toOption

def fanOutDevices : List String := ["laptop", "phone"]

/-- The serialization that knows the first message for each device. -/
def fanOutWire : FanOutWire primitives where
  envelope := .listed <| fanOutDevices.filterMap fun name => do
    ((DeviceSession.encrypt "logical-1" "hello").run (← sessionWith name)).1.toOption
  sessionState := .listed <| fanOutDevices.filterMap fun name => do
    some ((DeviceSession.encrypt "logical-1" "hello").run (← sessionWith name)).2.exportState

/-- The session of a device of the account with the sender. -/
def inboundSession (name : String) : Option (DeviceSession primitives) :=
  let device : DeviceIdentity primitives :=
    .generate account (Bytes.ofText name) (Bytes.ofText name)
  (device.createInboundSession fanOutSender.deviceId
    fanOutSender.x25519.publicKey).toOption

def fanOutActive : List (DeviceCertificate primitives) :=
  fanOutDevices.map generatedCertificate

def fanOutSessions : Except CryptoError (DeviceSessions primitives) :=
  createOutboundSessions fanOutSender (Bytes.ofText "account") fanOutActive fun _ => none

def fanOutStart : FanOut primitives where
  sessions := fanOutSessions.toOption.getD fun _ => none
  devices device :=
    if device = deviceIdForPublicKey (P := primitives) (Bytes.ofText "laptop") then
      inboundSession "laptop"
    else none
  database := ⟨⟨.empty, 0, []⟩, .empty⟩
  queued := []
  opened := []

/-- A message for both devices; the laptop opens its envelope, the phone is away. -/
def fanOutEvents : List (FanOutEvent × Moment) :=
  let device (name : String) : DeviceId :=
    deviceIdForPublicKey (P := primitives) (Bytes.ofText name)
  [(.queue (device "laptop") "logical-1" "hello", ⟨0, []⟩),
    (.queue (device "phone") "logical-1" "hello", ⟨0, []⟩),
    (.receive (device "laptop"), ⟨0, []⟩), (.restore (device "phone"), ⟨0, []⟩)]

def fanOutSystem : System (FanOut primitives) (FanOutEvent × Moment) :=
  FanOut.system fanOutWire fanOutSender (Bytes.ofText "account") fanOutActive

def fanOutRun : FanOut primitives := fanOutSystem.run fanOutStart fanOutEvents

theorem fanOutWire_roundTrips : fanOutWire.RoundTrips where
  envelope := Format.roundTrip_listed _
  sessionState := Format.roundTrip_listed _

theorem fanOutStart_initial : fanOutSystem.initial fanOutStart := by
  refine ⟨?_, fun device session present => ?_, rfl, rfl, rfl, rfl⟩
  · have opened : fanOutSessions.toOption.isSome := by decide +kernel
    change fanOutSessions = .ok (fanOutSessions.toOption.getD fun _ => none)
    cases outcome : fanOutSessions with
    | ok sessions => rfl
    | error error =>
        rw [outcome] at opened
        cases opened
  · simp only [fanOutStart] at present
    split at present
    · next same =>
        rw [inboundSession, DeviceIdentity.createInboundSession_eq] at present
        exact same ▸ Option.some.inj present ▸ rfl
    · cases present

theorem fanOutRun_reachable : fanOutSystem.Reachable fanOutRun :=
  ⟨fanOutStart, fanOutStart_initial,
    System.Permits.reaches ⟨trivial, trivial, trivial, trivial, trivial⟩⟩

theorem fanOutRun_numbered_apart :
    fanOutRun.queued.length = 2 ∧ ∃ epochs : DeviceId → Epoch primitives, ∀ device,
      Sequencer.runs.Reachable (fanOutRun.numbers fanOutWire fanOutSender.deviceId device) ∧
        (fanOutRun.numbers fanOutWire fanOutSender.deviceId device).Increasing ∧
        ∀ entry ∈ fanOutRun.queued, entry.1.recipientDeviceId = device →
          SealedIn (epochs device) .alice entry.1.message (.ofText entry.2) :=
  ⟨by decide +kernel, FanOut.numbered_apart aeadIdeal fanOutWire_roundTrips fanOutRun_reachable⟩

/-- The account once had a tablet too. -/
def tabletRevocation : DeviceRevocation primitives :=
  let content : DeviceRevocation primitives := {
    accountId := account
    deviceId := deviceIdForPublicKey (P := primitives) (Bytes.ofText "tablet")
    revocationCounter := 1
    signature := ⟨[], []⟩ }
  { content with
    signature := primitives.sign (Bytes.ofText "account") (deviceRevocationBytes content) }

theorem fanOutRun_delivers :
    fanOutRun.opened.length = 1 ∧
      fanOutRun.Delivers fanOutWire [tabletRevocation] (Bytes.ofText "account") := by
  have computed : activeDeviceCertificates (P := primitives) (Bytes.ofText "account")
      [tabletRevocation] (("tablet" :: fanOutDevices).map generatedCertificate) =
        .ok fanOutActive := by
    decide +kernel
  refine ⟨by decide +kernel, FanOut.delivers_to_devices aeadIdeal fanOutWire_roundTrips computed
    (fun certificate member => ?_) fanOutRun_reachable⟩
  obtain ⟨name, -, rfl⟩ := List.mem_map.mp member
  rfl

end Symbolic

end CipherMesh
