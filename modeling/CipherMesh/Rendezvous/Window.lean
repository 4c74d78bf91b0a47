import CipherMesh.Rendezvous.Network

/-!
# The timers of the inviter

The loop of `runCreateInviteAt` with a clock.  Two timers are armed once, when the loop
starts.  A flag guards them: the setup timer ends the loop while the invite is not
registered, the invite timer while it is.  Closings of the relay listener clear the flag,
so that the setup timer, which may have run out long ago, counts again.
-/

namespace CipherMesh

open Foundation

variable {P : Primitives}

/-- In milliseconds. -/
def discoveryTimeout : Nat := 30 * 1000

/-- What the loop waits for.  With `elapse` time passes and nothing else happens. -/
inductive LoopEvent (P : Primitives) where
  | elapse (milliseconds : Nat)
  | newListenAddr (lanIp : Option IpAddr) (address : Multiaddr)
  | relayListenerClosed (listening : Except AppError Unit)
  | reservationReqAccepted (renewal : Bool)
  | serviceResponse (response : PairingResponse)
  | peerRequest (peer : PeerId) (request : PairingRequest) (moment : Moment)
      (generated : P.PrivateKey)
  | setupTimeout
  | inviteTimeout

/-- `unregisteredAt` is the time of the last closing that took the registration away from
an invite that was not expired, `unavailableAt` the time at which the loop returned the
error of the setup timer. -/
structure InviterLoop (P : Primitives) where
  inviter : Inviter P
  clock : Nat
  setupDeadline : Nat
  inviteDeadline : Nat
  unregisteredAt : Option Nat
  unavailableAt : Option Nat

namespace InviterLoop

/-- The loop at its start, when both timers are armed. -/
def started (inviter : Inviter P) (clock : Nat) : InviterLoop P where
  inviter
  clock
  setupDeadline := clock + discoveryTimeout
  inviteDeadline := clock + inviteTtlSecs.toNat * 1000
  unregisteredAt := none
  unavailableAt := none

/-- The loop handles an event that arms no timer and takes no registration away. -/
def handle (handler : Inviter P → Inviter P) (loop : InviterLoop P) : InviterLoop P :=
  { loop with inviter := handler loop.inviter }

def next (text : AddressText) (wire : PairingWire P) (loop : InviterLoop P) :
    LoopEvent P → InviterLoop P
  | .elapse milliseconds => { loop with clock := loop.clock + milliseconds }
  | .newListenAddr lanIp address => loop.handle (Inviter.newListenAddr text lanIp address)
  | .relayListenerClosed listening =>
      { loop with
        inviter := loop.inviter.relayListenerClosed listening
        unregisteredAt :=
          if loop.inviter.registered then
            if loop.clock < loop.inviteDeadline then some loop.clock else none
          else loop.unregisteredAt }
  | .reservationReqAccepted renewal => loop.handle (Inviter.reservationReqAccepted renewal)
  | .serviceResponse response => loop.handle (Inviter.serviceResponse response)
  | .peerRequest peer request moment generated =>
      loop.handle fun inviter => (inviter.peerRequest wire peer request moment generated).2
  | .setupTimeout =>
      { loop with
        inviter := loop.inviter.setupTimeout
        unavailableAt := some loop.clock }
  | .inviteTimeout => loop.handle Inviter.inviteTimeout

/-- Nothing happens after the loop has returned.  A timer fires when its time has come, if
its guard holds. -/
def Permitted (loop : InviterLoop P) : LoopEvent P → Prop
  | .elapse _ => True
  | .setupTimeout => loop.inviter.status = .waiting ∧ loop.inviter.registered = false ∧
      loop.setupDeadline ≤ loop.clock
  | .inviteTimeout => loop.inviter.status = .waiting ∧ loop.inviter.registered = true ∧
      loop.inviteDeadline ≤ loop.clock
  | _ => loop.inviter.status = .waiting

instance (loop : InviterLoop P) : ∀ event, Decidable (Permitted loop event)
  | .elapse _ => .isTrue trivial
  | .setupTimeout => inferInstanceAs (Decidable (loop.inviter.status = .waiting ∧
      loop.inviter.registered = false ∧ loop.setupDeadline ≤ loop.clock))
  | .inviteTimeout => inferInstanceAs (Decidable (loop.inviter.status = .waiting ∧
      loop.inviter.registered = true ∧ loop.inviteDeadline ≤ loop.clock))
  | .newListenAddr .. | .relayListenerClosed _ | .reservationReqAccepted _
  | .serviceResponse _ | .peerRequest .. =>
      inferInstanceAs (Decidable (loop.inviter.status = .waiting))

def runCreateInviteAt (text : AddressText) (wire : PairingWire P) :
    System (InviterLoop P) (LoopEvent P) where
  initial loop := ∃ peerId servicePeerId codeHash now directListenerPending listener clock,
    loop = started (.started peerId servicePeerId codeHash now directListenerPending listener)
      clock
  permitted := Permitted
  next := next text wire

instance (text : AddressText) (wire : PairingWire P) (loop : InviterLoop P)
    (event : LoopEvent P) : Decidable ((runCreateInviteAt text wire).permitted loop event) :=
  inferInstanceAs (Decidable (Permitted loop event))

/-- The setup timer does not end the loop within `discoveryTimeout` of the closing that took
the registration away. -/
def FullWindow (loop : InviterLoop P) : Prop :=
  ∀ failed ∈ loop.unavailableAt, ∀ closed ∈ loop.unregisteredAt,
    closed + discoveryTimeout ≤ failed

instance (loop : InviterLoop P) : Decidable loop.FullWindow :=
  inferInstanceAs (Decidable (∀ failed ∈ loop.unavailableAt, ∀ closed ∈ loop.unregisteredAt,
    closed + discoveryTimeout ≤ failed))

/-- The loop waits to be registered again, and the setup timer runs out too early for it. -/
def Pressed (loop : InviterLoop P) : Prop :=
  loop.inviter.status = .waiting ∧ loop.inviter.registered = false ∧
    ∃ closed ∈ loop.unregisteredAt, loop.setupDeadline < closed + discoveryTimeout

instance (loop : InviterLoop P) : Decidable loop.Pressed :=
  inferInstanceAs (Decidable (_ ∧ _ ∧ ∃ closed ∈ loop.unregisteredAt,
    loop.setupDeadline < closed + discoveryTimeout))

/-- The listener takes a registration away only before the setup timer runs out, and the
invite is registered again before that. -/
def WithinSetup (loop : InviterLoop P) : LoopEvent P → Prop
  | .elapse milliseconds => loop.Pressed → loop.clock + milliseconds < loop.setupDeadline
  | .relayListenerClosed (.ok ()) => loop.inviter.registered = true →
      loop.clock < loop.inviteDeadline → loop.clock < loop.setupDeadline
  | _ => True

instance (loop : InviterLoop P) : ∀ event, Decidable (loop.WithinSetup event)
  | .elapse milliseconds => inferInstanceAs (Decidable (loop.Pressed →
      loop.clock + milliseconds < loop.setupDeadline))
  | .relayListenerClosed (.ok ()) => inferInstanceAs (Decidable (
      loop.inviter.registered = true → loop.clock < loop.inviteDeadline →
        loop.clock < loop.setupDeadline))
  | .relayListenerClosed (.error _) | .newListenAddr .. | .reservationReqAccepted _
  | .serviceResponse _ | .peerRequest .. | .setupTimeout | .inviteTimeout => .isTrue trivial

def reconnectingWithinSetup (text : AddressText) (wire : PairingWire P) :
    System (InviterLoop P) (LoopEvent P) :=
  (runCreateInviteAt text wire).restrict WithinSetup

instance (text : AddressText) (wire : PairingWire P) (loop : InviterLoop P)
    (event : LoopEvent P) :
    Decidable ((reconnectingWithinSetup text wire).permitted loop event) :=
  inferInstanceAs (Decidable (Permitted loop event ∧ loop.WithinSetup event))

end InviterLoop

/-! ## The flag -/

namespace Inviter

/-- A handler that takes no registration away. -/
def StaysRegistered (handler : Inviter P → Inviter P) : Prop :=
  ∀ inviter, inviter.registered = true → (handler inviter).registered = true

theorem staysRegistered_newListenAddr (text : AddressText) (lanIp : Option IpAddr)
    (address : Multiaddr) : StaysRegistered (newListenAddr (P := P) text lanIp address) := by
  intro inviter registered
  unfold newListenAddr
  split
  · exact registered
  split
  · exact registered
  dsimp only
  split <;> exact registered

theorem staysRegistered_reservationReqAccepted (renewal : Bool) :
    StaysRegistered (reservationReqAccepted (P := P) renewal) := by
  intro inviter registered
  unfold reservationReqAccepted
  dsimp only
  split <;> exact registered

theorem staysRegistered_serviceResponse (response : PairingResponse) :
    StaysRegistered (serviceResponse (P := P) response) := by
  intro inviter registered
  cases response with
  | registered => rfl
  | error | resolved | preKeyBundle | ack => exact registered

theorem staysRegistered_peerRequest (wire : PairingWire P) (peer : PeerId)
    (request : PairingRequest) (moment : Moment) (generated : P.PrivateKey) :
    StaysRegistered fun inviter : Inviter P =>
      (inviter.peerRequest wire peer request moment generated).2 := by
  intro inviter registered
  dsimp only
  unfold peerRequest
  split
  · split
    · split <;> exact registered
    · split <;> exact registered
    · exact registered
  · exact registered

theorem staysRegistered_inviteTimeout : StaysRegistered (inviteTimeout (P := P)) := by
  intro inviter registered
  unfold inviteTimeout
  split <;> exact registered

end Inviter

/-! ## The window -/

namespace InviterLoop

/-- While the loop waits it has not failed, and the setup timer has not run out on it. -/
structure Guarded (loop : InviterLoop P) : Prop where
  window : loop.FullWindow
  running : loop.inviter.status = .waiting → loop.unavailableAt = none
  inSetup : loop.Pressed → loop.clock < loop.setupDeadline

namespace Guarded

variable {text : AddressText} {wire : PairingWire P} {loop : InviterLoop P}

theorem fullWindow_of_none (absent : loop.unavailableAt = none) : loop.FullWindow := by
  intro failed isFailed
  rw [absent] at isFailed
  cases isFailed

theorem handle {handler : Inviter P → Inviter P} (guarded : loop.Guarded)
    (waiting : loop.inviter.status = .waiting) (stays : Inviter.StaysRegistered handler) :
    (loop.handle handler).Guarded where
  window := fullWindow_of_none (guarded.running waiting)
  running _ := guarded.running waiting
  inSetup pressed := by
    apply guarded.inSetup
    refine ⟨waiting, ?_, pressed.2.2⟩
    cases registered : loop.inviter.registered with
    | false => rfl
    | true =>
        have still := stays loop.inviter registered
        exact absurd (still.symm.trans pressed.2.1) nofun

theorem elapse {milliseconds : Nat} (guarded : loop.Guarded)
    (within : loop.WithinSetup (.elapse milliseconds)) :
    (loop.next text wire (.elapse milliseconds)).Guarded where
  window := guarded.window
  running := guarded.running
  inSetup := within

theorem relayListenerClosed {listening : Except AppError Unit} (guarded : loop.Guarded)
    (waiting : loop.inviter.status = .waiting)
    (within : loop.WithinSetup (.relayListenerClosed listening)) :
    (loop.next text wire (.relayListenerClosed listening)).Guarded where
  window := fullWindow_of_none (guarded.running waiting)
  running _ := guarded.running waiting
  inSetup pressed := by
    obtain ⟨stillWaiting, -, closed, isClosed, early⟩ := pressed
    cases listening with
    | error error => cases stillWaiting
    | ok =>
        simp only [next] at isClosed
        split at isClosed
        · next registered =>
            split at isClosed
            · next unexpired => exact within registered unexpired
            · cases isClosed
        · next unregistered =>
            exact guarded.inSetup ⟨waiting, by simpa using unregistered, closed, isClosed, early⟩

/-- The setup timer fires only if the registration was taken away long enough ago. -/
theorem setupTimeout (guarded : loop.Guarded) (permitted : loop.Permitted .setupTimeout) :
    (loop.next text wire .setupTimeout).Guarded := by
  obtain ⟨waiting, unregistered, due⟩ := permitted
  have failed : (loop.next text wire .setupTimeout).inviter.status ≠ .waiting := by
    simp [next, Inviter.setupTimeout, unregistered]
  constructor
  case window =>
    intro time isTime closed isClosed
    cases isTime
    by_contra early
    have pressed : loop.Pressed := ⟨waiting, unregistered, closed, isClosed, by omega⟩
    have inSetup := guarded.inSetup pressed
    omega
  case running => exact fun stillWaiting => absurd stillWaiting failed
  case inSetup => exact fun pressed => absurd pressed.1 failed

theorem next {event : LoopEvent P} (guarded : loop.Guarded)
    (permitted : (reconnectingWithinSetup text wire).permitted loop event) :
    (loop.next text wire event).Guarded := by
  obtain ⟨permitted, within⟩ := permitted
  cases event with
  | elapse milliseconds => exact guarded.elapse within
  | newListenAddr lanIp address =>
      exact guarded.handle permitted (Inviter.staysRegistered_newListenAddr text lanIp address)
  | relayListenerClosed listening => exact guarded.relayListenerClosed permitted within
  | reservationReqAccepted renewal =>
      exact guarded.handle permitted (Inviter.staysRegistered_reservationReqAccepted renewal)
  | serviceResponse response =>
      exact guarded.handle permitted (Inviter.staysRegistered_serviceResponse response)
  | peerRequest peer request moment generated =>
      exact guarded.handle permitted
        (Inviter.staysRegistered_peerRequest wire peer request moment generated)
  | setupTimeout => exact guarded.setupTimeout permitted
  | inviteTimeout => exact guarded.handle permitted.1 Inviter.staysRegistered_inviteTimeout

end Guarded

variable {text : AddressText} {wire : PairingWire P} {loop : InviterLoop P}

/-- If the listener takes no registration away after the setup timer has run out, and the
invite is registered again before that, the loop leaves every reconnect its full window. -/
theorem full_window (reachable : (reconnectingWithinSetup text wire).Reachable loop) :
    loop.FullWindow := by
  have guarded : loop.Guarded := by
    refine reachable.invariant Guarded ?_ fun loop event guarded permitted =>
      guarded.next permitted
    rintro start ⟨peerId, servicePeerId, codeHash, now, pending, listener, clock, rfl⟩
    refine ⟨nofun, fun _ => rfl, fun pressed => ?_⟩
    obtain ⟨-, -, closed, isClosed, -⟩ := pressed
    cases isClosed
  exact guarded.window

/-- The setup timer is due as soon as it has run out, and cuts the window short. -/
theorem Pressed.window_lost (pressed : loop.Pressed) (due : loop.setupDeadline ≤ loop.clock)
    (early : ∀ closed ∈ loop.unregisteredAt, loop.clock < closed + discoveryTimeout) :
    loop.Permitted .setupTimeout ∧ ¬(loop.next text wire .setupTimeout).FullWindow := by
  obtain ⟨waiting, unregistered, closed, isClosed, -⟩ := pressed
  refine ⟨⟨waiting, unregistered, due⟩, fun window => ?_⟩
  have full := window loop.clock rfl closed isClosed
  have short := early closed isClosed
  omega

/-- A registration that is taken away later has no window at all. -/
theorem window_lost_of_closed (waiting : loop.inviter.status = .waiting)
    (registered : loop.inviter.registered = true) (unexpired : loop.clock < loop.inviteDeadline)
    (due : loop.setupDeadline ≤ loop.clock) :
    let after := loop.next text wire (.relayListenerClosed (.ok ()))
    after.Permitted .setupTimeout ∧ ¬(after.next text wire .setupTimeout).FullWindow := by
  intro after
  have closedNow : after.unregisteredAt = some loop.clock := by
    simp [after, next, registered, unexpired]
  have positive : 0 < discoveryTimeout := by decide
  have pressed : after.Pressed := by
    refine ⟨waiting, rfl, loop.clock, closedNow, ?_⟩
    change loop.setupDeadline < loop.clock + discoveryTimeout
    omega
  apply pressed.window_lost due
  intro closed isClosed
  rw [closedNow] at isClosed
  cases isClosed
  change loop.clock < loop.clock + discoveryTimeout
  omega

end InviterLoop

namespace Symbolic

def invitersLoop : InviterLoop primitives := .started invited.inviter 0

theorem invitersLoop_initial :
    (InviterLoop.runCreateInviteAt addressText pairingWire).initial invitersLoop :=
  ⟨_, _, _, _, _, _, 0, rfl⟩

/-- Alice loses her registration after ten seconds and has it again two seconds later. -/
def registeredAgain : List (LoopEvent primitives) :=
  [.reservationReqAccepted false, .serviceResponse .registered, .elapse 10000,
    .relayListenerClosed (.ok ()), .elapse 2000, .reservationReqAccepted false,
    .serviceResponse .registered, .elapse 60000]

theorem registeredAgain_full_window :
    ((InviterLoop.runCreateInviteAt addressText pairingWire).run invitersLoop
      registeredAgain).FullWindow := by
  have permits : (InviterLoop.reconnectingWithinSetup addressText pairingWire).Permits
      invitersLoop registeredAgain := by decide +kernel
  exact InviterLoop.full_window ⟨invitersLoop, invitersLoop_initial, permits.reaches⟩

/-- Alice loses her registration after a minute, and the setup timer ends the loop. -/
def registrationLost : List (LoopEvent primitives) :=
  [.reservationReqAccepted false, .serviceResponse .registered, .elapse 60000,
    .relayListenerClosed (.ok ()), .setupTimeout]

theorem registrationLost_at_once : ∃ loop,
    (InviterLoop.runCreateInviteAt addressText pairingWire).Reachable loop ∧
    loop.unregisteredAt = some 60000 ∧ loop.unavailableAt = some 60000 ∧
    loop.inviter.status =
      .failed (.message "Pairing service is unavailable. Please try again.") ∧
    ¬loop.FullWindow := by
  have permits : (InviterLoop.runCreateInviteAt addressText pairingWire).Permits invitersLoop
      registrationLost := by decide +kernel
  exact ⟨_, ⟨invitersLoop, invitersLoop_initial, permits.reaches⟩, by decide +kernel,
    by decide +kernel, by decide +kernel, by decide +kernel⟩

end Symbolic

end CipherMesh
