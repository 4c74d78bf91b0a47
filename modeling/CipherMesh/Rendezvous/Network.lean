import CipherMesh.Chat.Delivery
import CipherMesh.Rendezvous.Joiner
import CipherMesh.Rendezvous.Trace

/-!
# The service, one inviter and the other peers

The composition of the rendezvous loops.  What one process sends to another arrives in
order or is lost, at any later time.  A joiner runs the joining loop; any other peer, a
stranger, may send any request at any time, to the service and to the inviter.
-/

namespace CipherMesh

open Foundation

variable {P : Primitives}

/-- What the service sends to the inviter. -/
inductive ServiceMessage where
  | reservationAccepted (renewal : Bool)
  | response (response : PairingResponse)
  deriving DecidableEq

/-- `toInviter` and `lookedUp` were sent by the service, `answered` by the inviter to the
joiners.  `answers` are all responses of the inviter to other peers, the newest first. -/
structure PairingNetwork (P : Primitives) where
  service : ServiceRun
  inviter : Inviter P
  joiners : PeerId → Option (Joiner P)
  toInviter : List ServiceMessage
  lookedUp : PeerId → List PairingResponse
  answered : PeerId → List PairingResponse
  answers : List (PeerId × PairingResponse)

inductive PairingEvent (P : Primitives) where
  | reservationAccepted (peer : PeerId) (renewal : Bool)
  | reservationEnded (peer : PeerId)
  | inviterRequestArrives (now : UInt64)
  | joinerRequestArrives (peer : PeerId) (now : UInt64)
  | strangerRequests (peer : PeerId) (request : PairingRequest) (now : UInt64)
  | serviceMessageArrives
  | newListenAddr (lanIp : Option IpAddr) (address : Multiaddr)
  | relayListenerClosed (listening : Except AppError Unit)
  | setupTimeout
  | inviteTimeout
  | joinerCalls (peer : PeerId) (moment : Moment) (generated : P.PrivateKey)
  | strangerCalls (peer : PeerId) (request : PairingRequest) (moment : Moment)
      (generated : P.PrivateKey)
  | serviceConnected (peer : PeerId)
  | lookupAnswered (peer : PeerId) (dialing : Except AppError Unit)
  | targetConnected (peer : PeerId)
  | targetAnswered (peer : PeerId) (moment : Moment) (generated : P.PrivateKey)
  | joinerStopped (peer : PeerId) (error : AppError)
  | requestLost
  | serviceMessageLost

/-- The peers that the service has answered with the invite of the code. -/
def resolvers (codeHash : String) : List ServiceEntry → List PeerId
  | [] => []
  | .answered peer (.resolveInvite other) (.resolved ..) :: history =>
      if other = codeHash then peer :: resolvers codeHash history else resolvers codeHash history
  | _ :: history => resolvers codeHash history

namespace PairingNetwork

/-- The peers that the service has answered with the invite. -/
def resolvers (network : PairingNetwork P) : List PeerId :=
  CipherMesh.resolvers network.inviter.codeHash network.service.history

/-- The response of the service to a request now. -/
def responseTo (text : AddressText) (network : PairingNetwork P) (peer : PeerId)
    (request : PairingRequest) (now : UInt64) : PairingResponse :=
  (network.service.service.handleRequest text peer now request).1

/-- The service handles an event. -/
def serve (text : AddressText) (event : ServiceEvent) (network : PairingNetwork P) :
    PairingNetwork P :=
  { network with service := network.service.next text event }

/-- The inviter handles an event, if its loop still runs. -/
def atInviter (handle : Inviter P → Inviter P) (network : PairingNetwork P) :
    PairingNetwork P :=
  if network.inviter.status = .waiting then
    { network with inviter := handle network.inviter }
  else network

/-- The joiner handles an event, if there is one. -/
def atJoiner (peer : PeerId) (handle : Joiner P → Joiner P) (network : PairingNetwork P) :
    PairingNetwork P :=
  { network with
    joiners := Function.update network.joiners peer ((network.joiners peer).map handle) }

/-- The joiner handles an event, if its first loop still runs. -/
def atConnecting (peer : PeerId) (handle : Joiner P → Joiner P) (network : PairingNetwork P) :
    PairingNetwork P :=
  network.atJoiner peer fun joiner =>
    if joiner.status = .connecting then handle joiner else joiner

/-- The inviter handles a request of a peer, if its loop still runs. -/
def call (wire : PairingWire P) (peer : PeerId) (request : PairingRequest) (moment : Moment)
    (generated : P.PrivateKey) (network : PairingNetwork P) : PairingNetwork P :=
  if network.inviter.status = .waiting then
    let (response, inviter) := network.inviter.peerRequest wire peer request moment generated
    { network with
      inviter
      answered := Function.update network.answered peer
        (network.answered peer ++ response.toList)
      answers := response.toList.map (peer, ·) ++ network.answers }
  else network

def next (text : AddressText) (wire : PairingWire P) (network : PairingNetwork P) :
    PairingEvent P → PairingNetwork P
  | .reservationAccepted peer renewal =>
      let served := network.serve text (.reservationAccepted peer)
      if peer = network.inviter.peerId then
        { served with toInviter := network.toInviter ++ [.reservationAccepted renewal] }
      else served
  | .reservationEnded peer => network.serve text (.reservationEnded peer)
  | .inviterRequestArrives now =>
      match network.inviter.toService with
      | [] => network
      | request :: requests =>
          { network.serve text (.request network.inviter.peerId request now) with
            inviter := { network.inviter with toService := requests }
            toInviter := network.toInviter ++
              [.response (network.responseTo text network.inviter.peerId request now)] }
  | .joinerRequestArrives peer now =>
      match network.joiners peer with
      | none => network
      | some joiner =>
          match joiner.toService with
          | [] => network
          | request :: requests =>
              { (network.serve text (.request peer request now)).atJoiner peer
                  ({ · with toService := requests }) with
                lookedUp := Function.update network.lookedUp peer
                  (network.lookedUp peer ++ [network.responseTo text peer request now]) }
  | .strangerRequests peer request now => network.serve text (.request peer request now)
  | .serviceMessageArrives =>
      match network.toInviter with
      | [] => network
      | message :: messages =>
          { network with toInviter := messages }.atInviter
            (match message with
              | .reservationAccepted renewal => Inviter.reservationReqAccepted renewal
              | .response response => Inviter.serviceResponse response)
  | .newListenAddr lanIp address => network.atInviter (Inviter.newListenAddr text lanIp address)
  | .relayListenerClosed listening => network.atInviter (Inviter.relayListenerClosed listening)
  | .setupTimeout => network.atInviter Inviter.setupTimeout
  | .inviteTimeout => network.atInviter Inviter.inviteTimeout
  | .joinerCalls peer moment generated =>
      match network.joiners peer with
      | none => network
      | some joiner =>
          match joiner.toTarget with
          | [] => network
          | request :: requests =>
              let sent := network.atJoiner peer ({ · with toTarget := requests })
              if joiner.targetPeerId = some network.inviter.peerId then
                sent.call wire peer request moment generated
              else sent
  | .strangerCalls peer request moment generated =>
      network.call wire peer request moment generated
  | .serviceConnected peer => network.atConnecting peer Joiner.serviceConnected
  | .lookupAnswered peer dialing =>
      match network.lookedUp peer with
      | [] => network
      | response :: responses =>
          { network with
            lookedUp := Function.update network.lookedUp peer responses }.atConnecting peer
              (Joiner.serviceResponse dialing response)
  | .targetConnected peer => network.atConnecting peer Joiner.targetConnected
  | .targetAnswered peer moment generated =>
      match network.answered peer with
      | [] => network
      | response :: responses =>
          { network with
            answered := Function.update network.answered peer responses }.atJoiner peer
              (Joiner.targetResponse wire response moment generated)
  | .joinerStopped peer error => network.atJoiner peer (Joiner.stopped error)
  | .requestLost =>
      { network with
        inviter := { network.inviter with toService := network.inviter.toService.tail } }
  | .serviceMessageLost => { network with toInviter := network.toInviter.tail }

/-- Every loop has just started, and no code is known yet. -/
structure Begins (network : PairingNetwork P) : Prop where
  service : network.service.service = .empty
  history : network.service.history = []
  inviter : ∃ servicePeerId now directListenerPending listener, network.inviter =
    .started network.inviter.peerId servicePeerId network.inviter.codeHash now
      directListenerPending listener
  joiners : ∀ peer joiner, network.joiners peer = some joiner →
    ∃ servicePeerId codeHash dialer, joiner = .started servicePeerId codeHash dialer
  toInviter : network.toInviter = []
  lookedUp : ∀ peer, network.lookedUp peer = []
  answered : ∀ peer, network.answered peer = []
  answers : network.answers = []

/-- The clock of the service does not go back, the inviter does not join, and a stranger
runs none of the loops. -/
def Permitted (network : PairingNetwork P) : PairingEvent P → Prop
  | .inviterRequestArrives now => network.service.clock ≤ now
  | .joinerRequestArrives peer now =>
      network.service.clock ≤ now ∧ peer ≠ network.inviter.peerId
  | .strangerRequests peer _ now =>
      network.service.clock ≤ now ∧ peer ≠ network.inviter.peerId ∧ network.joiners peer = none
  | .strangerCalls peer .. => peer ≠ network.inviter.peerId ∧ network.joiners peer = none
  | _ => True

instance (network : PairingNetwork P) : ∀ event, Decidable (Permitted network event)
  | .inviterRequestArrives now => inferInstanceAs (Decidable (network.service.clock ≤ now))
  | .joinerRequestArrives peer now =>
      inferInstanceAs (Decidable (network.service.clock ≤ now ∧ peer ≠ network.inviter.peerId))
  | .strangerRequests peer _ now =>
      inferInstanceAs (Decidable (network.service.clock ≤ now ∧
        peer ≠ network.inviter.peerId ∧ network.joiners peer = none))
  | .strangerCalls peer .. =>
      inferInstanceAs (Decidable (peer ≠ network.inviter.peerId ∧ network.joiners peer = none))
  | .reservationAccepted .. | .reservationEnded _ | .serviceMessageArrives
  | .newListenAddr .. | .relayListenerClosed _ | .setupTimeout | .inviteTimeout
  | .joinerCalls .. | .serviceConnected _ | .lookupAnswered .. | .targetConnected _
  | .targetAnswered .. | .joinerStopped .. | .requestLost | .serviceMessageLost => .isTrue trivial

def system (text : AddressText) (wire : PairingWire P) :
    System (PairingNetwork P) (PairingEvent P) where
  initial := Begins
  permitted := Permitted
  next := next text wire

instance (text : AddressText) (wire : PairingWire P) (network : PairingNetwork P)
    (event : PairingEvent P) : Decidable ((system text wire).permitted network event) :=
  inferInstanceAs (Decidable (Permitted network event))

/-! ## What one event does -/

variable {text : AddressText} {wire : PairingWire P} {network : PairingNetwork P}

/-- The service's part in an event. -/
def serviceEvent (network : PairingNetwork P) : PairingEvent P → Option ServiceEvent
  | .reservationAccepted peer _ => some (.reservationAccepted peer)
  | .reservationEnded peer => some (.reservationEnded peer)
  | .inviterRequestArrives now =>
      network.inviter.toService.head?.map (.request network.inviter.peerId · now)
  | .joinerRequestArrives peer now =>
      (network.joiners peer).bind fun joiner =>
        joiner.toService.head?.map (.request peer · now)
  | .strangerRequests peer request now => some (.request peer request now)
  | _ => none

theorem Permitted.clock_le {event : PairingEvent P} (permitted : network.Permitted event)
    {peer : PeerId} {request : PairingRequest} {now : UInt64}
    (served : network.serviceEvent event = some (.request peer request now)) :
    network.service.clock ≤ now := by
  cases event with
  | inviterRequestArrives =>
      obtain ⟨_, _, ⟨⟩⟩ := Option.map_eq_some_iff.mp served
      exact permitted
  | joinerRequestArrives =>
      obtain ⟨_, _, sent⟩ := Option.bind_eq_some_iff.mp served
      obtain ⟨_, _, ⟨⟩⟩ := Option.map_eq_some_iff.mp sent
      exact permitted.1
  | strangerRequests =>
      cases served
      exact permitted.1
  | _ => cases served

/-- What the service hears from the inviter's peer comes from the inviter. -/
theorem Permitted.mem_toService {event : PairingEvent P} (permitted : network.Permitted event)
    {request : PairingRequest} {now : UInt64}
    (served : network.serviceEvent event =
      some (.request network.inviter.peerId request now)) :
    request ∈ network.inviter.toService := by
  cases event with
  | inviterRequestArrives =>
      obtain ⟨_, first, same⟩ := Option.map_eq_some_iff.mp served
      cases same
      exact List.mem_of_head? first
  | joinerRequestArrives =>
      obtain ⟨_, _, sent⟩ := Option.bind_eq_some_iff.mp served
      obtain ⟨_, _, same⟩ := Option.map_eq_some_iff.mp sent
      cases same
      exact absurd rfl permitted.2
  | strangerRequests =>
      cases served
      exact absurd rfl permitted.2.1
  | _ => cases served

/-- What every event does to the service, to the inviter and to what the service has sent
to it: a new response answers a request of the inviter, which becomes registered only
when it hears so. -/
structure Advances (text : AddressText) (network : PairingNetwork P) (event : PairingEvent P)
    (after : PairingNetwork P) : Prop where
  service : after.service =
    (network.serviceEvent event).elim network.service (network.service.next text)
  inviter : Inviter.Continues (.response .registered ∈ network.toInviter) network.inviter
    after.inviter
  toInviter : ∀ response, .response response ∈ after.toInviter →
    .response response ∈ network.toInviter ∨ ∃ request ∈ network.inviter.toService, ∃ now,
      network.serviceEvent event = some (.request network.inviter.peerId request now) ∧
      response = network.responseTo text network.inviter.peerId request now

namespace Advances

variable {event : PairingEvent P} {after : PairingNetwork P}

/-- Neither the service nor the inviter takes part. -/
theorem idle (absent : network.serviceEvent event = none)
    (service : after.service = network.service) (inviter : after.inviter = network.inviter)
    (toInviter : after.toInviter = network.toInviter) : Advances text network event after where
  service := by rw [absent, service, Option.elim_none]
  inviter := inviter ▸ .refl _
  toInviter _ member := .inl (toInviter ▸ member)

theorem atInviter {handle : Inviter P → Inviter P} {messages : List ServiceMessage}
    (absent : network.serviceEvent event = none)
    (earlier : ∀ message ∈ messages, message ∈ network.toInviter)
    (continues : Inviter.Continues (.response .registered ∈ network.toInviter) network.inviter
      (handle network.inviter)) :
    Advances text network event ({ network with toInviter := messages }.atInviter handle) := by
  unfold PairingNetwork.atInviter
  split
  · exact ⟨by rw [absent]; rfl, continues, fun _ member => .inl (earlier _ member)⟩
  · exact ⟨by rw [absent]; rfl, .refl _, fun _ member => .inl (earlier _ member)⟩

theorem call (absent : network.serviceEvent event = none)
    (joiners : PeerId → Option (Joiner P)) (peer : PeerId) (request : PairingRequest)
    (moment : Moment) (generated : P.PrivateKey) :
    Advances text network event
      ({ network with joiners }.call wire peer request moment generated) := by
  unfold PairingNetwork.call
  split
  · exact ⟨by rw [absent]; rfl, Inviter.continues_peerRequest .., fun _ => .inl⟩
  · exact ⟨by rw [absent]; rfl, .refl _, fun _ => .inl⟩

end Advances

/-- The inviter asks the service only to register its code. -/
def RegistersOwn (network : PairingNetwork P) : Prop :=
  ∀ request ∈ network.inviter.toService, ∃ addresses,
    request = .registerInvite network.inviter.codeHash network.inviter.expiresAt addresses

theorem RegistersOwn.next {event : PairingEvent P} {after : PairingNetwork P}
    (own : network.RegistersOwn) (advances : Advances text network event after) :
    after.RegistersOwn := by
  intro request member
  rw [advances.inviter.codeHash, advances.inviter.expiresAt]
  exact (advances.inviter.toService request member).elim (own request) id

theorem Begins.registersOwn (begins : network.Begins) : network.RegistersOwn := by
  obtain ⟨_, _, _, _, started⟩ := begins.inviter
  intro request member
  rw [started] at member
  cases member

theorem next_advances (event : PairingEvent P) :
    Advances text network event (network.next text wire event) := by
  cases event with
  | reservationAccepted peer renewal =>
      simp only [next]
      split
      · exact ⟨rfl, .refl _, fun response member => .inl (by simpa using member)⟩
      · exact ⟨rfl, .refl _, fun _ => .inl⟩
  | reservationEnded | strangerRequests => exact ⟨rfl, .refl _, fun _ => .inl⟩
  | inviterRequestArrives now =>
      simp only [next]
      cases sent : network.inviter.toService with
      | nil => exact .idle (by rw [serviceEvent, sent]; rfl) rfl rfl rfl
      | cons request requests =>
          refine ⟨by rw [serviceEvent, sent]; rfl,
            ⟨rfl, rfl, rfl, .inl, fun _ member => .inl (sent ▸ .tail _ member)⟩, ?_⟩
          intro response member
          rw [List.mem_append, List.mem_singleton, ServiceMessage.response.injEq] at member
          exact member.imp_right fun answer =>
            ⟨request, sent ▸ .head _, now, by rw [serviceEvent, sent]; rfl, answer⟩
  | joinerRequestArrives peer now =>
      simp only [next]
      cases present : network.joiners peer with
      | none => exact .idle (by rw [serviceEvent, present]; rfl) rfl rfl rfl
      | some joiner =>
          cases sent : joiner.toService with
          | nil =>
              simp only [sent]
              exact .idle (by rw [serviceEvent, present, Option.bind_some, sent]; rfl) rfl rfl rfl
          | cons request requests =>
              simp only [sent]
              exact ⟨by rw [serviceEvent, present, Option.bind_some, sent]; rfl, .refl _,
                fun _ => .inl⟩
  | serviceMessageArrives =>
      simp only [next]
      cases heard : network.toInviter with
      | nil => exact .idle rfl rfl rfl rfl
      | cons message messages =>
          refine .atInviter rfl (fun _ member => heard ▸ .tail _ member) ?_
          cases message with
          | reservationAccepted renewal => exact Inviter.continues_reservationReqAccepted ..
          | response response =>
              refine (Inviter.continues_serviceResponse ..).mono ?_
              rintro rfl
              exact heard ▸ .head _
  | newListenAddr => exact .atInviter rfl (fun _ => id) (Inviter.continues_newListenAddr ..)
  | relayListenerClosed =>
      exact .atInviter rfl (fun _ => id) (Inviter.continues_relayListenerClosed ..)
  | setupTimeout => exact .atInviter rfl (fun _ => id) (Inviter.continues_setupTimeout _)
  | inviteTimeout => exact .atInviter rfl (fun _ => id) (Inviter.continues_inviteTimeout _)
  | joinerCalls peer moment generated =>
      simp only [next]
      cases network.joiners peer with
      | none => exact .idle rfl rfl rfl rfl
      | some joiner =>
          cases sent : joiner.toTarget with
          | nil =>
              simp only [sent]
              exact .idle rfl rfl rfl rfl
          | cons request requests =>
              simp only [sent]
              split
              · exact .call rfl ..
              · exact .idle rfl rfl rfl rfl
  | strangerCalls => exact .call rfl ..
  | lookupAnswered peer dialing =>
      simp only [next]
      cases network.lookedUp peer <;> exact .idle rfl rfl rfl rfl
  | targetAnswered peer moment generated =>
      simp only [next]
      cases network.answered peer <;> exact .idle rfl rfl rfl rfl
  | serviceConnected | targetConnected | joinerStopped => exact .idle rfl rfl rfl rfl
  | requestLost =>
      exact ⟨rfl, ⟨rfl, rfl, rfl, .inl, fun _ member => .inl (List.mem_of_mem_tail member)⟩,
        fun _ => .inl⟩
  | serviceMessageLost =>
      exact ⟨rfl, .refl _, fun _ member => .inl (List.mem_of_mem_tail member)⟩

end PairingNetwork

namespace Symbolic

def pairingWire : PairingWire primitives :=
  { wireOf [] with
    chatPreKeyBundle := stateless
    preKeyBundle := stateless }

def joiner : Joiner primitives :=
  .started "service" "hash" ⟨alice, ⟨List.replicate 32 0, rfl⟩, "Joiner", ⟨.empty, 0, []⟩⟩

/-- Alice has just created an invite at time 100, and Bob and Carol join. -/
def invited : PairingNetwork primitives where
  service := ⟨.empty, 0, []⟩
  inviter := .started "alice" "service" "hash" 100 false ⟨bob, "Alice", ⟨.empty, 0, []⟩⟩
  joiners peer := if peer = "bob" ∨ peer = "carol" then some joiner else none
  toInviter := []
  lookedUp _ := []
  answered _ := []
  answers := []

theorem invited_begins : PairingNetwork.Begins invited where
  service := rfl
  history := rfl
  inviter := ⟨_, _, _, _, rfl⟩
  joiners peer _ present := by
    obtain ⟨_, rfl⟩ := Option.ite_some_none_eq_some.mp present
    exact ⟨_, _, _, rfl⟩
  toInviter := rfl
  lookedUp _ := rfl
  answered _ := rfl
  answers := rfl

end Symbolic

end CipherMesh
