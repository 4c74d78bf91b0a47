import CipherMesh.Rendezvous.SingleUse

/-!
# Whom the inviter pairs with

The service tells the peer id and the addresses of the inviter only to who knows the
code, but the inviter answers every peer that reaches it.  A joiner asks the inviter
for its bundle only after the service has resolved the code for it.
-/

namespace CipherMesh

open Foundation

variable {P : Primitives} {text : AddressText} {wire : PairingWire P}

namespace PairingNetwork

variable {network : PairingNetwork P}

/-- Every way to the inviter starts with a resolution of its code. -/
structure Admits (network : PairingNetwork P) : Prop where
  own : network.RegistersOwn
  invites : ∀ codeHash invite, network.service.service.invitations codeHash = some invite →
    invite.peerId = network.inviter.peerId → codeHash = network.inviter.codeHash
  lookedUp : ∀ peer directAddresses,
    .resolved network.inviter.peerId directAddresses ∈ network.lookedUp peer →
      peer ∈ network.resolvers
  targets : ∀ peer joiner, network.joiners peer = some joiner →
    joiner.targetPeerId = some network.inviter.peerId → peer ∈ network.resolvers
  served : ∀ peer payload, (peer, .preKeyBundle payload) ∈ network.answers →
    peer ∈ network.resolvers
  paired : ∀ peer conversationId, network.inviter.status = .chatting peer conversationId →
    peer ∈ network.resolvers

/-- A stranger is served by the waiting inviter only after the service has resolved the code
for it. -/
def ServesResolver (wire : PairingWire P) (network : PairingNetwork P) : PairingEvent P → Prop
  | .strangerCalls peer request _ _ =>
      network.inviter.status = .waiting → network.inviter.Serves wire peer request →
        peer ∈ network.resolvers
  | _ => True

def servingResolvers (text : AddressText) (wire : PairingWire P) :
    System (PairingNetwork P) (PairingEvent P) :=
  (system text wire).restrict (ServesResolver wire)

theorem resolvers_subset_cons (codeHash : String) (entry : ServiceEntry)
    (history : List ServiceEntry) :
    CipherMesh.resolvers codeHash history ⊆ CipherMesh.resolvers codeHash (entry :: history) := by
  intro peer member
  rw [CipherMesh.resolvers.eq_def codeHash (entry :: history)]
  split
  · next isNil => cases isNil
  · next isCons =>
      cases isCons
      split
      · exact .tail _ member
      · exact member
  · next isCons =>
      cases isCons
      exact member

theorem resolvers_subset_serve (event : ServiceEvent) :
    network.resolvers ⊆ (network.serve text event).resolvers := by
  cases event <;> exact resolvers_subset_cons _ _ _

/-- Whoever is told the inviter's peer id has asked for its code. -/
theorem Admits.mem_resolvers_of_resolved (admits : network.Admits) {peer : PeerId}
    {request : PairingRequest} {now : UInt64} {directAddresses : List String}
    (resolved : network.responseTo text peer request now =
      .resolved network.inviter.peerId directAddresses) :
    peer ∈ (network.serve text (.request peer request now)).resolvers := by
  obtain ⟨codeHash, invite, rfl, found, samePeer⟩ :=
    PublicService.handleRequest_eq_resolved resolved
  obtain rfl := admits.invites codeHash invite found samePeer
  rw [resolvers, serve, ServiceRun.next]
  dsimp only
  rw [show (network.service.service.handleRequest text peer now (.resolveInvite
    network.inviter.codeHash)).1 = _ from resolved, CipherMesh.resolvers, if_pos rfl]
  exact .head _

namespace Admits

theorem serve (text : AddressText) {event : ServiceEvent} (admits : network.Admits)
    (own : ∀ request now, event = .request network.inviter.peerId request now →
      request ∈ network.inviter.toService) :
    (network.serve text event).Admits where
  own := admits.own
  invites codeHash invite found samePeer := by
    cases event with
    | reservationAccepted peer => exact admits.invites codeHash invite found samePeer
    | reservationEnded peer =>
        exact admits.invites codeHash invite (Option.filter_eq_some_iff.mp found).1 samePeer
    | request peer request now =>
        rcases PublicService.handleRequest_invitations found with
          old | ⟨rfl, expiresAtUnixSecs, directAddresses, rfl⟩
        · exact admits.invites codeHash invite old samePeer
        · have sent := own (.registerInvite codeHash expiresAtUnixSecs directAddresses) now
            (congrArg (ServiceEvent.request · _ now) samePeer)
          obtain ⟨_, same⟩ := admits.own _ sent
          cases same
          rfl
  lookedUp peer directAddresses member :=
    resolvers_subset_serve event (admits.lookedUp peer directAddresses member)
  targets peer joiner present target :=
    resolvers_subset_serve event (admits.targets peer joiner present target)
  served peer payload member := resolvers_subset_serve event (admits.served peer payload member)
  paired peer conversationId opened :=
    resolvers_subset_serve event (admits.paired peer conversationId opened)

/-- The inviter goes on, has served and paired with resolvers only, and messages to it
come and go. -/
theorem withInviter {inviter : Inviter P} {toInviter : List ServiceMessage}
    {answered : PeerId → List PairingResponse} {answers : List (PeerId × PairingResponse)}
    (admits : network.Admits)
    (continues : Inviter.Continues True network.inviter inviter)
    (served : ∀ peer payload, (peer, .preKeyBundle payload) ∈ answers →
      peer ∈ network.resolvers)
    (paired : ∀ peer conversationId, inviter.status = .chatting peer conversationId →
      peer ∈ network.resolvers) :
    Admits { network with inviter, toInviter, answered, answers } := by
  have sameResolvers : resolvers { network with inviter, toInviter, answered, answers } =
      network.resolvers := by rw [resolvers, resolvers, continues.codeHash]
  refine ⟨fun request member => ?_, ?_, ?_, ?_, ?_, ?_⟩
  · rw [continues.codeHash, continues.expiresAt]
    exact (continues.toService request member).elim (admits.own request) id
  · rw [continues.peerId, continues.codeHash]
    exact admits.invites
  · rw [sameResolvers, continues.peerId]
    exact admits.lookedUp
  · rw [sameResolvers, continues.peerId]
    exact admits.targets
  · rw [sameResolvers]
    exact served
  · rw [sameResolvers]
    exact paired

theorem atInviter {handle : Inviter P → Inviter P} {toInviter : List ServiceMessage}
    (admits : network.Admits)
    (continues : Inviter.Continues True network.inviter (handle network.inviter))
    (staysClosed : Inviter.StaysClosed handle) :
    ({ network with toInviter }.atInviter handle).Admits := by
  unfold PairingNetwork.atInviter
  split
  · exact admits.withInviter continues admits.served fun peer conversationId opened =>
      admits.paired peer conversationId (staysClosed _ peer conversationId opened)
  · exact admits.withInviter (.refl _) admits.served admits.paired

theorem call {peer : PeerId} {request : PairingRequest} {moment : Moment}
    {generated : P.PrivateKey} (admits : network.Admits)
    (known : network.inviter.status = .waiting → network.inviter.Serves wire peer request →
      peer ∈ network.resolvers) :
    (network.call wire peer request moment generated).Admits := by
  unfold PairingNetwork.call
  split
  · next waiting =>
      refine admits.withInviter (Inviter.continues_peerRequest wire peer
        request moment generated network.inviter) ?_ ?_
      · intro other payload member
        rcases List.mem_append.mp member with new | old
        · obtain ⟨response, given, same⟩ := List.mem_map.mp new
          cases same
          exact known waiting (Inviter.serves_of_preKeyBundle (Option.mem_toList.mp given))
        · exact admits.served other payload old
      · intro other conversationId opened
        obtain ⟨rfl, serves⟩ := Inviter.serves_of_chatting waiting opened
        exact known waiting serves
  · exact admits

theorem atJoiner (peer : PeerId) (handle : Joiner P → Joiner P) (admits : network.Admits)
    (target : ∀ joiner, (handle joiner).targetPeerId = joiner.targetPeerId ∨
      ((handle joiner).targetPeerId = some network.inviter.peerId → peer ∈ network.resolvers)) :
    (network.atJoiner peer handle).Admits where
  own := admits.own
  invites := admits.invites
  lookedUp := admits.lookedUp
  targets other joiner present isTarget := by
    by_cases same : other = peer
    · subst same
      rw [PairingNetwork.atJoiner] at present
      dsimp only at present
      rw [Function.update_self] at present
      obtain ⟨earlier, found, rfl⟩ := Option.map_eq_some_iff.mp present
      rcases target earlier with unchanged | known
      · exact admits.targets other earlier found (unchanged ▸ isTarget)
      · exact known isTarget
    · refine admits.targets other joiner ?_ isTarget
      rw [← present]
      exact (Function.update_of_ne same _ _).symm
  served := admits.served
  paired := admits.paired

theorem atConnecting {peer : PeerId} {handle : Joiner P → Joiner P} (admits : network.Admits)
    (target : ∀ joiner, (handle joiner).targetPeerId = joiner.targetPeerId ∨
      ((handle joiner).targetPeerId = some network.inviter.peerId → peer ∈ network.resolvers)) :
    (network.atConnecting peer handle).Admits := by
  refine admits.atJoiner peer _ fun joiner => ?_
  split
  · exact target joiner
  · exact .inl rfl

/-- What the service has sent to the joiners changes by responses to them. -/
theorem withLookedUp {lookedUp : PeerId → List PairingResponse} (admits : network.Admits)
    (known : ∀ peer directAddresses,
      .resolved network.inviter.peerId directAddresses ∈ lookedUp peer →
        .resolved network.inviter.peerId directAddresses ∈ network.lookedUp peer ∨
        peer ∈ network.resolvers) :
    Admits { network with lookedUp } :=
  { admits with
    lookedUp := fun peer directAddresses member =>
      (known peer directAddresses member).elim (admits.lookedUp peer directAddresses) id }

/-- A request of the inviter that arrives is one that it has sent. -/
theorem requests_of_permitted {event : PairingEvent P} {served : ServiceEvent}
    (permitted : (servingResolvers text wire).permitted network event)
    (takesPart : network.serviceEvent event = some served) (request : PairingRequest)
    (now : UInt64) (same : served = .request network.inviter.peerId request now) :
    request ∈ network.inviter.toService :=
  permitted.1.mem_toService (takesPart.trans (congrArg some same))

theorem joinerRequestArrives {peer : PeerId} {now : UInt64} (admits : network.Admits)
    (permitted : (servingResolvers text wire).permitted network
      (.joinerRequestArrives peer now)) :
    (network.next text wire (.joinerRequestArrives peer now)).Admits := by
  simp only [PairingNetwork.next]
  cases present : network.joiners peer with
  | none => exact admits
  | some joiner =>
      cases sent : joiner.toService with
      | nil =>
          simp only [sent]
          exact admits
      | cons request requests =>
          simp only [sent]
          have served := admits.serve text
            (requests_of_permitted permitted
              (by rw [serviceEvent, present, Option.bind_some, sent]; rfl))
          have taken := served.atJoiner peer
            (fun joiner => { joiner with toService := requests }) fun _ => .inl rfl
          refine taken.withLookedUp fun other directAddresses member => ?_
          by_cases same : other = peer
          · subst same
            rw [Function.update_self, List.mem_append, List.mem_singleton] at member
            exact member.imp_right fun answer =>
              admits.mem_resolvers_of_resolved answer.symm
          · rw [Function.update_of_ne same] at member
            exact .inl member

theorem serviceMessageArrives (admits : network.Admits) :
    (network.next text wire .serviceMessageArrives).Admits := by
  simp only [PairingNetwork.next]
  cases network.toInviter with
  | nil => exact admits
  | cons message messages =>
      cases message with
      | reservationAccepted renewal =>
          exact admits.atInviter
            (Inviter.continues_reservationReqAccepted renewal _)
            (Inviter.staysClosed_reservationReqAccepted renewal)
      | response response =>
          exact admits.atInviter
            ((Inviter.continues_serviceResponse response _).mono fun _ => trivial)
            (Inviter.staysClosed_serviceResponse response)

theorem joinerCalls {peer : PeerId} {moment : Moment} {generated : P.PrivateKey}
    (admits : network.Admits) :
    (network.next text wire (.joinerCalls peer moment generated)).Admits := by
  simp only [PairingNetwork.next]
  cases present : network.joiners peer with
  | none => exact admits
  | some joiner =>
      cases sent : joiner.toTarget with
      | nil =>
          simp only [sent]
          exact admits
      | cons request requests =>
          simp only [sent]
          have taken := admits.atJoiner peer
            (fun joiner => { joiner with toTarget := requests }) fun _ => .inl rfl
          split
          · next target =>
              exact taken.call fun _ _ => admits.targets peer joiner present target
          · exact taken

theorem lookupAnswered {peer : PeerId} {dialing : Except AppError Unit}
    (admits : network.Admits) :
    (network.next text wire (.lookupAnswered peer dialing)).Admits := by
  simp only [PairingNetwork.next]
  cases heard : network.lookedUp peer with
  | nil => exact admits
  | cons response responses =>
      have known (directAddresses : List String)
          (named : response = .resolved network.inviter.peerId directAddresses) :
          peer ∈ network.resolvers :=
        admits.lookedUp peer directAddresses (heard ▸ named ▸ .head _)
      have taken : Admits { network with
          lookedUp := Function.update network.lookedUp peer responses } := by
        refine admits.withLookedUp fun other directAddresses member => .inl ?_
        by_cases same : other = peer
        · subst same
          rw [Function.update_self] at member
          exact heard ▸ .tail _ member
        · rwa [Function.update_of_ne same] at member
      refine taken.atConnecting fun joiner => ?_
      rcases joiner.serviceResponse_targetPeerId dialing response with
        unchanged | ⟨peerId, directAddresses, named, target⟩
      · exact .inl unchanged
      · refine .inr fun isInviter => known directAddresses ?_
        rw [named, Option.some.inj (target.symm.trans isInviter)]

theorem next {event : PairingEvent P} (admits : network.Admits)
    (permitted : (servingResolvers text wire).permitted network event) :
    (network.next text wire event).Admits := by
  cases event with
  | reservationAccepted peer renewal =>
      have served := admits.serve text (requests_of_permitted permitted rfl)
      simp only [PairingNetwork.next]
      split
      · exact served.withInviter (.refl _) served.served served.paired
      · exact served
  | reservationEnded peer => exact admits.serve text (requests_of_permitted permitted rfl)
  | inviterRequestArrives now =>
      simp only [PairingNetwork.next]
      cases sent : network.inviter.toService with
      | nil => exact admits
      | cons request requests =>
          have served := admits.serve text
            (requests_of_permitted permitted (by rw [serviceEvent, sent]; rfl))
          refine served.withInviter
            ⟨rfl, rfl, rfl, .inl, fun _ member => .inl ?_⟩ served.served served.paired
          exact sent ▸ .tail _ member
  | joinerRequestArrives peer now => exact admits.joinerRequestArrives permitted
  | strangerRequests peer request now =>
      exact admits.serve text (requests_of_permitted permitted rfl)
  | serviceMessageArrives => exact admits.serviceMessageArrives
  | newListenAddr lanIp address =>
      exact admits.atInviter (Inviter.continues_newListenAddr ..)
        (Inviter.staysClosed_newListenAddr text lanIp address)
  | relayListenerClosed listening =>
      exact admits.atInviter (Inviter.continues_relayListenerClosed ..)
        (Inviter.staysClosed_relayListenerClosed listening)
  | setupTimeout =>
      exact admits.atInviter (Inviter.continues_setupTimeout _)
        Inviter.staysClosed_setupTimeout
  | inviteTimeout =>
      exact admits.atInviter (Inviter.continues_inviteTimeout _)
        Inviter.staysClosed_inviteTimeout
  | joinerCalls peer moment generated => exact admits.joinerCalls
  | strangerCalls peer request moment generated =>
      exact admits.call permitted.2
  | serviceConnected peer =>
      exact admits.atConnecting fun _ => .inl Joiner.serviceConnected_targetPeerId
  | lookupAnswered peer dialing => exact admits.lookupAnswered
  | targetConnected peer =>
      exact admits.atConnecting fun _ => .inl Joiner.targetConnected_targetPeerId
  | targetAnswered peer moment generated =>
      simp only [PairingNetwork.next]
      cases network.answered peer with
      | nil => exact admits
      | cons response responses =>
          have taken : Admits { network with
              answered := Function.update network.answered peer responses } :=
            admits.withInviter (.refl _) admits.served admits.paired
          exact taken.atJoiner peer _ fun _ => .inl (Joiner.targetResponse_targetPeerId ..)
  | joinerStopped peer error => exact admits.atJoiner peer _ fun _ => .inl rfl
  | requestLost =>
      exact admits.withInviter
        ⟨rfl, rfl, rfl, .inl, fun _ member => .inl (List.mem_of_mem_tail member)⟩ admits.served
        admits.paired
  | serviceMessageLost =>
      exact admits.withInviter (.refl _) admits.served admits.paired

end Admits

/-- The inviter hands its bundle only to peers for whom the service has resolved its code,
and opens the chat only with such a peer. -/
theorem only_resolvers_admitted (reachable : (servingResolvers text wire).Reachable network) :
    (∀ peer payload, (peer, .preKeyBundle payload) ∈ network.answers →
      peer ∈ network.resolvers) ∧
    ∀ peer conversationId, network.inviter.status = .chatting peer conversationId →
      peer ∈ network.resolvers := by
  have admits : network.Admits := by
    refine reachable.invariant Admits ?_ fun network event admits permitted =>
      admits.next permitted
    intro start begins
    obtain ⟨_, _, _, _, started⟩ := begins.inviter
    refine ⟨begins.registersOwn, ?_, ?_, ?_, ?_, ?_⟩
    · intro codeHash invite found
      rw [begins.service] at found
      cases found
    · intro peer directAddresses member
      rw [begins.lookedUp] at member
      cases member
    · intro peer joiner present target
      obtain ⟨_, _, _, rfl⟩ := begins.joiners peer joiner present
      cases target
    · intro peer payload member
      rw [begins.answers] at member
      cases member
    · intro peer conversationId opened
      rw [started] at opened
      cases opened
  exact ⟨admits.served, admits.paired⟩

end PairingNetwork

namespace Symbolic

/-- The initial message of a stranger for the bundle that it has asked for. -/
def strangersMessage : Option (InitialMessage primitives) := do
  let offered := bob.replenishOneTimePrekey 150 (Bytes.ofText "one-time")
  let bundle ← offered.prekeyBundle.toOption
  ((Alice.encryptInitialMessage bundle "" (Bytes.ofText "initial")).run alice).1.toOption

def strangersWire : PairingWire primitives :=
  { pairingWire with
    chatPreKeyBundle := ⟨fun _ => some [], fun _ => none⟩
    chatInitialMessage := .listed (strangersMessage.toList.map (⟨"Mallory", none, ·⟩)) }

/-- Bob joins by the code and asks for the bundle, and a stranger sends what does not decode. -/
def joinerServed : List (PairingEvent primitives) :=
  [.reservationAccepted "alice" false, .serviceMessageArrives, .inviterRequestArrives 100,
    .serviceMessageArrives, .serviceConnected "bob", .joinerRequestArrives "bob" 110,
    .lookupAnswered "bob" (.ok ()), .targetConnected "bob",
    .joinerCalls "bob" ⟨150, []⟩ (Bytes.ofText "one-time"),
    .strangerCalls "mallory" (.initialMessage [0]) ⟨151, []⟩ (Bytes.ofText "unused")]

theorem joiner_admitted :
    "bob" ∈ ((PairingNetwork.system addressText strangersWire).run invited
      joinerServed).resolvers := by
  have undecoded : decodeChatInitialMessage strangersWire.toWire [0] = none := by decide +kernel
  have permits : (PairingNetwork.servingResolvers addressText strangersWire).Permits invited
      joinerServed := by
    refine ⟨⟨?_, trivial⟩, ⟨?_, trivial⟩, ⟨?_, trivial⟩, ⟨?_, trivial⟩, ⟨?_, trivial⟩,
      ⟨?_, trivial⟩, ⟨?_, trivial⟩, ⟨?_, trivial⟩, ⟨?_, trivial⟩, ⟨?_, ?_⟩, trivial⟩
    case refine_11 =>
      rintro - ⟨-, -, asks | ⟨payload, initial, same, decoded, -⟩⟩
      · cases asks
      · cases same
        rw [undecoded] at decoded
        cases decoded
    all_goals decide +kernel
  exact (PairingNetwork.only_resolvers_admitted
    (show (PairingNetwork.servingResolvers addressText strangersWire).Reachable _ from
      ⟨invited, invited_begins, permits.reaches⟩)).1 "bob" [] (by decide +kernel)

/-- Mallory knows no code and finds the address of the inviter by discovery. -/
def strangerPairs : List (PairingEvent primitives) :=
  [.reservationAccepted "alice" false, .serviceMessageArrives, .inviterRequestArrives 100,
    .serviceMessageArrives,
    .strangerCalls "mallory" .preKeyBundle ⟨150, []⟩ (Bytes.ofText "one-time"),
    .strangerCalls "mallory" (.initialMessage []) ⟨151, []⟩ (Bytes.ofText "unused")]

theorem stranger_admitted : ∃ network,
    (PairingNetwork.system addressText strangersWire).Reachable network ∧
    ("mallory", .preKeyBundle []) ∈ network.answers ∧
    network.inviter.status = .chatting "mallory" (contactIdForDisplayName primitives "Mallory") ∧
    network.resolvers = [] := by
  have permits : (PairingNetwork.system addressText strangersWire).Permits invited
      strangerPairs := by decide +kernel
  exact ⟨_, ⟨invited, invited_begins, permits.reaches⟩, by decide +kernel, by decide +kernel,
    by decide +kernel⟩

end Symbolic

end CipherMesh
