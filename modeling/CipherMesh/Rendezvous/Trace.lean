import CipherMesh.Foundation.Reachability
import CipherMesh.Rendezvous.Service

/-!
# What a resolved invite says about the past

The history of the service lists what happened to it, the newest entry first.  An
invite is live when it is the last registration of its code and nothing since has
resolved the code or ended the reservation of its peer.  The tables of the service
hold the live invites, except that overdue ones may be missing.
-/

namespace CipherMesh

open Foundation

inductive ServiceEvent where
  | reservationAccepted (peer : PeerId)
  | reservationEnded (peer : PeerId)
  | request (peer : PeerId) (request : PairingRequest) (now : UInt64)

inductive ServiceEntry where
  | reserved (peer : PeerId)
  | ended (peer : PeerId)
  | answered (peer : PeerId) (request : PairingRequest) (response : PairingResponse)
  deriving DecidableEq

/-- The last reservation event of the peer accepted it. -/
def Reserved (peer : PeerId) : List ServiceEntry → Prop
  | [] => False
  | .reserved other :: history => other = peer ∨ Reserved peer history
  | .ended other :: history => other ≠ peer ∧ Reserved peer history
  | .answered .. :: history => Reserved peer history

/-- The entry ends the life of an invite for the code by the peer: its reservation ended,
the code was asked for, or another registration of it was accepted. -/
def ServiceEntry.Ends (codeHash : String) (peer : PeerId) : ServiceEntry → Prop
  | .reserved _ => False
  | .ended other => other = peer
  | .answered _ (.resolveInvite other) _ => other = codeHash
  | .answered _ (.registerInvite other _ _) .registered => other = codeHash
  | .answered .. => False

/-- The invite is the last accepted registration of the code, by a peer that was reserved
then, and nothing since has ended its life. -/
inductive Live (text : AddressText) (codeHash : String) :
    List ServiceEntry → InviteRegistration → Prop where
  | registered {history : List ServiceEntry} {peer : PeerId} {expiresAtUnixSecs : UInt64}
      {directAddresses : List String} :
      Reserved peer history →
      Live text codeHash
        (.answered peer (.registerInvite codeHash expiresAtUnixSecs directAddresses)
          .registered :: history)
        ⟨peer, directAddresses.filterMap (sanitizeDirectAddressText text), expiresAtUnixSecs⟩
  | later {history : List ServiceEntry} {invite : InviteRegistration} {entry : ServiceEntry} :
      Live text codeHash history invite → ¬ entry.Ends codeHash invite.peerId →
      Live text codeHash (entry :: history) invite

structure ServiceRun where
  service : PublicService
  clock : UInt64
  history : List ServiceEntry

namespace ServiceRun

def next (text : AddressText) (run : ServiceRun) : ServiceEvent → ServiceRun
  | .reservationAccepted peer =>
      { run with
        service := run.service.reservationAccepted peer
        history := .reserved peer :: run.history }
  | .reservationEnded peer =>
      { run with
        service := run.service.reservationEnded peer
        history := .ended peer :: run.history }
  | .request peer request now =>
      let (response, service) := run.service.handleRequest text peer now request
      { service, clock := now, history := .answered peer request response :: run.history }

/-- The runs of the event loop: the clock does not go back. -/
def eventLoop (text : AddressText) : System ServiceRun ServiceEvent where
  initial run := run.service = .empty ∧ run.history = []
  permitted run
    | .request _ _ now => run.clock ≤ now
    | _ => True
  next := next text

/-- The tables represent the history. -/
structure Represents (text : AddressText) (service : PublicService) (clock : UInt64)
    (history : List ServiceEntry) : Prop where
  reserved : ∀ peer, peer ∈ service.reservedPeers ↔ Reserved peer history
  live : ∀ codeHash invite, service.invitations codeHash = some invite →
    Live text codeHash history invite
  held : ∀ codeHash invite, Live text codeHash history invite →
    clock < invite.expiresAtUnixSecs → service.invitations codeHash = some invite

variable {text : AddressText} {service : PublicService} {clock now : UInt64}
variable {history : List ServiceEntry} {peer : PeerId}

theorem represents_empty : Represents text .empty clock [] where
  reserved _ := by simp [PublicService.empty, Reserved]
  live _ _ found := by cases found
  held _ _ live := by cases live

namespace Represents

theorem retain (represents : Represents text service clock history) (order : clock ≤ now) :
    Represents text (service.retain fun invite => invite.expiresAtUnixSecs > now) now history where
  reserved := represents.reserved
  live codeHash invite found :=
    represents.live codeHash invite (Option.filter_eq_some_iff.mp found).1
  held codeHash invite live unexpired :=
    Option.filter_eq_some_iff.mpr ⟨represents.held codeHash invite live
      (UInt64.lt_of_le_of_lt order unexpired), decide_eq_true unexpired⟩

theorem reservationAccepted (represents : Represents text service clock history) (peer : PeerId) :
    Represents text (service.reservationAccepted peer) clock (.reserved peer :: history) where
  reserved other := by
    rw [PublicService.reservationAccepted, Finset.mem_insert, represents.reserved, Reserved,
      eq_comm]
  live codeHash invite found := .later (represents.live codeHash invite found) id
  held codeHash invite live unexpired := by
    cases live with
    | later live _ => exact represents.held codeHash invite live unexpired

theorem reservationEnded (represents : Represents text service clock history) (peer : PeerId) :
    Represents text (service.reservationEnded peer) clock (.ended peer :: history) where
  reserved other := by
    rw [PublicService.reservationEnded, PublicService.retain, Finset.mem_erase,
      represents.reserved, Reserved, ne_comm]
  live codeHash invite found := by
    obtain ⟨before, otherPeer⟩ := Option.filter_eq_some_iff.mp found
    exact .later (represents.live codeHash invite before) (Ne.symm (of_decide_eq_true otherPeer))
  held codeHash invite live unexpired := by
    cases live with
    | later live notEnded =>
        exact Option.filter_eq_some_iff.mpr ⟨represents.held codeHash invite live unexpired,
          decide_eq_true (Ne.symm notEnded)⟩

/-- An answer that neither registers nor resolves an invite. -/
theorem answered (represents : Represents text service clock history) {request : PairingRequest}
    {response : PairingResponse} (notRegistered : response ≠ .registered)
    (notResolve : ∀ codeHash, request ≠ .resolveInvite codeHash) :
    Represents text service clock (.answered peer request response :: history) where
  reserved := represents.reserved
  live codeHash invite found := by
    refine .later (represents.live codeHash invite found) fun ends => ?_
    unfold ServiceEntry.Ends at ends
    split at ends
    · exact ends
    · next isEnded => cases isEnded
    · next other _ isAnswered =>
        cases isAnswered
        exact notResolve other rfl
    · next isAnswered =>
        cases isAnswered
        exact notRegistered rfl
    · exact ends
  held codeHash invite live unexpired := by
    cases live with
    | registered => exact absurd rfl notRegistered
    | later live _ => exact represents.held codeHash invite live unexpired

theorem registerInvite (represents : Represents text service clock history) (codeHash : String)
    (expiresAtUnixSecs : UInt64) (directAddresses : List String) :
    Represents text
      (service.registerInvite text peer now codeHash expiresAtUnixSecs directAddresses).2 clock
      (.answered peer (.registerInvite codeHash expiresAtUnixSecs directAddresses)
        (service.registerInvite text peer now codeHash expiresAtUnixSecs directAddresses).1 ::
          history) := by
  by_cases registered : (service.registerInvite text peer now codeHash expiresAtUnixSecs
    directAddresses).1 = .registered
  · obtain ⟨reserved, _, after⟩ := PublicService.registerInvite_eq_registered registered
    rw [registered, after]
    refine ⟨represents.reserved, fun other invite found => ?_,
      fun other invite live unexpired => ?_⟩
    · dsimp only at found
      by_cases same : other = codeHash
      · subst same
        rw [Function.update_self, Option.some.injEq] at found
        subst found
        exact .registered ((represents.reserved peer).mp reserved)
      · rw [Function.update_of_ne same] at found
        exact .later (represents.live other invite found) (Ne.symm same)
    · dsimp only
      cases live with
      | registered _ => exact Function.update_self _ _ _
      | later live notEnded =>
          rw [Function.update_of_ne (Ne.symm notEnded)]
          exact represents.held other invite live unexpired
  · rw [PublicService.registerInvite_snd_of_ne_registered registered]
    exact represents.answered registered nofun

theorem resolveInvite (represents : Represents text service clock history) (codeHash : String)
    (response : PairingResponse) :
    Represents text (service.resolveInvite codeHash).2 clock
      (.answered peer (.resolveInvite codeHash) response :: history) := by
  rw [PublicService.resolveInvite_snd]
  refine ⟨represents.reserved, fun other invite found => ?_, fun other invite live unexpired => ?_⟩
  · dsimp only at found
    by_cases same : other = codeHash
    · subst same
      rw [Function.update_self] at found
      cases found
    · rw [Function.update_of_ne same] at found
      exact .later (represents.live other invite found) (Ne.symm same)
  · dsimp only
    cases live with
    | later live notEnded =>
        rw [Function.update_of_ne (Ne.symm notEnded)]
        exact represents.held other invite live unexpired

theorem handleRequest (represents : Represents text service clock history) (order : clock ≤ now)
    (request : PairingRequest) :
    Represents text (service.handleRequest text peer now request).2 now
      (.answered peer request (service.handleRequest text peer now request).1 :: history) := by
  have current := represents.retain order
  cases request with
  | registerInvite codeHash expiresAtUnixSecs directAddresses =>
      exact current.registerInvite codeHash expiresAtUnixSecs directAddresses
  | resolveInvite codeHash => exact current.resolveInvite codeHash _
  | preKeyBundle | initialMessage | chatFrame => exact current.answered nofun nofun

end Represents

theorem represents_of_reachable {run : ServiceRun} (reachable : (eventLoop text).Reachable run) :
    Represents text run.service run.clock run.history := by
  refine reachable.invariant
    (fun run => Represents text run.service run.clock run.history) ?_ ?_
  · rintro start ⟨empty, new⟩
    rw [empty, new]
    exact represents_empty
  · intro run event represents permitted
    cases event with
    | reservationAccepted peer => exact represents.reservationAccepted peer
    | reservationEnded peer => exact represents.reservationEnded peer
    | request peer request now => exact represents.handleRequest permitted request

/-- Every resolved reply names the peer and the sanitized addresses of the live invite of
the code, which is not overdue; and while an invite is live and not overdue, no other
peer's registration of its code is accepted. -/
theorem rendezvous_trace_law {run : ServiceRun} (reachable : (eventLoop text).Reachable run)
    (asking : PeerId) (order : run.clock ≤ now) :
    (∀ codeHash peerId directAddresses,
      (run.service.handleRequest text asking now (.resolveInvite codeHash)).1 =
        .resolved peerId directAddresses →
      ∃ expiresAtUnixSecs, now < expiresAtUnixSecs ∧
        Live text codeHash run.history ⟨peerId, directAddresses, expiresAtUnixSecs⟩) ∧
    ∀ codeHash expiresAtUnixSecs directAddresses,
      (run.service.handleRequest text asking now
        (.registerInvite codeHash expiresAtUnixSecs directAddresses)).1 = .registered →
      ∀ invite, Live text codeHash run.history invite → now < invite.expiresAtUnixSecs →
        invite.peerId = asking := by
  have represents := (represents_of_reachable reachable).retain order
  refine ⟨fun codeHash peerId directAddresses resolved => ?_,
    fun codeHash expiresAtUnixSecs directAddresses registered invite live unexpired => ?_⟩
  · obtain ⟨invite, found, rfl, rfl, _⟩ := PublicService.resolveInvite_eq_resolved resolved
    have unexpired := (Option.filter_eq_some_iff.mp found).2
    exact ⟨_, of_decide_eq_true unexpired, represents.live codeHash invite found⟩
  · obtain ⟨_, samePeer, _⟩ := PublicService.registerInvite_eq_registered registered
    exact samePeer invite (represents.held codeHash invite live unexpired)

end ServiceRun

namespace Symbolic

/-- Addresses that no text denotes. -/
def addressText : AddressText := ⟨fun _ => none, fun _ => ""⟩

/-- Two addresses that have texts, of a peer in the local network and of the loopback
interface. -/
def localText : AddressText where
  parse
    | "lan" => some [.ip4 ⟨192, 168, 1, 5⟩, .tcp 4001]
    | "loopback" => some [.ip4 ⟨127, 0, 0, 1⟩, .tcp 4001]
    | _ => none
  render
    | [.ip4 ⟨192, 168, 1, 5⟩, .tcp 4001] => "lan"
    | [.ip4 ⟨127, 0, 0, 1⟩, .tcp 4001] => "loopback"
    | _ => ""

/-- Alice and Carol have reservations, and Alice registers an invite with both addresses. -/
def inviteRegistered : List ServiceEvent :=
  [.reservationAccepted "alice", .reservationAccepted "carol",
    .request "alice" (.registerInvite "hash" 200 ["loopback", "lan"]) 100]

/-- Bob's request for the code gives the invite of Alice with the address that leads to her,
and Carol cannot register the code. -/
theorem invite_resolved :
    let run := (ServiceRun.eventLoop localText).run ⟨.empty, 0, []⟩ inviteRegistered
    (run.service.handleRequest localText "bob" 150 (.resolveInvite "hash")).1 =
        .resolved "alice" ["lan"] ∧
      (∃ expiresAtUnixSecs, 150 < expiresAtUnixSecs ∧
        Live localText "hash" run.history ⟨"alice", ["lan"], expiresAtUnixSecs⟩) ∧
      (run.service.handleRequest localText "carol" 150 (.registerInvite "hash" 300 [])).1 ≠
        .registered := by
  intro run
  have permits : (ServiceRun.eventLoop localText).Permits ⟨.empty, 0, []⟩ inviteRegistered :=
    ⟨trivial, trivial, (by decide : (0 : UInt64) ≤ 100), trivial⟩
  have resolved : (run.service.handleRequest localText "bob" 150 (.resolveInvite "hash")).1 =
      .resolved "alice" ["lan"] := by decide +kernel
  have order : run.clock ≤ 150 := by decide +kernel
  have law := ServiceRun.rendezvous_trace_law ⟨_, ⟨rfl, rfl⟩, permits.reaches⟩ "bob" order
  have carolLaw := ServiceRun.rendezvous_trace_law ⟨_, ⟨rfl, rfl⟩, permits.reaches⟩ "carol" order
  have live := law.1 "hash" "alice" ["lan"] resolved
  refine ⟨resolved, live, fun registered => ?_⟩
  obtain ⟨_, unexpired, alices⟩ := live
  have same : "alice" = "carol" := carolLaw.2 "hash" 300 [] registered _ alices unexpired
  exact absurd same (by decide)

end Symbolic

end CipherMesh
