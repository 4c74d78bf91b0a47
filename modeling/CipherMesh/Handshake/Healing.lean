import CipherMesh.Handshake.Compromise

/-!
# A session after the theft of its state

The thief watches the headers and injects headers of his own.  He derives a new epoch when a
private key that he holds shares the secret that the session ratchets with: the stolen ratchet
key does until the session rotates, and a key of his own does when the session has taken its
public key from a header.  From the first other secret on he has no root key any more.
-/

namespace CipherMesh

open Foundation
open Foundation.Mutation

variable {P : Primitives}

namespace RatchetSession

variable {session ready reached later : RatchetSession P}

/-! ## A session that moves on in its epoch -/

/-- The later session is in the same epoch and not behind. -/
structure Passed (session later : RatchetSession P) : Prop where
  role : later.role = session.role
  sendCount : session.sendCount ≤ later.sendCount
  recvCount : session.recvCount ≤ later.recvCount
  skipped : ∀ number ∈ later.skippedMessageKeys,
    number ∈ session.skippedMessageKeys ∨ session.recvCount ≤ number

namespace Passed

theorem refl (session : RatchetSession P) : session.Passed session :=
  ⟨rfl, Nat.le_refl _, Nat.le_refl _, fun _ => .inl⟩

theorem trans (first : session.Passed reached) (second : reached.Passed later) :
    session.Passed later where
  role := second.role.trans first.role
  sendCount := first.sendCount.trans second.sendCount
  recvCount := first.recvCount.trans second.recvCount
  skipped number member := by
    rcases second.skipped number member with before | ahead
    · exact first.skipped number before
    · exact .inr (first.recvCount.trans ahead)

/-- What the later session holds, the session held before. -/
theorem holds (passed : session.Passed later) {sender : RatchetRole} {number : Nat}
    (held : later.Holds sender number) : session.Holds sender number := by
  rcases held with (⟨own, ahead⟩ | ⟨peer, ahead⟩) | ⟨peer, member⟩
  · exact .inl (.inl ⟨own.trans passed.role, passed.sendCount.trans ahead⟩)
  · exact .inl (.inr ⟨passed.role ▸ peer, passed.recvCount.trans ahead⟩)
  · rcases passed.skipped number member with before | ahead
    · exact .inr ⟨passed.role ▸ peer, before⟩
    · exact .inl (.inr ⟨passed.role ▸ peer, ahead⟩)

theorem sent (session : RatchetSession P) : session.Passed session.sent :=
  ⟨rfl, Nat.le_succ _, Nat.le_refl _, fun _ => .inl⟩

theorem skipping (session : RatchetSession P) (count : Nat) :
    session.Passed (session.skipping count) where
  role := rfl
  sendCount := Nat.le_refl _
  recvCount := Nat.le_add_right _ _
  skipped _ member := ((mem_storedKeys count).mp member).elim (fun ahead => .inr ahead.1) .inl

end Passed

theorem Ready.passed {number : Nat} {messageKey : P.Block}
    (taken : session.Ready number messageKey ready) : session.Passed ready := by
  cases taken with
  | stored unconsumed present =>
      exact ⟨rfl, Nat.le_refl _, Nat.le_refl _,
        fun _ member => .inl (Finmap.mem_erase.mp member).2⟩
  | reached unconsumed absent ahead room =>
      have skipped := Passed.skipping session (number - session.recvCount)
      exact ⟨rfl, Nat.le_refl _, skipped.recvCount.trans (Nat.le_succ _), skipped.skipped⟩

theorem Passed.consumed (passed : session.Passed ready) (number : Nat) :
    session.Passed (ready.consumed number) :=
  ⟨passed.role, passed.sendCount, passed.recvCount, passed.skipped⟩

theorem Outcome.passed {message : RatchetMessage P} {result : Except CryptoError String}
    (outcome : session.Outcome message result reached) : session.Passed reached := by
  cases outcome with
  | replayed seen => exact .refl _
  | exhausted unconsumed absent ahead noRoom => exact .skipping _ _
  | unopened taken refused => exact taken.passed
  | garbled taken opened malformed => exact taken.passed.consumed _
  | accepted taken opened decoded => exact taken.passed.consumed _

end RatchetSession

open RatchetSession

/-! ## Runs after the theft -/

/-- A session whose state was stolen.  `ratchets`: the secrets that it has ratcheted with since,
the last one first.  `rotated`: it has drawn a private key since. -/
structure StolenSession (P : Primitives) where
  history : RatchetHistory P
  ratchets : List P.Block
  rotated : Bool

namespace StolenSession

/-- The secrets of the ratchet that a call makes. -/
def ratchetOf (session : RatchetSession P) : Call P → List P.Block
  | .decrypt message =>
      if message.ratchetPublicKey = session.peerRatchetPublicKey then []
      else [session.dhKeys.dhBytes message.ratchetPublicKey]
  | .rotateSendingRatchet generated =>
      [P.diffieHellman generated session.peerRatchetPublicKey]
  | _ => []

/-- The call draws a private key. -/
def draws : Call P → Bool
  | .rotateSendingRatchet _ => true
  | _ => false

/-- The runs from the theft on.  Whoever makes a message, the session is called with it. -/
def runs (shares : List P.Block) (stolen : RatchetHistory P) :
    System (StolenSession P) (Call P) where
  initial later := later = ⟨stolen, [], false⟩
  permitted _ _ := True
  next later call := {
    history := (RatchetHistory.runs shares).next later.history call
    ratchets := ratchetOf later.history.session call ++ later.ratchets
    rotated := later.rotated || draws call }

variable {later still : StolenSession P} {stolen : RatchetHistory P} {shares : List P.Block}
  {loot : Loot P} {others : Set P.PrivateKey}

/-- The private keys of the thief share every secret that the session has ratcheted with. -/
def Shared (later : StolenSession P) (loot : Loot P) : Prop :=
  ∀ dhOutput ∈ later.ratchets, loot.Shares dhOutput

/-- Every list of calls is a run. -/
theorem reaches_run (start : StolenSession P) (calls : List (Call P)) :
    (runs shares stolen).Reaches start ((runs shares stolen).run start calls) := by
  apply System.Permits.reaches
  induction calls generalizing start with
  | nil => exact trivial
  | cons call calls callsIH => exact ⟨trivial, callsIH _⟩

theorem ratchets_subset_next (call : Call P) :
    later.ratchets ⊆ ((runs shares stolen).next later call).ratchets :=
  List.subset_append_right _ _

theorem Shared.of_reaches (run : (runs shares stolen).Reaches later still)
    (shared : still.Shared loot) : later.Shared loot := by
  induction run with
  | refl => exact shared
  | step call _ _ runIH =>
      exact runIH fun dhOutput member => shared dhOutput (ratchets_subset_next call member)

/-- The thief has the root key exactly if he shares the ratchets, and with it the chains of
every epoch that he has seen begin. -/
structure Tracked (later : StolenSession P) (shares : List P.Block) (stolen : RatchetHistory P)
    (loot : Loot P) : Prop where
  sound : later.history.Sound shares
  base : later.history.epoch.base = stolen.epoch.base
  depth : later.history.epoch.depth = later.ratchets.length + stolen.epoch.depth
  rootKey : Derivable loot later.history.epoch.rootKey ↔ later.Shared loot
  chains : later.ratchets ≠ [] → (later.history.epoch.ChainsOpen loot ↔ later.Shared loot)
  first : later.ratchets = [] →
    later.history.epoch = stolen.epoch ∧ stolen.session.Passed later.history.session
  kept : later.rotated = false →
    later.history.session.dhKeys.privateKey = stolen.session.dhKeys.privateKey ∧
      later.Shared loot

namespace Tracked

variable (tracked : later.Tracked shares stolen (stolen.session.state.loot others))
include tracked

/-- A ratchet: the thief follows if he has followed so far and shares its secret. -/
theorem ratchet (theft : Theft stolen.session stolen.epoch shares)
    {session : RatchetSession P} {dhOutput : P.Block} (isShared : IsShared dhOutput)
    (sound : RatchetHistory.Sound ⟨session, later.history.epoch.ratchet dhOutput⟩ shares)
    {rotated : Bool}
    (kept : rotated = false →
      session.dhKeys.privateKey = stolen.session.dhKeys.privateKey ∧
        later.Shared (stolen.session.state.loot others) ∧
        (stolen.session.state.loot others).Shares dhOutput) :
    Tracked ⟨⟨session, later.history.epoch.ratchet dhOutput⟩, dhOutput :: later.ratchets, rotated⟩
      shares stolen (stolen.session.state.loot others) := by
  have both : Shared ⟨⟨session, later.history.epoch.ratchet dhOutput⟩,
      dhOutput :: later.ratchets, rotated⟩ (stolen.session.state.loot others) ↔
      (stolen.session.state.loot others).Shares dhOutput ∧
        later.Shared (stolen.session.state.loot others) := List.forall_mem_cons
  have deeper : later.history.epoch.ratchet dhOutput ≠ stolen.epoch := by
    intro same
    have depths := congrArg Epoch.depth same
    rw [Epoch.depth, tracked.depth] at depths
    omega
  exact {
    sound
    base := tracked.base
    depth := by
      rw [Epoch.depth, tracked.depth, List.length_cons]
      omega
    rootKey := by
      rw [theft.derivable_ratchet_iff tracked.base isShared, tracked.rootKey, both, and_comm]
      exact or_iff_right deeper
    chains _ := by
      rw [both, ← tracked.rootKey, ← theft.derivable_isShared_iff isShared]
      exact and_comm
    first none := absurd none (List.cons_ne_nil _ _)
    kept unrotated := by
      obtain ⟨privateKey, before, now⟩ := kept unrotated
      exact ⟨privateKey, both.mpr ⟨now, before⟩⟩ }

/-- A call that keeps the epoch and the private key. -/
theorem stay {session : RatchetSession P}
    (sound : RatchetHistory.Sound ⟨session, later.history.epoch⟩ shares)
    (dhKeys : session.dhKeys = later.history.session.dhKeys)
    (passed : later.history.session.Passed session) :
    Tracked ⟨⟨session, later.history.epoch⟩, later.ratchets, later.rotated⟩ shares stolen
      (stolen.session.state.loot others) :=
  { tracked with
    sound
    first := fun none => (tracked.first none).imp_right fun before => before.trans passed
    kept := fun unrotated =>
      (tracked.kept unrotated).imp_left (congrArg X25519KeyPair.privateKey dhKeys).trans }

theorem next (theft : Theft stolen.session stolen.epoch shares) (call : Call P) :
    ((runs shares stolen).next later call).Tracked shares stolen
      (stolen.session.state.loot others) := by
  have sound := tracked.sound.next call
  cases call with
  | encrypt text =>
      have state := run_encrypt_state later.history.session text
      simp only [RatchetHistory.runs, state] at sound
      simp only [runs, RatchetHistory.runs, state, ratchetOf, List.nil_append, draws, Bool.or_false]
      exact tracked.stay sound rfl (.sent _)
  | decrypt message =>
      have outcome := decrypt_outcome tracked.sound.current.toWellFormed message
      have dhKeys := outcome.frame.2.2.2.2.1
      simp only [RatchetHistory.runs, enteredEpoch] at sound
      simp only [runs, RatchetHistory.runs, ratchetOf, draws, Bool.or_false, enteredEpoch]
      rw [entered_dhKeys] at dhKeys
      by_cases same : message.ratchetPublicKey = later.history.session.peerRatchetPublicKey
      · rw [if_pos same] at sound ⊢
        rw [same, entered_same] at outcome
        rw [if_pos same, List.nil_append]
        exact tracked.stay sound dhKeys outcome.passed
      · rw [if_neg same] at sound ⊢
        rw [if_neg same, List.singleton_append]
        refine tracked.ratchet theft ⟨_, _, rfl⟩ sound fun unrotated => ?_
        -- The stolen private key shares the secret with whoever made the header.
        obtain ⟨privateKey, before⟩ := tracked.kept unrotated
        refine ⟨(congrArg _ dhKeys).trans privateKey, before, _, .inl rfl,
          message.ratchetPublicKey, ?_⟩
        exact congrArg (fun key => P.diffieHellman key message.ratchetPublicKey) privateKey.symm
  | rotateSendingRatchet generated =>
      exact tracked.ratchet theft ⟨_, _, rfl⟩ sound
        fun unrotated => absurd unrotated (by simp [draws])
  | restart =>
      have state := fromState_state later.history.session
      simp only [RatchetHistory.runs, state] at sound
      simp only [runs, RatchetHistory.runs, state, ratchetOf, List.nil_append, draws, Bool.or_false]
      exact tracked.stay sound rfl (.refl _)

end Tracked

theorem tracked_of_reachable (others : Set P.PrivateKey) (sound : stolen.Sound shares)
    (theft : Theft stolen.session stolen.epoch shares)
    (reachable : (runs shares stolen).Reachable later) :
    later.Tracked shares stolen (stolen.session.state.loot others) := by
  apply reachable.invariant
    (fun later => later.Tracked shares stolen (stolen.session.state.loot others))
  · rintro start rfl
    have shared : Shared ⟨stolen, [], false⟩ (stolen.session.state.loot others) :=
      fun dhOutput member => absurd member List.not_mem_nil
    exact {
      sound, base := rfl, depth := (Nat.zero_add _).symm
      rootKey := iff_of_true (.stolen ((theft.rootKey_mem_iff rfl).mpr rfl)) shared
      chains := fun some => absurd rfl some
      first := fun _ => ⟨rfl, .refl _⟩
      kept := fun _ => ⟨rfl, shared⟩ }
  · exact fun later call tracked _ => tracked.next theft call

/-- In every run after the theft, whatever private keys the thief holds and whatever headers
he injects: he opens the current epoch exactly if his keys share every secret that the session
has ratcheted with, and before the first ratchet what the stolen state opens.  Without a rotation
that is all that the session can open; once a secret is not shared, it is nothing for good. -/
theorem opened_iff_shared (injective : P.HkdfInjective) (separate : P.DhSeparate)
    (others : Set P.PrivateKey) (reachable : (RatchetHistory.runs shares).Reachable stolen)
    (after : (runs shares stolen).Reachable later) :
    (∀ sender number, Derivable (stolen.session.state.loot others)
        (later.history.epoch.messageKey sender number) ↔
      later.Shared (stolen.session.state.loot others) ∧
        (later.ratchets = [] → stolen.epoch.depth = 0 ∨
          stolen.epoch.Exposed (stolen.session.state.loot others) shares ∨
            stolen.session.Holds sender number)) ∧
    (later.rotated = false → ∀ sender number, later.history.session.Holds sender number →
      Derivable (stolen.session.state.loot others)
        (later.history.epoch.messageKey sender number)) ∧
    (¬ later.Shared (stolen.session.state.loot others) →
      ∀ still, (runs shares stolen).Reaches later still → ∀ sender number,
        ¬ Derivable (stolen.session.state.loot others)
          (still.history.epoch.messageKey sender number)) := by
  have sound := RatchetHistory.sound_of_reachable reachable
  have theft := sound.theft injective separate
  have opened (reached : StolenSession P) (run : (runs shares stolen).Reachable reached)
      (sender : RatchetRole) (number : Nat) :
      Derivable (stolen.session.state.loot others)
          (reached.history.epoch.messageKey sender number) ↔
        reached.Shared (stolen.session.state.loot others) ∧
          (reached.ratchets = [] → stolen.epoch.depth = 0 ∨
            stolen.epoch.Exposed (stolen.session.state.loot others) shares ∨
              stolen.session.Holds sender number) := by
    have tracked := tracked_of_reachable others sound theft run
    by_cases none : reached.ratchets = []
    · have shared : reached.Shared (stolen.session.state.loot others) := by
        rw [Shared, none]
        exact fun dhOutput member => absurd member List.not_mem_nil
      rw [(tracked.first none).1, theft.opens_iff sound.ratcheted stolen.epoch.self_mem_line]
      simp [none, shared]
    · rw [theft.derivable_messageKey_iff tracked.base, tracked.chains none]
      have differs : reached.history.epoch ≠ stolen.epoch := by
        intro same
        have depths := congrArg Epoch.depth same
        have some := List.length_pos_iff.mpr none
        rw [tracked.depth] at depths
        omega
      simp [none, differs]
  refine ⟨opened later after, fun unrotated sender number held => ?_,
    fun unshared still run sender number derivable => ?_⟩
  · have tracked := tracked_of_reachable others sound theft after
    refine (opened later after sender number).mpr ⟨(tracked.kept unrotated).2, fun none => ?_⟩
    exact .inr (.inr ((tracked.first none).2.holds held))
  · obtain ⟨start, initial, before⟩ := after
    have shared := ((opened still ⟨start, initial, before.trans run⟩ sender number).mp derivable).1
    exact unshared (shared.of_reaches run)

end StolenSession

namespace Symbolic

open StolenSession

/-- Alice's session before its first message. -/
def freshHistory : RatchetHistory primitives := ⟨sessions .alice, firstEpoch⟩

/-- The thief has a key pair of his own. -/
def freshLoot : Loot primitives := freshHistory.session.state.loot {Bytes.ofText "mallory"}

def afterTheft (calls : List (Call primitives)) : StolenSession primitives :=
  (runs firstShares freshHistory).run ⟨freshHistory, [], false⟩ calls

theorem freshHistory_reachable : (RatchetHistory.runs firstShares).Reachable freshHistory :=
  ⟨freshHistory, ⟨_, .alice, keys .alice, _, .keyExchange rfl, new_eq _ _ _ _, rfl⟩, .refl⟩

/-- The new key of Alice and the key of Bob share nothing that the thief's keys share. -/
theorem not_shares_new :
    ¬ freshLoot.Shares (primitives.diffieHellman (Bytes.ofText "new") (keys .bob).publicKey) := by
  have bob : (keys .bob).publicKey = Bytes.ofText "bob" := rfl
  rintro ⟨key, held, publicKey, same⟩
  have ends := Sym2.eq_iff.mp (Block.shared.inj same)
  rw [bob] at ends
  have names : key = Bytes.ofText "alice" ∨ key = Bytes.ofText "mallory" := held
  rcases names with rfl | rfl <;> rcases ends with ⟨own, -⟩ | ⟨own, -⟩ <;>
    exact absurd own (by decide)

/-- A header with a public key, over a ciphertext that does not open. -/
def header (publicKey : primitives.PublicKey) : RatchetMessage primitives :=
  ⟨0, publicKey, ⟨.nil, [], [], []⟩⟩

/-- The thief injects a header with his public key, and Alice rotates. -/
def injected : List (Call primitives) :=
  [.decrypt (header (Bytes.ofText "mallory")), .rotateSendingRatchet (Bytes.ofText "new")]

theorem injected_ratchets : (afterTheft injected).ratchets =
    [primitives.diffieHellman (Bytes.ofText "new") (Bytes.ofText "mallory"),
      primitives.diffieHellman (Bytes.ofText "alice") (Bytes.ofText "mallory")] := rfl

theorem injected_shared : (afterTheft injected).Shared freshLoot := by
  rw [Shared, injected_ratchets, List.forall_mem_cons, List.forall_mem_singleton]
  refine ⟨⟨Bytes.ofText "mallory", .inr rfl, Bytes.ofText "new", ?_⟩,
    ⟨Bytes.ofText "alice", .inl rfl, Bytes.ofText "mallory", rfl⟩⟩
  exact dhCommutes (Bytes.ofText "mallory") (Bytes.ofText "new")

theorem afterTheft_reachable (calls : List (Call primitives)) :
    (runs firstShares freshHistory).Reachable (afterTheft calls) :=
  ⟨_, rfl, reaches_run _ calls⟩

/-- The thief opens Bob's next message.  A rotation shuts him out, but not after a header of his
own: then he opens what Alice sends next, until a header of Bob arrives. -/
theorem afterTheft_opened :
    Derivable freshLoot ((afterTheft [.encrypt "hello"]).history.epoch.messageKey .bob 0) ∧
      ¬ Derivable freshLoot ((afterTheft
        [.rotateSendingRatchet (Bytes.ofText "new")]).history.epoch.messageKey .bob 0) ∧
      Derivable freshLoot ((afterTheft injected).history.epoch.messageKey .alice 0) ∧
      ¬ Derivable freshLoot ((afterTheft
        (injected ++ [.decrypt (header (keys .bob).publicKey)])).history.epoch.messageKey
          .bob 0) := by
  have opened (calls : List (Call primitives)) :=
    opened_iff_shared hkdfInjective dhSeparate {Bytes.ofText "mallory"} freshHistory_reachable
      (afterTheft_reachable calls)
  refine ⟨?_, fun derivable => ?_, ?_, fun derivable => ?_⟩
  · exact (opened _).2.1 rfl .bob 0 (.inl (.inr ⟨rfl, Nat.le_refl _⟩))
  · have shared := (((opened _).1 .bob 0).mp derivable).1
    exact not_shares_new (shared _ (.head _))
  · exact ((opened injected).1 .alice 0).mpr
      ⟨injected_shared, fun none => absurd none (List.cons_ne_nil _ _)⟩
  · have shared := (((opened _).1 .bob 0).mp derivable).1
    exact not_shares_new (shared _ (.head _))

end Symbolic

end CipherMesh
