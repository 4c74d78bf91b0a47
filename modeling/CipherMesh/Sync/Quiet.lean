import CipherMesh.Sync.Convergence
import CipherMesh.Sync.Vectors

/-!
# Quiet rounds

A device numbers its events across all conversations, and a version vector counts the
events of one conversation without a gap.  So two stores with the same events stop
sending them exactly when no device left a number out of the conversation.
-/

namespace CipherMesh

open Foundation
open Foundation.Mutation

namespace Storage

/-- Each event continues the prefix of its device in the conversation. -/
def Unbroken (storage : Storage) (conversationId : String) : Prop :=
  ∀ event ∈ storage.eventHistory, event.conversationId = conversationId →
    Representable event.counter ∧
      storage.HasPrefix conversationId event.deviceId event.counter

variable {storage other : Storage} {conversationId : String}

theorem HasPrefix.congr {deviceId : String} {last : UInt64}
    (sameEvents : ∀ event, event.conversationId = conversationId →
      (event ∈ storage.eventHistory ↔ event ∈ other.eventHistory))
    (isPrefix : storage.HasPrefix conversationId deviceId last) :
    other.HasPrefix conversationId deviceId last := by
  intro counter positive below
  obtain ⟨event, member, conversation, numbered⟩ := isPrefix counter positive below
  exact ⟨event, (sameEvents event conversation).mp member, conversation, numbered⟩

theorem Unbroken.congr
    (sameEvents : ∀ event, event.conversationId = conversationId →
      (event ∈ storage.eventHistory ↔ event ∈ other.eventHistory))
    (unbroken : storage.Unbroken conversationId) : other.Unbroken conversationId := by
  intro event member conversation
  obtain ⟨fits, isPrefix⟩ :=
    unbroken event ((sameEvents event conversation).mpr member) conversation
  exact ⟨fits, isPrefix.congr sameEvents⟩

/-- A number that does not fit the column is read as a negative one, so the loop stops
before it has seen any other. -/
theorem contiguousFrom_eq_zero {deviceId : String} {counter : UInt64}
    (listed : counter ∈ storage.countersOf conversationId deviceId)
    (beyond : ¬ Representable counter) :
    contiguousFrom 0 (storage.countersOf conversationId deviceId) = 0 := by
  have sorted := pairwise_countersOf storage conversationId deviceId
  cases counters : storage.countersOf conversationId deviceId with
  | nil => rfl
  | cons head tail =>
      rw [counters] at listed sorted
      have headBelow : asI64 head ≤ asI64 counter := by
        rcases List.mem_cons.mp listed with rfl | inTail
        · exact le_refl _
        · exact List.rel_of_pairwise_cons sorted inTail
      have headBeyond : ¬ Representable head := by
        intro fits
        refine beyond (representable_of_asI64_nonneg (le_trans ?_ headBelow))
        rw [fits.asI64_eq]
        exact Int.natCast_nonneg _
      have above : head > 0 + 1 := by
        rw [Representable] at headBeyond
        rw [gt_iff_lt, UInt64.lt_iff_toNat_lt]
        have one : ((0 : UInt64) + 1).toNat = 1 := rfl
        omega
      rw [contiguousFrom, if_neg (UInt64.ne_of_lt above).symm, if_pos above]

/-- What the stored vector claims of a device is the prefix that the loop finds. -/
theorem Recomputed.lookup_getD (recomputed : storage.Recomputed) {event : EventRecord}
    (member : event ∈ storage.eventHistory) :
    ((storage.vectorOf event.conversationId).lookup event.deviceId).getD 0 =
      contiguousFrom 0 (storage.countersOf event.conversationId event.deviceId) := by
  obtain ⟨last, found⟩ := exists_lookup_vectorOf (recomputed.present event member)
  rw [found]
  exact recomputed.computed _ (mem_of_lookup_vectorOf found)

/-- A store with the same events has nothing to send exactly when no number is left out. -/
theorem missingEvents_eq_nil_iff (recomputed : other.Recomputed)
    (sameEvents : ∀ event, event.conversationId = conversationId →
      (event ∈ storage.eventHistory ↔ event ∈ other.eventHistory)) :
    storage.missingEvents conversationId (other.vectorOf conversationId) = [] ↔
      other.Unbroken conversationId := by
  constructor
  · rintro nothing event member rfl
    have covered : event.counter ≤
        contiguousFrom 0 (other.countersOf event.conversationId event.deviceId) := by
      rw [← recomputed.lookup_getD member, ← UInt64.not_lt]
      intro beyond
      refine List.not_mem_nil (a := event) ?_
      rw [← nothing]
      exact mem_missingEvents.mpr ⟨⟨(sameEvents event rfl).mpr member, rfl⟩, beyond⟩
    have listed : event.counter ∈ other.countersOf event.conversationId event.deviceId :=
      mem_countersOf.mpr ⟨event, member, rfl, rfl, rfl⟩
    constructor
    · by_contra beyond
      rw [contiguousFrom_eq_zero listed beyond, UInt64.le_iff_toNat_le,
        UInt64.toNat_zero] at covered
      rw [Representable] at beyond
      omega
    · intro counter positive below
      have claimed := UInt64.le_trans below covered
      exact hasPrefix_contiguousFrom _ _ counter positive claimed
  · intro unbroken
    rw [List.eq_nil_iff_forall_not_mem]
    intro event missing
    obtain ⟨⟨member, rfl⟩, beyond⟩ := mem_missingEvents.mp missing
    have held := (sameEvents event rfl).mp member
    have longest : other.LastContiguous event.conversationId event.deviceId
        (contiguousFrom 0 (other.countersOf event.conversationId event.deviceId)) :=
      lastContiguous_contiguousFrom fun stored storedMember conversation _ =>
        (unbroken stored storedMember conversation).1
    rw [recomputed.lookup_getD held] at beyond
    exact UInt64.not_lt.mpr (longest.2 (unbroken event held rfl).2) beyond

end Storage

/-! ## Filling the stores -/

/-- A device allocates the number of a new event and appends the event. -/
def Database.issueEvent (draft : EventRecord) : StorageResult EventRecord := do
  let counter ← nextLocalEventCounter draft.deviceId
  let event := { draft with counter }
  let _ ← appendEvent event
  return event

variable {P : Primitives} {Replica : Type}

/-- A device issues an event at a replica, or replicas exchange events. -/
inductive FillingEvent (P : Primitives) (Replica : Type) where
  | issue (replica : Replica) (draft : EventRecord) (now : UInt64) (interruptions : List Bool)
  | exchange (event : ReplicaEvent P Replica)

namespace Stores

variable {stores : Stores Replica} {conversationId : String}

/-- The vectors of every store are up to date. -/
def Recomputed (stores : Stores Replica) : Prop :=
  ∀ replica, (stores replica).storage.Recomputed

variable [DecidableEq Replica]

theorem Recomputed.update (recomputed : stores.Recomputed) {replica : Replica}
    {database : Database} (updated : database.storage.Recomputed) :
    Recomputed (Function.update stores replica database) := by
  intro other
  rcases eq_or_ne other replica with rfl | different
  · rwa [Function.update_self]
  · rw [Function.update_of_ne different]
    exact recomputed other

theorem Recomputed.onStore (recomputed : stores.Recomputed) {Result : Type}
    {method : StorageResult Result} {replica : Replica}
    (ensures : method.Ensures (stores replica) (fun _ after => after.storage.Recomputed)
      fun _ _ => True) :
    (onStore replica method).Ensures stores (fun _ after => after.Recomputed) fun _ _ => True := by
  rw [CipherMesh.onStore, ensures_mapError, ensures_focus]
  exact ensures.mono (fun _ _ updated => recomputed.update updated) fun _ _ => id

theorem Recomputed.query (recomputed : stores.Recomputed) {Result : Type}
    (replica : Replica) (read : Storage → Result) :
    (CipherMesh.onStore replica (Database.query read)).Ensures stores
      (fun _ after => after.Recomputed) fun _ _ => True :=
  recomputed.onStore (Database.ensures_query trivial (recomputed replica))

theorem Recomputed.pull (recomputed : stores.Recomputed) (format : Format SyncResponse)
    (source target : Replica) (conversationId : String) :
    (pull format source target conversationId).Ensures stores
      (fun _ after => after.Recomputed) fun _ _ => True := by
  rw [CipherMesh.pull, ensures_bind]
  refine (recomputed.query target _).mono (fun vector first firstRecomputed => ?_) fun _ _ => id
  rw [ensures_bind]
  refine (firstRecomputed.query source _).mono (fun missing second secondRecomputed => ?_)
    fun _ _ => id
  rw [ensures_bind, ensures_okOr]
  refine ⟨fun responseBytes _ => ?_, fun _ => trivial⟩
  rw [ensures_bind, ensures_okOr]
  refine ⟨fun decoded _ => ?_, fun _ => trivial⟩
  rw [ensures_bind]
  exact (secondRecomputed.onStore (Database.appendEvents_recomputed
    (secondRecomputed target))).mono (fun _ _ => id) fun _ _ => id

theorem Recomputed.sync (recomputed : stores.Recomputed) (format : Format SyncResponse)
    (accountPublicKey : P.IdentityKey) (leftCertificate rightCertificate : DeviceCertificate P)
    (revocations : List (DeviceRevocation P)) (left right : Replica)
    (conversationId : String) :
    (syncAuthorizedSiblingDevices format accountPublicKey leftCertificate rightCertificate
      revocations left right conversationId).Ensures stores
        (fun _ after => after.Recomputed) fun _ _ => True := by
  rw [syncAuthorizedSiblingDevices, ensures_bind, ensures_lift]
  refine ⟨fun _ _ => ?_, fun _ _ => trivial⟩
  rw [ensures_bind]
  refine (recomputed.pull format left right conversationId).mono
    (fun _ middle middleRecomputed => ?_) fun _ _ => id
  rw [ensures_bind]
  exact (middleRecomputed.pull format right left conversationId).mono (fun _ _ => id)
    fun _ _ => id

/-- The counter of a device is no part of a vector. -/
theorem keepsRecomputed_nextLocalEventCounter (deviceId : String) :
    Keeps (fun database => database.storage.Recomputed)
      (Database.nextLocalEventCounter deviceId) := by
  refine Database.keeps_transaction (.bind (Database.keeps_query _) fun current => ?_)
  refine .bind (Database.keeps_execute fun storage recomputed => ?_) fun _ => .pure _
  exact ⟨recomputed.computed, recomputed.present⟩

theorem issueEvent_recomputed {database : Database} {draft : EventRecord}
    (recomputed : database.storage.Recomputed) :
    (Database.issueEvent draft).Ensures database (fun _ after => after.storage.Recomputed)
      fun _ _ => True := by
  rw [Database.issueEvent, ensures_bind]
  refine (keepsRecomputed_nextLocalEventCounter draft.deviceId database recomputed).mono
    (fun counter middle middleRecomputed => ?_) fun _ _ _ => trivial
  rw [ensures_bind]
  exact (Database.appendEvent_recomputed middleRecomputed).mono (fun _ _ => id) fun _ _ => id

/-- The runs of calls that return, from empty stores.  An event that is appended elsewhere
was read from some store. -/
def filling (P : Primitives) (format : Format SyncResponse) :
    System (Stores Replica) (FillingEvent P Replica) where
  initial stores := ∀ replica, (stores replica).storage = .empty
  permitted stores
    | .issue replica draft now interruptions =>
        ∃ event after, (Database.issueEvent draft).run
          ((stores replica).opened now interruptions) = (.ok event, after)
    | .exchange (.append replica event now interruptions) =>
        (∃ source, event ∈ (stores source).storage.eventHistory) ∧
          ∃ inserted after, (Database.appendEvent event).run
            ((stores replica).opened now interruptions) = (.ok inserted, after)
    | .exchange (.sync accountPublicKey leftCertificate rightCertificate revocations left right
        conversationId now interruptions) =>
        ∃ trip after, (syncAuthorizedSiblingDevices format accountPublicKey leftCertificate
          rightCertificate revocations left right conversationId).run
            (stores.opened now interruptions) = (.ok trip, after)
  next stores
    | .issue replica draft now interruptions =>
        Function.update stores replica
          ((Database.issueEvent draft).run ((stores replica).opened now interruptions)).2
    | .exchange event => stores.next format event

theorem recomputed_next {format : Format SyncResponse} {event : FillingEvent P Replica}
    (recomputed : stores.Recomputed) (permitted : (filling P format).permitted stores event) :
    Recomputed ((filling P format).next stores event) := by
  match event with
  | .issue replica draft now interruptions =>
      obtain ⟨issued, after, returned⟩ := permitted
      have atStart : ((stores replica).opened now interruptions).storage.Recomputed :=
        recomputed replica
      simp only [filling, returned]
      exact recomputed.update ((issueEvent_recomputed atStart).of_ok returned)
  | .exchange (.append replica event now interruptions) =>
      obtain ⟨_, inserted, after, returned⟩ := permitted
      have atStart : ((stores replica).opened now interruptions).storage.Recomputed :=
        recomputed replica
      simp only [filling, next, returned]
      exact recomputed.update ((Database.appendEvent_recomputed atStart).of_ok returned)
  | .exchange (.sync accountPublicKey leftCertificate rightCertificate revocations left right
        conversationId now interruptions) =>
      obtain ⟨trip, after, returned⟩ := permitted
      have atStart : (stores.opened now interruptions).Recomputed := recomputed
      simp only [filling, next, returned]
      exact (atStart.sync format accountPublicKey leftCertificate rightCertificate revocations
        left right conversationId).of_ok returned

theorem recomputed_of_reachable {format : Format SyncResponse}
    (reachable : (filling P format).Reachable stores) : stores.Recomputed := by
  refine reachable.invariant Recomputed (fun start initial replica => ?_) fun _ _ => recomputed_next
  rw [initial replica]
  exact .empty

/-! ## Rounds with nothing to send -/

/-- A half round with nothing to send transfers nothing. -/
theorem pull_quiet {format : Format SyncResponse} (roundTrip : format.RoundTrip)
    {source target : Replica}
    (nothing : (stores source).storage.missingEvents conversationId
      ((stores target).storage.vectorOf conversationId) = []) :
    (pull format source target conversationId).Ensures stores
      (fun events after => events = [] ∧
        ∀ replica, (after replica).storage = (stores replica).storage) fun _ _ => True := by
  rw [pull, ensures_bind]
  refine (query_ensures target _).mono ?_ fun _ _ _ => trivial
  rintro _ first ⟨rfl, firstSame⟩
  rw [ensures_bind]
  refine (query_ensures source _).mono ?_ fun _ _ _ => trivial
  rintro _ second ⟨rfl, secondSame⟩
  rw [firstSame, nothing, List.map_nil, ensures_bind, ensures_okOr]
  refine ⟨fun responseBytes serialized => ?_, fun _ => trivial⟩
  rw [roundTrip serialized, ensures_bind, ensures_okOr_some, ensures_bind, onStore,
    ensures_mapError, ensures_focus]
  refine ⟨rfl, fun replica => ?_⟩
  rw [← firstSame replica, ← secondSame replica, Function.update_eq_self]

theorem sync_quiet {format : Format SyncResponse} (roundTrip : format.RoundTrip)
    {left right : Replica}
    (leftNothing : (stores left).storage.missingEvents conversationId
      ((stores right).storage.vectorOf conversationId) = [])
    (rightNothing : (stores right).storage.missingEvents conversationId
      ((stores left).storage.vectorOf conversationId) = [])
    (accountPublicKey : P.IdentityKey) (leftCertificate rightCertificate : DeviceCertificate P)
    (revocations : List (DeviceRevocation P)) :
    (syncAuthorizedSiblingDevices format accountPublicKey leftCertificate rightCertificate
      revocations left right conversationId).Ensures stores (fun trip _ => trip = ⟨[], []⟩)
        fun _ _ => True := by
  rw [syncAuthorizedSiblingDevices, ensures_bind, ensures_lift]
  refine ⟨fun _ _ => ?_, fun _ _ => trivial⟩
  rw [ensures_bind]
  refine (pull_quiet roundTrip leftNothing).mono ?_ fun _ _ => id
  rintro _ middle ⟨rfl, same⟩
  rw [ensures_bind]
  rw [← same left, ← same right] at rightNothing
  refine (pull_quiet roundTrip rightNothing).mono ?_ fun _ _ => id
  rintro _ after ⟨rfl, _⟩
  rfl

/-- Two stores with the same events of a conversation have nothing more to exchange exactly
when no device with an event in the conversation has left a smaller number out of it. -/
theorem quiet_iff_unbroken {format : Format SyncResponse} (roundTrip : format.RoundTrip)
    (reachable : (filling P format).Reachable stores) {left right : Replica}
    (same : stores.held left conversationId = stores.held right conversationId) :
    ((stores left).storage.missingEvents conversationId
        ((stores right).storage.vectorOf conversationId) = [] ∧
      ∀ (accountPublicKey : P.IdentityKey)
        (leftCertificate rightCertificate : DeviceCertificate P)
        (revocations : List (DeviceRevocation P)) (now : Replica → UInt64)
        (interruptions : Replica → List Bool) (trip : SyncRoundTrip) (after : Stores Replica),
        (syncAuthorizedSiblingDevices format accountPublicKey leftCertificate rightCertificate
          revocations left right conversationId).run (stores.opened now interruptions) =
            (.ok trip, after) → trip = ⟨[], []⟩) ↔
      (stores left).storage.Unbroken conversationId := by
  have recomputed := recomputed_of_reachable reachable
  have sameEvents : ∀ event, event.conversationId = conversationId →
      (event ∈ (stores left).storage.eventHistory ↔
        event ∈ (stores right).storage.eventHistory) := by
    intro event here
    simpa [held, here] using Set.ext_iff.mp same event
  have sameEventsBack := fun event here => (sameEvents event here).symm
  constructor
  · rintro ⟨nothing, _⟩
    exact ((Storage.missingEvents_eq_nil_iff (recomputed right) sameEvents).mp nothing).congr
      sameEventsBack
  · intro unbroken
    have leftNothing :=
      (Storage.missingEvents_eq_nil_iff (recomputed right) sameEvents).mpr
        (unbroken.congr sameEvents)
    have rightNothing :=
      (Storage.missingEvents_eq_nil_iff (recomputed left) sameEventsBack).mpr unbroken
    refine ⟨leftNothing, ?_⟩
    intro accountPublicKey leftCertificate rightCertificate revocations now interruptions trip
      after returned
    have leftOpened : ((stores.opened now interruptions) left).storage.missingEvents
        conversationId (((stores.opened now interruptions) right).storage.vectorOf
          conversationId) = [] := leftNothing
    exact (sync_quiet roundTrip leftOpened rightNothing accountPublicKey leftCertificate
      rightCertificate revocations).of_ok returned

end Stores

/-! ## One device in two conversations -/

namespace Symbolic

/-- The responses without an event and with the second event of the device. -/
def spreadResponses : Format SyncResponse :=
  .listed [⟨[]⟩, ⟨[.fromRecord (numberedEvent "conversation" 2)]⟩]

def emptyStores : Stores Bool := fun _ => emptyStore

/-- The laptop issues an event in each of two conversations and syncs the second one. -/
def spreadEvents : List (FillingEvent primitives Bool) :=
  [.issue true (numberedEvent "other" 0) 0 [],
    .issue true (numberedEvent "conversation" 0) 0 [],
    .exchange (.sync (Bytes.ofText "account") (deviceCertificate "laptop")
      (deviceCertificate "phone") [] true false "conversation" (fun _ => 0) fun _ => [])]

def spread : Stores Bool :=
  (Stores.filling primitives spreadResponses).run emptyStores spreadEvents

theorem spread_reachable : (Stores.filling primitives spreadResponses).Reachable spread := by
  have permits : (Stores.filling primitives spreadResponses).Permits emptyStores
      spreadEvents := by
    refine ⟨?_, ?_, ?_, trivial⟩
    · exact Ensures.exists_run_eq (show _ = Except.ok (numberedEvent "other" 1) by decide +kernel)
    · exact Ensures.exists_run_eq
        (show _ = Except.ok (numberedEvent "conversation" 2) by decide +kernel)
    · exact Ensures.exists_run_eq (show _ = Except.ok
        (⟨[numberedEvent "conversation" 2], [numberedEvent "conversation" 2]⟩ : SyncRoundTrip)
        by decide +kernel)
  exact ⟨emptyStores, fun _ => rfl, permits.reaches⟩

theorem spread_same : spread.held true "conversation" = spread.held false "conversation" := by
  have rowsEq : ∀ replica, ((spread replica).storage.eventHistory.rows.filter fun event =>
      event.conversationId = "conversation") = [numberedEvent "conversation" 2] := by
    decide +kernel
  have held_eq : ∀ replica, spread.held replica "conversation" =
      {numberedEvent "conversation" 2} := by
    intro replica
    ext event
    rw [Set.mem_singleton_iff, ← List.mem_singleton, ← rowsEq replica, List.mem_filter,
      decide_eq_true_eq]
    rfl
  rw [held_eq, held_eq]

/-- Both stores hold the second event of the laptop, which is sent again. -/
theorem spread_resent :
    (Stores.filling primitives spreadResponses).Reachable spread ∧
      spread.held true "conversation" = spread.held false "conversation" ∧
      (spread true).storage.missingEvents "conversation"
        ((spread false).storage.vectorOf "conversation") = [numberedEvent "conversation" 2] :=
  ⟨spread_reachable, spread_same, by decide +kernel⟩

/-- The first number of the laptop is in the other conversation. -/
theorem spread_broken : ¬ (spread true).storage.Unbroken "conversation" := by
  intro unbroken
  have quiet := ((Stores.quiet_iff_unbroken (Format.roundTrip_listed _) spread_reachable
    spread_same).mpr unbroken).1
  exact absurd quiet (by decide +kernel)

end Symbolic

end CipherMesh
