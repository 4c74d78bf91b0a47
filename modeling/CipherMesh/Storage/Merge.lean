import CipherMesh.Foundation.Moves
import CipherMesh.Storage.Contacts
import CipherMesh.Storage.Events

/-!
# Interrupted merges

A merge is nine statements without a transaction.  Each one moves the rows of one table
and leaves the rest of the merge to do what it would have done, so that a merge that
stopped anywhere can be started again.
-/

namespace CipherMesh

open Foundation
open Foundation.Mutation

/-! ## The tables -/

def MessageRecord.underContact (contactId : String) (message : MessageRecord) : MessageRecord :=
  { message with conversationId := contactId }

def PendingPeerMessage.underContact (contactId : String) (message : PendingPeerMessage) :
    PendingPeerMessage :=
  { message with conversationId := contactId }

def EventRecord.underContact (contactId : String) (event : EventRecord) : EventRecord :=
  { event with conversationId := contactId }

def VersionEntry.underContact (contactId : String) (entry : VersionEntry) : VersionEntry :=
  { entry with conversationId := contactId }

def SessionRecord.underContact (contactId : String) (session : SessionRecord) : SessionRecord :=
  { session with conversationId := contactId }

namespace Storage

variable (oldContactId newContactId : String)

/-- `UPDATE messages`. -/
def movedMessages (messages : Table MessageRecord.messageId) : Table MessageRecord.messageId :=
  messages.update (fun message => message.conversationId = oldContactId)
    (·.underContact newContactId) fun _ => rfl

/-- `UPDATE pending_peer_messages`. -/
def movedPending (messages : Table PendingPeerMessage.messageId) :
    Table PendingPeerMessage.messageId :=
  messages.update (fun message => message.conversationId = oldContactId)
    (·.underContact newContactId) fun _ => rfl

/-- `UPDATE event_history`. -/
def movedEvents (events : Table EventRecord.position) : Table EventRecord.position :=
  events.update (fun event => event.conversationId = oldContactId)
    (·.underContact newContactId) fun _ => rfl

/-- The session of the old contact is dropped or renamed. -/
def movedSessions (sessions : Table SessionRecord.conversationId) :
    Table SessionRecord.conversationId :=
  let others := sessions.delete fun session => session.conversationId = oldContactId
  if sessions.Contains newContactId then others
  else
    match sessions.find oldContactId with
    | none => sessions
    | some session => others.upsert (session.underContact newContactId)

/-- `INSERT OR IGNORE INTO version_vectors`. -/
def copiedVectors (vectors : Table VersionEntry.key) : Table VersionEntry.key :=
  vectors.insertAll ((vectors.rows.filter fun entry =>
    entry.conversationId = oldContactId).map (·.underContact newContactId))

def withoutVectors (vectors : Table VersionEntry.key) : Table VersionEntry.key :=
  vectors.delete fun entry => entry.conversationId = oldContactId

def withoutPeers (peers : Table KnownPeerRecord.peerId) : Table KnownPeerRecord.peerId :=
  peers.delete fun peer => peer.conversationId = oldContactId

def withoutContact (contacts : Table ContactRecord.contactId) : Table ContactRecord.contactId :=
  contacts.delete fun contact => contact.contactId = oldContactId

/-- The tables after a merge that was not interrupted. -/
def merged (storage : Storage) : Storage :=
  { storage with
    messages := movedMessages oldContactId newContactId storage.messages
    pendingPeerMessages := movedPending oldContactId newContactId storage.pendingPeerMessages
    eventHistory := movedEvents oldContactId newContactId storage.eventHistory
    sessions := movedSessions oldContactId newContactId storage.sessions
    versionVectors := withoutVectors oldContactId
      (copiedVectors oldContactId newContactId storage.versionVectors)
    knownPeers := withoutPeers oldContactId storage.knownPeers
    contacts := withoutContact oldContactId storage.contacts }

/-- Moving a message keeps its row. -/
theorem contains_movedMessages {messages : Table MessageRecord.messageId} {messageId : String} :
    (movedMessages oldContactId newContactId messages).Contains messageId ↔
      messages.Contains messageId :=
  Table.contains_update _

/-! ## Nothing is left to do -/

section

variable {oldContactId newContactId : String} (different : oldContactId ≠ newContactId)

include different

@[simp] theorem movedMessages_movedMessages (messages : Table MessageRecord.messageId) :
    movedMessages oldContactId newContactId (movedMessages oldContactId newContactId messages) =
      movedMessages oldContactId newContactId messages :=
  Table.update_update _ fun _ => decide_eq_false different.symm

@[simp] theorem movedPending_movedPending (messages : Table PendingPeerMessage.messageId) :
    movedPending oldContactId newContactId (movedPending oldContactId newContactId messages) =
      movedPending oldContactId newContactId messages :=
  Table.update_update _ fun _ => decide_eq_false different.symm

@[simp] theorem movedEvents_movedEvents (events : Table EventRecord.position) :
    movedEvents oldContactId newContactId (movedEvents oldContactId newContactId events) =
      movedEvents oldContactId newContactId events :=
  Table.update_update _ fun _ => decide_eq_false different.symm

theorem other_of_mem_movedSessions {sessions : Table SessionRecord.conversationId}
    {session : SessionRecord}
    (member : session ∈ movedSessions oldContactId newContactId sessions) :
    session.conversationId ≠ oldContactId := by
  unfold movedSessions at member
  dsimp only at member
  split at member
  · exact of_decide_eq_false (Table.mem_delete.mp member).2
  split at member
  · next absent =>
      intro same
      have found := Table.find_eq_some.mpr ⟨member, same⟩
      rw [absent] at found
      cases found
  · rcases Table.mem_upsert.mp member with rfl | ⟨other, -⟩
    · exact different.symm
    · exact of_decide_eq_false (Table.mem_delete.mp other).2

/-- Once the session of the old contact is gone, neither branch has anything to do. -/
@[simp] theorem movedSessions_movedSessions (sessions : Table SessionRecord.conversationId) :
    movedSessions oldContactId newContactId (movedSessions oldContactId newContactId sessions) =
      movedSessions oldContactId newContactId sessions := by
  have gone : ∀ session ∈ movedSessions oldContactId newContactId sessions,
      decide (session.conversationId = oldContactId) = false :=
    fun session member => decide_eq_false (other_of_mem_movedSessions different member)
  generalize movedSessions oldContactId newContactId sessions = movedOnce at gone
  have absent : movedOnce.find oldContactId = none := by
    apply List.find?_eq_none.mpr
    intro session member
    simpa using gone session member
  rw [movedSessions, absent, Table.delete_eq_self gone]
  simp

/-- The vectors are copied only once. -/
@[simp] theorem copiedVectors_copiedVectors (vectors : Table VersionEntry.key) :
    copiedVectors oldContactId newContactId (copiedVectors oldContactId newContactId vectors) =
      copiedVectors oldContactId newContactId vectors := by
  have sameOld : (copiedVectors oldContactId newContactId vectors).rows.filter
      (fun entry => entry.conversationId = oldContactId) =
        vectors.rows.filter fun entry => entry.conversationId = oldContactId := by
    apply Table.filter_insertAll
    intro entry member
    obtain ⟨original, -, rfl⟩ := List.mem_map.mp member
    exact decide_eq_false different.symm
  rw [copiedVectors, sameOld]
  apply Table.insertAll_eq_self
  intro entry member
  exact Table.contains_insertAll member

omit different in
@[simp] theorem copiedVectors_withoutVectors (vectors : Table VersionEntry.key) :
    copiedVectors oldContactId newContactId (withoutVectors oldContactId vectors) =
      withoutVectors oldContactId vectors := by
  rw [copiedVectors, withoutVectors, Table.filter_delete]
  rfl

omit different in
@[simp] theorem withoutVectors_withoutVectors (vectors : Table VersionEntry.key) :
    withoutVectors oldContactId (withoutVectors oldContactId vectors) =
      withoutVectors oldContactId vectors :=
  Table.delete_delete ..

/-- A second merge changes nothing. -/
theorem merged_merged (storage : Storage) :
    merged oldContactId newContactId (merged oldContactId newContactId storage) =
      merged oldContactId newContactId storage := by
  simp [merged, different, withoutPeers, withoutContact]

end

end Storage

namespace Database

variable {oldContactId newContactId : String} {database : Database}

/-! ## The statements -/

/-- A statement that is interrupted leaves the storage, and the rest runs after it
otherwise. -/
theorem ensures_execute_bind {Result : Type} {write : Storage → Storage}
    {next : StorageResult Result} {returned : Result → Database → Prop}
    {failed : StorageError → Database → Prop}
    (interrupted : failed .interrupted (database.advance database.storage))
    (rest : ∀ after, after.storage = write database.storage →
      next.Ensures after returned failed) :
    (execute write >>= fun _ => next).Ensures database returned failed := by
  rw [ensures_bind]
  exact ensures_execute interrupted (rest _ rfl)

theorem renameSession_eq (storage : Storage) (absent : ¬storage.sessions.Contains newContactId) :
    renameSession oldContactId newContactId storage =
      { storage with
        sessions := Storage.movedSessions oldContactId newContactId storage.sessions } := by
  simp only [renameSession, Storage.movedSessions, absent, if_false]
  cases storage.sessions.find oldContactId <;> rfl

theorem copyVector_eq (storage : Storage) :
    copyVector oldContactId newContactId storage =
      { storage with
        versionVectors :=
          Storage.copiedVectors oldContactId newContactId storage.versionVectors } := by
  simp only [copyVector, Storage.copiedVectors, Table.insertAll, List.foldl_map]
  rfl

theorem moveSession_ensures :
    (moveSession oldContactId newContactId).Ensures database
      (fun _ after => after.storage =
        { database.storage with
          sessions := Storage.movedSessions oldContactId newContactId
            database.storage.sessions })
      (fun _ after => after.storage = database.storage) := by
  unfold moveSession
  rw [ensures_bind]
  apply ensures_query rfl
  rw [ensures_ite]
  constructor
  · intro present
    apply ensures_execute rfl
    simp only [Database.advance_storage]
    rw [Storage.movedSessions, if_pos (of_decide_eq_true present)]
  · intro absent
    apply ensures_execute rfl
    exact renameSession_eq _ (by simpa using absent)

theorem keeps_moveSession {property : Storage → Prop}
    (sessions : ∀ storage moved, property storage → property { storage with sessions := moved }) :
    Keeps (fun database => property database.storage) (moveSession oldContactId newContactId) := by
  refine .bind (keeps_query _) fun newSessionExists => ?_
  split
  · exact keeps_execute fun storage holds => sessions storage _ holds
  · apply keeps_execute
    intro storage holds
    unfold renameSession
    split
    · exact holds
    · exact sessions storage _ holds

/-- A merge keeps what each of its statements keeps. -/
theorem keeps_mergeContactInto {property : Storage → Prop}
    (messages : ∀ storage, property storage → property { storage with
      messages := Storage.movedMessages oldContactId newContactId storage.messages })
    (pending : ∀ storage, property storage → property { storage with
      pendingPeerMessages :=
        Storage.movedPending oldContactId newContactId storage.pendingPeerMessages })
    (others : ∀ storage eventHistory sessions versionVectors, property storage →
      property { storage with eventHistory, sessions, versionVectors })
    (knownPeers : ∀ storage, property storage → property { storage with
      knownPeers := Storage.withoutPeers oldContactId storage.knownPeers })
    (contacts : ∀ storage, property storage → property { storage with
      contacts := Storage.withoutContact oldContactId storage.contacts }) :
    Keeps (fun database => property database.storage)
      (mergeContactInto oldContactId newContactId) := by
  unfold mergeContactInto
  split
  · exact .pure ()
  refine .bind (keeps_execute messages) fun _ => ?_
  refine .bind (keeps_execute pending) fun _ => ?_
  refine .bind (keeps_execute fun storage => others storage _ _ _) fun _ => ?_
  refine .bind (keeps_moveSession fun storage moved => others storage _ moved _) fun _ => ?_
  refine .bind (keeps_execute fun storage => others storage _ _ _) fun _ => ?_
  refine .bind (keeps_execute fun storage => others storage _ _ _) fun _ => ?_
  exact .bind (keeps_execute knownPeers) fun _ => keeps_execute contacts

/-- A merge that returns has moved everything, and one that is interrupted leaves the rest
of the same move. -/
theorem mergeContactInto_ensures (different : oldContactId ≠ newContactId) :
    (mergeContactInto oldContactId newContactId).Ensures database
      (fun _ after => after.storage =
        Storage.merged oldContactId newContactId database.storage)
      (fun _ after => Storage.merged oldContactId newContactId after.storage =
        Storage.merged oldContactId newContactId database.storage) := by
  unfold mergeContactInto
  rw [if_neg different]
  let old := oldContactId
  let new := newContactId
  refine ensures_execute_bind rfl fun first
    (messages : first.storage = { database.storage with
      messages := Storage.movedMessages old new database.storage.messages }) => ?_
  refine ensures_execute_bind ?_ fun second
    (pending : second.storage = { first.storage with
      pendingPeerMessages :=
        Storage.movedPending old new first.storage.pendingPeerMessages }) => ?_
  · simp [Storage.merged, messages, old, new, different]
  rw [messages] at pending
  refine ensures_execute_bind ?_ fun third
    (events : third.storage = { second.storage with
      eventHistory := Storage.movedEvents old new second.storage.eventHistory }) => ?_
  · simp [Storage.merged, pending, old, new, different]
  rw [pending] at events
  rw [ensures_bind]
  refine moveSession_ensures.mono ?_ ?_
  · intro _ fourth sessions
    rw [events] at sessions
    refine ensures_execute_bind ?_ fun fifth vectors => ?_
    · simp [Storage.merged, sessions, old, new, different]
    rw [copyVector_eq, sessions] at vectors
    refine ensures_execute_bind ?_ fun sixth
      (oldVectors : sixth.storage = { fifth.storage with
        versionVectors := Storage.withoutVectors old fifth.storage.versionVectors }) => ?_
    · simp [Storage.merged, vectors, old, new, different]
    rw [vectors] at oldVectors
    refine ensures_execute_bind ?_ fun seventh
      (peers : seventh.storage = { sixth.storage with
        knownPeers := Storage.withoutPeers old sixth.storage.knownPeers }) => ?_
    · simp [Storage.merged, oldVectors, old, new, different]
    rw [oldVectors] at peers
    apply ensures_execute
    · simp [Storage.merged, peers, old, new, different, Storage.withoutPeers]
    · simp [Storage.merged, peers, old, new, Storage.withoutContact]
  · intro _ fourth unchanged
    simp [Storage.merged, unchanged, events, old, new, different]

theorem succeeds_mergeContactInto (oldContactId newContactId : String) :
    Succeeds Undisturbed (mergeContactInto oldContactId newContactId) := by
  unfold mergeContactInto
  split
  · exact .pure ()
  refine .bind (succeeds_execute _) fun _ => ?_
  refine .bind (succeeds_execute _) fun _ => ?_
  refine .bind (succeeds_execute _) fun _ => ?_
  refine .bind ?_ fun _ => ?_
  · refine .bind (succeeds_query _) fun newSessionExists => ?_
    cases newSessionExists <;> exact succeeds_execute _
  refine .bind (succeeds_execute _) fun _ => ?_
  refine .bind (succeeds_execute _) fun _ => ?_
  refine .bind (succeeds_execute _) fun _ => ?_
  exact succeeds_execute _

/-- A merge that is not interrupted returns and has moved everything. -/
theorem mergeContactInto_completes (different : oldContactId ≠ newContactId)
    (undisturbed : database.Undisturbed) :
    ∃ after, (mergeContactInto oldContactId newContactId).run database = (.ok (), after) ∧
      after.storage = Storage.merged oldContactId newContactId database.storage := by
  have succeeds := succeeds_mergeContactInto oldContactId newContactId database undisturbed
  obtain ⟨_, after, run, -⟩ := succeeds.exists_ok
  exact ⟨after, run, (mergeContactInto_ensures different).of_ok run⟩

/-- A merge may stop at any of its statements: a second call ends with the tables with which
a single call would have ended, and a further call changes nothing. -/
theorem merge_resumes (oldContactId newContactId : String) (storage : Storage)
    (now later : UInt64) (interruptions : List Bool) :
    let merge := mergeContactInto oldContactId newContactId
    let complete := merge.run ⟨storage, now, []⟩
    let stopped := merge.run ⟨storage, now, interruptions⟩
    let resumed := merge.run (stopped.2.opened later [])
    let repeated := merge.run (complete.2.opened later [])
    complete.1 = .ok () ∧ resumed.1 = .ok () ∧ repeated.1 = .ok () ∧
      resumed.2.storage = complete.2.storage ∧ repeated.2.storage = complete.2.storage := by
  intro merge complete stopped resumed repeated
  by_cases different : oldContactId = newContactId
  · subst different
    have idle : merge = pure () := if_pos rfl
    simp [complete, stopped, resumed, repeated, idle, pure, Mutation.run]
  · have leaves : Storage.merged oldContactId newContactId stopped.2.storage =
        Storage.merged oldContactId newContactId storage := by
      refine ((mergeContactInto_ensures different).mono ?_ fun _ _ rest => rest).reached
      intro _ after moved
      rw [moved, Storage.merged_merged different]
    obtain ⟨completed, completeRun, whole⟩ :=
      mergeContactInto_completes different (show Undisturbed ⟨storage, now, []⟩ from rfl)
    obtain ⟨resumedTo, resumedRun, rest⟩ :=
      mergeContactInto_completes different (show (stopped.2.opened later []).Undisturbed from rfl)
    obtain ⟨repeatedTo, repeatedRun, again⟩ :=
      mergeContactInto_completes different (show (complete.2.opened later []).Undisturbed from rfl)
    have completeIs : complete = (.ok (), completed) := completeRun
    have resumedIs : resumed = (.ok (), resumedTo) := resumedRun
    have repeatedIs : repeated = (.ok (), repeatedTo) := repeatedRun
    rw [opened_storage, leaves, ← whole] at rest
    rw [opened_storage, completeIs, whole, Storage.merged_merged different] at again
    rw [completeIs, resumedIs, repeatedIs]
    exact ⟨rfl, rfl, rfl, rest, again.trans whole.symm⟩

end Database

end CipherMesh
