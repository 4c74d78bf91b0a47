import CipherMesh.Mailbox.Receipt

/-!
# Fetching from the mailbox

Every fetch starts as the same Bob with a single one-time prekey.  It stores at most the
message of the first envelope that is new to the database, and it cannot succeed when a
second one is new.  An id that is recorded without its message stays without it: every
later fetch acknowledges the envelope and does not look at it.
-/

namespace CipherMesh

open Foundation
open Foundation.Mutation

variable {P : Primitives}

def recipientTokenForBundle (bundle : PreKeyBundle P) : String :=
  Bytes.hexEncode ((P.sha256 (P.identityKeyBytes bundle.identityPublicKey)).take 16)

namespace Receiver

/-- The envelopes with the answers of the mailbox to their acknowledgements, in order. -/
def answered (answers : Nat → Except AppError MailboxResponse)
    (envelopes : List OfflineEnvelope) : List (OfflineEnvelope × Except AppError MailboxResponse) :=
  envelopes.zipIdx.map fun numbered => (numbered.1, answers numbered.2)

theorem map_fst_answered (answers : Nat → Except AppError MailboxResponse)
    (envelopes : List OfflineEnvelope) : (answered answers envelopes).map Prod.fst = envelopes := by
  rw [answered, List.map_map]
  exact List.zipIdx_map_fst 0 envelopes

def runBobMailboxFetch (wire : ReceiverWire P) (response : Except AppError MailboxResponse)
    (answers : Nat → Except AppError MailboxResponse) : ReceiverResult P Unit := do
  let bundle ← mapError .crypto (lift (← get).bob.prekeyBundle)
  let recipientToken := recipientTokenForBundle bundle
  sendRequest (.fetch recipientToken)
  let response ← lift response
  match response with
  | .pending envelopes =>
      receiveOfflineEnvelopes wire recipientToken (answered answers envelopes)
  | .error text => fail (.message text)
  | .deposited _ => fail (.message "unexpected deposit response")
  | .acknowledged _ => fail (.message "unexpected mailbox ACK response")

end Receiver

/-! ## One envelope -/

/-- The row of a received envelope: its payload, and the text that the message in it decrypts
to. -/
structure IsLetter (wire : ReceiverWire P) (envelope : OfflineEnvelope) (row : MessageRecord) :
    Prop where
  messageId : row.messageId = envelope.messageId
  direction : row.direction = .received
  ciphertext : row.ciphertext = envelope.encryptedPayload
  opens : ∃ initialMessage ∈ wire.initialMessage.deserialize envelope.encryptedPayload,
    ∃ text, row.plaintext = some text ∧ OpensTo initialMessage.message.ciphertext text

namespace Storage

variable {wire : ReceiverWire P}

/-- The first envelope whose id is not recorded. -/
def firstNew (storage : Storage) (envelopes : List OfflineEnvelope) : Option OfflineEnvelope :=
  envelopes.find? fun envelope =>
    decide ¬ storage.acceptedMessages.Contains envelope.messageId

/-- The row of the envelope is written, unless its id has one already. -/
def StoresLetter (wire : ReceiverWire P) (envelope : OfflineEnvelope) (before after : Storage) :
    Prop :=
  ∃ row, IsLetter wire envelope row ∧ after.messages = before.messages.insertOrIgnore row

/-- No recorded id is lost, and the history stays as it is but for the row of the `stored`
envelope. -/
structure StoresOnly (wire : ReceiverWire P) (stored : Option OfflineEnvelope)
    (before after : Storage) : Prop where
  recorded : ∀ messageId, before.acceptedMessages.Contains messageId →
    after.acceptedMessages.Contains messageId
  history : after.messages = before.messages ∨
    ∃ envelope ∈ stored, before.StoresLetter wire envelope after

variable {envelope : OfflineEnvelope} {before middle after other : Storage}

theorem StoresLetter.contains (stores : before.StoresLetter wire envelope after) :
    after.messages.Contains envelope.messageId := by
  obtain ⟨row, letter, same⟩ := stores
  rw [same, ← letter.messageId]
  exact Table.contains_insertOrIgnore _ row

theorem StoresLetter.congr (stores : before.StoresLetter wire envelope after)
    (same : other.messages = after.messages) : before.StoresLetter wire envelope other := by
  obtain ⟨row, letter, written⟩ := stores
  exact ⟨row, letter, same.trans written⟩

namespace StoresOnly

variable {stored : Option OfflineEnvelope}

theorem refl (wire : ReceiverWire P) (stored : Option OfflineEnvelope) (storage : Storage) :
    StoresOnly wire stored storage storage :=
  ⟨fun _ => id, .inl rfl⟩

theorem messages (only : StoresOnly wire none before after) : after.messages = before.messages :=
  only.history.resolve_right fun ⟨_, absent, _⟩ => by cases absent

theorem trans (first : StoresOnly wire stored before middle)
    (second : StoresOnly wire none middle after) : StoresOnly wire stored before after where
  recorded messageId present := second.recorded _ (first.recorded messageId present)
  history := first.history.imp second.messages.trans fun ⟨envelope, member, stores⟩ =>
    ⟨envelope, member, stores.congr second.messages⟩

theorem mono (only : StoresOnly wire none before after) : StoresOnly wire stored before after :=
  (refl wire stored before).trans only

/-- A row with another id is there exactly if it was. -/
theorem mem_iff (only : StoresOnly wire stored before after) {row : MessageRecord}
    (other : ∀ envelope ∈ stored, envelope.messageId ≠ row.messageId) :
    row ∈ after.messages ↔ row ∈ before.messages := by
  rcases only.history with same | ⟨envelope, member, letter, isLetter, same⟩
  · rw [same]
  · rw [same, Table.mem_insertOrIgnore]
    refine ⟨fun there => there.resolve_right ?_, .inl⟩
    rintro ⟨rfl, _⟩
    exact other envelope member isLetter.messageId.symm

end StoresOnly

variable {storage : Storage} {envelopes : List OfflineEnvelope}

theorem firstNew_cons_known (known : storage.acceptedMessages.Contains envelope.messageId) :
    storage.firstNew (envelope :: envelopes) = storage.firstNew envelopes :=
  List.find?_cons_of_neg (by simpa using known)

theorem firstNew_cons_new (new : ¬ storage.acceptedMessages.Contains envelope.messageId) :
    storage.firstNew (envelope :: envelopes) = some envelope :=
  List.find?_cons_of_pos (by simpa using new)

theorem not_recorded_of_firstNew (first : envelope ∈ storage.firstNew envelopes) :
    ¬ storage.acceptedMessages.Contains envelope.messageId := by
  have new := List.find?_some first
  simpa using new

end Storage

/-- The id is recorded, and the result tells whether it is new. -/
theorem Database.ensures_acceptMessageOnce {database : Database} (messageId : String) :
    (acceptMessageOnce messageId).Ensures database
      (fun accepted after =>
        accepted = decide (¬ database.storage.acceptedMessages.Contains messageId) ∧
        after.storage = { database.storage with
          acceptedMessages :=
            database.storage.acceptedMessages.insertOrIgnore ⟨messageId, database.now⟩ })
      (fun _ after => after.storage = database.storage) := by
  rw [acceptMessageOnce, ensures_bind, ensures_nowUnixSecs, ensures_statement_iff rfl]
  exact ⟨fun _ => rfl, fun _ => ⟨rfl, rfl⟩⟩

/-- A message that opens the session takes the one-time prekey. -/
theorem Bob.decryptInitialMessage_takes (bob : Bob P) (initialMessage : InitialMessage P) :
    (decryptInitialMessage initialMessage).Ensures bob
      (fun _ reached => bob.oneTimePrekey.isSome = true ∧ reached.oneTimePrekey = none)
      (fun _ _ => True) := by
  cases present : bob.oneTimePrekey with
  | none =>
      simp only [decryptInitialMessage, openInitialSession, ensures_bind, ensures_get, present]
      exact ensures_okOr.mpr ⟨fun _ absent => (by cases absent), fun _ => trivial⟩
  | some oneTimePrekey =>
      by_cases named : oneTimePrekey.id = initialMessage.oneTimePrekeyId
      · refine Ensures.run.mono (fun _ reached run => ⟨rfl, ?_⟩) fun _ _ _ => trivial
        rw [run_decryptInitialMessage present named] at run
        exact (congrArg (fun outcome => outcome.2.oneTimePrekey) run).symm
      · simp [decryptInitialMessage, openInitialSession, present, named]

/-- No other id is new but that of the first new envelope, and its message is stored. -/
structure Storage.Fetched (wire : ReceiverWire P) (envelopes : List OfflineEnvelope)
    (before after : Storage) : Prop
    extends before.StoresOnly wire (before.firstNew envelopes) after where
  only_new : ∀ envelope ∈ envelopes, ¬ before.acceptedMessages.Contains envelope.messageId →
    ∃ first ∈ before.firstNew envelopes, first.messageId = envelope.messageId
  stored : ∀ envelope ∈ before.firstNew envelopes, before.StoresLetter wire envelope after

theorem Storage.Fetched.cons_known {wire : ReceiverWire P} {envelope : OfflineEnvelope}
    {envelopes : List OfflineEnvelope} {before after : Storage}
    (fetched : before.Fetched wire envelopes after)
    (known : before.acceptedMessages.Contains envelope.messageId) :
    before.Fetched wire (envelope :: envelopes) after := by
  have same : before.firstNew (envelope :: envelopes) = before.firstNew envelopes :=
    firstNew_cons_known known
  refine ⟨same ▸ fetched.toStoresOnly, ?_, same ▸ fetched.stored⟩
  rw [List.forall_mem_cons, same]
  exact ⟨fun new => absurd known new, fetched.only_new⟩

namespace Receiver

variable {wire : ReceiverWire P} {recipientToken : String} {envelope : OfflineEnvelope}
variable {receiver : Receiver P}

/-- An envelope whose id is recorded is acknowledged without a look at it. -/
theorem receiveOfflineEnvelope_known
    (known : receiver.storage.acceptedMessages.Contains envelope.messageId) :
    (receiveOfflineEnvelope wire recipientToken envelope).Ensures receiver
      (fun _ after => after.storage = receiver.storage ∧ after.bob = receiver.bob ∧
        after.requests = receiver.requests ++ [.acknowledge envelope.messageId])
      (fun _ after => after.storage = receiver.storage) := by
  rw [receiveOfflineEnvelope, ensures_bind, ensures_onStorage]
  refine (Database.ensures_acceptMessageOnce envelope.messageId).mono ?_ fun _ _ => id
  rintro _ database ⟨rfl, same⟩
  rw [Table.insertOrIgnore_of_contains known] at same
  simp only [known, not_true, decide_false, Bool.false_eq_true, if_false, sendRequest,
    ensures_modify]
  exact ⟨same, trivial, trivial⟩

/-- The id is recorded as the only new one, and the message is stored. -/
structure Files (wire : ReceiverWire P) (envelope : OfflineEnvelope) (before after : Storage) :
    Prop where
  recorded : ∀ other, after.acceptedMessages.Contains other ↔
    before.acceptedMessages.Contains other ∨ envelope.messageId = other
  stored : before.StoresLetter wire envelope after

namespace Files

variable {before middle after : Storage}

theorem storesOnly (files : Files wire envelope before after) :
    before.StoresOnly wire (some envelope) after where
  recorded other present := (files.recorded other).mpr (.inl present)
  history := .inr ⟨envelope, rfl, files.stored⟩

/-- The other envelopes of the fetch are not new. -/
theorem fetched {envelopes : List OfflineEnvelope} (files : Files wire envelope before middle)
    (new : ¬ before.acceptedMessages.Contains envelope.messageId)
    (only : middle.StoresOnly wire none after)
    (known : ∀ other ∈ envelopes, middle.acceptedMessages.Contains other.messageId) :
    before.Fetched wire (envelope :: envelopes) after := by
  have same : before.firstNew (envelope :: envelopes) = some envelope :=
    Storage.firstNew_cons_new new
  refine ⟨same ▸ files.storesOnly.trans only, ?_, ?_⟩
  · rw [same, List.forall_mem_cons]
    refine ⟨fun _ => ⟨envelope, rfl, rfl⟩, fun other member otherNew => ⟨envelope, rfl, ?_⟩⟩
    exact ((files.recorded _).mp (known other member)).resolve_left otherNew
  · rw [same]
    rintro _ ⟨⟩
    exact files.stored.congr only.messages

end Files

/-- A new envelope is recorded.  Its message is stored before it is acknowledged, and only with
the prekey. -/
theorem receiveOfflineEnvelope_new
    (new : ¬ receiver.storage.acceptedMessages.Contains envelope.messageId) :
    (receiveOfflineEnvelope wire recipientToken envelope).Ensures receiver
      (fun _ after => Files wire envelope receiver.storage after.storage ∧
        receiver.bob.oneTimePrekey.isSome = true ∧ after.bob.oneTimePrekey = none ∧
        after.requests = receiver.requests ++ [.acknowledge envelope.messageId])
      (fun _ after => receiver.storage.StoresOnly wire
        (if receiver.bob.oneTimePrekey.isSome then some envelope else none) after.storage) := by
  rw [receiveOfflineEnvelope, ensures_bind, ensures_onStorage]
  refine (Database.ensures_acceptMessageOnce envelope.messageId).mono ?_ fun _ database same => ?_
  · rintro _ database ⟨rfl, same⟩
    have recorded : receiver.storage.StoresOnly wire none database.storage := by
      rw [same]
      exact ⟨fun _ present => present.insertOrIgnore _, .inl rfl⟩
    simp only [new, not_false_eq_true, decide_true, if_true, ensures_bind, ensures_onBob]
    refine ensures_okOr.mpr ⟨fun initialMessage decoded => ?_, fun _ => recorded.mono⟩
    refine ((receiver.bob.decryptInitialMessage_takes initialMessage).and
      (receiver.bob.decryptInitialMessage_opens initialMessage)).mono ?_ fun _ _ _ => recorded.mono
    rintro text bob ⟨⟨present, spent⟩, opens⟩
    have files : ∀ {row : MessageRecord} {after : Storage},
        after.messages = database.storage.messages.insertOrIgnore row →
        after.acceptedMessages = database.storage.acceptedMessages →
        IsLetter wire envelope row → Files wire envelope receiver.storage after := by
      intro row after written sameIds letter
      refine ⟨fun other => ?_, row, letter, ?_⟩
      · rw [sameIds, same]
        exact Table.contains_insertOrIgnore_iff
      · rw [written, recorded.messages]
    rw [if_pos present]
    simp only [ensures_onStorage, Database.ensures_nowUnixSecs, Database.insertMessage,
      ensures_bind, Database.ensures_execute_iff, ensures_get, sendRequest, ensures_modify,
      Database.saveLocalIdentity]
    refine ⟨fun _ => recorded.mono, fun _ => ensures_okOr.mpr ⟨fun bobState _ => ?_, fun _ => ?_⟩⟩
    · refine ⟨fun _ => Files.storesOnly (files rfl rfl ?_),
        fun _ => ⟨files rfl rfl ?_, present, spent, rfl⟩⟩
      all_goals exact ⟨rfl, rfl, rfl, initialMessage, decoded, text, rfl, opens⟩
    · exact Files.storesOnly
        (files rfl rfl ⟨rfl, rfl, rfl, initialMessage, decoded, text, rfl, opens⟩)
  · change receiver.storage.StoresOnly wire _ database.storage
    rw [same]
    exact .refl wire _ _

/-! ## The envelopes of a fetch -/

variable {returned : Unit → Receiver P → Prop} {failed : AppError → Receiver P → Prop}

/-- Any answer of the mailbox to the first acknowledgement either ends the loop or continues it. -/
theorem ensures_receiveOfflineEnvelopes_cons {answer : Except AppError MailboxResponse}
    {rest : List (OfflineEnvelope × Except AppError MailboxResponse)}
    (first : (receiveOfflineEnvelope wire recipientToken envelope).Ensures receiver
      (fun _ reached => (∀ error, failed error reached) ∧
        (receiveOfflineEnvelopes wire recipientToken rest).Ensures reached returned failed)
      failed) :
    (receiveOfflineEnvelopes wire recipientToken ((envelope, answer) :: rest)).Ensures receiver
      returned failed := by
  rw [receiveOfflineEnvelopes, ensures_bind]
  refine first.mono ?_ fun _ _ => id
  rintro _ reached ⟨stops, continues⟩
  rw [ensures_bind]
  refine ensures_lift.mpr ⟨fun response _ => ?_, fun error _ => stops error⟩
  cases response with
  | acknowledged => exact continues
  | deposited | pending | error => exact stops _

/-- The acknowledgements of the envelopes. -/
def acknowledgements (envelopes : List OfflineEnvelope) : List MailboxRequest :=
  envelopes.map fun envelope => .acknowledge envelope.messageId

/-- Without a prekey nothing is stored, and a new envelope makes the loop fail. -/
theorem receiveOfflineEnvelopes_spent
    (answered : List (OfflineEnvelope × Except AppError MailboxResponse))
    (spent : receiver.bob.oneTimePrekey = none) :
    (receiveOfflineEnvelopes wire recipientToken answered).Ensures receiver
      (fun _ after => receiver.storage.StoresOnly wire none after.storage ∧
        (∀ envelope ∈ answered.map Prod.fst,
          receiver.storage.acceptedMessages.Contains envelope.messageId) ∧
        after.requests = receiver.requests ++ acknowledgements (answered.map Prod.fst))
      (fun _ after => receiver.storage.StoresOnly wire none after.storage) := by
  induction answered generalizing receiver with
  | nil =>
      rw [receiveOfflineEnvelopes, ensures_pure]
      exact ⟨.refl wire _ _, List.forall_mem_nil _, (List.append_nil _).symm⟩
  | cons first rest restIH =>
      obtain ⟨envelope, answer⟩ := first
      apply ensures_receiveOfflineEnvelopes_cons
      by_cases known : receiver.storage.acceptedMessages.Contains envelope.messageId
      · refine (receiveOfflineEnvelope_known known).mono ?_ ?_
        · rintro _ reached ⟨same, sameBob, requests⟩
          rw [← same]
          refine ⟨fun _ => .refl wire _ _, (restIH (sameBob ▸ spent)).mono ?_ fun _ _ => id⟩
          rintro _ after ⟨only, knownRest, sent⟩
          refine ⟨only, ?_, ?_⟩
          · rw [List.map_cons, List.forall_mem_cons]
            exact ⟨same ▸ known, knownRest⟩
          · rw [sent, requests, List.append_assoc]
            rfl
        · intro _ reached same
          rw [same]
          exact .refl wire _ _
      · refine (receiveOfflineEnvelope_new known).mono ?_ ?_
        · rintro _ reached ⟨_, present, _⟩
          rw [spent] at present
          cases present
        · intro _ reached only
          rw [spent] at only
          exact only

/-- A fetch stores at most the first new message. -/
theorem receiveOfflineEnvelopes_ensures
    (answered : List (OfflineEnvelope × Except AppError MailboxResponse)) :
    (receiveOfflineEnvelopes wire recipientToken answered).Ensures receiver
      (fun _ after => receiver.storage.Fetched wire (answered.map Prod.fst) after.storage ∧
        after.requests = receiver.requests ++ acknowledgements (answered.map Prod.fst))
      (fun _ after => receiver.storage.StoresOnly wire
        (receiver.storage.firstNew (answered.map Prod.fst)) after.storage) := by
  induction answered generalizing receiver with
  | nil =>
      rw [receiveOfflineEnvelopes, ensures_pure]
      refine ⟨⟨.refl wire _ _, List.forall_mem_nil _, ?_⟩, (List.append_nil _).symm⟩
      rintro _ absent
      cases absent
  | cons first rest restIH =>
      obtain ⟨envelope, answer⟩ := first
      apply ensures_receiveOfflineEnvelopes_cons
      rw [List.map_cons]
      by_cases known : receiver.storage.acceptedMessages.Contains envelope.messageId
      · rw [Storage.firstNew_cons_known known]
        refine (receiveOfflineEnvelope_known known).mono ?_ ?_
        · rintro _ reached ⟨same, _, requests⟩
          rw [← same] at known ⊢
          refine ⟨fun _ => .refl wire _ _, restIH.mono ?_ fun _ _ => id⟩
          rintro _ after ⟨fetched, sent⟩
          refine ⟨fetched.cons_known known, ?_⟩
          rw [sent, requests, List.append_assoc]
          rfl
        · intro _ reached same
          rw [same]
          exact .refl wire _ _
      · rw [Storage.firstNew_cons_new known]
        refine (receiveOfflineEnvelope_new known).mono ?_ ?_
        · rintro _ reached ⟨files, _, spent, requests⟩
          refine ⟨fun _ => files.storesOnly,
            (receiveOfflineEnvelopes_spent rest spent).mono ?_ ?_⟩
          · rintro _ after ⟨only, knownRest, sent⟩
            refine ⟨files.fetched known only knownRest, ?_⟩
            rw [sent, requests, List.append_assoc]
            rfl
          · exact fun _ _ only => files.storesOnly.trans only
        · intro _ reached only
          split at only
          · exact only
          · exact only.mono

end Receiver

/-! ## Fetches over one database -/

/-- A fetch: when it happens, what the mailbox answers, and which statements fail. -/
structure MailboxFetch where
  moment : Moment
  response : Except AppError MailboxResponse
  answers : Nat → Except AppError MailboxResponse

namespace MailboxFetch

variable {wire : ReceiverWire P} {bob : Bob P}

def envelopes (fetch : MailboxFetch) : List OfflineEnvelope :=
  match fetch.response with
  | .ok (.pending envelopes) => envelopes
  | _ => []

/-- The process starts as the same Bob each time. -/
def perform (wire : ReceiverWire P) (bob : Bob P) (fetch : MailboxFetch) (database : Database) :
    Except AppError Unit × Receiver P :=
  (Receiver.runBobMailboxFetch wire fetch.response fetch.answers).run
    ⟨bob, database.opened fetch.moment.now fetch.moment.interruptions, []⟩

def system (wire : ReceiverWire P) (bob : Bob P) : System Database MailboxFetch where
  initial _ := True
  permitted _ _ := True
  next database fetch := (fetch.perform wire bob database).2.database

theorem perform_ensures (fetch : MailboxFetch) (database : Database) :
    (Receiver.runBobMailboxFetch wire fetch.response fetch.answers).Ensures
      ⟨bob, database.opened fetch.moment.now fetch.moment.interruptions, []⟩
      (fun _ after => database.storage.Fetched wire fetch.envelopes after.storage ∧
        ∃ token, after.requests = .fetch token :: Receiver.acknowledgements fetch.envelopes)
      (fun _ after => database.storage.StoresOnly wire (database.storage.firstNew fetch.envelopes)
        after.storage) := by
  have unchanged : ∀ receiver : Receiver P, receiver.storage = database.storage →
      database.storage.StoresOnly wire (database.storage.firstNew fetch.envelopes)
        receiver.storage := by
    intro receiver same
    rw [same]
    exact .refl wire _ _
  rw [Receiver.runBobMailboxFetch, ensures_bind, ensures_get, ensures_bind, ensures_mapError]
  refine ensures_lift.mpr ⟨fun bundle _ => ?_, fun _ _ => unchanged _ rfl⟩
  rw [ensures_bind, Receiver.sendRequest, ensures_modify, ensures_bind]
  refine ensures_lift.mpr ⟨fun response response_eq => ?_, fun _ _ => unchanged _ rfl⟩
  cases response with
  | pending envelopes =>
      have same : fetch.envelopes = envelopes := by rw [MailboxFetch.envelopes, response_eq]
      refine (Receiver.receiveOfflineEnvelopes_ensures _).mono ?_ ?_
      · rintro _ after ⟨fetched, sent⟩
        rw [Receiver.map_fst_answered, ← same] at fetched sent
        exact ⟨fetched, _, sent⟩
      · intro _ after only
        rw [Receiver.map_fst_answered, ← same] at only
        exact only
  | deposited | acknowledged | error => exact unchanged _ rfl

/-- An id that is recorded keeps its row, or the lack of one. -/
theorem row_of_recorded {before after : Storage} {envelopes : List OfflineEnvelope}
    (only : before.StoresOnly wire (before.firstNew envelopes) after) {row : MessageRecord}
    (recorded : before.acceptedMessages.Contains row.messageId) :
    row ∈ after.messages ↔ row ∈ before.messages :=
  only.mem_iff fun _ first same =>
    Storage.not_recorded_of_firstNew first (same ▸ recorded)

theorem perform_storesOnly (wire : ReceiverWire P) (bob : Bob P) (fetch : MailboxFetch)
    (database : Database) :
    database.storage.StoresOnly wire (database.storage.firstNew fetch.envelopes)
      (fetch.perform wire bob database).2.storage :=
  ((perform_ensures fetch database).mono (fun _ _ fetched => fetched.1.toStoresOnly)
    fun _ _ => id).reached

/-- The id of the row is recorded, and the row is there exactly if it is in `before`. -/
def SettledAs (before : Database) (row : MessageRecord) (database : Database) : Prop :=
  database.storage.acceptedMessages.Contains row.messageId ∧
    (row ∈ database.storage.messages ↔ row ∈ before.storage.messages)

/-- In all runs a recorded id stays with its row or without one, every fetch stores at most the
first new message, and one that succeeds has found no other new one. -/
theorem recorded_settled {before reached : Database}
    (run : (system wire bob).Reaches before reached) (fetch : MailboxFetch) :
    let outcome := fetch.perform wire bob reached
    (∀ row, before.storage.acceptedMessages.Contains row.messageId →
      (row ∈ outcome.2.storage.messages ↔ row ∈ before.storage.messages)) ∧
    reached.storage.StoresOnly wire (reached.storage.firstNew fetch.envelopes)
      outcome.2.storage ∧
    (outcome.1 = .ok () → reached.storage.Fetched wire fetch.envelopes outcome.2.storage ∧
      ∃ token, outcome.2.requests =
        .fetch token :: Receiver.acknowledgements fetch.envelopes) := by
  intro outcome
  refine ⟨fun row recorded => ?_, perform_storesOnly wire bob fetch reached,
    fun success => ?_⟩
  · have settled : SettledAs before row reached := by
      refine run.invariant ⟨recorded, Iff.rfl⟩ fun database event holds _ => ?_
      have only := perform_storesOnly wire bob event database
      exact ⟨only.recorded _ holds.1, (row_of_recorded only holds.1).trans holds.2⟩
    exact (row_of_recorded (perform_storesOnly wire bob fetch reached) settled.1).trans settled.2
  · exact (perform_ensures fetch reached).of_ok (Prod.ext success rfl)

end MailboxFetch

/-! ## Two letters in one fetch -/

namespace Symbolic

def firstEnvelope : OfflineEnvelope := ⟨"token", "first", [], none⟩

def secondEnvelope : OfflineEnvelope := ⟨"token", "second", [0], none⟩

def fetchOf (envelopes : List OfflineEnvelope) : MailboxFetch where
  moment := undisturbed
  response := .ok (.pending envelopes)
  answers _ := .ok (.acknowledged "")

/-- What the fetch of both letters leaves. -/
def afterBoth : Database :=
  ((fetchOf [firstEnvelope, secondEnvelope]).perform receiverWire receivingBob
    ⟨.empty, 0, []⟩).2.database

theorem afterBoth_recorded : afterBoth.storage.acceptedMessages.Contains "second" ∧
    afterBoth.storage.messages.Contains "first" ∧
      ¬ afterBoth.storage.messages.Contains "second" := by
  decide +kernel

/-- The second letter stays lost when it is fetched again. -/
theorem second_letter_settled :
    ¬ ((fetchOf [secondEnvelope]).perform receiverWire receivingBob
      afterBoth).2.storage.messages.Contains "second" := by
  obtain ⟨recorded, _, absent⟩ := afterBoth_recorded
  have run : (MailboxFetch.system receiverWire receivingBob).Reaches afterBoth afterBoth := .refl
  obtain ⟨settled, _⟩ := MailboxFetch.recorded_settled run (fetchOf [secondEnvelope])
  rintro ⟨row, member, same⟩
  exact absent ⟨row, (settled row (same ▸ recorded)).mp member, same⟩

end Symbolic

end CipherMesh
