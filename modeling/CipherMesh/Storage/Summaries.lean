import CipherMesh.Foundation.Join
import CipherMesh.Storage.Merge
import CipherMesh.Storage.Views

/-!
# Summaries of the chats

`chat_summaries` asks for the last message, the pending count and the last contact of each
contact in turn.  `chat_summaries_page` reads them with one query that joins the tables.  The
pages list every contact once as long as no offset wraps to a negative number.
-/

namespace CipherMesh

open Foundation
open Foundation.Mutation
open OrderDual (toDual)

structure ChatSummary where
  contact : ContactRecord
  lastMessage : Option MessageRecord
  pendingCount : Nat
  lastSeenAtUnixSecs : Option UInt64
  deriving DecidableEq

namespace Storage

/-- `COLLATE NOCASE` folds the capital letters of ASCII. -/
def noCase (text : String) : String := text.map Char.toLower

/-- The order of `ORDER BY saved_at_unix_secs DESC, display_name COLLATE NOCASE`. -/
def contactOrder (contact : ContactRecord) : Intᵒᵈ ×ₗ String :=
  toLex (toDual (asI64 contact.savedAtUnixSecs), noCase contact.displayName)

def contactsOf (storage : Storage) : List ContactRecord :=
  storage.contacts.select (fun _ => true) contactOrder

/-- The first row of `ORDER BY created_at_unix_secs DESC, protocol_counter DESC,
message_id DESC`. -/
def lastMessageOf (conversationId : String) (storage : Storage) : Option MessageRecord :=
  ((storage.messages.rows.filter fun message => message.conversationId = conversationId)
    |>.insertionSort fun first second => historyOrder second ≤ historyOrder first).head?

/-- The tables that the query of a page joins: a contact, its peer and its last message. -/
abbrev SummaryRow := (ContactRecord × Option KnownPeerRecord) × Option MessageRecord

def summaryRows (storage : Storage) : List SummaryRow :=
  leftJoin
    (leftJoin storage.contacts.rows storage.knownPeers.rows
      fun contact peer => peer.conversationId = contact.contactId)
    storage.messages.rows
    fun row message =>
      (storage.lastMessageOf row.1.contactId).map MessageRecord.messageId = some message.messageId

/-- The order of the joined query: the last message counts as activity, and where there is
none the time at which the contact was saved. -/
def activityOrder (contact : ContactRecord) (lastMessage : Option MessageRecord) :
    Intᵒᵈ ×ₗ String ×ₗ String :=
  let activity := (lastMessage.map MessageRecord.createdAtUnixSecs).getD contact.savedAtUnixSecs
  toLex (toDual (asI64 activity), toLex (noCase contact.displayName, contact.contactId))

def summaryFromRow (storage : Storage) (row : SummaryRow) : ChatSummary where
  contact := row.1.1
  lastMessage := row.2
  pendingCount := storage.pendingCountOf row.1.1.contactId
  lastSeenAtUnixSecs := row.1.2.map KnownPeerRecord.lastSeenAtUnixSecs

/-- The numbers are converted by `as i64`. -/
def summariesPage (limit offset : UInt64) (storage : Storage) : List ChatSummary :=
  (limited (asI64 limit) (asI64 offset) (storage.summaryRows.insertionSort fun first second =>
    activityOrder first.1.1 first.2 ≤ activityOrder second.1.1 second.2)).map
      storage.summaryFromRow

end Storage

namespace Database

open Storage

def contacts : StorageResult (List ContactRecord) :=
  query contactsOf

def lastMessageForConversation (conversationId : String) :
    StorageResult (Option MessageRecord) :=
  query (lastMessageOf conversationId)

/-- The closure of `chat_summaries`. -/
def chatSummary (contact : ContactRecord) : StorageResult ChatSummary := do
  let lastMessage ← lastMessageForConversation contact.contactId
  let pendingCount ← pendingPeerMessageCount contact.contactId
  let knownPeer ← knownPeerForConversation contact.contactId
  return {
    contact
    lastMessage
    pendingCount
    lastSeenAtUnixSecs := knownPeer.map KnownPeerRecord.lastSeenAtUnixSecs }

def chatSummaries : StorageResult (List ChatSummary) := do
  let contacts ← contacts
  contacts.mapM chatSummary

def chatSummariesPage (limit offset : UInt64) : StorageResult (List ChatSummary) :=
  query (summariesPage limit offset)

def recentChatSummaries (limit : UInt64) : StorageResult (List ChatSummary) :=
  chatSummariesPage limit 0

def chatSummaryCount : StorageResult Nat :=
  query fun storage => storage.contacts.rows.length

/-- The first pages of a size, one after the other. -/
def chatSummariesPages (limit : UInt64) : Nat → StorageResult (List ChatSummary)
  | 0 => pure []
  | count + 1 => do
      let earlier ← chatSummariesPages limit count
      let page ← chatSummariesPage limit (.ofNat (count * limit.toNat))
      return earlier ++ page

end Database

/-! ## What the queries mean -/

namespace Storage

variable {storage : Storage}

/-- The column `conversation_id` of the known peers is unique. -/
def PeersUnique (storage : Storage) : Prop :=
  ∀ first ∈ storage.knownPeers, ∀ second ∈ storage.knownPeers,
    first.conversationId = second.conversationId → first = second

theorem PeersUnique.withoutPeers (unique : storage.PeersUnique)
    (condition : KnownPeerRecord → Bool) :
    { storage with knownPeers := storage.knownPeers.delete condition }.PeersUnique := by
  intro first firstMember second secondMember same
  exact unique first (Table.mem_delete.mp firstMember).1 second
    (Table.mem_delete.mp secondMember).1 same

/-- What the tables say about a contact. -/
def summaryOf (contact : ContactRecord) (storage : Storage) : ChatSummary where
  contact := contact
  lastMessage := (storage.historyOf contact.contactId).getLast?
  pendingCount := storage.pendingCountOf contact.contactId
  lastSeenAtUnixSecs :=
    (storage.knownPeerOf contact.contactId).map KnownPeerRecord.lastSeenAtUnixSecs

/-- Every contact, the latest activity first. -/
def contactsByActivity (storage : Storage) : List ContactRecord :=
  storage.contacts.select (fun _ => true) fun contact =>
    activityOrder contact (storage.historyOf contact.contactId).getLast?

/-- The first pages of a size, one after the other. -/
def summariesPages (limit : UInt64) (count : Nat) (storage : Storage) : List ChatSummary :=
  (List.range count).flatMap fun page =>
    storage.summariesPage limit (.ofNat (page * limit.toNat))

theorem perm_contactsByActivity (storage : Storage) :
    storage.contactsByActivity.Perm storage.contacts.rows := by
  rw [contactsByActivity, Table.select, List.filter_true]
  exact List.perm_insertionSort _ _

theorem nodup_contactsByActivity (storage : Storage) : storage.contactsByActivity.Nodup :=
  Table.nodup_select _ _ _

theorem messageId_eq_of_historyOrder_eq {first second : MessageRecord}
    (same : historyOrder first = historyOrder second) : first.messageId = second.messageId :=
  congrArg (fun order => (ofLex (ofLex order).2).2) same

/-- The first message of the descending order is the last of the history. -/
theorem lastMessageOf_eq (conversationId : String) (storage : Storage) :
    storage.lastMessageOf conversationId = (storage.historyOf conversationId).getLast? :=
  Table.head?_descending fun _ _ _ _ same => messageId_eq_of_historyOrder_eq same

/-- At most one peer joins a contact. -/
theorem filter_knownPeers (unique : storage.PeersUnique) (conversationId : String) :
    (storage.knownPeers.rows.filter fun peer => peer.conversationId = conversationId) =
      (storage.knownPeerOf conversationId).toList := by
  apply filter_eq_toList_find (List.Nodup.of_map _ storage.knownPeers.unique)
  intro first firstMember second secondMember firstJoins secondJoins
  exact unique first firstMember second secondMember
    ((of_decide_eq_true firstJoins).trans (of_decide_eq_true secondJoins).symm)

/-- The subquery of the join names the last message of the contact, and no other. -/
theorem filter_lastMessage (conversationId : String) :
    (storage.messages.rows.filter fun message =>
        (storage.lastMessageOf conversationId).map MessageRecord.messageId =
          some message.messageId) = (storage.lastMessageOf conversationId).toList := by
  cases last : storage.lastMessageOf conversationId with
  | none => simp
  | some message =>
      have member : message ∈ storage.historyOf conversationId := by
        rw [lastMessageOf_eq] at last
        exact List.mem_of_getLast? last
      have stored : message ∈ storage.messages := (Table.mem_select.mp member).1
      have single := Table.filter_key_eq stored
      simpa only [Option.map_some, Option.some_inj, eq_comm, Option.toList_some] using single

/-- One row for each contact. -/
theorem summaryRows_eq (unique : storage.PeersUnique) :
    storage.summaryRows = storage.contacts.rows.map fun contact =>
      ((contact, storage.knownPeerOf contact.contactId),
        storage.lastMessageOf contact.contactId) := by
  have withPeers := leftJoin_eq_map fun contact (_ : contact ∈ storage.contacts.rows) =>
    filter_knownPeers unique contact.contactId
  rw [summaryRows, withPeers, leftJoin_eq_map fun row _ => filter_lastMessage row.1.contactId,
    List.map_map]
  rfl

/-- A page is a part of the summaries in the order of the activity. -/
theorem summariesPage_eq (unique : storage.PeersUnique) (limit offset : UInt64) :
    storage.summariesPage limit offset =
      (limited (asI64 limit) (asI64 offset) storage.contactsByActivity).map
        fun contact => storage.summaryOf contact := by
  let row (contact : ContactRecord) : SummaryRow :=
    ((contact, storage.knownPeerOf contact.contactId), storage.lastMessageOf contact.contactId)
  have sorted : (storage.summaryRows.insertionSort fun first second =>
      activityOrder first.1.1 first.2 ≤ activityOrder second.1.1 second.2) =
        storage.contactsByActivity.map row := by
    rw [summaryRows_eq unique, contactsByActivity, Table.select, List.filter_true]
    refine (List.map_insertionSort _ _ _ _ fun first _ second _ => ?_).symm
    simp only [lastMessageOf_eq]
  rw [summariesPage, sorted, limited_map, List.map_map]
  refine List.map_congr_left fun contact _ => ?_
  simp only [Function.comp_apply, summaryFromRow, row, summaryOf, lastMessageOf_eq]

theorem mem_summariesPages (unique : storage.PeersUnique) {limit : UInt64} {count : Nat}
    {summary : ChatSummary} (member : summary ∈ storage.summariesPages limit count) :
    ∃ contact ∈ storage.contacts, storage.summaryOf contact = summary := by
  obtain ⟨page, -, onPage⟩ := List.mem_flatMap.mp member
  rw [summariesPage_eq unique, List.mem_map] at onPage
  obtain ⟨contact, listed, same⟩ := onPage
  have ordered := (sublist_limited _ _ _).subset listed
  exact ⟨contact, storage.perm_contactsByActivity.mem_iff.mp ordered, same⟩

theorem asI64_ofNat_of_lt {offset : Nat} (fits : offset < 2 ^ 63) :
    asI64 (.ofNat offset) = offset := by
  have toNat : (UInt64.ofNat offset).toNat = offset :=
    UInt64.toNat_ofNat_of_lt (show offset < 2 ^ 64 by omega)
  have representable : Representable (.ofNat offset) := by
    rw [Representable, toNat]
    exact fits
  rw [representable.asI64_eq, toNat]

theorem asI64_ofNat_neg {offset : Nat} (beyond : 2 ^ 63 ≤ offset) (below : offset < 2 ^ 64) :
    asI64 (.ofNat offset) < 0 := by
  have toNat : (UInt64.ofNat offset).toNat = offset := UInt64.toNat_ofNat_of_lt below
  have outside : ¬Representable (.ofNat offset) := by
    rw [Representable, toNat]
    omega
  rw [asI64_of_not_representable outside, toNat]
  omega

theorem contact_summariesPage (unique : storage.PeersUnique) (limit offset : UInt64) :
    (storage.summariesPage limit offset).map ChatSummary.contact =
      limited (asI64 limit) (asI64 offset) storage.contactsByActivity := by
  rw [summariesPage_eq unique, List.map_map]
  exact List.map_id _

theorem contact_summariesPages (unique : storage.PeersUnique) (limit : UInt64) (count : Nat) :
    (storage.summariesPages limit count).map ChatSummary.contact =
      (List.range count).flatMap fun page =>
        limited (asI64 limit) (asI64 (.ofNat (page * limit.toNat))) storage.contactsByActivity := by
  rw [summariesPages, List.map_flatMap]
  exact List.flatMap_congr fun page _ => contact_summariesPage unique _ _

/-- A page before the contacts end starts where the page before it ends.  A limit that is
converted to a negative number is none, but then one page covers the contacts. -/
theorem limited_contacts {limit : UInt64} {count page : Nat}
    (covers : storage.contacts.rows.length ≤ count * limit.toNat)
    (fits : (count - 1) * limit.toNat < 2 ^ 63) (inRange : page < count) :
    limited (asI64 limit) (asI64 (.ofNat (page * limit.toNat))) storage.contactsByActivity =
      (storage.contactsByActivity.drop (page * limit.toNat)).take limit.toNat := by
  have offsetFits : page * limit.toNat < 2 ^ 63 :=
    Nat.lt_of_le_of_lt (Nat.mul_le_mul_right _ (Nat.le_sub_one_of_lt inRange)) fits
  rw [asI64_ofNat_of_lt offsetFits]
  by_cases representable : Representable limit
  · rw [representable.asI64_eq, limited_natCast]
  · have negative : asI64 limit < 0 := by
      by_contra nonneg
      exact representable (representable_of_asI64_nonneg (not_lt.mp nonneg))
    have single : count - 1 = 0 := by
      by_contra more
      rw [Representable, not_lt] at representable
      have first := Nat.mul_le_mul_right limit.toNat (Nat.one_le_iff_ne_zero.mpr more)
      omega
    have onePage : count = 1 := by omega
    have enough : storage.contactsByActivity.length ≤ limit.toNat := by
      rw [storage.perm_contactsByActivity.length_eq]
      rwa [onePage, Nat.one_mul] at covers
    have atStart : page = 0 := by omega
    rw [atStart, Nat.zero_mul, limited, if_pos negative, List.take_of_length_le]
    · rfl
    · rwa [List.drop_zero]

/-- The pages of offsets that are not converted to negative numbers follow each other. -/
theorem summariesPages_contact (unique : storage.PeersUnique) {limit : UInt64} {count : Nat}
    (covers : storage.contacts.rows.length ≤ count * limit.toNat)
    (fits : (count - 1) * limit.toNat < 2 ^ 63) :
    (storage.summariesPages limit count).map ChatSummary.contact =
      storage.contactsByActivity := by
  have pages := List.flatMap_congr fun page (member : page ∈ List.range count) =>
    limited_contacts covers fits (List.mem_range.mp member)
  rw [contact_summariesPages unique, pages, flatMap_pages, List.take_of_length_le]
  rw [storage.perm_contactsByActivity.length_eq]
  exact covers

/-- Some page before this one has an offset from `2 ^ 63` on that is a `usize`. -/
theorem exists_negative_page {size count : Nat} (below : size < 2 ^ 64)
    (beyond : 2 ^ 63 ≤ count * size) :
    ∃ page, 0 < page ∧ page ≤ count ∧ 2 ^ 63 ≤ page * size ∧ page * size < 2 ^ 64 := by
  induction count with
  | zero => omega
  | succ count ih =>
      by_cases earlier : 2 ^ 63 ≤ count * size
      · obtain ⟨page, positive, atMost, offset⟩ := ih earlier
        exact ⟨page, positive, Nat.le_succ_of_le atMost, offset⟩
      · refine ⟨count + 1, Nat.succ_pos count, Nat.le_refl _, beyond, ?_⟩
        rw [Nat.succ_mul]
        cases count with
        | zero => omega
        | succ count =>
            have first : size ≤ (count + 1) * size := Nat.le_mul_of_pos_left size (by omega)
            omega

/-- A later page whose offset is converted to a negative number repeats the first contact. -/
theorem summariesPages_repeats (unique : storage.PeersUnique) {limit : UInt64} {count : Nat}
    (positive : 1 ≤ limit.toNat) (nonempty : storage.contacts.rows ≠ [])
    (beyond : 2 ^ 63 ≤ (count - 1) * limit.toNat) :
    ¬((storage.summariesPages limit count).map ChatSummary.contact).Nodup := by
  obtain ⟨page, later, atMost, offset, isUsize⟩ :=
    exists_negative_page limit.toNat_lt beyond
  have limitNonzero : asI64 limit ≠ 0 := by
    intro zero
    have same : limit = 0 := asI64_injective zero
    rw [same] at positive
    exact absurd positive (by decide)
  cases ordered : storage.contactsByActivity with
  | nil =>
      have perm := storage.perm_contactsByActivity
      rw [ordered] at perm
      exact absurd perm.nil_eq.symm nonempty
  | cons first others =>
      rw [contact_summariesPages unique, ordered]
      have onFirst : first ∈ limited (asI64 limit) (asI64 (.ofNat (0 * limit.toNat)))
          (first :: others) :=
        mem_limited_of_offset_nonpos limitNonzero (by rw [Nat.zero_mul]; decide)
      have onLater : first ∈ limited (asI64 limit) (asI64 (.ofNat (page * limit.toNat)))
          (first :: others) :=
        mem_limited_of_offset_nonpos limitNonzero (Int.le_of_lt (asI64_ofNat_neg offset isUsize))
      exact not_nodup_flatMap later (by omega) onFirst onLater

end Storage

namespace Database

open Storage

variable {storage : Storage}

/-- What succeeds leaves the tables and returns this. -/
def Reads {Result : Type} (method : StorageResult Result) (storage : Storage) (value : Result) :
    Prop :=
  ∀ database : Database, database.storage = storage →
    method.Ensures database (fun result after => result = value ∧ after.storage = storage)
      fun _ _ => True

namespace Reads

variable {Item Result Final : Type} {method : StorageResult Result} {value : Result}

theorem query (read : Storage → Result) : Reads (Database.query read) storage (read storage) := by
  rintro database rfl
  exact (query_reads read database).mono (fun _ _ => id) fun _ _ _ => True.intro

theorem pure (value : Result) : Reads (Pure.pure value) storage value :=
  fun _ same => ⟨rfl, same⟩

theorem bind {next : Result → StorageResult Final} {last : Final}
    (first : Reads method storage value) (second : Reads (next value) storage last) :
    Reads (method >>= next) storage last := by
  intro database same
  rw [ensures_bind]
  refine (first database same).mono ?_ fun _ _ => id
  intro result after read
  rw [read.1]
  exact second after read.2

/-- A loop over the rows that were read. -/
theorem mapM {each : Item → StorageResult Result} {value : Item → Result}
    (reads : ∀ item, Reads (each item) storage (value item)) (items : List Item) :
    Reads (items.mapM each) storage (items.map value) := by
  have lawful : LawfulMonad StorageResult := Mutation.lawful
  induction items with
  | nil =>
      rw [List.mapM_nil, List.map_nil]
      exact pure []
  | cons item items ih =>
      rw [List.mapM_cons, List.map_cons]
      exact (reads item).bind (ih.bind (pure _))

end Reads

theorem reads_chatSummary (contact : ContactRecord) :
    Reads (chatSummary contact) storage (storage.summaryOf contact) := by
  rw [summaryOf, ← lastMessageOf_eq]
  exact (Reads.query _).bind ((Reads.query _).bind ((Reads.query _).bind (Reads.pure _)))

/-- Without a failure `chat_summaries` lists what the tables say about each contact. -/
theorem reads_chatSummaries :
    Reads chatSummaries storage (storage.contactsOf.map fun contact => storage.summaryOf contact) :=
  (Reads.query _).bind (Reads.mapM reads_chatSummary _)

theorem reads_messagesForConversation (conversationId : String) :
    Reads (messagesForConversation conversationId) storage (storage.historyOf conversationId) :=
  Reads.query _

theorem reads_chatSummariesPages (limit : UInt64) (count : Nat) :
    Reads (chatSummariesPages limit count) storage (storage.summariesPages limit count) := by
  induction count with
  | zero => exact Reads.pure []
  | succ count ih =>
      rw [summariesPages, List.range_succ, List.flatMap_append, List.flatMap_singleton]
      exact ih.bind ((Reads.query _).bind (Reads.pure _))

theorem succeeds_chatSummariesPages (limit : UInt64) (count : Nat) :
    Succeeds Undisturbed (chatSummariesPages limit count) := by
  induction count with
  | zero => exact .pure []
  | succ count ih => exact ih.bind fun _ => (succeeds_query _).bind fun _ => .pure _

/-- The pages list every contact once, in the order of its activity, with the summary that
`chat_summaries` has for it and the last message of its history. -/
def PagesAgree (limit : UInt64) (count : Nat) (storage : Storage) : Prop :=
  ∀ database : Database, database.storage = storage →
    (chatSummariesPages limit count).Ensures database
      (fun pages after =>
        pages.map ChatSummary.contact = storage.contactsByActivity ∧
        (chatSummaries.Ensures after (fun summaries _ => ∀ summary ∈ pages,
          summary ∈ summaries ∧
            ∀ other ∈ summaries, other.contact = summary.contact → other = summary)
          fun _ _ => True) ∧
        ∀ summary ∈ pages,
          (messagesForConversation summary.contact.contactId).Ensures after
            (fun messages _ => summary.lastMessage = messages.getLast?) fun _ _ => True)
      fun _ _ => True

/-- The pages agree as soon as they list the contacts. -/
theorem pagesAgree_iff_listed (unique : storage.PeersUnique) (limit : UInt64) (count : Nat) :
    PagesAgree limit count storage ↔
      (storage.summariesPages limit count).map ChatSummary.contact =
        storage.contactsByActivity := by
  constructor
  · intro agree
    let database : Database := ⟨storage, 0, []⟩
    obtain ⟨pages, after, run, -⟩ :=
      (succeeds_chatSummariesPages limit count database rfl).exists_ok
    have read := (reads_chatSummariesPages limit count database rfl).of_ok run
    have listed := ((agree database rfl).of_ok run).1
    rwa [read.1] at listed
  · intro listed database same
    refine (reads_chatSummariesPages limit count database same).mono ?_ fun _ _ => id
    intro pages after read
    rw [read.1]
    refine ⟨listed, (reads_chatSummaries after read.2).mono ?_ fun _ _ => id, ?_⟩
    · intro summaries _ summarized summary member
      obtain ⟨contact, stored, rfl⟩ := mem_summariesPages unique member
      rw [summarized.1]
      refine ⟨List.mem_map_of_mem (Table.mem_select.mpr ⟨stored, rfl⟩), ?_⟩
      intro other otherMember sameContact
      obtain ⟨otherContact, -, rfl⟩ := List.mem_map.mp otherMember
      exact congrArg (fun contact => storage.summaryOf contact) sameContact
    · intro summary member
      refine (reads_messagesForConversation _ after read.2).mono ?_ fun _ _ => id
      intro messages _ messagesRead
      obtain ⟨contact, -, rfl⟩ := mem_summariesPages unique member
      rw [messagesRead.1]
      rfl

/-- Enough pages list every contact exactly once, unless there is a contact and the offset of
the last page is `2 ^ 63` or more. -/
theorem chatSummariesPages_agree_iff (unique : storage.PeersUnique) {limit : UInt64}
    (positive : 1 ≤ limit.toNat) {count : Nat}
    (covers : storage.contacts.rows.length ≤ count * limit.toNat) :
    PagesAgree limit count storage ↔
      storage.contacts.rows = [] ∨ (count - 1) * limit.toNat < 2 ^ 63 := by
  rw [pagesAgree_iff_listed unique]
  constructor
  · intro listed
    by_contra neither
    rw [not_or, not_lt] at neither
    apply summariesPages_repeats unique positive neither.1 neither.2
    rw [listed]
    exact storage.nodup_contactsByActivity
  · rintro (empty | fits)
    · have none : storage.contactsByActivity = [] := by
        rw [← List.perm_nil, ← empty]
        exact storage.perm_contactsByActivity
      rw [contact_summariesPages unique, none, List.flatMap_eq_nil_iff]
      exact fun page _ => List.sublist_nil.mp (sublist_limited _ _ _)
    · exact summariesPages_contact unique covers fits

/-! ## The unique column -/

/-- The constraint is checked where a peer is saved. -/
theorem keepsUnique_saveKnownPeer (peer : KnownPeerRecord) :
    Keeps (fun database => database.storage.PeersUnique) (saveKnownPeer peer) := by
  apply keeps_statement
  intro storage _ after unique saved
  split at saved
  · cases saved
  · next free =>
      cases saved
      have alone : ∀ other ∈ storage.knownPeers, other.peerId ≠ peer.peerId →
          other.conversationId ≠ peer.conversationId :=
        fun other member different same => free ⟨other, member, same, different⟩
      intro first firstMember second secondMember same
      rcases Table.mem_upsert.mp firstMember with rfl | ⟨firstOld, firstDifferent⟩
      · rcases Table.mem_upsert.mp secondMember with rfl | ⟨secondOld, secondDifferent⟩
        · rfl
        · exact absurd same.symm (alone second secondOld secondDifferent)
      · rcases Table.mem_upsert.mp secondMember with rfl | ⟨secondOld, -⟩
        · exact absurd same (alone first firstOld firstDifferent)
        · exact unique first firstOld second secondOld same

theorem keepsUnique_mergeContactInto (oldContactId newContactId : String) :
    Keeps (fun database => database.storage.PeersUnique)
      (mergeContactInto oldContactId newContactId) := by
  apply keeps_mergeContactInto
  · exact fun _ unique => unique
  · exact fun _ unique => unique
  · exact fun _ _ _ _ unique => unique
  · exact fun _ unique => unique.withoutPeers _
  · exact fun _ unique => unique

theorem keepsUnique_deleteConversation (conversationId : String) :
    Keeps (fun database => database.storage.PeersUnique)
      (deleteConversation conversationId) := by
  apply keeps_deleteConversation
  · exact fun _ unique => unique
  · exact fun _ unique => unique
  · exact fun _ unique => unique.withoutPeers _
  · exact fun _ unique => unique
  · exact fun _ _ _ _ _ unique => unique

end Database

/-! ## A limit that stands for none -/

namespace Symbolic

/-- One contact without messages. -/
def listedStore : Storage :=
  { Storage.empty with
    contacts := Table.empty.upsert ⟨"contact-bob", "Bob", [], "direct QUIC", 200⟩ }

theorem listedStore_peersUnique : listedStore.PeersUnique := nofun

theorem pages_of_three_agree : Database.PagesAgree 3 1 listedStore :=
  (Database.chatSummariesPages_agree_iff listedStore_peersUnique (by decide) (by decide)).mpr
    (.inr (by decide))

/-- With the greatest `usize` as the limit the first page lists all contacts, and so does the
second. -/
theorem largestLimit_repeats :
    let limit : UInt64 := .ofNat (2 ^ 64 - 1)
    let listed := (Database.chatSummariesPages limit 2).run ⟨listedStore, 0, []⟩
    listedStore.PeersUnique ∧ 1 ≤ limit.toNat ∧
      listedStore.contacts.rows.length ≤ 2 * limit.toNat ∧
      listed.1.map (List.map fun summary => summary.contact.contactId) =
        .ok ["contact-bob", "contact-bob"] ∧
      ¬Database.PagesAgree limit 2 listedStore := by
  have repeated : ¬((listedStore.summariesPages (.ofNat (2 ^ 64 - 1)) 2).map
      ChatSummary.contact).Nodup := by decide +kernel
  refine ⟨listedStore_peersUnique, by decide, by decide, by decide +kernel, fun agree => ?_⟩
  rw [(Database.pagesAgree_iff_listed listedStore_peersUnique _ _).mp agree] at repeated
  exact repeated listedStore.nodup_contactsByActivity

end Symbolic

end CipherMesh
