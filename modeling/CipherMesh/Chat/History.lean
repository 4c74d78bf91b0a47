import CipherMesh.Storage.Merge

/-!
# Chat history and contacts

What the chat programs write around a message: the row of the history, the row of
the pending queue and the contact of the conversation.  The names of rows and
conversations are hashes.
-/

namespace CipherMesh

open Foundation
open Foundation.Mutation

variable {P : Primitives}

/-! ## Names -/

/-- The white space that `str::trim` removes. -/
def isWhiteSpace (char : Char) : Bool :=
  let code := char.toNat
  (0x9 ≤ code && code ≤ 0xd) || code == 0x20 || code == 0x85 || code == 0xa0 ||
    code == 0x1680 || (0x2000 ≤ code && code ≤ 0x200a) || code == 0x2028 || code == 0x2029 ||
    code == 0x202f || code == 0x205f || code == 0x3000

def trim (text : String) : List Char :=
  ((text.toList.dropWhile isWhiteSpace).reverse.dropWhile isWhiteSpace).reverse

def displayNameMaxChars : Nat := 32

def displayNameOrAnonymous (displayName : String) : String :=
  let trimmed := trim displayName
  if trimmed = [] then "Anonymous" else String.ofList (trimmed.take displayNameMaxChars)

def contactIdForIdentity (P : Primitives) (identityPublicKey : Bytes) : String :=
  "contact-" ++ Bytes.hexEncode ((P.sha256 identityPublicKey).take 8)

def contactIdForDisplayName (P : Primitives) (displayName : String) : String :=
  "contact-" ++ Bytes.hexEncode ((P.sha256
    (.ofText "ciphermesh.display-contact.v1" ++
      .ofText (displayNameOrAnonymous displayName))).take 8)

/-- The bytes that `hasher.update` receives for a direction. -/
def MessageDirection.bytes : MessageDirection → Bytes
  | .sent => .ofText "sent"
  | .received => .ofText "received"

def chatMessageId (P : Primitives) (conversationId : String) (direction : MessageDirection)
    (protocolCounter : Option Nat) (ciphertext : Bytes) : String :=
  let counter := match protocolCounter with
    | none => []
    | some counter => .bigEndian 8 counter
  Bytes.hexEncode ((P.sha256 (.ofText "ciphermesh.local-history.v1" ++
    .ofText conversationId ++ direction.bytes ++ counter ++ ciphertext)).take 16)

/-- `random` are the sixteen bytes that were drawn. -/
def pendingPeerMessageId (P : Primitives) (peerId plaintext : String) (now : UInt64)
    (random : Bytes) : String :=
  Bytes.hexEncode ((P.sha256 (.ofText "ciphermesh.pending-peer-message.v1" ++
    .ofText peerId ++ .bigEndian 8 now.toNat ++ .ofText plaintext ++ random)).take 16)

/-! ## The history -/

structure ChatHistoryEntry where
  messageId : Option String
  conversationId : String
  senderDisplayName : String
  peerDisplayName : String
  direction : MessageDirection
  status : MessageStatus
  protocolCounter : Option Nat
  ciphertext : Bytes
  plaintext : String

/-- The row of an entry at the time `now`. -/
def ChatHistoryEntry.record (P : Primitives) (entry : ChatHistoryEntry) (now : UInt64) :
    MessageRecord :=
  let (senderId, recipientId) := match entry.direction with
    | .sent => ("you", entry.peerDisplayName)
    | .received => (entry.senderDisplayName, "you")
  { messageId := entry.messageId.getD (chatMessageId P entry.conversationId entry.direction
      entry.protocolCounter entry.ciphertext)
    conversationId := entry.conversationId
    senderId := displayNameOrAnonymous senderId
    recipientId := displayNameOrAnonymous recipientId
    direction := entry.direction
    status := entry.status
    protocolCounter := entry.protocolCounter
    ciphertext := entry.ciphertext
    plaintext := some entry.plaintext
    createdAtUnixSecs := now }

def persistChatMessage (P : Primitives) (entry : ChatHistoryEntry) : StorageResult Unit := do
  let now ← Database.nowUnixSecs
  Database.insertMessage (entry.record P now)

def chatMessageAlreadySaved (messageId : String) : StorageResult Bool :=
  Database.messageExists messageId

def markIncomingChatMessageAccepted (messageId : String) : StorageResult Unit := do
  let _ ← Database.acceptMessageOnce messageId
  return ()

def markDeliveredIfPending (messageId : String) : StorageResult Unit := do
  Database.removePendingPeerMessage messageId
  Database.updateMessageStatus messageId .sent

/-! ## Contacts -/

def saveContactForChat (P : Primitives) (contactId displayName : String)
    (identityPublicKey : Bytes) (discoveryHint : String) : StorageResult Unit := do
  let displayName := displayNameOrAnonymous displayName
  let savedAtUnixSecs ← Database.nowUnixSecs
  Database.saveContact { contactId, displayName, identityPublicKey, discoveryHint, savedAtUnixSecs }
  if identityPublicKey.length = 32 then
    let legacyContactId := contactIdForDisplayName P displayName
    Database.mergeContactInto legacyContactId contactId
    let lastSeenAtUnixSecs ← Database.nowUnixSecs
    Database.saveKnownPeer {
      peerId := contactIdForIdentity P identityPublicKey
      identityPublicKey, displayName
      conversationId := contactId
      lastSeenAtUnixSecs }

/-- Saving a contact keeps what its statements keep. -/
theorem saveContactForChat_keeps {P : Primitives} {property : Storage → Prop}
    {contactId displayName : String} {identityPublicKey : Bytes} {discoveryHint : String}
    (saves : ∀ storage savedAtUnixSecs, property storage → property { storage with
      contacts := storage.contacts.upsert {
        contactId
        displayName := displayNameOrAnonymous displayName
        identityPublicKey, discoveryHint, savedAtUnixSecs } })
    (merges : identityPublicKey.length = 32 →
      Keeps (fun database : Database => property database.storage)
        (Database.mergeContactInto
          (contactIdForDisplayName P (displayNameOrAnonymous displayName)) contactId))
    (learns : identityPublicKey.length = 32 → ∀ storage lastSeenAtUnixSecs, property storage →
      property { storage with
        knownPeers := storage.knownPeers.upsert {
          peerId := contactIdForIdentity P identityPublicKey
          identityPublicKey
          displayName := displayNameOrAnonymous displayName
          conversationId := contactId
          lastSeenAtUnixSecs } }) :
    Keeps (fun database : Database => property database.storage)
      (saveContactForChat P contactId displayName identityPublicKey discoveryHint) := by
  refine .bind Database.keeps_nowUnixSecs fun _ => ?_
  refine .bind (Database.keeps_execute fun storage => saves storage _) fun _ => ?_
  split
  · next full =>
      refine .bind (merges full) fun _ => ?_
      refine .bind Database.keeps_nowUnixSecs fun _ => Database.keeps_statement ?_
      intro storage value after holds saved
      split at saved
      · cases saved
      · cases saved
        exact learns full storage _ holds
  · exact .pure ()

/-- A saved contact with a full identity key counts as a known peer. -/
def loadKnownPeerForConversation (P : Primitives) (conversationId : String) :
    StorageResult (Option KnownPeerRecord) := do
  match ← Database.knownPeerForConversation conversationId with
  | some peer => return some peer
  | none =>
      match ← Database.loadContact conversationId with
      | none => return none
      | some contact =>
          if contact.identityPublicKey.length = 32 then
            return some {
              peerId := contactIdForIdentity P contact.identityPublicKey
              identityPublicKey := contact.identityPublicKey
              displayName := contact.displayName
              conversationId := contact.contactId
              lastSeenAtUnixSecs := contact.savedAtUnixSecs }
          else return none

def pendingPeerIdForConversation (P : Primitives) (conversationId : String) :
    StorageResult String := do
  let peer ← loadKnownPeerForConversation P conversationId
  return (peer.map KnownPeerRecord.peerId).getD conversationId

def trackPendingChatDelivery (P : Primitives) (conversationId messageId plaintext : String) :
    StorageResult Unit := do
  let peerId ← pendingPeerIdForConversation P conversationId
  let createdAtUnixSecs ← Database.nowUnixSecs
  Database.queuePendingPeerMessage {
    messageId, peerId, conversationId, plaintext, createdAtUnixSecs
    retryCount := 0
    lastAttemptUnixSecs := none }

def queueOfflinePeerMessage (P : Primitives) (peer : KnownPeerRecord) (plaintext : String)
    (random : Bytes) : StorageResult Unit := do
  let createdAtUnixSecs ← Database.nowUnixSecs
  let messageId := pendingPeerMessageId P peer.peerId plaintext createdAtUnixSecs random
  Database.queuePendingPeerMessage {
    messageId
    peerId := peer.peerId
    conversationId := peer.conversationId
    plaintext, createdAtUnixSecs
    retryCount := 0
    lastAttemptUnixSecs := none }
  Database.insertMessage {
    messageId
    conversationId := peer.conversationId
    senderId := "you"
    recipientId := peer.displayName
    direction := .sent
    status := .stored
    protocolCounter := none
    ciphertext := .ofText plaintext
    plaintext := some plaintext
    createdAtUnixSecs }

/-- Without a saved peer profile the message is not sent. -/
def queueMessageAfterPeerDisconnect (P : Primitives) (conversationId line : String)
    (random : Bytes) : StorageResult Unit := do
  match ← loadKnownPeerForConversation P conversationId with
  | none => return ()
  | some peer => queueOfflinePeerMessage P peer line random

end CipherMesh
