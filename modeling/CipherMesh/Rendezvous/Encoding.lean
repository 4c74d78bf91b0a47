import CipherMesh.Chat.Delivery
import CipherMesh.Foundation.Codec
import CipherMesh.Rendezvous.Joiner

/-!
# The bytes of the chat handshake

The messages of the chat handshake as `bincode` writes them: numbers in eight bytes, keys
without a length, texts and vectors with their length in front.  Older peers leave out the
identity key, or the name as well.  Nothing marks the version, so a reader tries one layout
after the other, and an older message is misread when its bytes happen to be a newer one.
-/

namespace CipherMesh

open Foundation

variable {P : Primitives}

/-! ## Records -/

/-- The keys, signatures and ciphertexts in the messages are byte strings. -/
structure ByteFields (P : Primitives) where
  publicKey : P.PublicKey ≃ { bytes : Bytes // bytes.length = 32 }
  identityKey : P.IdentityKey ≃ { bytes : Bytes // bytes.length = 32 }
  signature : P.Signature ≃ Bytes
  ciphertext : P.Ciphertext ≃ Bytes

def RatchetMessage.fields : Nat × P.PublicKey × P.Ciphertext ≃ RatchetMessage P where
  toFun fields := ⟨fields.1, fields.2.1, fields.2.2⟩
  invFun message := (message.number, message.ratchetPublicKey, message.ciphertext)
  left_inv _ := rfl
  right_inv _ := rfl

def InitialMessage.fields : P.PublicKey × Nat × RatchetMessage P ≃ InitialMessage P where
  toFun fields := ⟨fields.1, fields.2.1, fields.2.2⟩
  invFun initial := (initial.aliceInitialPublicKey, initial.oneTimePrekeyId, initial.message)
  left_inv _ := rfl
  right_inv _ := rfl

def ChatInitialMessage.fields :
    String × Option IdentityPublicKeyBytes × InitialMessage P ≃ ChatInitialMessage P where
  toFun fields := ⟨fields.1, fields.2.1, fields.2.2⟩
  invFun initial := (initial.senderDisplayName, initial.senderIdentityPublicKey, initial.message)
  left_inv _ := rfl
  right_inv _ := rfl

def LegacyChatInitialMessage.fields : String × InitialMessage P ≃ LegacyChatInitialMessage P where
  toFun fields := ⟨fields.1, fields.2⟩
  invFun initial := (initial.senderDisplayName, initial.message)
  left_inv _ := rfl
  right_inv _ := rfl

def PreKeyBundle.fields :
    P.IdentityKey × P.PublicKey × P.Signature × Nat × P.PublicKey ≃ PreKeyBundle P where
  toFun fields := ⟨fields.1, fields.2.1, fields.2.2.1, fields.2.2.2.1, fields.2.2.2.2⟩
  invFun bundle := (bundle.identityPublicKey, bundle.signedPrekeyPublicKey,
    bundle.signedPrekeySignature, bundle.oneTimePrekeyId, bundle.oneTimePrekeyPublicKey)
  left_inv _ := rfl
  right_inv _ := rfl

def ChatPreKeyBundle.fields : String × PreKeyBundle P ≃ ChatPreKeyBundle P where
  toFun fields := ⟨fields.1, fields.2⟩
  invFun bundle := (bundle.senderDisplayName, bundle.bundle)
  left_inv _ := rfl
  right_inv _ := rfl

/-! ## Layouts -/

namespace ByteFields

variable (fields : ByteFields P)

def publicKeyCodec : Codec P.PublicKey :=
  (Codec.array 32).through fields.publicKey.symm.toPEquiv

def identityKeyCodec : Codec P.IdentityKey :=
  (Codec.array 32).through fields.identityKey.symm.toPEquiv

def signatureCodec : Codec P.Signature :=
  Codec.sized.through fields.signature.symm.toPEquiv

def ciphertextCodec : Codec P.Ciphertext :=
  Codec.sized.through fields.ciphertext.symm.toPEquiv

def ratchetMessage : Codec (RatchetMessage P) :=
  (Codec.uint64.pair (fields.publicKeyCodec.pair fields.ciphertextCodec)).through
    RatchetMessage.fields.toPEquiv

def initialMessage : Codec (InitialMessage P) :=
  (fields.publicKeyCodec.pair (Codec.uint64.pair fields.ratchetMessage)).through
    InitialMessage.fields.toPEquiv

def chatInitialMessage : Codec (ChatInitialMessage P) :=
  (Codec.text.pair ((Codec.array 32).option.pair fields.initialMessage)).through
    ChatInitialMessage.fields.toPEquiv

def legacyChatInitialMessage : Codec (LegacyChatInitialMessage P) :=
  (Codec.text.pair fields.initialMessage).through LegacyChatInitialMessage.fields.toPEquiv

def prekeyBundle : Codec (PreKeyBundle P) :=
  (fields.identityKeyCodec.pair (fields.publicKeyCodec.pair (fields.signatureCodec.pair
    (Codec.uint64.pair fields.publicKeyCodec)))).through PreKeyBundle.fields.toPEquiv

def chatPrekeyBundle : Codec (ChatPreKeyBundle P) :=
  (Codec.text.pair fields.prekeyBundle).through ChatPreKeyBundle.fields.toPEquiv

/-- The handshake messages are written in these layouts. -/
def onWire (wire : PairingWire P) : PairingWire P :=
  { wire with
    initialMessage := fields.initialMessage.format
    chatInitialMessage := fields.chatInitialMessage.format
    legacyChatInitialMessage := fields.legacyChatInitialMessage.format
    preKeyBundle := fields.prekeyBundle.format
    chatPreKeyBundle := fields.chatPrekeyBundle.format }

end ByteFields

/-! ## What the layouts accept -/

/-- An initial message can be read: the ciphertext is as long as announced after the keys and
numbers. -/
def HoldsInitialMessage (bytes : Bytes) : Prop :=
  88 + Codec.number (bytes.drop 80) ≤ bytes.length

/-- A bundle can be read, which has the length of the signature after two keys. -/
def HoldsPrekeyBundle (bytes : Bytes) : Prop :=
  112 + Codec.number (bytes.drop 64) ≤ bytes.length

/-- An optional identity key can be read, and an initial message after it. -/
def HoldsKeyedMessage : Bytes → Prop
  | 0 :: bytes => HoldsInitialMessage bytes
  | 1 :: bytes => HoldsInitialMessage (bytes.drop 32)
  | _ => False

/-- A name can be read, and something after it. -/
def HoldsNamed (holds : Bytes → Prop) (bytes : Bytes) : Prop :=
  8 + Codec.number bytes ≤ bytes.length ∧
    (Bytes.toText ((bytes.drop 8).take (Codec.number bytes))).isSome = true ∧
    holds (bytes.drop (8 + Codec.number bytes))

namespace ByteFields

variable (fields : ByteFields P) {bytes : Bytes}

theorem skips_publicKey : fields.publicKeyCodec.Skips 32 :=
  (Codec.skips_array 32).through fun _ => rfl

theorem skips_identityKey : fields.identityKeyCodec.Skips 32 :=
  (Codec.skips_array 32).through fun _ => rfl

theorem isSome_ciphertext : (fields.ciphertextCodec.rest bytes).isSome = true ↔
    8 + Codec.number bytes ≤ bytes.length := by
  rw [ciphertextCodec, Codec.rest_through _ fun _ => rfl, Codec.rest_sized]
  split
  · next enough => simp [enough]
  · next short => simp [short]

theorem isSome_initialMessage :
    (fields.initialMessage.rest bytes).isSome = true ↔ HoldsInitialMessage bytes := by
  rw [initialMessage, Codec.rest_through _ fun _ => rfl, fields.skips_publicKey.isSome_pair,
    Codec.skips_uint64.isSome_pair, ratchetMessage, Codec.rest_through _ fun _ => rfl,
    Codec.skips_uint64.isSome_pair, fields.skips_publicKey.isSome_pair, isSome_ciphertext,
    HoldsInitialMessage]
  simp only [List.length_drop, List.drop_drop, Nat.reduceAdd]
  omega

theorem isSome_prekeyBundle :
    (fields.prekeyBundle.rest bytes).isSome = true ↔ HoldsPrekeyBundle bytes := by
  have afterSignature : ((fields.signatureCodec.pair (Codec.uint64.pair
      fields.publicKeyCodec)).rest (bytes.drop 64)).isSome = true ↔
        48 + Codec.number (bytes.drop 64) ≤ bytes.length - 64 := by
    rw [Codec.rest_pair, signatureCodec, Codec.rest_through _ fun _ => rfl, Codec.rest_sized,
      List.length_drop]
    split
    · rw [Option.bind_some, Codec.skips_uint64.isSome_pair, fields.skips_publicKey]
      simp only [List.length_drop, Option.isSome_ite]
      omega
    · simp only [Option.bind_none, Option.isSome_none, Bool.false_eq_true, false_iff]
      omega
  rw [prekeyBundle, Codec.rest_through _ fun _ => rfl, fields.skips_identityKey.isSome_pair,
    fields.skips_publicKey.isSome_pair, List.drop_drop, List.length_drop, afterSignature,
    HoldsPrekeyBundle]
  omega

theorem isSome_keyed :
    (((Codec.array 32).option.pair fields.initialMessage).rest bytes).isSome = true ↔
      HoldsKeyedMessage bytes := by
  rw [Codec.rest_pair, Codec.rest_option]
  unfold HoldsKeyedMessage
  split
  · exact fields.isSome_initialMessage
  · next bytes =>
      rw [Codec.skips_array]
      split
      · exact fields.isSome_initialMessage
      · simp only [Option.bind_none, Option.isSome_none, Bool.false_eq_true, false_iff,
          HoldsInitialMessage, List.length_drop]
        omega
  · simp

theorem isSome_chatInitialMessage :
    (fields.chatInitialMessage.rest bytes).isSome = true ↔
      HoldsNamed HoldsKeyedMessage bytes := by
  rw [chatInitialMessage, Codec.rest_through _ fun _ => rfl, Codec.isSome_text_pair,
    isSome_keyed, HoldsNamed]

theorem isSome_legacyChatInitialMessage :
    (fields.legacyChatInitialMessage.rest bytes).isSome = true ↔
      HoldsNamed HoldsInitialMessage bytes := by
  rw [legacyChatInitialMessage, Codec.rest_through _ fun _ => rfl, Codec.isSome_text_pair,
    isSome_initialMessage, HoldsNamed]

theorem isSome_chatPrekeyBundle :
    (fields.chatPrekeyBundle.rest bytes).isSome = true ↔ HoldsNamed HoldsPrekeyBundle bytes := by
  rw [chatPrekeyBundle, Codec.rest_through _ fun _ => rfl, Codec.isSome_text_pair,
    isSome_prekeyBundle, HoldsNamed]

/-! ## The bytes of an initial message -/

variable {initial : InitialMessage P}

theorem written_initialMessage (written : fields.initialMessage.write initial = some bytes) :
    (fields.ciphertext initial.message.ciphertext).length < 256 ^ 8 ∧
      bytes = (fields.publicKey initial.aliceInitialPublicKey).val ++
        (Bytes.littleEndian 8 initial.oneTimePrekeyId ++
          (Bytes.littleEndian 8 initial.message.number ++
            ((fields.publicKey initial.message.ratchetPublicKey).val ++
              (Bytes.littleEndian 8 (fields.ciphertext initial.message.ciphertext).length ++
                fields.ciphertext initial.message.ciphertext)))) := by
  rw [initialMessage, Codec.write_through, Codec.write_pair_eq_some] at written
  obtain ⟨_, _, ⟨⟩, afterKey, rfl⟩ := written
  obtain ⟨_, _, idWritten, messageWritten, rfl⟩ := Codec.write_pair_eq_some.mp afterKey
  obtain ⟨_, rfl⟩ := Codec.write_uint64_eq_some.mp idWritten
  rw [ratchetMessage, Codec.write_through, Codec.write_pair_eq_some] at messageWritten
  obtain ⟨_, _, numberWritten, afterNumber, rfl⟩ := messageWritten
  obtain ⟨_, rfl⟩ := Codec.write_uint64_eq_some.mp numberWritten
  obtain ⟨_, _, ⟨⟩, afterRatchetKey, rfl⟩ := Codec.write_pair_eq_some.mp afterNumber
  rw [ciphertextCodec, Codec.write_through] at afterRatchetKey
  obtain ⟨fits, rfl⟩ := Codec.write_sized_eq_some.mp afterRatchetKey
  exact ⟨fits, rfl⟩

/-- The number that is read one byte too far. -/
theorem number_shifted {ciphertext : Bytes} (fits : ciphertext.length < 256 ^ 8) :
    Codec.number ((Bytes.littleEndian 8 ciphertext.length ++ ciphertext).drop 1) =
      ciphertext.length / 256 + 256 ^ 7 * Bytes.ofLittleEndian (ciphertext.take 1) := by
  have shifted : (Bytes.littleEndian 8 ciphertext.length ++ ciphertext).drop 1 =
      Bytes.littleEndian 7 (ciphertext.length / 256) ++ ciphertext :=
    rfl
  have seven := Bytes.length_littleEndian 7 (ciphertext.length / 256)
  have rest : ciphertext.length / 256 < 256 ^ 7 := Nat.div_lt_of_lt_mul fits
  rw [shifted, Codec.number, List.take_append, seven, List.take_of_length_le (by omega),
    Bytes.ofLittleEndian_append, seven, Bytes.ofLittleEndian_littleEndian rest]

/-- The key of the message begins with the tag of an identity key, and the lengths that are
then read at other places fit into the ciphertext. -/
def ReadsAsKeyed (initial : InitialMessage P) : Prop :=
  let key := (fields.publicKey initial.aliceInitialPublicKey).val
  let ciphertext := fields.ciphertext initial.message.ciphertext
  (key.head? = some 0 ∧ 1 + ciphertext.length / 256 +
      256 ^ 7 * Bytes.ofLittleEndian (ciphertext.take 1) ≤ ciphertext.length) ∨
    (key.head? = some 1 ∧ 33 + Codec.number (ciphertext.drop 25) ≤ ciphertext.length)

theorem holdsKeyedMessage_iff (written : fields.initialMessage.write initial = some bytes) :
    HoldsKeyedMessage bytes ↔ fields.ReadsAsKeyed initial := by
  obtain ⟨fits, rfl⟩ := fields.written_initialMessage written
  rw [ReadsAsKeyed]
  generalize fields.ciphertext initial.message.ciphertext = ciphertext at fits ⊢
  generalize fields.publicKey initial.message.ratchetPublicKey = ratchetKey
  obtain ⟨_ | ⟨tag, key⟩, keyLength⟩ := fields.publicKey initial.aliceInitialPublicKey
  · cases keyLength
  have length : key.length = 31 := by simpa using keyLength
  -- the fields between the tag and the length of the ciphertext
  let header := key ++ (Bytes.littleEndian 8 initial.oneTimePrekeyId ++
    (Bytes.littleEndian 8 initial.message.number ++ ratchetKey.val))
  have headerLength : header.length = 79 := by
    simp [header, length, ratchetKey.property]
  have grouped : key ++ (Bytes.littleEndian 8 initial.oneTimePrekeyId ++
      (Bytes.littleEndian 8 initial.message.number ++ (ratchetKey.val ++
        (Bytes.littleEndian 8 ciphertext.length ++ ciphertext)))) =
      header ++ (Bytes.littleEndian 8 ciphertext.length ++ ciphertext) := by
    simp [header]
  clear_value header
  have total : (header ++ (Bytes.littleEndian 8 ciphertext.length ++ ciphertext)).length =
      87 + ciphertext.length := by
    rw [List.length_append, List.length_append, Bytes.length_littleEndian, headerLength]
    omega
  have absent : HoldsInitialMessage
      (header ++ (Bytes.littleEndian 8 ciphertext.length ++ ciphertext)) ↔
        1 + ciphertext.length / 256 + 256 ^ 7 * Bytes.ofLittleEndian (ciphertext.take 1) ≤
          ciphertext.length := by
    rw [HoldsInitialMessage, List.drop_append, List.drop_of_length_le (by omega), List.nil_append,
      headerLength, number_shifted fits, total]
    omega
  have present : HoldsInitialMessage
      ((header ++ (Bytes.littleEndian 8 ciphertext.length ++ ciphertext)).drop 32) ↔
        33 + Codec.number (ciphertext.drop 25) ≤ ciphertext.length := by
    rw [HoldsInitialMessage, List.drop_drop, List.drop_append,
      List.drop_of_length_le (by omega), List.nil_append, headerLength, List.drop_append,
      List.drop_of_length_le (by rw [Bytes.length_littleEndian]; omega), List.nil_append,
      Bytes.length_littleEndian, List.length_drop, total]
    simp only [Nat.reduceAdd, Nat.reduceSub]
    omega
  dsimp only
  rw [List.cons_append, grouped, List.head?_cons, Option.some.injEq, Option.some.injEq]
  rw [← absent, ← present]
  by_cases none : tag = 0
  · subst none
    simp [HoldsKeyedMessage]
  by_cases some : tag = 1
  · subst some
    simp [HoldsKeyedMessage]
  · simp [HoldsKeyedMessage, none, some]

end ByteFields

/-! ## Decoding -/

section

variable {fields : ByteFields P} {wire : PairingWire P} {bytes : Bytes}

theorem read_chatInitialMessage {initial : ChatInitialMessage P}
    (read : fields.chatInitialMessage.format.deserialize bytes = some initial) :
    ∃ after left rest, Codec.text.read bytes = some (initial.senderDisplayName, left) ∧
      (Codec.array 32).option.read left = some (initial.senderIdentityPublicKey, after) ∧
        fields.initialMessage.read after = some (initial.message, rest) := by
  obtain ⟨rest, chatRead⟩ := Codec.deserialize_eq_some_iff.mp read
  rw [ByteFields.chatInitialMessage, Codec.read_through_eq_some, Codec.read_pair_eq_some]
    at chatRead
  obtain ⟨left, named, messageRead⟩ := chatRead
  obtain ⟨after, keyRead, messageRead⟩ := Codec.read_pair_eq_some.mp messageRead
  exact ⟨after, left, rest, named, keyRead, messageRead⟩

theorem read_legacyChatInitialMessage {initial : LegacyChatInitialMessage P}
    (read : fields.legacyChatInitialMessage.format.deserialize bytes = some initial) :
    ∃ left rest, Codec.text.read bytes = some (initial.senderDisplayName, left) ∧
      fields.initialMessage.read left = some (initial.message, rest) := by
  obtain ⟨rest, legacyRead⟩ := Codec.deserialize_eq_some_iff.mp read
  rw [ByteFields.legacyChatInitialMessage, Codec.read_through_eq_some, Codec.read_pair_eq_some]
    at legacyRead
  obtain ⟨left, named, messageRead⟩ := legacyRead
  exact ⟨left, rest, named, messageRead⟩

theorem read_chatPrekeyBundle {bundle : ChatPreKeyBundle P}
    (read : fields.chatPrekeyBundle.format.deserialize bytes = some bundle) :
    ∃ left rest, Codec.text.read bytes = some (bundle.senderDisplayName, left) ∧
      fields.prekeyBundle.read left = some (bundle.bundle, rest) := by
  obtain ⟨rest, chatRead⟩ := Codec.deserialize_eq_some_iff.mp read
  rw [ByteFields.chatPrekeyBundle, Codec.read_through_eq_some, Codec.read_pair_eq_some]
    at chatRead
  obtain ⟨left, named, bundleRead⟩ := chatRead
  exact ⟨left, rest, named, bundleRead⟩

theorem decode_chatInitialMessage {initial : ChatInitialMessage P}
    (written : fields.chatInitialMessage.write initial = some bytes) :
    decodeChatInitialMessage (fields.onWire wire).toWire bytes =
      some { initial with
        senderDisplayName := displayNameOrAnonymous initial.senderDisplayName } := by
  have read : (fields.onWire wire).chatInitialMessage.deserialize bytes = some initial :=
    fields.chatInitialMessage.roundTrip_format written
  rw [decodeChatInitialMessage, read]

/-- A message without an identity key is read unless its own bytes can be read as one with
the key. -/
theorem decode_legacyChatInitialMessage_iff {initial : LegacyChatInitialMessage P}
    (written : fields.legacyChatInitialMessage.write initial = some bytes) :
    decodeChatInitialMessage (fields.onWire wire).toWire bytes =
        some ⟨displayNameOrAnonymous initial.senderDisplayName, none, initial.message⟩ ↔
      ¬ fields.ReadsAsKeyed initial.message := by
  have legacy : (fields.onWire wire).legacyChatInitialMessage.deserialize bytes = some initial :=
    fields.legacyChatInitialMessage.roundTrip_format written
  rw [ByteFields.legacyChatInitialMessage, Codec.write_through, Codec.write_pair_eq_some] at written
  obtain ⟨nameBytes, messageBytes, nameWritten, messageWritten, rfl⟩ := written
  have named := Codec.text.read_write nameWritten messageBytes
  have keyed : (fields.chatInitialMessage.rest (nameBytes ++ messageBytes)).isSome = true ↔
      fields.ReadsAsKeyed initial.message := by
    have left : Codec.text.rest (nameBytes ++ messageBytes) = some messageBytes :=
      congrArg (Option.map Prod.snd) named
    rw [ByteFields.chatInitialMessage, Codec.rest_through _ fun _ => rfl, Codec.rest_pair, left,
      Option.bind_some, fields.isSome_keyed]
    exact fields.holdsKeyedMessage_iff messageWritten
  rw [← keyed, ← Codec.deserialize_eq_none_iff, decodeChatInitialMessage]
  cases newer : fields.chatInitialMessage.format.deserialize (nameBytes ++ messageBytes) with
  | none =>
      have first : (fields.onWire wire).chatInitialMessage.deserialize
          (nameBytes ++ messageBytes) = none := newer
      rw [first, legacy]
      exact ⟨fun _ => rfl, fun _ => rfl⟩
  | some chat =>
      have first : (fields.onWire wire).chatInitialMessage.deserialize
          (nameBytes ++ messageBytes) = some chat := newer
      rw [first]
      refine ⟨fun same => ?_, nofun⟩
      obtain ⟨_, noKey, sameMessage⟩ := ChatInitialMessage.mk.inj (Option.some.inj same)
      obtain ⟨after, left, rest, chatNamed, keyRead, messageRead⟩ := read_chatInitialMessage newer
      have sameLeft : messageBytes = left :=
        congrArg Prod.snd (Option.some.inj (named.symm.trans chatNamed))
      rw [← sameLeft, noKey] at keyRead
      rw [sameMessage] at messageRead
      have noTag : (Codec.array 32).option.write none = some [0] := rfl
      have tagged := Codec.length_of_read keyRead noTag
      have again := Codec.length_of_read messageRead messageWritten
      simp only [List.length_singleton] at tagged
      omega

/-- An initial message alone is read unless it can be read as one after a name, with an
identity key or without. -/
theorem decode_initialMessage_iff {initial : InitialMessage P}
    (written : fields.initialMessage.write initial = some bytes) :
    decodeChatInitialMessage (fields.onWire wire).toWire bytes =
        some ⟨"Anonymous", none, initial⟩ ↔
      ¬ HoldsNamed HoldsKeyedMessage bytes ∧ ¬ HoldsNamed HoldsInitialMessage bytes := by
  have bare : (fields.onWire wire).initialMessage.deserialize bytes = some initial :=
    fields.initialMessage.roundTrip_format written
  rw [← fields.isSome_chatInitialMessage, ← fields.isSome_legacyChatInitialMessage,
    ← Codec.deserialize_eq_none_iff, ← Codec.deserialize_eq_none_iff, decodeChatInitialMessage]
  cases newest : fields.chatInitialMessage.format.deserialize bytes with
  | some chat =>
      have first : (fields.onWire wire).chatInitialMessage.deserialize bytes = some chat := newest
      rw [first]
      refine ⟨fun same => ?_, fun unread => nomatch unread.1⟩
      obtain ⟨_, _, sameMessage⟩ := ChatInitialMessage.mk.inj (Option.some.inj same)
      obtain ⟨after, left, rest, named, keyRead, messageRead⟩ := read_chatInitialMessage newest
      rw [sameMessage] at messageRead
      exact absurd messageRead (Codec.not_read_after_text written named
        (Codec.length_rest_le keyRead))
  | none =>
      have first : (fields.onWire wire).chatInitialMessage.deserialize bytes = none := newest
      rw [first]
      cases newer : fields.legacyChatInitialMessage.format.deserialize bytes with
      | some legacy =>
          have second : (fields.onWire wire).legacyChatInitialMessage.deserialize bytes =
              some legacy := newer
          rw [second]
          refine ⟨fun same => ?_, fun unread => nomatch unread.2⟩
          obtain ⟨_, _, sameMessage⟩ := ChatInitialMessage.mk.inj (Option.some.inj same)
          obtain ⟨left, rest, named, messageRead⟩ := read_legacyChatInitialMessage newer
          rw [sameMessage] at messageRead
          exact absurd messageRead (Codec.not_read_after_text written named le_rfl)
      | none =>
          have second : (fields.onWire wire).legacyChatInitialMessage.deserialize bytes = none :=
            newer
          rw [second, bare]
          exact ⟨fun _ => ⟨rfl, rfl⟩, fun _ => rfl⟩

theorem decode_chatPrekeyBundle {bundle : ChatPreKeyBundle P}
    (written : fields.chatPrekeyBundle.write bundle = some bytes) :
    decodeChatPrekeyBundle (fields.onWire wire) bytes =
      some (displayNameOrAnonymous bundle.senderDisplayName, bundle.bundle) := by
  have read : (fields.onWire wire).chatPreKeyBundle.deserialize bytes = some bundle :=
    fields.chatPrekeyBundle.roundTrip_format written
  rw [decodeChatPrekeyBundle, read]

/-- A bundle alone is read unless it can be read as one after a name. -/
theorem decode_prekeyBundle_iff {bundle : PreKeyBundle P}
    (written : fields.prekeyBundle.write bundle = some bytes) :
    decodeChatPrekeyBundle (fields.onWire wire) bytes = some ("Anonymous", bundle) ↔
      ¬ HoldsNamed HoldsPrekeyBundle bytes := by
  have bare : (fields.onWire wire).preKeyBundle.deserialize bytes = some bundle :=
    fields.prekeyBundle.roundTrip_format written
  rw [← fields.isSome_chatPrekeyBundle, ← Codec.deserialize_eq_none_iff, decodeChatPrekeyBundle]
  cases newer : fields.chatPrekeyBundle.format.deserialize bytes with
  | none =>
      have first : (fields.onWire wire).chatPreKeyBundle.deserialize bytes = none := newer
      rw [first, bare]
      exact ⟨fun _ => rfl, fun _ => rfl⟩
  | some chat =>
      have first : (fields.onWire wire).chatPreKeyBundle.deserialize bytes = some chat := newer
      rw [first]
      refine ⟨fun same => ?_, nofun⟩
      have sameBundle := congrArg Prod.snd (Option.some.inj same)
      obtain ⟨left, rest, named, bundleRead⟩ := read_chatPrekeyBundle newer
      rw [show chat.bundle = bundle from sameBundle] at bundleRead
      exact absurd bundleRead (Codec.not_read_after_text written named le_rfl)

/-- The newest layouts are always read back; each older one is read back exactly when its
bytes are not those of a newer one. -/
theorem decoding_version_tolerant_iff (fields : ByteFields P) (wire : PairingWire P) :
    (∀ initial bytes, fields.chatInitialMessage.write initial = some bytes →
      decodeChatInitialMessage (fields.onWire wire).toWire bytes =
        some { initial with
          senderDisplayName := displayNameOrAnonymous initial.senderDisplayName }) ∧
    (∀ initial bytes, fields.legacyChatInitialMessage.write initial = some bytes →
      (decodeChatInitialMessage (fields.onWire wire).toWire bytes =
          some ⟨displayNameOrAnonymous initial.senderDisplayName, none, initial.message⟩ ↔
        ¬ fields.ReadsAsKeyed initial.message)) ∧
    (∀ initial bytes, fields.initialMessage.write initial = some bytes →
      (decodeChatInitialMessage (fields.onWire wire).toWire bytes =
          some ⟨"Anonymous", none, initial⟩ ↔
        ¬ HoldsNamed HoldsKeyedMessage bytes ∧ ¬ HoldsNamed HoldsInitialMessage bytes)) ∧
    (∀ bundle bytes, fields.chatPrekeyBundle.write bundle = some bytes →
      decodeChatPrekeyBundle (fields.onWire wire) bytes =
        some (displayNameOrAnonymous bundle.senderDisplayName, bundle.bundle)) ∧
    ∀ bundle bytes, fields.prekeyBundle.write bundle = some bytes →
      (decodeChatPrekeyBundle (fields.onWire wire) bytes = some ("Anonymous", bundle) ↔
        ¬ HoldsNamed HoldsPrekeyBundle bytes) :=
  ⟨fun _ _ => decode_chatInitialMessage, fun _ _ => decode_legacyChatInitialMessage_iff,
    fun _ _ => decode_initialMessage_iff, fun _ _ => decode_chatPrekeyBundle,
    fun _ _ => decode_prekeyBundle_iff⟩

end

/-! ## A key that begins with zero -/

namespace Symbolic

/-- Primitives whose keys, signatures and ciphertexts are byte strings. -/
def bytePrimitives : Primitives where
  Block := Unit
  PrivateKey := IdentityPublicKeyBytes
  PublicKey := IdentityPublicKeyBytes
  Ciphertext := Bytes
  SigningKey := IdentityPublicKeyBytes
  IdentityKey := IdentityPublicKeyBytes
  Signature := Bytes
  blockDecidableEq := inferInstance
  publicKeyDecidableEq := inferInstance
  ciphertextDecidableEq := inferInstance
  identityKeyDecidableEq := inferInstance
  publicKey := id
  publicKeyBytes := Subtype.val
  diffieHellman _ _ := ()
  hkdf _ _ _ _ := ()
  aeadSeal _ _ _ message := some message
  aeadOpen _ _ _ ciphertext := some ciphertext
  verifyingKey := id
  identityKeyBytes := Subtype.val
  sign _ message := message
  verify _ message signature := signature = message
  sha256 := id

def byteFields : ByteFields bytePrimitives where
  publicKey := .refl _
  identityKey := .refl _
  signature := .refl _
  ciphertext := .refl _

def bytesWire : PairingWire bytePrimitives where
  ratchetMessage := stateless
  chatFrame := stateless
  initialMessage := stateless
  chatInitialMessage := stateless
  legacyChatInitialMessage := stateless
  aliceState := stateless
  bobState := stateless
  chatPreKeyBundle := stateless
  preKeyBundle := stateless

/-- Thirty-two bytes, the first of which is given. -/
def keyFrom (first : UInt8) : IdentityPublicKeyBytes :=
  ⟨first :: List.replicate 31 1, rfl⟩

/-- A first message whose key and ciphertext begin with the byte. -/
def firstMessage (first : UInt8) : InitialMessage bytePrimitives :=
  ⟨keyFrom first, 7, ⟨0, keyFrom 9, first :: List.replicate 15 5⟩⟩

/-- A bundle whose keys and signature repeat the byte. -/
def bundleOf (byte : UInt8) : PreKeyBundle bytePrimitives :=
  ⟨⟨List.replicate 32 byte, rfl⟩, keyFrom 9, List.replicate 64 byte, 7, keyFrom 9⟩

/-- A first message whose key and ciphertext repeat the byte. -/
def messageOf (byte : UInt8) : InitialMessage bytePrimitives :=
  ⟨⟨List.replicate 32 byte, rfl⟩, 7, ⟨0, keyFrom 9, List.replicate 16 byte⟩⟩

/-- Messages whose keys begin with another byte than a tag are read back. -/
theorem older_messages_read :
    (∃ bytes, byteFields.legacyChatInitialMessage.write ⟨"Alice", firstMessage 2⟩ = some bytes ∧
      decodeChatInitialMessage (byteFields.onWire bytesWire).toWire bytes =
        some ⟨displayNameOrAnonymous "Alice", none, firstMessage 2⟩) ∧
    (∃ bytes, byteFields.initialMessage.write (messageOf 2) = some bytes ∧
      decodeChatInitialMessage (byteFields.onWire bytesWire).toWire bytes =
        some ⟨"Anonymous", none, messageOf 2⟩) ∧
    ∃ bytes, byteFields.prekeyBundle.write (bundleOf 2) = some bytes ∧
      decodeChatPrekeyBundle (byteFields.onWire bytesWire) bytes =
        some ("Anonymous", bundleOf 2) := by
  obtain ⟨_, legacy, bare, _, bundle⟩ := decoding_version_tolerant_iff byteFields bytesWire
  have legacyWritten : byteFields.legacyChatInitialMessage.write ⟨"Alice", firstMessage 2⟩ =
      some ((byteFields.legacyChatInitialMessage.write ⟨"Alice", firstMessage 2⟩).getD []) := by
    decide +kernel
  have bareWritten : byteFields.initialMessage.write (messageOf 2) =
      some ((byteFields.initialMessage.write (messageOf 2)).getD []) := by
    decide +kernel
  have bundleWritten : byteFields.prekeyBundle.write (bundleOf 2) =
      some ((byteFields.prekeyBundle.write (bundleOf 2)).getD []) := by
    decide +kernel
  refine ⟨⟨_, legacyWritten, (legacy _ _ legacyWritten).mpr ?_⟩,
    ⟨_, bareWritten, (bare _ _ bareWritten).mpr ?_⟩,
    ⟨_, bundleWritten, (bundle _ _ bundleWritten).mpr ?_⟩⟩
  · rintro (⟨tag, _⟩ | ⟨tag, _⟩)
    · exact absurd tag (by decide)
    · exact absurd tag (by decide)
  · exact ⟨fun holds => absurd holds.1 (by decide +kernel),
      fun holds => absurd holds.1 (by decide +kernel)⟩
  · exact fun holds => absurd holds.1 (by decide +kernel)

/-- Messages whose keys begin with the tag of an absent key, or with the length of an empty
name, are misread. -/
theorem older_messages_misread :
    (∃ bytes, byteFields.legacyChatInitialMessage.write ⟨"Alice", firstMessage 0⟩ = some bytes ∧
      decodeChatInitialMessage (byteFields.onWire bytesWire).toWire bytes ≠
        some ⟨displayNameOrAnonymous "Alice", none, firstMessage 0⟩) ∧
    (∃ bytes, byteFields.initialMessage.write (messageOf 0) = some bytes ∧
      decodeChatInitialMessage (byteFields.onWire bytesWire).toWire bytes ≠
        some ⟨"Anonymous", none, messageOf 0⟩) ∧
    ∃ bytes, byteFields.prekeyBundle.write (bundleOf 0) = some bytes ∧
      decodeChatPrekeyBundle (byteFields.onWire bytesWire) bytes ≠
        some ("Anonymous", bundleOf 0) := by
  have legacyWritten : byteFields.legacyChatInitialMessage.write ⟨"Alice", firstMessage 0⟩ =
      some ((byteFields.legacyChatInitialMessage.write ⟨"Alice", firstMessage 0⟩).getD []) := by
    decide +kernel
  have bareWritten : byteFields.initialMessage.write (messageOf 0) =
      some ((byteFields.initialMessage.write (messageOf 0)).getD []) := by
    decide +kernel
  have bundleWritten : byteFields.prekeyBundle.write (bundleOf 0) =
      some ((byteFields.prekeyBundle.write (bundleOf 0)).getD []) := by
    decide +kernel
  refine ⟨⟨_, legacyWritten, fun read => ?_⟩,
    ⟨_, bareWritten, fun read => ?_⟩,
    ⟨_, bundleWritten, fun read => ?_⟩⟩
  · exact (decode_legacyChatInitialMessage_iff legacyWritten).mp read
      (.inl ⟨by decide, by decide⟩)
  · exact ((decode_initialMessage_iff bareWritten).mp read).2
      ⟨by decide +kernel, by decide +kernel, by unfold HoldsInitialMessage; decide +kernel⟩
  · exact (decode_prekeyBundle_iff bundleWritten).mp read
      ⟨by decide +kernel, by decide +kernel, by unfold HoldsPrekeyBundle; decide +kernel⟩

end Symbolic

end CipherMesh
