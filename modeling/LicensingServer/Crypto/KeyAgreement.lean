import LicensingServer.Crypto.KeyExchange

/-!
Owns the exchange between two `Crypto` objects: exactly when both end with the
same keys and can read each other's messages.

Does not own who sends the texts, or when.
-/

set_option autoImplicit false

namespace LicensingServer

open LicensingServer.Foundations

namespace Crypto

/-! ### A block that crosses the wire -/

def LeadsWithZero (block : Bytes) : Prop := block.head? = some 0

instance (block : Bytes) : Decidable (LeadsWithZero block) :=
  inferInstanceAs (Decidable (block.head? = some 0))

/-- What the receiver of a block's text makes of it. -/
def received (block : Bytes) : Bytes := unsignedIntegerToByteBlock (BigEndian.decode block : Int)

variable {lib : CryptoPP}

/-- The text of a block is read back as the number that was printed. -/
theorem integer_blockHexStr (lawful : lib.Lawful) (block : Bytes) :
    lib.integer (cString (blockHexStr lib block)) = BigEndian.decode block := by
  have clean : (0 : UInt8) ∉ blockHexStr lib block := by
    intro member
    rcases List.mem_append.mp member with zero | zero
    · exact absurd zero (by decide)
    · exact lawful.hex_no_zero _ zero
  rw [cString_of_no_zero clean]
  exact lawful.integer_hex _

theorem keyBlock_blockHexStr (lawful : lib.Lawful) (block : Bytes) :
    keyBlock lib (blockHexStr lib block) = received block := by
  rw [keyBlock, integer_blockHexStr lawful, received]

theorem received_of_not_zero {block : Bytes} (nonempty : block ≠ [])
    (full : ¬ LeadsWithZero block) : received block = block := by
  cases block with
  | nil => exact absurd rfl nonempty
  | cons byte rest =>
      exact unsignedIntegerToByteBlock_of_ne (fun zero => full (by rw [zero]; rfl)) rest

theorem received_length_lt {block : Bytes} (long : 2 ≤ block.length)
    (zero : LeadsWithZero block) : (received block).length < block.length := by
  cases block with
  | nil => cases zero
  | cons byte rest =>
      obtain rfl : byte = 0 := Option.some.inj zero
      exact unsignedIntegerToByteBlock_short (by rintro rfl; simp at long)

/-- A reader that takes the whole block gets it exactly when no zero is lost. -/
theorem readBlock_received {block : Bytes} (long : 2 ≤ block.length) :
    readBlock block.length (received block) =
      if LeadsWithZero block then .error .readPastEnd else .ok block := by
  split_ifs with zero
  · exact readBlock_of_lt (received_length_lt long zero)
  · rw [received_of_not_zero (by rintro rfl; simp at long) zero]
    exact readBlock_of_eq rfl

/-- A reader that takes only the front of a block that lost its zeros takes
other bytes. -/
theorem readBlock_received_ne {block taken : Bytes} {size : Nat} (long : 2 ≤ size)
    (zero : LeadsWithZero block) (read : readBlock size (received block) = .ok taken) :
    taken.length = size ∧ taken ≠ block.take size := by
  unfold readBlock at read
  split_ifs at read with enough
  obtain rfl : (received block).take size = taken := Except.ok.inj read
  refine ⟨by rw [List.length_take, Nat.min_eq_left enough], ?_⟩
  intro same
  have stripped : received block = BigEndian.stripZeros block := by
    unfold received at enough ⊢
    rw [unsignedIntegerToByteBlock_decode] at enough ⊢
    split_ifs at enough ⊢ with none
    · rw [List.length_singleton] at enough
      omega
    · rfl
  obtain ⟨first, rest, shape⟩ := List.exists_cons_of_ne_nil
    (show received block ≠ [] from fun empty => by rw [empty, List.length_nil] at enough; omega)
  have nonzero := BigEndian.head_stripZeros_ne_zero (stripped ▸ shape)
  have heads := congrArg List.head? same
  rw [shape, List.head?_take, List.head?_take, if_neg (by omega), if_neg (by omega), zero] at heads
  exact nonzero (Option.some.inj heads)

/-! ### One side of the exchange -/

/-- The secret that is shared through the texts of another party's keys. -/
theorem agreedValue_blockHexStr (lawful : lib.Lawful) (draw other : KeyDraw lib) (crypto : Crypto)
    {shared : Bytes} (meets : lib.agree draw.staticPrivate draw.ephemeralPrivate
      other.staticPublic other.ephemeralPublic = some shared) :
    agreedValue lib (blockHexStr lib other.staticPublic) (blockHexStr lib other.ephemeralPublic)
        (crypto.withKeys draw) =
      if LeadsWithZero other.staticPublic ∨ LeadsWithZero other.ephemeralPublic then
        .error .readPastEnd
      else .ok shared := by
  have staticLength := lawful.staticKeyPair_length other.static_generated
  have ephemeralLength := lawful.ephemeralKeyPair_length other.ephemeral_generated
  have long : 2 ≤ publicKeyLength := by
    rw [publicKeyLength_eq]
    decide
  have staticRead := readBlock_received
    (show 2 ≤ other.staticPublic.length by rw [staticLength]; exact long)
  have ephemeralRead := readBlock_received
    (show 2 ≤ other.ephemeralPublic.length by rw [ephemeralLength]; exact long)
  rw [staticLength] at staticRead
  rw [ephemeralLength] at ephemeralRead
  unfold agreedValue
  rw [keyBlock_blockHexStr lawful, keyBlock_blockHexStr lawful, staticRead, ephemeralRead]
  by_cases staticZero : LeadsWithZero other.staticPublic
  · simp only [staticZero, if_true, true_or]
    rfl
  · by_cases ephemeralZero : LeadsWithZero other.ephemeralPublic
    · simp only [staticZero, ephemeralZero, if_false, if_true, or_true]
      rfl
    · simp only [staticZero, ephemeralZero, if_false, or_self]
      simp only [withKeys, bind, Except.bind, meets, pure, Except.pure]

/-- `genXport` on the texts of another party's generated keys. -/
theorem agreed_blockHexStr (lawful : lib.Lawful) (draw other : KeyDraw lib) (crypto : Crypto)
    {shared : Bytes} (meets : lib.agree draw.staticPrivate draw.ephemeralPrivate
      other.staticPublic other.ephemeralPublic = some shared) :
    agreed draw (blockHexStr lib other.staticPublic) (blockHexStr lib other.ephemeralPublic)
        (crypto.withKeys draw) =
      if LeadsWithZero other.staticPublic ∨ LeadsWithZero other.ephemeralPublic then
        .error .readPastEnd
      else .ok ((crypto.withKeys draw).withXport draw shared) := by
  rw [agreed, agreedValue_blockHexStr lawful draw other crypto meets]
  split_ifs <;> rfl

/-- The front of a wrapped key is the encrypted content key. -/
theorem take_wrap (lawful : lib.Lawful) {shared : Bytes}
    (sharedLength : shared.length = agreedValueLength) (draw : KeyDraw lib) :
    (wrap lib shared draw.contentKey).take blockSize =
      lib.aesEncrypt (kekOf shared) draw.contentKey := by
  have kekLength := kekOf_length sharedLength
  exact List.take_left' ((lawful.aes_lawful _ kekLength).encrypt_length _ draw.contentKey_length)

theorem decryptXport_eq (lawful : lib.Lawful) {crypto : Crypto}
    (kekLength : crypto.kek.length = defaultKeyLength) (block : Bytes) :
    decryptXport lib crypto (blockHexStr lib block) =
      (readBlock blockSize (received block)).map fun encryptedCEK =>
        { crypto with
          xport := received block
          cek := lib.aesDecrypt crypto.kek encryptedCEK } := by
  have keySet : setKey crypto.kek = .ok () := by
    rw [setKey, kekLength]
    rfl
  unfold decryptXport
  rw [integer_blockHexStr lawful, keySet]
  change (readBlock blockSize (received block)).bind _ = _
  cases readBlock blockSize (received block) <;> rfl

/-- Unwrapping gives the content key back, or fails, or gives another one. -/
theorem decryptXport_blockHexStr (lawful : lib.Lawful) (draw : KeyDraw lib) (crypto : Crypto)
    {shared : Bytes} (sharedLength : shared.length = agreedValueLength)
    (sameKek : crypto.kek = kekOf shared) :
    (¬ LeadsWithZero (wrap lib shared draw.contentKey) →
      decryptXport lib crypto (blockHexStr lib (wrap lib shared draw.contentKey)) =
        .ok { crypto with
          xport := wrap lib shared draw.contentKey
          cek := draw.contentKey }) ∧
    (LeadsWithZero (wrap lib shared draw.contentKey) → ∀ after,
      decryptXport lib crypto (blockHexStr lib (wrap lib shared draw.contentKey)) = .ok after →
        after.cek ≠ draw.contentKey) := by
  have kekLength := kekOf_length sharedLength
  have aes := lawful.aes_lawful _ kekLength
  have front := take_wrap lawful sharedLength draw
  have wrappedLength : (lib.aesEncrypt (kekOf shared) draw.contentKey).length = blockSize :=
    aes.encrypt_length _ draw.contentKey_length
  have unwrapped : lib.aesDecrypt (kekOf shared)
      (lib.aesEncrypt (kekOf shared) draw.contentKey) = draw.contentKey :=
    aes.decrypt_encrypt _ draw.contentKey_length
  have long : blockSize ≤ (wrap lib shared draw.contentKey).length := by
    rw [wrap, List.length_append, wrappedLength]
    exact Nat.le_add_right _ _
  rw [decryptXport_eq lawful (by rw [sameKek, kekLength])]
  constructor
  · intro full
    have whole := received_of_not_zero
      (show wrap lib shared draw.contentKey ≠ [] from fun empty => by
        rw [empty] at long; exact absurd long (by decide)) full
    rw [whole, readBlock_of_le long, front, sameKek, Except.map, unwrapped]
  · intro zero after done
    cases read : readBlock blockSize (received (wrap lib shared draw.contentKey)) with
    | error fault => rw [read] at done; cases done
    | ok taken =>
        obtain ⟨takenLength, different⟩ := readBlock_received_ne (by decide) zero read
        rw [read, sameKek] at done
        obtain rfl := Except.ok.inj done
        intro same
        apply different
        rw [front]
        exact aes.decrypt_injective takenLength wrappedLength (same.trans unwrapped.symm)

/-- Whoever holds the same content key can read the message. -/
theorem decrypt_encrypt (lawful : lib.Lawful) {sender receiver : Crypto}
    (cekLength : sender.cek.length = defaultKeyLength) (same : receiver.cek = sender.cek)
    (message : Bytes) :
    ∃ cipherText, encrypt lib sender message = .ok cipherText ∧
      decrypt lib receiver cipherText = .ok message := by
  refine ⟨_, by rw [encrypt, readBlock_of_eq cekLength]; rfl, ?_⟩
  have opened := CipherMode.decryptMessage_encryptMessage
    (lawful.aes_lawful sender.cek cekLength) (show iv.length = lib.aes.blockSize from rfl) message
  rw [decrypt, same, readBlock_of_eq cekLength]
  simp only [bind, Except.bind, opened, pure, Except.pure]

/-! ### The whole exchange -/

/-- Both objects generate their keys, each calls `genXport` on the other's
texts, and `b` takes over the key that `a` has wrapped. -/
def exchange (drawA drawB : KeyDraw lib) (a b : Crypto) : Except Fault (Crypto × Crypto) := do
  let a ← runInitKeyExchangeParams drawA a
  let b ← runInitKeyExchangeParams drawB b
  let endA ← runGenXport drawA (spubHexStr lib b) (epubHexStr lib b) a
  let endB ← runGenXport drawB (spubHexStr lib a) (epubHexStr lib a) b
  let endB ← decryptXport lib endB (xportHexStr lib endA)
  return (endA, endB)

/-- Both hold the same keys, and each reads what the other encrypts. -/
def Understand (lib : CryptoPP) (a b : Crypto) : Prop :=
  a.kek = b.kek ∧ a.cek = b.cek ∧ ∀ message,
    (∃ cipherText, encrypt lib b message = .ok cipherText ∧
      decrypt lib a cipherText = .ok message) ∧
    ∃ cipherText, encrypt lib a message = .ok cipherText ∧ decrypt lib b cipherText = .ok message

/-- The block that `a` sends to `b`, as the random choices determine it. -/
def sentXport (drawA drawB : KeyDraw lib) : Bytes :=
  match lib.agree drawA.staticPrivate drawA.ephemeralPrivate
      drawB.staticPublic drawB.ephemeralPublic with
  | none => []
  | some shared => wrap lib shared drawA.contentKey

/-- The blocks that cross the wire. -/
def exchanged (drawA drawB : KeyDraw lib) : List Bytes :=
  [drawA.staticPublic, drawA.ephemeralPublic, drawB.staticPublic, drawB.ephemeralPublic,
    sentXport drawA drawB]

theorem understand_of_sameKeys (lawful : lib.Lawful) {a b : Crypto} (sameKek : a.kek = b.kek)
    (sameCek : a.cek = b.cek) (cekLength : a.cek.length = defaultKeyLength) :
    Understand lib a b :=
  ⟨sameKek, sameCek, fun message =>
    ⟨decrypt_encrypt lawful (sameCek ▸ cekLength) sameCek message,
      decrypt_encrypt lawful cekLength sameCek.symm message⟩⟩

/-- The exchange up to the wrapped key. -/
theorem exchange_eq (lawful : lib.Lawful) {drawA drawB : KeyDraw lib}
    (validA : drawA.groupValid = true) (validB : drawB.groupValid = true) (a b : Crypto)
    {shared : Bytes}
    (meetsA : lib.agree drawA.staticPrivate drawA.ephemeralPrivate
      drawB.staticPublic drawB.ephemeralPublic = some shared)
    (meetsB : lib.agree drawB.staticPrivate drawB.ephemeralPrivate
      drawA.staticPublic drawA.ephemeralPublic = some shared) :
    exchange drawA drawB a b =
      if (LeadsWithZero drawB.staticPublic ∨ LeadsWithZero drawB.ephemeralPublic) ∨
          LeadsWithZero drawA.staticPublic ∨ LeadsWithZero drawA.ephemeralPublic then
        .error .readPastEnd
      else
        (decryptXport lib ((b.withKeys drawB).withXport drawB shared)
          (blockHexStr lib (wrap lib shared drawA.contentKey))).map fun endB =>
            ((a.withKeys drawA).withXport drawA shared, endB) := by
  have sideA := agreed_blockHexStr lawful drawA drawB a meetsA
  have sideB := agreed_blockHexStr lawful drawB drawA b meetsB
  unfold exchange
  simp only [runInitKeyExchangeParams_eq, validA, validB, if_true, bind, Except.bind]
  rw [runGenXport_eq lawful drawA _ _ (show (a.withKeys drawA).dhA = .live from rfl)]
  simp only [runGenXport_eq lawful drawB _ _ (show (b.withKeys drawB).dhA = .live from rfl)]
  unfold spubHexStr epubHexStr xportHexStr
  simp only [withKeys] at sideA sideB ⊢
  rw [sideA]
  by_cases zeroB : LeadsWithZero drawB.staticPublic ∨ LeadsWithZero drawB.ephemeralPublic
  · simp only [zeroB, if_true, true_or]
  · rw [sideB]
    by_cases zeroA : LeadsWithZero drawA.staticPublic ∨ LeadsWithZero drawA.ephemeralPublic
    · simp only [zeroB, zeroA, if_false, if_true, or_true]
    · simp only [zeroB, zeroA, if_false, or_self, withXport]
      cases decryptXport lib _ _ <;> rfl

/-- The exchange ends with two objects that understand each other exactly when
no block that crosses the wire begins with a zero byte. -/
theorem exchange_understand_iff (lawful : lib.Lawful) {drawA drawB : KeyDraw lib}
    (validA : drawA.groupValid = true) (validB : drawB.groupValid = true) (a b : Crypto) :
    (∃ endA endB, exchange drawA drawB a b = .ok (endA, endB) ∧ Understand lib endA endB) ↔
      ∀ block ∈ exchanged drawA drawB, ¬ LeadsWithZero block := by
  obtain ⟨shared, meetsA, meetsB⟩ := lawful.agree_symmetric drawA.static_generated
    drawA.ephemeral_generated drawB.static_generated drawB.ephemeral_generated
  have sharedLength := lawful.agree_length meetsA
  have sent : sentXport drawA drawB = wrap lib shared drawA.contentKey := by
    rw [sentXport, meetsA]
  have blocks : (∀ block ∈ exchanged drawA drawB, ¬ LeadsWithZero block) ↔
      ¬ ((LeadsWithZero drawB.staticPublic ∨ LeadsWithZero drawB.ephemeralPublic) ∨
        LeadsWithZero drawA.staticPublic ∨ LeadsWithZero drawA.ephemeralPublic) ∧
      ¬ LeadsWithZero (wrap lib shared drawA.contentKey) := by
    simp only [exchanged, sent, List.forall_mem_cons, List.not_mem_nil, false_imp_iff,
      implies_true, and_true]
    tauto
  obtain ⟨full, short⟩ := decryptXport_blockHexStr lawful drawA
    ((b.withKeys drawB).withXport drawB shared) sharedLength rfl
  rw [blocks, exchange_eq lawful validA validB a b meetsA meetsB]
  constructor
  · intro exchanged
    rcases exchanged with ⟨endA, endB, done, sameKek, sameCek, -⟩
    split_ifs at done with zero
    refine ⟨zero, fun xportZero => ?_⟩
    cases unwrapped : decryptXport lib ((b.withKeys drawB).withXport drawB shared)
        (blockHexStr lib (wrap lib shared drawA.contentKey)) with
    | error fault => rw [unwrapped] at done; cases done
    | ok after =>
        rw [unwrapped] at done
        obtain ⟨rfl, rfl⟩ := Prod.mk.inj (Except.ok.inj done)
        exact short xportZero after unwrapped sameCek.symm
  · intro full
    rcases full with ⟨noZero, xportFull⟩
    rw [if_neg noZero, full xportFull]
    exact ⟨_, _, rfl, understand_of_sameKeys lawful rfl rfl drawA.contentKey_length⟩

end Crypto

end LicensingServer
