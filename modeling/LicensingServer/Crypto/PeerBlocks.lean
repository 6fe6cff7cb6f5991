import LicensingServer.Crypto.Reference

/-!
Owns what `genXport` and `decryptXport` do with blocks that the other party
chose: when a read runs past the end of one, and when a wrapped key is taken over
without its digest being right.

Does not own the exchange between two honest parties.
-/

set_option autoImplicit false

namespace LicensingServer

open LicensingServer.Foundations

namespace Crypto

/-! ### The length of a block that was read from a text -/

section Lengths

variable {lib : CryptoPP}

theorem le_minEncodedSize_iff {size : Nat} (large : 2 ≤ size) (value : Int) :
    size ≤ minEncodedSize value ↔ 256 ^ (size - 1) ≤ value.natAbs := by
  have bound := BigEndian.byteCount_le_iff value.natAbs (size - 1)
  unfold minEncodedSize
  omega

/-- The number in the text decides the length of the block. -/
theorem le_keyBlock_length_iff {size : Nat} (large : 2 ≤ size) (text : Bytes) :
    size ≤ (keyBlock lib text).length ↔
      256 ^ (size - 1) ≤ (lib.integer (cString text)).natAbs := by
  rw [keyBlock, unsignedIntegerToByteBlock, BigEndian.encode_length]
  exact le_minEncodedSize_iff large _

theorem readBlock_eq_readPastEnd_iff {size : Nat} {block : Bytes} :
    readBlock size block = .error .readPastEnd ↔ ¬ size ≤ block.length := by
  unfold readBlock
  split_ifs with enough <;> simp [enough]

end Lengths

/-! ### Reads past the end -/

section Reads

variable {lib : CryptoPP}

theorem agreedValue_readPastEnd_iff (spubBHex epubBHex : Bytes) (crypto : Crypto) :
    agreedValue lib spubBHex epubBHex crypto = .error .readPastEnd ↔
      ¬ (publicKeyLength ≤ (keyBlock lib spubBHex).length ∧
        publicKeyLength ≤ (keyBlock lib epubBHex).length) := by
  unfold agreedValue
  by_cases spubLong : publicKeyLength ≤ (keyBlock lib spubBHex).length
  · rw [readBlock_of_le spubLong]
    by_cases epubLong : publicKeyLength ≤ (keyBlock lib epubBHex).length
    · rw [readBlock_of_le epubLong]
      simp only [bind, Except.bind, spubLong, epubLong, and_self, not_true_eq_false, iff_false]
      intro stopped
      split at stopped <;> cases stopped
    · rw [readBlock_of_lt (Nat.lt_of_not_le epubLong)]
      simp [bind, Except.bind, epubLong]
  · rw [readBlock_of_lt (Nat.lt_of_not_le spubLong)]
    simp [bind, Except.bind, spubLong]

theorem runGenXport_of_not_live (draw : KeyDraw lib) (spubBHex epubBHex : Bytes)
    {crypto : Crypto} (dead : crypto.dhA ≠ .live) :
    runGenXport draw spubBHex epubBHex crypto = .error .deadPointer := by
  unfold runGenXport genXport
  simp only [List.cons_append, List.nil_append, StraightLine.execute, XportStatement.effect,
    dereference, dead, if_false, bind, Except.bind]
  rfl

theorem runGenXport_readPastEnd_iff (lawful : lib.Lawful) (draw : KeyDraw lib)
    (spubBHex epubBHex : Bytes) (crypto : Crypto) :
    runGenXport draw spubBHex epubBHex crypto = .error .readPastEnd ↔
      crypto.dhA = .live ∧
        ¬ (publicKeyLength ≤ (keyBlock lib spubBHex).length ∧
          publicKeyLength ≤ (keyBlock lib epubBHex).length) := by
  by_cases live : crypto.dhA = .live
  · have stops := @agreedValue_readPastEnd_iff lib spubBHex epubBHex crypto
    rw [runGenXport_eq lawful draw spubBHex epubBHex live, ← stops, agreed]
    cases agreedValue lib spubBHex epubBHex crypto with
    | error fault => simp [Except.map, live]
    | ok shared => simp [Except.map]
  · rw [runGenXport_of_not_live draw spubBHex epubBHex live]
    simp [live]

theorem decryptXport_readPastEnd_iff (crypto : Crypto) (xport : Bytes) :
    decryptXport lib crypto xport = .error .readPastEnd ↔
      ¬ defaultKeyLength ≤ (keyBlock lib xport).length := by
  rw [← readBlock_eq_readPastEnd_iff]
  unfold decryptXport
  show (readBlock defaultKeyLength (keyBlock lib xport)).bind _ = _ ↔ _
  cases readBlock defaultKeyLength (keyBlock lib xport) with
  | error fault => simp [Except.bind]
  | ok encryptedCEK =>
      simp only [Except.bind, reduceCtorEq, iff_false]
      intro stopped
      unfold setKey at stopped
      split_ifs at stopped <;> cases stopped

/-- No read of the two calls runs past the end of a block. -/
def ReadsInside (draw : KeyDraw lib) (crypto receiver : Crypto)
    (spubBHex epubBHex xport : Bytes) : Prop :=
  runGenXport draw spubBHex epubBHex crypto ≠ .error .readPastEnd ∧
    decryptXport lib receiver xport ≠ .error .readPastEnd

/-- The number in the text has at least `size` bytes. -/
def WideAs (lib : CryptoPP) (size : Nat) (text : Bytes) : Prop :=
  256 ^ (size - 1) ≤ (lib.integer (cString text)).natAbs

/-- The reads stay inside the blocks exactly when the numbers are large enough. -/
theorem readsInside_iff (lawful : lib.Lawful) (draw : KeyDraw lib) (crypto receiver : Crypto)
    (spubBHex epubBHex xport : Bytes) :
    ReadsInside draw crypto receiver spubBHex epubBHex xport ↔
      (crypto.dhA = .live →
        WideAs lib publicKeyLength spubBHex ∧ WideAs lib publicKeyLength epubBHex) ∧
      WideAs lib defaultKeyLength xport := by
  have keyLarge : 2 ≤ publicKeyLength := by
    rw [publicKeyLength_eq]
    decide
  unfold ReadsInside WideAs
  rw [← le_keyBlock_length_iff keyLarge spubBHex, ← le_keyBlock_length_iff keyLarge epubBHex,
    ← le_keyBlock_length_iff (show 2 ≤ defaultKeyLength by decide) xport, ne_eq, ne_eq,
    runGenXport_readPastEnd_iff lawful, decryptXport_readPastEnd_iff, not_not, not_and, not_not]

/-- The criterion for the texts of a party whose static public key is `2`. -/
theorem readsInside_iff_small_key :
    ReadsInside Reference.drawA (Crypto.initial.withKeys Reference.drawA) Crypto.initial
        (blockHexStr Reference.library Reference.drawSmall.staticPublic)
        (blockHexStr Reference.library Reference.drawSmall.ephemeralPublic) (ascii "0x1") ↔
      ((Crypto.initial.withKeys Reference.drawA).dhA = .live →
        WideAs Reference.library publicKeyLength
          (blockHexStr Reference.library Reference.drawSmall.staticPublic) ∧
        WideAs Reference.library publicKeyLength
          (blockHexStr Reference.library Reference.drawSmall.ephemeralPublic)) ∧
      WideAs Reference.library defaultKeyLength (ascii "0x1") :=
  readsInside_iff Reference.library_lawful _ _ _ _ _ _

/-- `genXport` reads past the block of that key. -/
theorem honest_small_key_reads_past_end :
    ¬ ReadsInside Reference.drawA (Crypto.initial.withKeys Reference.drawA) Crypto.initial
        (blockHexStr Reference.library Reference.drawSmall.staticPublic)
        (blockHexStr Reference.library Reference.drawSmall.ephemeralPublic) (ascii "0x1") := by
  have lawful : Reference.library.Lawful := Reference.library_lawful
  have keyLength := lawful.staticKeyPair_length Reference.drawSmall.static_generated
  have short := received_length_lt
    (show 2 ≤ Reference.drawSmall.staticPublic.length by rw [keyLength, publicKeyLength_eq]; decide)
    Reference.drawSmall_leads
  intro inside
  apply inside.1
  rw [runGenXport_readPastEnd_iff lawful, keyBlock_blockHexStr lawful]
  refine ⟨rfl, ?_⟩
  omega

end Reads

/-! ### Keys that are taken over -/

section Unwrapping

/-- The local variables of a call of `decryptXport`. -/
structure UnwrapLocals where
  newXport : Bytes
  encryptedCEK : Bytes
deriving DecidableEq, Repr

inductive UnwrapStatement
  | decodeXport
  | assignXport
  | copyEncryptedCek
  | setKey
  | assignCek
deriving DecidableEq, Repr

/-- The statements of `decryptXport` that change something or can fail. -/
def unwrapStatements : List UnwrapStatement :=
  [.decodeXport, .assignXport, .copyEncryptedCek, .setKey, .assignCek]

def UnwrapStatement.effect (lib : CryptoPP) (xport : Bytes) (crypto : Crypto)
    (locals : UnwrapLocals) : UnwrapStatement → Except Fault (Crypto × UnwrapLocals)
  | .decodeXport => .ok (crypto, { locals with
      newXport := unsignedIntegerToByteBlock (lib.integer (cString xport)) })
  | .assignXport => .ok ({ crypto with xport := locals.newXport }, locals)
  | .copyEncryptedCek => do
      let encryptedCEK ← readBlock defaultKeyLength crypto.xport
      return (crypto, { locals with encryptedCEK := encryptedCEK })
  | .setKey => do
      Crypto.setKey crypto.kek
      return (crypto, locals)
  | .assignCek =>
      .ok ({ crypto with cek := lib.aesDecrypt crypto.kek locals.encryptedCEK }, locals)

variable {lib : CryptoPP}

/-- The object after `crypto.decryptXport(xport)`, and how the call ended. -/
def runDecryptXport (lib : CryptoPP) (crypto : Crypto) (xport : Bytes) :
    Crypto × Except Fault Unit :=
  let left := StraightLine.leave (fun statement (state : Crypto × UnwrapLocals) =>
    UnwrapStatement.effect lib xport state.1 state.2 statement) unwrapStatements (crypto, ⟨[], []⟩)
  (left.1.1, left.2)

/-- The block is assigned before anything about it is looked at. -/
theorem runDecryptXport_eq (crypto : Crypto) (xport : Bytes) :
    runDecryptXport lib crypto xport =
      match readBlock defaultKeyLength (keyBlock lib xport) with
      | .error fault => ({ crypto with xport := keyBlock lib xport }, .error fault)
      | .ok encryptedCEK =>
          match setKey crypto.kek with
          | .error fault => ({ crypto with xport := keyBlock lib xport }, .error fault)
          | .ok _ =>
              ({ crypto with
                xport := keyBlock lib xport
                cek := lib.aesDecrypt crypto.kek encryptedCEK }, .ok ()) := by
  unfold runDecryptXport unwrapStatements keyBlock
  simp only [StraightLine.leave, UnwrapStatement.effect]
  generalize unsignedIntegerToByteBlock (lib.integer (cString xport)) = block
  cases readBlock defaultKeyLength block with
  | error fault => rfl
  | ok encryptedCEK =>
      simp only [bind, Except.bind, pure, Except.pure]
      cases setKey crypto.kek <;> rfl

/-- The call as a value is the call as statements. -/
theorem decryptXport_eq_run (crypto : Crypto) (xport : Bytes) :
    decryptXport lib crypto xport =
      (runDecryptXport lib crypto xport).2.map fun _ => (runDecryptXport lib crypto xport).1 := by
  rw [runDecryptXport_eq]
  unfold decryptXport
  show (readBlock defaultKeyLength (keyBlock lib xport)).bind _ = _
  cases readBlock defaultKeyLength (keyBlock lib xport) with
  | error fault => rfl
  | ok encryptedCEK =>
      simp only [Except.bind, bind]
      cases setKey crypto.kek <;> rfl

/-- The layout that `genXport` writes: an encrypted key and its digest under the
key that comes out of the agreed value. Without an agreed value there is none. -/
def Authentic (lib : CryptoPP) (agreedOn : Option Bytes) (xport : Bytes) : Prop :=
  ∃ shared, agreedOn = some shared ∧
    (keyBlock lib xport).length = blockSize + blockSize ∧
    (keyBlock lib xport).drop blockSize =
      lib.cmac (mackOf shared) ((keyBlock lib xport).take blockSize)

/-- Failure is reported, and the keys are what they were. -/
def RejectsUnchanged (lib : CryptoPP) (crypto : Crypto) (xport : Bytes) : Prop :=
  (∃ what, (runDecryptXport lib crypto xport).2 = .error (.thrown what)) ∧
    (runDecryptXport lib crypto xport).1.kek = crypto.kek ∧
    (runDecryptXport lib crypto xport).1.cek = crypto.cek ∧
    (runDecryptXport lib crypto xport).1.xport = crypto.xport

/-- `AES` takes no key of any other length. -/
def KnownKeyLength (key : Bytes) : Prop := key.length = 16 ∨ key.length = 24 ∨ key.length = 32

theorem rejectsUnchanged_iff (crypto : Crypto) (xport : Bytes) :
    RejectsUnchanged lib crypto xport ↔
      defaultKeyLength ≤ (keyBlock lib xport).length ∧ ¬ KnownKeyLength crypto.kek ∧
        keyBlock lib xport = crypto.xport := by
  unfold RejectsUnchanged KnownKeyLength
  rw [runDecryptXport_eq]
  by_cases long : defaultKeyLength ≤ (keyBlock lib xport).length
  · rw [readBlock_of_le long]
    by_cases known : crypto.kek.length = 16 ∨ crypto.kek.length = 24 ∨ crypto.kek.length = 32
    · have accepted : setKey crypto.kek = .ok () := if_pos known
      simp [accepted, known]
    · have refused : setKey crypto.kek = .error (.thrown .invalidKeyLength) := if_neg known
      simp [refused, known, long]
  · rw [readBlock_of_lt (Nat.lt_of_not_le long)]
    simp [long]

/-- A text that is no authentic wrapped key is turned away exactly when no key
can be set and the text repeats the block that is already there. -/
theorem authentic_or_rejectsUnchanged_iff (agreedOn : Option Bytes) (crypto : Crypto)
    (xport : Bytes) :
    (¬ Authentic lib agreedOn xport → RejectsUnchanged lib crypto xport) ↔
      Authentic lib agreedOn xport ∨
        256 ^ (defaultKeyLength - 1) ≤ (lib.integer (cString xport)).natAbs ∧
        ¬ KnownKeyLength crypto.kek ∧ keyBlock lib xport = crypto.xport := by
  rw [rejectsUnchanged_iff, le_keyBlock_length_iff (by decide)]
  tauto

/-- What `genXport` writes is authentic, if its first byte is not lost. -/
theorem authentic_wrap (lawful : lib.Lawful) {shared : Bytes}
    (sharedLength : shared.length = agreedValueLength) (draw : KeyDraw lib)
    (full : ¬ LeadsWithZero (wrap lib shared draw.contentKey)) :
    Authentic lib (some shared) (blockHexStr lib (wrap lib shared draw.contentKey)) := by
  have kekLength := kekOf_length sharedLength
  have mackLength := mackOf_length sharedLength
  have wrappedLength : (lib.aesEncrypt (kekOf shared) draw.contentKey).length = blockSize :=
    (lawful.aes_lawful _ kekLength).encrypt_length _ draw.contentKey_length
  have digestLength := lawful.cmac_length (mackOf shared)
    (lib.aesEncrypt (kekOf shared) draw.contentKey) mackLength
  have front := take_wrap lawful sharedLength draw
  have nonempty : wrap lib shared draw.contentKey ≠ [] := by
    intro empty
    have none := congrArg List.length empty
    rw [wrap, List.length_append, wrappedLength, List.length_nil] at none
    exact absurd none (by simp [blockSize])
  refine ⟨shared, rfl, ?_, ?_⟩
  · rw [keyBlock_blockHexStr lawful, received_of_not_zero nonempty full, wrap,
      List.length_append, wrappedLength, digestLength]
  · rw [keyBlock_blockHexStr lawful, received_of_not_zero nonempty full, front, wrap]
    exact List.drop_left' wrappedLength

/-- An encrypted key without any digest is taken over. -/
theorem bare_key_taken_over :
    ∃ shared, Reference.library.agree Reference.drawB.staticPrivate
        Reference.drawB.ephemeralPrivate Reference.drawA.staticPublic
        Reference.drawA.ephemeralPublic = some shared ∧
      ¬ (¬ Authentic Reference.library (some shared) (ascii "0x" ++ List.replicate 32 102) →
        RejectsUnchanged Reference.library
          ((Crypto.initial.withKeys Reference.drawB).withXport Reference.drawB shared)
          (ascii "0x" ++ List.replicate 32 102)) := by
  have lawful : Reference.library.Lawful := Reference.library_lawful
  rcases lawful.agree_symmetric Reference.drawB.static_generated
    Reference.drawB.ephemeral_generated Reference.drawA.static_generated
    Reference.drawA.ephemeral_generated with ⟨shared, meets, -⟩
  have size : (keyBlock Reference.library (ascii "0x" ++ List.replicate 32 102)).length = 16 := by
    decide +kernel
  refine ⟨shared, meets, ?_⟩
  intro rejects
  have forged : ¬ Authentic Reference.library (some shared)
      (ascii "0x" ++ List.replicate 32 102) := by
    intro authentic
    rcases authentic with ⟨_, _, long, _⟩
    rw [size] at long
    exact absurd long (by decide)
  apply ((rejectsUnchanged_iff _ _).mp (rejects forged)).2.1
  apply Or.inl
  exact kekOf_length (lawful.agree_length meets)

end Unwrapping

end Crypto

end LicensingServer
