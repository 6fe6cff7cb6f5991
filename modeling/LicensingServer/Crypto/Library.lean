import LicensingServer.Basic
import LicensingServer.Foundations.CipherMode
import LicensingServer.Foundations.ModularExponentiation

/-!
Owns what the program uses of Crypto++: its operations as a parameter, the
behaviour that the program relies on, the group of the key exchange, and the
random values that one key exchange draws. What is no more than the length or the
digits of a number, and chaining and padding, are definitions after its
documentation and no part of the parameter.

Does not own the class `Crypto`, nor any implementation of the operations.
-/

set_option autoImplicit false

namespace LicensingServer

open LicensingServer.Foundations

namespace Group

/-- `Integer p` of `initKeyExchangeParams`. -/
def p : Nat :=
  0xafe25e32abc0aade88c11b102db2d8fe10f6d6c597dc16ae8dfb44b46b2224b303a8d611e90ffbd09f70a6cbf918021e9a53277eacd4b244e1e2d0d4ade94acb505a7e1ce652fe31922070cb95c909d09858cab47167746d677fc0432273135fa7915ddeaea47a0180123bcb986b58638084c0c894166228b32a36ba08e4d0e7

def q : Nat := (p - 1) / 2

def g : Nat := 2

/-- The subgroup order that `initKeyExchangeParams` verifies. -/
theorem order : modularExponentiation g q p = 1 := by decide +kernel

end Group

/-! ### Lengths -/

def publicKeyLength : Nat := BigEndian.byteCount Group.p
def privateKeyLength : Nat := BigEndian.byteCount Group.q
def agreedValueLength : Nat := 2 * publicKeyLength

/-- `AES::DEFAULT_KEYLENGTH`. -/
def defaultKeyLength : Nat := 16

/-- `AES::BLOCKSIZE`. -/
def blockSize : Nat := 16

theorem publicKeyLength_eq : publicKeyLength = 128 := by decide +kernel

-- the lengths are used through their equations, not by counting bits
attribute [irreducible] publicKeyLength privateKeyLength

/-- The operations of Crypto++ on blocks and numbers. -/
structure CryptoPP where
  /-- The pairs that `GenerateStaticKeyPair` can produce: private, then public. -/
  staticKeyPair : Bytes → Bytes → Prop
  ephemeralKeyPair : Bytes → Bytes → Prop
  /-- `DH2::Agree` on the own static and ephemeral private keys and the other
  party's static and ephemeral public keys. -/
  agree : Bytes → Bytes → Bytes → Bytes → Option Bytes
  /-- One block under a key. -/
  aesEncrypt : Bytes → Bytes → Bytes
  aesDecrypt : Bytes → Bytes → Bytes
  /-- `CMAC<AES>` of a message under a key. -/
  cmac : Bytes → Bytes → Bytes
  /-- What `std::hex << Integer` prints. -/
  hex : Nat → Bytes
  /-- `Integer(const char*)`, on what it sees of its argument. -/
  integer : Bytes → Int

namespace CryptoPP

variable (lib : CryptoPP)

def aes : BlockCipher Bytes := ⟨blockSize, lib.aesEncrypt, lib.aesDecrypt⟩

/-- The documented behaviour that the program relies on. -/
structure Lawful : Prop where
  staticKeyPair_length : ∀ {priv pub}, lib.staticKeyPair priv pub → pub.length = publicKeyLength
  ephemeralKeyPair_length : ∀ {priv pub}, lib.ephemeralKeyPair priv pub →
    pub.length = publicKeyLength
  agree_length : ∀ {spriv epriv spub epub shared}, lib.agree spriv epriv spub epub = some shared →
    shared.length = agreedValueLength
  /-- Two parties with keys that were generated for them agree. -/
  agree_symmetric : ∀ {sprivA spubA eprivA epubA sprivB spubB eprivB epubB},
    lib.staticKeyPair sprivA spubA → lib.ephemeralKeyPair eprivA epubA →
    lib.staticKeyPair sprivB spubB → lib.ephemeralKeyPair eprivB epubB →
    ∃ shared, lib.agree sprivA eprivA spubB epubB = some shared ∧
      lib.agree sprivB eprivB spubA epubA = some shared
  aes_lawful : ∀ key : Bytes, key.length = defaultKeyLength → lib.aes.LawfulAt key
  cmac_length : ∀ key message : Bytes, key.length = defaultKeyLength →
    (lib.cmac key message).length = blockSize
  /-- The printed number can be read as a C string after the prefix `0x`. -/
  integer_hex : ∀ value, lib.integer (ascii "0x" ++ lib.hex value) = value
  hex_no_zero : ∀ value, (0 : UInt8) ∉ lib.hex value

end CryptoPP

/-- The random choices of one key exchange. -/
structure KeyDraw (lib : CryptoPP) where
  /-- The outcome of `ValidateGroup`, which tests with random witnesses. -/
  groupValid : Bool
  staticPrivate : Bytes
  staticPublic : Bytes
  ephemeralPrivate : Bytes
  ephemeralPublic : Bytes
  /-- The block that `genXport` asks of the random pool. -/
  contentKey : Bytes
  static_generated : lib.staticKeyPair staticPrivate staticPublic
  ephemeral_generated : lib.ephemeralKeyPair ephemeralPrivate ephemeralPublic
  contentKey_length : contentKey.length = defaultKeyLength

/-! ### Numbers and blocks -/

/-- `Integer::MinEncodedSize(Integer::UNSIGNED)`. -/
def minEncodedSize (value : Int) : Nat := max 1 (BigEndian.byteCount value.natAbs)

/-- `Crypto::UnsignedIntegerToByteBlock`. -/
def unsignedIntegerToByteBlock (value : Int) : Bytes :=
  BigEndian.encode value.natAbs (minEncodedSize value)

/-- A callee reads `length` bytes from the start of a block. -/
def readBlock (length : Nat) (block : Bytes) : Except Fault Bytes :=
  if length ≤ block.length then .ok (block.take length) else .error .readPastEnd

theorem readBlock_of_le {length : Nat} {block : Bytes} (enough : length ≤ block.length) :
    readBlock length block = .ok (block.take length) := if_pos enough

theorem readBlock_of_lt {length : Nat} {block : Bytes} (short : block.length < length) :
    readBlock length block = .error .readPastEnd := if_neg (Nat.not_le.mpr short)

theorem readBlock_of_eq {length : Nat} {block : Bytes} (exact : block.length = length) :
    readBlock length block = .ok block := by
  rw [readBlock_of_le (Nat.le_of_eq exact.symm), ← exact, List.take_length]

/-- The block that the receiver of a number gets: the sender's block without its
leading zeros, but never empty. -/
theorem unsignedIntegerToByteBlock_decode (block : Bytes) :
    unsignedIntegerToByteBlock (BigEndian.decode block : Int) =
      if BigEndian.decode block = 0 then [0] else BigEndian.stripZeros block := by
  unfold unsignedIntegerToByteBlock minEncodedSize
  rw [Int.natAbs_natCast]
  split_ifs with zero
  · rw [zero]
    rfl
  · have positive : 1 ≤ BigEndian.byteCount (BigEndian.decode block) := by
      rw [Nat.one_le_iff_ne_zero]
      intro none
      have below := (BigEndian.byteCount_le_iff (BigEndian.decode block) 0).mp (Nat.le_of_eq none)
      omega
    rw [Nat.max_eq_right positive, BigEndian.encode_byteCount_decode]

theorem unsignedIntegerToByteBlock_of_ne {byte : UInt8} (nonzero : byte ≠ 0) (rest : Bytes) :
    unsignedIntegerToByteBlock (BigEndian.decode (byte :: rest) : Int) = byte :: rest := by
  have positive : BigEndian.decode (byte :: rest) ≠ 0 := by
    intro zero
    have count := @BigEndian.byteCount_decode byte rest nonzero
    rw [zero] at count
    simp [BigEndian.byteCount] at count
  rw [unsignedIntegerToByteBlock_decode, if_neg positive,
    BigEndian.stripZeros_cons_of_ne nonzero]

/-- A block that begins with a zero byte comes back shorter. -/
theorem unsignedIntegerToByteBlock_short {rest : Bytes} (nonempty : rest ≠ []) :
    (unsignedIntegerToByteBlock (BigEndian.decode (0 :: rest) : Int)).length <
      (0 :: rest : Bytes).length := by
  rw [unsignedIntegerToByteBlock_decode]
  have positive : 1 ≤ rest.length := List.length_pos_iff.mpr nonempty
  split_ifs with zero
  · rw [List.length_singleton, List.length_cons]
    omega
  · rw [BigEndian.stripZeros_zero_cons, List.length_cons]
    have below := BigEndian.stripZeros_length_le rest
    omega

end LicensingServer
