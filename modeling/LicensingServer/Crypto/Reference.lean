import LicensingServer.Crypto.KeyAgreement
import LicensingServer.Foundations.Aes
import Mathlib.Data.Nat.Digits.Lemmas

/-!
Owns an implementation of the operations that the program uses of Crypto++, by
their standards, and that it behaves as the program relies on.

Does not own how Crypto++ computes them, and reads no texts but the ones that
the program sends.
-/

set_option autoImplicit false

namespace LicensingServer

open LicensingServer.Foundations

namespace Reference

/-! ### Numbers as texts -/

def hexDigit (digit : Nat) : UInt8 := UInt8.ofNat (if digit < 10 then 48 + digit else 87 + digit)

/-- The digits of a number, with the suffix that Crypto++ marks hexadecimal
numbers with. -/
def hex (value : Nat) : Bytes :=
  (if value = 0 then [0] else (Nat.digits 16 value).reverse).map hexDigit ++ ascii "h"

def digitValue (char : UInt8) : Option Nat :=
  let code := char.toNat
  if 48 ≤ code ∧ code ≤ 57 then some (code - 48)
  else if 97 ≤ code ∧ code ≤ 102 then some (code - 87)
  else if 65 ≤ code ∧ code ≤ 70 then some (code - 55)
  else none

/-- Characters that are no digits are skipped. -/
def readDigit (value : Nat) (char : UInt8) : Nat :=
  match digitValue char with
  | some digit => value * 16 + digit
  | none => value

def integer : Bytes → Int
  | 48 :: 120 :: digits => (digits.foldl readDigit 0 : Nat)
  | _ => 0

theorem readDigit_hexDigit (value : Nat) {digit : Nat} (small : digit < 16) :
    readDigit value (hexDigit digit) = value * 16 + digit := by
  have known : ∀ digit < 16, digitValue (hexDigit digit) = some digit := by decide
  rw [readDigit, known digit small]

theorem foldl_readDigit (digits : List Nat) (small : ∀ digit ∈ digits, digit < 16) (value : Nat) :
    (digits.map hexDigit).foldl readDigit value =
      digits.foldl (fun value digit => value * 16 + digit) value := by
  induction digits generalizing value with
  | nil => rfl
  | cons digit rest inductionHypothesis =>
      rw [List.map_cons, List.foldl_cons, List.foldl_cons,
        readDigit_hexDigit value (small digit (by simp)),
        inductionHypothesis fun other member => small other (List.mem_cons_of_mem _ member)]

theorem integer_hex (value : Nat) : integer (ascii "0x" ++ hex value) = value := by
  have suffix (front : Bytes) :
      (front ++ ascii "h").foldl readDigit 0 = front.foldl readDigit 0 := by
    rw [List.foldl_append]
    rfl
  show (((hex value).foldl readDigit 0 : Nat) : Int) = value
  rw [hex, suffix]
  by_cases zero : value = 0
  · rw [if_pos zero, zero]
    rfl
  · rw [if_neg zero, foldl_readDigit _ (fun digit member =>
      Nat.digits_lt_base (by decide) (List.mem_reverse.mp member)), List.foldl_reverse]
    have folded := Nat.ofDigits_eq_foldr 16 (Nat.digits 16 value)
    rw [Nat.ofDigits_digits] at folded
    rw [Nat.cast_inj]
    refine Eq.trans ?_ folded.symm
    congr 1
    funext digit rest
    simp only [Nat.cast_id]
    omega

theorem hex_no_zero (value : Nat) : (0 : UInt8) ∉ hex value := by
  have digits : ∀ digit < 16, hexDigit digit ≠ 0 := by decide
  intro member
  rcases List.mem_append.mp member with digit | suffix
  · obtain ⟨digit, found, zero⟩ := List.mem_map.mp digit
    refine digits digit ?_ zero
    split_ifs at found with isZero
    · obtain rfl := List.mem_singleton.mp found
      decide
    · exact Nat.digits_lt_base (by decide) (List.mem_reverse.mp found)
  · exact absurd suffix (by decide)

/-! ### Diffie-Hellman -/

def publicKey (exponent : Nat) : Nat := modularExponentiation Group.g exponent Group.p

/-- A key pair of the group, as two blocks. -/
def KeyPair (priv pub : Bytes) : Prop :=
  ∃ exponent, exponent < 256 ^ privateKeyLength ∧ 1 < publicKey exponent ∧
    priv = BigEndian.encode exponent privateKeyLength ∧
    pub = BigEndian.encode (publicKey exponent) publicKeyLength

/-- `DH2::Agree`: the two secrets, unless a key is not a proper group element. -/
def agree (spriv epriv spub epub : Bytes) : Option Bytes :=
  let static := BigEndian.decode spub
  let ephemeral := BigEndian.decode epub
  if (1 < static ∧ static < Group.p) ∧ 1 < ephemeral ∧ ephemeral < Group.p then
    some
      (BigEndian.encode
          (modularExponentiation static (BigEndian.decode spriv) Group.p) publicKeyLength ++
        BigEndian.encode
          (modularExponentiation ephemeral (BigEndian.decode epriv) Group.p) publicKeyLength)
  else none

theorem p_lt : Group.p < 256 ^ publicKeyLength := by decide +kernel

theorem publicKey_lt (exponent : Nat) : publicKey exponent < Group.p := by
  rw [publicKey, modularExponentiation_eq]
  exact Nat.mod_lt _ (by decide)

theorem decode_encode_of_lt {value size : Nat} (small : value < 256 ^ size) :
    BigEndian.decode (BigEndian.encode value size) = value := by
  rw [BigEndian.decode_encode, Nat.mod_eq_of_lt small]

theorem decode_publicKey (exponent : Nat) :
    BigEndian.decode (BigEndian.encode (publicKey exponent) publicKeyLength) = publicKey exponent :=
  decode_encode_of_lt (Nat.lt_trans (publicKey_lt exponent) p_lt)

theorem agree_length {spriv epriv spub epub shared : Bytes}
    (meets : agree spriv epriv spub epub = some shared) : shared.length = agreedValueLength := by
  simp only [agree] at meets
  split_ifs at meets
  rw [← Option.some.inj meets, List.length_append, BigEndian.encode_length,
    BigEndian.encode_length, agreedValueLength, Nat.two_mul]

/-- What two generated pairs agree on. -/
theorem agree_keys {static ephemeral otherStatic otherEphemeral : Nat}
    (staticSmall : static < 256 ^ privateKeyLength)
    (ephemeralSmall : ephemeral < 256 ^ privateKeyLength)
    (staticProper : 1 < publicKey otherStatic) (ephemeralProper : 1 < publicKey otherEphemeral) :
    agree (BigEndian.encode static privateKeyLength) (BigEndian.encode ephemeral privateKeyLength)
        (BigEndian.encode (publicKey otherStatic) publicKeyLength)
        (BigEndian.encode (publicKey otherEphemeral) publicKeyLength) =
      some
        (BigEndian.encode
            (modularExponentiation (publicKey otherStatic) static Group.p) publicKeyLength ++
          BigEndian.encode
            (modularExponentiation (publicKey otherEphemeral) ephemeral Group.p) publicKeyLength) := by
  simp only [agree, decode_publicKey, decode_encode_of_lt staticSmall,
    decode_encode_of_lt ephemeralSmall]
  rw [if_pos ⟨⟨staticProper, publicKey_lt _⟩, ephemeralProper, publicKey_lt _⟩]

/-! ### The library -/

def library : CryptoPP where
  staticKeyPair := KeyPair
  ephemeralKeyPair := KeyPair
  agree := agree
  aesEncrypt := Aes.encryptBlock
  aesDecrypt := Aes.decryptBlock
  cmac := Aes.cmac
  hex := hex
  integer := integer

theorem keyPair_length {priv pub : Bytes} (pair : KeyPair priv pub) :
    pub.length = publicKeyLength := by
  rcases pair with ⟨exponent, _, _, _, same⟩
  rw [same, BigEndian.encode_length]

theorem agree_symmetric {sprivA spubA eprivA epubA sprivB spubB eprivB epubB : Bytes}
    (staticA : KeyPair sprivA spubA) (ephemeralA : KeyPair eprivA epubA)
    (staticB : KeyPair sprivB spubB) (ephemeralB : KeyPair eprivB epubB) :
    ∃ shared, agree sprivA eprivA spubB epubB = some shared ∧
      agree sprivB eprivB spubA epubA = some shared := by
  rcases staticA with ⟨staticA, staticASmall, staticAProper, rfl, rfl⟩
  rcases ephemeralA with ⟨ephemeralA, ephemeralASmall, ephemeralAProper, rfl, rfl⟩
  rcases staticB with ⟨staticB, staticBSmall, staticBProper, rfl, rfl⟩
  rcases ephemeralB with ⟨ephemeralB, ephemeralBSmall, ephemeralBProper, rfl, rfl⟩
  refine ⟨_, agree_keys staticASmall ephemeralASmall staticBProper ephemeralBProper, ?_⟩
  rw [agree_keys staticBSmall ephemeralBSmall staticAProper ephemeralAProper]
  unfold publicKey
  rw [modularExponentiation_comm Group.g staticA staticB,
    modularExponentiation_comm Group.g ephemeralA ephemeralB]

theorem library_aes : library.aes = Aes.cipher := rfl

theorem library_lawful : library.Lawful where
  staticKeyPair_length := by simpa only [library] using @keyPair_length
  ephemeralKeyPair_length := by simpa only [library] using @keyPair_length
  agree_length := by simpa only [library] using @agree_length
  agree_symmetric := by simpa only [library] using @agree_symmetric
  aes_lawful key isKey := by
    have isKey : key.length = 16 := isKey
    rw [library_aes]
    exact Aes.lawful isKey
  cmac_length key message isKey := by
    have isKey : key.length = 16 := isKey
    simpa only [library, blockSize] using Aes.cmac_length isKey message
  integer_hex := by simpa only [library] using integer_hex
  hex_no_zero := by simpa only [library] using hex_no_zero

/-- The random choices of an exchange: two exponents and a content key. -/
def draw (static ephemeral : Nat) (contentKey : Bytes)
    (proper : (static < 256 ^ privateKeyLength ∧ 1 < publicKey static) ∧
      ephemeral < 256 ^ privateKeyLength ∧ 1 < publicKey ephemeral)
    (isKey : contentKey.length = defaultKeyLength) : KeyDraw library where
  groupValid := true
  staticPrivate := BigEndian.encode static privateKeyLength
  staticPublic := BigEndian.encode (publicKey static) publicKeyLength
  ephemeralPrivate := BigEndian.encode ephemeral privateKeyLength
  ephemeralPublic := BigEndian.encode (publicKey ephemeral) publicKeyLength
  contentKey := contentKey
  static_generated := ⟨static, proper.1.1, proper.1.2, rfl, rfl⟩
  ephemeral_generated := ⟨ephemeral, proper.2.1, proper.2.2, rfl, rfl⟩
  contentKey_length := isKey

/-! ### Three parties -/

/-- Its public keys are `2 ^ 1016` and `2 ^ 1017`, which fill all their bytes. -/
def drawA : KeyDraw library :=
  draw 1016 1017 (ascii "0123456789abcdef") (by decide +kernel) (by decide)

def drawB : KeyDraw library :=
  draw 1018 1019 (ascii "fedcba9876543210") (by decide +kernel) (by decide)

/-- Its static public key is `2`, which leaves most of its bytes zero. -/
def drawSmall : KeyDraw library :=
  draw 1 1019 (ascii "fedcba9876543210") (by decide +kernel) (by decide)

/-- The text of a key `16 ^ 254 * digit`. -/
def keyText (digit : Nat) : Bytes :=
  ascii "0x" ++ hexDigit digit :: List.replicate 254 48 ++ ascii "h"

theorem blockHexStr_eq_keyText {digit : Nat} (some : 0 < digit) (small : digit < 16) {block : Bytes}
    (value : BigEndian.decode block = 16 ^ 254 * digit) :
    Crypto.blockHexStr library block = keyText digit := by
  have nonzero : 16 ^ 254 * digit ≠ 0 := Nat.ne_of_gt (Nat.mul_pos (by decide) some)
  have zero : hexDigit 0 = 48 := rfl
  show ascii "0x" ++ hex (BigEndian.decode block) = _
  rw [value, hex, if_neg nonzero, Nat.digits_base_pow_mul (by decide) some,
    Nat.digits_of_lt 16 digit (Nat.ne_of_gt some) small, List.reverse_append,
    List.reverse_singleton, List.reverse_replicate, List.map_append, List.map_replicate, zero]
  rfl

/-- The criterion for two parties whose keys fill their blocks. -/
theorem exchange_understand_iff_full :
    (∃ endA endB, Crypto.exchange drawA drawB .initial .initial = .ok (endA, endB) ∧
        Crypto.Understand library endA endB) ↔
      ∀ block ∈ Crypto.exchanged drawA drawB, ¬ Crypto.LeadsWithZero block :=
  Crypto.exchange_understand_iff library_lawful rfl rfl .initial .initial

theorem drawSmall_leads : Crypto.LeadsWithZero drawSmall.staticPublic := by decide +kernel

/-- A public key that begins with a zero byte makes `genXport` read past the
end of the block it rebuilds. -/
theorem small_key_read_past_end :
    Crypto.exchange drawA drawSmall .initial .initial = .error .readPastEnd ∧
      ¬ ∃ endA endB, Crypto.exchange drawA drawSmall .initial .initial = .ok (endA, endB) ∧
        Crypto.Understand library endA endB := by
  obtain ⟨shared, meetsA, meetsB⟩ := library_lawful.agree_symmetric drawA.static_generated
    drawA.ephemeral_generated drawSmall.static_generated drawSmall.ephemeral_generated
  have stopped : Crypto.exchange drawA drawSmall .initial .initial = .error .readPastEnd := by
    rw [Crypto.exchange_eq library_lawful rfl rfl .initial .initial meetsA meetsB,
      if_pos (.inl (.inl drawSmall_leads))]
  refine ⟨stopped, ?_⟩
  rintro ⟨endA, endB, done, -⟩
  rw [stopped] at done
  cases done

end Reference

end LicensingServer
