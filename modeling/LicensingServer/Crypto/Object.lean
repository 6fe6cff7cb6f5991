import LicensingServer.Crypto.Library
import LicensingServer.Foundations.StraightLine

/-!
Owns the class `Crypto`: its members, `initKeyExchangeParams` and `genXport`
statement by statement, and its other member functions.

Two of its functions are lists of statements because another thread can look at
the members between any two of them. What the functions print is left out.
-/

set_option autoImplicit false

namespace LicensingServer

open LicensingServer.Foundations

/-- `_dhA`: the constructor does not set it. -/
inductive DhPointer
  | indeterminate
  | null
  | live
deriving DecidableEq, Repr

/-- The members of `Crypto` that hold data. -/
structure Crypto where
  spubA : Bytes
  epubA : Bytes
  sprivA : Bytes
  eprivA : Bytes
  kek : Bytes
  xport : Bytes
  cek : Bytes
  dhA : DhPointer
deriving DecidableEq, Repr

namespace Crypto

/-- `Crypto::Crypto`. -/
def initial : Crypto := ⟨[], [], [], [], [], [], [], .indeterminate⟩

/-- `CleanNew`: a block of zero bytes. -/
def cleanNew (size : Nat) : Bytes := List.replicate size 0

/-- `_dhA->`. -/
def dereference (crypto : Crypto) : Except Fault Unit :=
  if crypto.dhA = .live then .ok () else .error .deadPointer

/-! ### `initKeyExchangeParams` -/

inductive InitStatement
  | validateGroup
  | verifyOrder
  | newDh2
  | cleanSpriv
  | cleanSpub
  | cleanEpriv
  | cleanEpub
  | generateStaticKeyPair
  | generateEphemeralKeyPair
deriving DecidableEq, Repr

def initKeyExchangeParams : List InitStatement :=
  [.validateGroup, .verifyOrder, .newDh2, .cleanSpriv, .cleanSpub, .cleanEpriv, .cleanEpub,
    .generateStaticKeyPair, .generateEphemeralKeyPair]

variable {lib : CryptoPP}

def InitStatement.effect (draw : KeyDraw lib) (crypto : Crypto) :
    InitStatement → Except Fault Crypto
  | .validateGroup =>
      if draw.groupValid then .ok crypto
      else .error (.thrown (.runtimeError "Failed to validate prime and generator"))
  | .verifyOrder =>
      if modularExponentiation Group.g Group.q Group.p ≠ 1 then
        .error (.thrown (.runtimeError "Failed to verify order of the subgroup"))
      else .ok crypto
  | .newDh2 => .ok { crypto with dhA := .live }
  | .cleanSpriv => do
      crypto.dereference
      return { crypto with sprivA := cleanNew privateKeyLength }
  | .cleanSpub => do
      crypto.dereference
      return { crypto with spubA := cleanNew publicKeyLength }
  | .cleanEpriv => do
      crypto.dereference
      return { crypto with eprivA := cleanNew privateKeyLength }
  | .cleanEpub => do
      crypto.dereference
      return { crypto with epubA := cleanNew publicKeyLength }
  | .generateStaticKeyPair => do
      crypto.dereference
      return { crypto with sprivA := draw.staticPrivate, spubA := draw.staticPublic }
  | .generateEphemeralKeyPair => do
      crypto.dereference
      return { crypto with eprivA := draw.ephemeralPrivate, epubA := draw.ephemeralPublic }

/-- `crypto.initKeyExchangeParams()`. -/
def runInitKeyExchangeParams (draw : KeyDraw lib) (crypto : Crypto) : Except Fault Crypto :=
  StraightLine.execute (fun statement crypto => InitStatement.effect draw crypto statement)
    initKeyExchangeParams crypto

/-- The members after `initKeyExchangeParams`. -/
def withKeys (crypto : Crypto) (draw : KeyDraw lib) : Crypto :=
  { crypto with
    sprivA := draw.staticPrivate
    spubA := draw.staticPublic
    eprivA := draw.ephemeralPrivate
    epubA := draw.ephemeralPublic
    dhA := .live }

theorem runInitKeyExchangeParams_eq (draw : KeyDraw lib) (crypto : Crypto) :
    runInitKeyExchangeParams draw crypto =
      if draw.groupValid then .ok (crypto.withKeys draw)
      else .error (.thrown (.runtimeError "Failed to validate prime and generator")) := by
  unfold runInitKeyExchangeParams initKeyExchangeParams
  by_cases valid : draw.groupValid = true
  · simp only [StraightLine.execute, InitStatement.effect, valid, if_true, Group.order, ne_eq,
      not_true_eq_false, if_false, dereference, bind, Except.bind, pure, Except.pure]
    rfl
  · simp only [StraightLine.execute, InitStatement.effect, valid]
    rfl

/-! ### `genXport` -/

/-- The local variables of a call of `genXport`. -/
structure XportLocals where
  spubBHex : Bytes
  epubBHex : Bytes
  spubB : Bytes
  epubB : Bytes
  sharedA : Bytes
  mack : Bytes
deriving DecidableEq, Repr

def XportLocals.enter (spubBHex epubBHex : Bytes) : XportLocals :=
  ⟨spubBHex, epubBHex, [], [], [], []⟩

inductive XportStatement
  | decodeSpub
  | decodeEpub
  | allocateShared
  | agree
  | assignKek
  | copyMack
  | cleanCek
  /-- `GenerateBlock` writes the byte at this place. -/
  | fillCek (place : Nat)
  | cleanXport
  | wrapCek
  | digest
  | deleteDh2
  | clearDh2
deriving DecidableEq, Repr

def genXport : List XportStatement :=
  [.decodeSpub, .decodeEpub, .allocateShared, .agree, .assignKek, .copyMack, .cleanCek] ++
    (List.range defaultKeyLength).map .fillCek ++
    [.cleanXport, .wrapCek, .digest, .deleteDh2, .clearDh2]

variable (lib)

def XportStatement.effect (draw : KeyDraw lib) (crypto : Crypto) (locals : XportLocals) :
    XportStatement → Except Fault (Crypto × XportLocals)
  | .decodeSpub => .ok (crypto, { locals with
      spubB := unsignedIntegerToByteBlock (lib.integer (cString locals.spubBHex)) })
  | .decodeEpub => .ok (crypto, { locals with
      epubB := unsignedIntegerToByteBlock (lib.integer (cString locals.epubBHex)) })
  | .allocateShared => do
      crypto.dereference
      return (crypto, { locals with sharedA := cleanNew agreedValueLength })
  | .agree => do
      crypto.dereference
      let spub ← readBlock publicKeyLength locals.spubB
      let epub ← readBlock publicKeyLength locals.epubB
      match lib.agree crypto.sprivA crypto.eprivA spub epub with
      | none => .error (.thrown (.runtimeError "Failed to reach shared secret (A)"))
      | some shared => return (crypto, { locals with sharedA := shared })
  | .assignKek => do
      let kek ← readBlock defaultKeyLength locals.sharedA
      return ({ crypto with kek := kek }, locals)
  | .copyMack => do
      let mack ← readBlock blockSize (locals.sharedA.drop defaultKeyLength)
      return (crypto, { locals with mack := mack })
  | .cleanCek => .ok ({ crypto with cek := cleanNew defaultKeyLength }, locals)
  | .fillCek place =>
      .ok ({ crypto with cek := crypto.cek.set place (draw.contentKey.getD place 0) }, locals)
  | .cleanXport => .ok ({ crypto with xport := cleanNew (blockSize + blockSize) }, locals)
  | .wrapCek => do
      let cek ← readBlock blockSize crypto.cek
      return ({ crypto with
        xport := lib.aesEncrypt crypto.kek cek ++ crypto.xport.drop blockSize }, locals)
  | .digest => do
      let wrapped ← readBlock blockSize crypto.xport
      return ({ crypto with
        xport := wrapped ++ (lib.cmac locals.mack wrapped).take blockSize }, locals)
  | .deleteDh2 => .ok ({ crypto with dhA := .indeterminate }, locals)
  | .clearDh2 => .ok ({ crypto with dhA := .null }, locals)

variable {lib}

/-- `crypto.genXport(spubBHex, epubBHex)`. -/
def runGenXport (draw : KeyDraw lib) (spubBHex epubBHex : Bytes) (crypto : Crypto) :
    Except Fault Crypto :=
  (StraightLine.execute (fun statement (state : Crypto × XportLocals) =>
    XportStatement.effect lib draw state.1 state.2 statement) genXport
      (crypto, .enter spubBHex epubBHex)).map Prod.fst

variable (lib)

/-! ### The texts sent to the other party -/

def blockHexStr (block : Bytes) : Bytes := ascii "0x" ++ lib.hex (BigEndian.decode block)

def spubHexStr (crypto : Crypto) : Bytes := blockHexStr lib crypto.spubA
def epubHexStr (crypto : Crypto) : Bytes := blockHexStr lib crypto.epubA
def xportHexStr (crypto : Crypto) : Bytes := blockHexStr lib crypto.xport

/-! ### Encryption -/

/-- The initialization vector of `encrypt` and `decrypt`. -/
def iv : Bytes := List.replicate blockSize 0

def encrypt (crypto : Crypto) (plainText : Bytes) : Except Fault Bytes := do
  let cek ← readBlock defaultKeyLength crypto.cek
  return CipherMode.encryptMessage lib.aes cek iv plainText

def decrypt (crypto : Crypto) (cipherText : Bytes) : Except Fault Bytes := do
  let cek ← readBlock defaultKeyLength crypto.cek
  match CipherMode.decryptMessage lib.aes cek iv cipherText with
  | none => .error (.thrown .invalidCiphertext)
  | some decryptedText => return decryptedText

/-- `aes.SetKey` with the key-encryption key. -/
def setKey (key : Bytes) : Except Fault Unit :=
  if key.length = 16 ∨ key.length = 24 ∨ key.length = 32 then .ok ()
  else .error (.thrown .invalidKeyLength)

def decryptXport (crypto : Crypto) (xport : Bytes) : Except Fault Crypto := do
  let newXport := unsignedIntegerToByteBlock (lib.integer (cString xport))
  let encryptedCEK ← readBlock defaultKeyLength newXport
  setKey crypto.kek
  return { crypto with
    xport := newXport
    cek := lib.aesDecrypt crypto.kek encryptedCEK }

end Crypto

end LicensingServer
