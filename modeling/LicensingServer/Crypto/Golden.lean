import LicensingServer.Crypto.Reference

/-!
Owns `testDiffieHellman_golden`, in which both parties share one function and
pass each other their key blocks as they are, and where the class `Crypto`, whose
objects pass texts of the same blocks, comes to the same keys.

Does not own what the function prints on its way.
-/

set_option autoImplicit false

namespace LicensingServer

open LicensingServer.Foundations

/-- The local variables of `testDiffieHellman_golden` at its end. -/
structure Golden where
  sharedA : Bytes
  sharedB : Bytes
  kek : Bytes
  cek : Bytes
  xport : Bytes
  ciphertext : Bytes
  decryptedtext : Bytes
deriving DecidableEq, Repr

namespace Golden

variable {lib : CryptoPP}

def plaintext : Bytes := ascii "Now is the time for all good men to come to the aide..."

/-- `throw runtime_error(what)`. -/
def fail {Value : Type} (what : String) : Except Fault Value :=
  .error (.thrown (.runtimeError what))

/-- `testDiffieHellman_golden` on the random choices of the two parties, of which
those of the first hold the outcome of `ValidateGroup` and the content key. The
text is encrypted with the zero byte behind it. -/
def testDiffieHellman_golden (drawA drawB : KeyDraw lib) : Except Fault Golden := do
  if drawA.groupValid = false then fail "Failed to validate prime and generator"
  if modularExponentiation Group.g Group.q Group.p ≠ 1 then
    fail "Failed to verify order of the subgroup"
  let sharedA ← (lib.agree drawA.staticPrivate drawA.ephemeralPrivate
    drawB.staticPublic drawB.ephemeralPublic).elim
      (fail "Failed to reach shared secret (A)") .ok
  let sharedB ← (lib.agree drawB.staticPrivate drawB.ephemeralPrivate
    drawA.staticPublic drawA.ephemeralPublic).elim
      (fail "Failed to reach shared secret (B)") .ok
  if agreedValueLength = 0 ∨ sharedA.take agreedValueLength ≠ sharedB.take agreedValueLength then
    fail "Failed to reach shared secret"
  let kek ← readBlock defaultKeyLength sharedA
  let mack ← readBlock blockSize (sharedA.drop defaultKeyLength)
  let cek := drawA.contentKey
  let wrapped := lib.aesEncrypt kek cek
  let xport := wrapped ++ (lib.cmac mack wrapped).take blockSize
  let ciphertext := CipherMode.encryptMessage lib.aes cek Crypto.iv (plaintext ++ [0])
  match CipherMode.decryptMessage lib.aes cek Crypto.iv ciphertext with
  | none => .error (.thrown .invalidCiphertext)
  | some decryptedtext => return ⟨sharedA, sharedB, kek, cek, xport, ciphertext, decryptedtext⟩

/-- The function ends with the keys of one shared secret and its text again. -/
theorem testDiffieHellman_golden_eq (lawful : lib.Lawful) {drawA drawB : KeyDraw lib}
    (valid : drawA.groupValid = true) {shared : Bytes}
    (meetsA : lib.agree drawA.staticPrivate drawA.ephemeralPrivate
      drawB.staticPublic drawB.ephemeralPublic = some shared)
    (meetsB : lib.agree drawB.staticPrivate drawB.ephemeralPrivate
      drawA.staticPublic drawA.ephemeralPublic = some shared) :
    testDiffieHellman_golden drawA drawB = .ok {
      sharedA := shared
      sharedB := shared
      kek := Crypto.kekOf shared
      cek := drawA.contentKey
      xport := Crypto.wrap lib shared drawA.contentKey
      ciphertext :=
        CipherMode.encryptMessage lib.aes drawA.contentKey Crypto.iv (plaintext ++ [0])
      decryptedtext := plaintext ++ [0] } := by
  have sharedLength := lawful.agree_length meetsA
  have positive : agreedValueLength ≠ 0 := by
    rw [agreedValueLength, publicKeyLength_eq]
    decide
  have kekRead : readBlock defaultKeyLength shared = .ok (Crypto.kekOf shared) := by
    apply readBlock_of_le
    rw [sharedLength, agreedValueLength, publicKeyLength_eq]
    decide
  have mackRead : readBlock blockSize (shared.drop defaultKeyLength) =
      .ok (Crypto.mackOf shared) := by
    apply readBlock_of_le
    rw [List.length_drop, sharedLength, agreedValueLength, publicKeyLength_eq]
    decide
  have digestLength := lawful.cmac_length (Crypto.mackOf shared)
    (lib.aesEncrypt (Crypto.kekOf shared) drawA.contentKey) (Crypto.mackOf_length sharedLength)
  have opened := CipherMode.decryptMessage_encryptMessage
    (lawful.aes_lawful drawA.contentKey drawA.contentKey_length)
    (show Crypto.iv.length = lib.aes.blockSize from rfl) (plaintext ++ [0])
  unfold testDiffieHellman_golden
  simp only [valid, Group.order, meetsA, meetsB, positive, Bool.true_eq_false, if_false, ne_eq,
    not_true_eq_false, or_self, Option.elim, bind, Except.bind, pure, Except.pure, kekRead,
    mackRead, opened, List.take_of_length_le (Nat.le_of_eq digestLength)]
  rfl

/-- The function never fails, and an object of the class, in whatever state it
was, comes to the same keys and the same wrapped key from the texts of the other
party's keys exactly when neither of these begins with a zero byte. -/
theorem genXport_agrees_iff (lawful : lib.Lawful) {drawA drawB : KeyDraw lib}
    (valid : drawA.groupValid = true) (crypto : Crypto) :
    ∃ golden, testDiffieHellman_golden drawA drawB = .ok golden ∧
      golden.decryptedtext = plaintext ++ [0] ∧
      ((∃ ready after, Crypto.runInitKeyExchangeParams drawA crypto = .ok ready ∧
          Crypto.runGenXport drawA (Crypto.blockHexStr lib drawB.staticPublic)
            (Crypto.blockHexStr lib drawB.ephemeralPublic) ready = .ok after ∧
          after.kek = golden.kek ∧ after.cek = golden.cek ∧ after.xport = golden.xport ∧
          Crypto.encrypt lib after (plaintext ++ [0]) = .ok golden.ciphertext) ↔
        ¬ Crypto.LeadsWithZero drawB.staticPublic ∧
          ¬ Crypto.LeadsWithZero drawB.ephemeralPublic) := by
  obtain ⟨shared, meetsA, meetsB⟩ := lawful.agree_symmetric drawA.static_generated
    drawA.ephemeral_generated drawB.static_generated drawB.ephemeral_generated
  have ready : Crypto.runInitKeyExchangeParams drawA crypto = .ok (crypto.withKeys drawA) := by
    rw [Crypto.runInitKeyExchangeParams_eq, if_pos valid]
  have live : (crypto.withKeys drawA).dhA = .live := rfl
  have reached := Crypto.agreed_blockHexStr lawful drawA drawB crypto meetsA
  rw [← Crypto.runGenXport_eq lawful _ _ _ live] at reached
  refine ⟨_, testDiffieHellman_golden_eq lawful valid meetsA meetsB, rfl, ?_⟩
  constructor
  · rintro ⟨start, after, isReady, done, -⟩
    obtain rfl := Except.ok.inj (ready.symm.trans isReady)
    rw [reached] at done
    split_ifs at done with zero
    exact not_or.mp zero
  · intro full
    rw [if_neg (not_or.mpr full)] at reached
    refine ⟨_, _, ready, reached, rfl, rfl, rfl, ?_⟩
    have read : readBlock defaultKeyLength
        ((crypto.withKeys drawA).withXport drawA shared).cek = .ok drawA.contentKey :=
      readBlock_of_eq drawA.contentKey_length
    rw [Crypto.encrypt, read]
    rfl

/-- Two parties whose keys fill their blocks. -/
theorem genXport_agrees_iff_reference :
    ∃ golden, testDiffieHellman_golden Reference.drawA Reference.drawB = .ok golden ∧
      golden.decryptedtext = plaintext ++ [0] ∧
      ((∃ ready after, Crypto.runInitKeyExchangeParams Reference.drawA .initial = .ok ready ∧
          Crypto.runGenXport Reference.drawA
            (Crypto.blockHexStr Reference.library Reference.drawB.staticPublic)
            (Crypto.blockHexStr Reference.library Reference.drawB.ephemeralPublic) ready =
              .ok after ∧
          after.kek = golden.kek ∧ after.cek = golden.cek ∧ after.xport = golden.xport ∧
          Crypto.encrypt Reference.library after (plaintext ++ [0]) = .ok golden.ciphertext) ↔
        ¬ Crypto.LeadsWithZero Reference.drawB.staticPublic ∧
          ¬ Crypto.LeadsWithZero Reference.drawB.ephemeralPublic) :=
  genXport_agrees_iff Reference.library_lawful rfl .initial

end Golden

end LicensingServer
