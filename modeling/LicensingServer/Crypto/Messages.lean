import LicensingServer.Crypto.Reference

/-!
Owns what `decrypt` accepts: exactly the texts that `encrypt` makes under the
same key, each for one message only.

Does not own which key the two parties hold.
-/

set_option autoImplicit false

namespace LicensingServer

open LicensingServer.Foundations

namespace Crypto

variable {lib : CryptoPP}

/-- A text is decrypted to a message exactly when the message is encrypted to the
text, whatever the object holds: no text but its own is accepted for a message,
and every change of a text is refused or read as another message. -/
theorem decrypt_iff_encrypt (lawful : lib.Lawful) (crypto : Crypto)
    (cipherText plainText : Bytes) :
    decrypt lib crypto cipherText = .ok plainText ↔
      encrypt lib crypto plainText = .ok cipherText := by
  unfold decrypt encrypt
  by_cases enough : defaultKeyLength ≤ crypto.cek.length
  · have keyLength : (crypto.cek.take defaultKeyLength).length = defaultKeyLength := by
      rw [List.length_take]
      exact Nat.min_eq_left enough
    have exact := CipherMode.decryptMessage_eq_some_iff (lawful.aes_lawful _ keyLength)
      (show iv.length = lib.aes.blockSize from rfl) cipherText plainText
    rw [readBlock_of_le enough]
    simp only [bind, Except.bind, pure, Except.pure, Except.ok.injEq]
    rw [← exact]
    cases CipherMode.decryptMessage lib.aes (crypto.cek.take defaultKeyLength) iv cipherText with
    | none => simp
    | some decryptedText => simp
  · rw [readBlock_of_lt (Nat.lt_of_not_le enough)]
    simp [bind, Except.bind]

/-- The text `ACK` and the standards' implementation. -/
theorem decrypt_iff_encrypt_ack : ∃ cipherText,
    encrypt Reference.library { initial with cek := Reference.drawA.contentKey }
      successfulLoginReply = .ok cipherText ∧
    decrypt Reference.library { initial with cek := Reference.drawA.contentKey } cipherText =
      .ok successfulLoginReply := by
  obtain ⟨cipherText, encrypted, -⟩ := decrypt_encrypt Reference.library_lawful
    (show { initial with cek := Reference.drawA.contentKey }.cek.length = defaultKeyLength from
      Reference.drawA.contentKey_length) (Eq.refl _) successfulLoginReply
  exact ⟨cipherText, encrypted,
    (decrypt_iff_encrypt Reference.library_lawful _ cipherText _).mpr encrypted⟩

end Crypto

end LicensingServer
