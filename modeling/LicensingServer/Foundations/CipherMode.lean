import LicensingServer.Foundations.BigEndian
import Mathlib.Data.List.Basic
import Mathlib.Tactic.Common

/-!
Owns block ciphers as families of permutations, cipher block chaining, the
padding that fills the last block with copies of its own length, and the round
trip of a whole message through both.

Does not own any particular cipher, and says nothing about secrecy.
-/

set_option autoImplicit false

namespace LicensingServer.Foundations

universe u

/-- A block cipher: for each key, a map on blocks and the map back. -/
structure BlockCipher (Key : Type u) where
  blockSize : Nat
  encrypt : Key → Bytes → Bytes
  decrypt : Key → Bytes → Bytes

namespace BlockCipher

variable {Key : Type u} (cipher : BlockCipher Key)

/-- Under this key the cipher is a permutation of the blocks, with `decrypt` as
its inverse, and a padding byte can hold any number up to the block size. -/
structure LawfulAt (key : Key) : Prop where
  blockSize_pos : 0 < cipher.blockSize
  blockSize_lt : cipher.blockSize < 256
  encrypt_length : ∀ block, block.length = cipher.blockSize →
    (cipher.encrypt key block).length = cipher.blockSize
  decrypt_length : ∀ block, block.length = cipher.blockSize →
    (cipher.decrypt key block).length = cipher.blockSize
  decrypt_encrypt : ∀ block, block.length = cipher.blockSize →
    cipher.decrypt key (cipher.encrypt key block) = block
  encrypt_decrypt : ∀ block, block.length = cipher.blockSize →
    cipher.encrypt key (cipher.decrypt key block) = block

theorem LawfulAt.decrypt_injective {cipher : BlockCipher Key} {key : Key}
    (lawful : cipher.LawfulAt key) {left right : Bytes}
    (leftLength : left.length = cipher.blockSize) (rightLength : right.length = cipher.blockSize)
    (same : cipher.decrypt key left = cipher.decrypt key right) : left = right := by
  rw [← lawful.encrypt_decrypt left leftLength, same, lawful.encrypt_decrypt right rightLength]

end BlockCipher

namespace CipherMode

/-! ### Cutting a text into blocks -/

/-- The first `count` blocks of `size` bytes. -/
def blocks (size : Nat) : Nat → Bytes → List Bytes
  | 0, _ => []
  | count + 1, text => text.take size :: blocks size count (text.drop size)

@[simp] theorem blocks_length (size count : Nat) (text : Bytes) :
    (blocks size count text).length = count := by
  induction count generalizing text with
  | zero => rfl
  | succ count inductionHypothesis => simp [blocks, inductionHypothesis]

theorem blocks_flatten (size count : Nat) (text : Bytes) (exact : text.length = count * size) :
    (blocks size count text).flatten = text := by
  induction count generalizing text with
  | zero =>
      obtain rfl : text = [] := List.eq_nil_of_length_eq_zero (by simpa using exact)
      rfl
  | succ count inductionHypothesis =>
      have rest : (text.drop size).length = count * size := by
        rw [List.length_drop, exact, Nat.succ_mul]
        omega
      rw [blocks, List.flatten_cons, inductionHypothesis _ rest, List.take_append_drop]

theorem mem_blocks_length (size count : Nat) (text : Bytes) (exact : text.length = count * size) :
    ∀ block ∈ blocks size count text, block.length = size := by
  induction count generalizing text with
  | zero => simp [blocks]
  | succ count inductionHypothesis =>
      have rest : (text.drop size).length = count * size := by
        rw [List.length_drop, exact, Nat.succ_mul]
        omega
      intro block member
      rcases List.mem_cons.mp member with head | tail
      · rw [head, List.length_take, exact, Nat.succ_mul]
        omega
      · exact inductionHypothesis _ rest block tail

theorem flatten_length (size : Nat) (pieces : List Bytes)
    (exact : ∀ piece ∈ pieces, piece.length = size) :
    pieces.flatten.length = pieces.length * size := by
  induction pieces with
  | nil => simp
  | cons piece rest inductionHypothesis =>
      rw [List.flatten_cons, List.length_append, exact piece (by simp),
        inductionHypothesis (fun other member => exact other (List.mem_cons_of_mem _ member)),
        List.length_cons, Nat.succ_mul, Nat.add_comm]

theorem blocks_of_flatten (size : Nat) (pieces : List Bytes)
    (exact : ∀ piece ∈ pieces, piece.length = size) :
    blocks size pieces.length pieces.flatten = pieces := by
  induction pieces with
  | nil => rfl
  | cons piece rest inductionHypothesis =>
      have pieceLength := exact piece (by simp)
      rw [List.length_cons, blocks, List.flatten_cons, List.take_left' pieceLength,
        List.drop_left' pieceLength,
        inductionHypothesis (fun other member => exact other (List.mem_cons_of_mem _ member))]

/-! ### Chaining -/

/-- Bytewise exclusive or. -/
def xorBlock (left right : Bytes) : Bytes := List.zipWith (· ^^^ ·) left right

theorem xorBlock_length {left right : Bytes} (same : left.length = right.length) :
    (xorBlock left right).length = left.length := by
  simp [xorBlock, same]

theorem xorBlock_cancel {left right : Bytes} (same : left.length = right.length) :
    xorBlock (xorBlock left right) right = left := by
  induction left generalizing right with
  | nil => rfl
  | cons byte rest inductionHypothesis =>
      cases right with
      | nil => simp at same
      | cons other more =>
          have tail : xorBlock (xorBlock rest more) more = rest :=
            inductionHypothesis (by simpa using same)
          simp only [xorBlock, List.zipWith_cons_cons] at tail ⊢
          rw [UInt8.xor_assoc, UInt8.xor_self, UInt8.xor_zero, tail]

section Chaining

variable {Key : Type u} (cipher : BlockCipher Key) (key : Key)

/-- Each block is combined with the ciphertext block before it. -/
def chainEncrypt : Bytes → List Bytes → List Bytes
  | _, [] => []
  | previous, block :: rest =>
      let sealedBlock := cipher.encrypt key (xorBlock block previous)
      sealedBlock :: chainEncrypt sealedBlock rest

def chainDecrypt : Bytes → List Bytes → List Bytes
  | _, [] => []
  | previous, sealedBlock :: rest =>
      xorBlock (cipher.decrypt key sealedBlock) previous :: chainDecrypt sealedBlock rest

variable {cipher} {key}

theorem chainEncrypt_length (previous : Bytes) (text : List Bytes) :
    (chainEncrypt cipher key previous text).length = text.length := by
  induction text generalizing previous with
  | nil => rfl
  | cons block rest inductionHypothesis => simp [chainEncrypt, inductionHypothesis]

theorem mem_chainEncrypt_length (lawful : cipher.LawfulAt key) {previous : Bytes}
    (previousLength : previous.length = cipher.blockSize) {text : List Bytes}
    (exact : ∀ block ∈ text, block.length = cipher.blockSize) :
    ∀ block ∈ chainEncrypt cipher key previous text, block.length = cipher.blockSize := by
  induction text generalizing previous with
  | nil => simp [chainEncrypt]
  | cons block rest inductionHypothesis =>
      have blockLength := exact block (by simp)
      have sealedLength := lawful.encrypt_length (xorBlock block previous)
        (by rw [xorBlock_length (by rw [blockLength, previousLength]), blockLength])
      intro other member
      rcases List.mem_cons.mp member with head | tail
      · rw [head, sealedLength]
      · exact inductionHypothesis sealedLength
          (fun piece inRest => exact piece (List.mem_cons_of_mem _ inRest)) other tail

/-- Chained decryption undoes chained encryption from the same start. -/
theorem chainDecrypt_chainEncrypt (lawful : cipher.LawfulAt key) {previous : Bytes}
    (previousLength : previous.length = cipher.blockSize) {text : List Bytes}
    (exact : ∀ block ∈ text, block.length = cipher.blockSize) :
    chainDecrypt cipher key previous (chainEncrypt cipher key previous text) = text := by
  induction text generalizing previous with
  | nil => rfl
  | cons block rest inductionHypothesis =>
      have blockLength := exact block (by simp)
      have same : block.length = previous.length := by rw [blockLength, previousLength]
      have mixedLength : (xorBlock block previous).length = cipher.blockSize := by
        rw [xorBlock_length same, blockLength]
      rw [chainEncrypt, chainDecrypt, lawful.decrypt_encrypt _ mixedLength, xorBlock_cancel same,
        inductionHypothesis (lawful.encrypt_length _ mixedLength)
          (fun piece inRest => exact piece (List.mem_cons_of_mem _ inRest))]

end Chaining

/-! ### Padding -/

/-- The number of padding bytes: at least one, and a whole block when the text
already fills its last block. -/
def padLength (size length : Nat) : Nat := size - length % size

/-- Fill the last block with copies of the number of bytes added. -/
def pad (size : Nat) (text : Bytes) : Bytes :=
  text ++ List.replicate (padLength size text.length) (UInt8.ofNat (padLength size text.length))

/-- Take the padding off again, if the last byte announces one that is there. -/
def unpad (size : Nat) (text : Bytes) : Option Bytes :=
  match text.getLast? with
  | none => none
  | some last =>
      let count := last.toNat
      if 1 ≤ count ∧ count ≤ size ∧
          text.drop (text.length - count) = List.replicate count last then
        some (text.take (text.length - count))
      else none

theorem padLength_bounds {size : Nat} (positive : 0 < size) (length : Nat) :
    1 ≤ padLength size length ∧ padLength size length ≤ size := by
  have below := Nat.mod_lt length positive
  unfold padLength
  omega

theorem pad_length {size : Nat} (positive : 0 < size) (text : Bytes) :
    (pad size text).length = (text.length / size + 1) * size := by
  have below := Nat.mod_lt text.length positive
  have split := Nat.div_add_mod text.length size
  rw [pad, List.length_append, List.length_replicate, padLength, Nat.add_mul, Nat.one_mul,
    Nat.mul_comm (text.length / size)]
  omega

theorem unpad_pad {size : Nat} (positive : 0 < size) (small : size < 256) (text : Bytes) :
    unpad size (pad size text) = some text := by
  obtain ⟨atLeast, atMost⟩ := padLength_bounds positive text.length
  have value : (UInt8.ofNat (padLength size text.length)).toNat = padLength size text.length := by
    rw [UInt8.toNat_ofNat', Nat.mod_eq_of_lt (by omega)]
  have last : (pad size text).getLast? = some (UInt8.ofNat (padLength size text.length)) := by
    rw [pad, List.getLast?_append, List.getLast?_replicate, if_neg (by omega)]
    rfl
  have cut : (pad size text).length - padLength size text.length = text.length := by
    rw [pad, List.length_append, List.length_replicate]
    omega
  simp only [unpad, last, value, cut]
  rw [if_pos ⟨atLeast, atMost, by rw [pad, List.drop_left]⟩, pad, List.take_left]

/-! ### Messages -/

section Messages

variable {Key : Type u} (cipher : BlockCipher Key) (key : Key) (start : Bytes)

/-- Pad a message, cut it into blocks and chain them from the start block. -/
def encryptMessage (message : Bytes) : Bytes :=
  let padded := pad cipher.blockSize message
  (chainEncrypt cipher key start
    (blocks cipher.blockSize (padded.length / cipher.blockSize) padded)).flatten

/-- Undo `encryptMessage`; a text that is empty, does not consist of whole
blocks or is not padded is rejected. -/
def decryptMessage (text : Bytes) : Option Bytes :=
  if text = [] ∨ text.length % cipher.blockSize ≠ 0 then none
  else
    unpad cipher.blockSize
      (chainDecrypt cipher key start
        (blocks cipher.blockSize (text.length / cipher.blockSize) text)).flatten

variable {cipher} {key} {start}

theorem encryptMessage_length (lawful : cipher.LawfulAt key)
    (startLength : start.length = cipher.blockSize) (message : Bytes) :
    (encryptMessage cipher key start message).length =
      (message.length / cipher.blockSize + 1) * cipher.blockSize := by
  have padded := pad_length lawful.blockSize_pos message
  have count : (pad cipher.blockSize message).length / cipher.blockSize =
      message.length / cipher.blockSize + 1 := by
    rw [padded, Nat.mul_div_cancel _ lawful.blockSize_pos]
  have pieces := mem_blocks_length cipher.blockSize _ _ padded
  simp only [encryptMessage, count]
  rw [flatten_length _ _ (mem_chainEncrypt_length lawful startLength pieces),
    chainEncrypt_length, blocks_length]

/-- A message survives encryption and decryption. -/
theorem decryptMessage_encryptMessage (lawful : cipher.LawfulAt key)
    (startLength : start.length = cipher.blockSize) (message : Bytes) :
    decryptMessage cipher key start (encryptMessage cipher key start message) = some message := by
  have positive := lawful.blockSize_pos
  have padded := pad_length positive message
  have count : (pad cipher.blockSize message).length / cipher.blockSize =
      message.length / cipher.blockSize + 1 := by
    rw [padded, Nat.mul_div_cancel _ positive]
  have pieces := mem_blocks_length cipher.blockSize _ _ padded
  have sealedPieces := mem_chainEncrypt_length lawful startLength pieces
  have total := encryptMessage_length lawful startLength message
  have whole : (encryptMessage cipher key start message).length % cipher.blockSize = 0 := by
    rw [total, Nat.mul_mod_left]
  have nonempty : encryptMessage cipher key start message ≠ [] := by
    intro empty
    rw [empty, List.length_nil] at total
    have someBytes : 0 < (message.length / cipher.blockSize + 1) * cipher.blockSize :=
      Nat.mul_pos (Nat.succ_pos _) positive
    omega
  have cutAgain : blocks cipher.blockSize
      ((encryptMessage cipher key start message).length / cipher.blockSize)
      (encryptMessage cipher key start message) =
        chainEncrypt cipher key start
          (blocks cipher.blockSize (message.length / cipher.blockSize + 1)
            (pad cipher.blockSize message)) := by
    rw [total, Nat.mul_div_cancel _ positive]
    have cut := blocks_of_flatten cipher.blockSize _ sealedPieces
    rw [chainEncrypt_length, blocks_length] at cut
    simp only [encryptMessage, count]
    exact cut
  rw [decryptMessage, if_neg (by simp [nonempty, whole]), cutAgain,
    chainDecrypt_chainEncrypt lawful startLength pieces, blocks_flatten _ _ _ padded,
    unpad_pad positive lawful.blockSize_lt]

/-! ### No other text is accepted -/

theorem chainDecrypt_length (previous : Bytes) (text : List Bytes) :
    (chainDecrypt cipher key previous text).length = text.length := by
  induction text generalizing previous with
  | nil => rfl
  | cons block rest inductionHypothesis => simp [chainDecrypt, inductionHypothesis]

theorem mem_chainDecrypt_length (lawful : cipher.LawfulAt key) {previous : Bytes}
    (previousLength : previous.length = cipher.blockSize) {text : List Bytes}
    (exact : ∀ block ∈ text, block.length = cipher.blockSize) :
    ∀ block ∈ chainDecrypt cipher key previous text, block.length = cipher.blockSize := by
  induction text generalizing previous with
  | nil => simp [chainDecrypt]
  | cons sealedBlock rest inductionHypothesis =>
      have sealedLength := exact sealedBlock (by simp)
      have openedLength := lawful.decrypt_length sealedBlock sealedLength
      intro other member
      rcases List.mem_cons.mp member with head | tail
      · rw [head, xorBlock_length (by rw [openedLength, previousLength]), openedLength]
      · exact inductionHypothesis sealedLength
          (fun piece inRest => exact piece (List.mem_cons_of_mem _ inRest)) other tail

/-- Chained encryption undoes chained decryption from the same start. -/
theorem chainEncrypt_chainDecrypt (lawful : cipher.LawfulAt key) {previous : Bytes}
    (previousLength : previous.length = cipher.blockSize) {text : List Bytes}
    (exact : ∀ block ∈ text, block.length = cipher.blockSize) :
    chainEncrypt cipher key previous (chainDecrypt cipher key previous text) = text := by
  induction text generalizing previous with
  | nil => rfl
  | cons sealedBlock rest inductionHypothesis =>
      have sealedLength := exact sealedBlock (by simp)
      have same : (cipher.decrypt key sealedBlock).length = previous.length := by
        rw [lawful.decrypt_length sealedBlock sealedLength, previousLength]
      rw [chainDecrypt, chainEncrypt, xorBlock_cancel same,
        lawful.encrypt_decrypt sealedBlock sealedLength,
        inductionHypothesis sealedLength
          (fun piece inRest => exact piece (List.mem_cons_of_mem _ inRest))]

/-- Only a padded text has its padding taken off. -/
theorem pad_of_unpad {size : Nat} {text message : Bytes} (whole : text.length % size = 0)
    (taken : unpad size text = some message) : pad size message = text := by
  unfold unpad at taken
  split at taken
  · cases taken
  · rename_i last _
    simp only at taken
    split_ifs at taken with padded
    obtain ⟨atLeast, atMost, copies⟩ := padded
    obtain rfl := Option.some.inj taken
    have count : last.toNat ≤ text.length := by
      have length := congrArg List.length copies
      rw [List.length_drop, List.length_replicate] at length
      omega
    have cut : (text.take (text.length - last.toNat)).length = text.length - last.toNat := by
      rw [List.length_take]
      omega
    have added : padLength size (text.length - last.toNat) = last.toNat := by
      obtain ⟨blocks, total⟩ := Nat.dvd_of_mod_eq_zero whole
      have positive : 0 < blocks := by
        rw [Nat.pos_iff_ne_zero]
        rintro rfl
        rw [Nat.mul_zero] at total
        omega
      obtain ⟨before, rfl⟩ := Nat.exists_eq_succ_of_ne_zero (Nat.ne_of_gt positive)
      have rest : text.length - last.toNat = size * before + (size - last.toNat) := by
        rw [total, Nat.mul_succ]
        omega
      rw [padLength, rest, Nat.mul_add_mod]
      by_cases full : last.toNat = size
      · rw [full, Nat.sub_self, Nat.zero_mod, Nat.sub_zero]
      · rw [Nat.mod_eq_of_lt (by omega)]
        omega
    rw [pad, cut, added, UInt8.ofNat_toNat, ← copies, List.take_append_drop]

/-- Decryption accepts a text for a message exactly when the text is what the
message is encrypted to. -/
theorem decryptMessage_eq_some_iff (lawful : cipher.LawfulAt key)
    (startLength : start.length = cipher.blockSize) (text message : Bytes) :
    decryptMessage cipher key start text = some message ↔
      encryptMessage cipher key start message = text := by
  constructor
  · intro accepted
    unfold decryptMessage at accepted
    split_ifs at accepted with refused
    have positive := lawful.blockSize_pos
    have whole : text.length % cipher.blockSize = 0 := by
      by_contra ragged
      exact refused (.inr ragged)
    have total : text.length = text.length / cipher.blockSize * cipher.blockSize :=
      (Nat.div_mul_cancel (Nat.dvd_of_mod_eq_zero whole)).symm
    have pieces := mem_blocks_length cipher.blockSize _ _ total
    have opened := mem_chainDecrypt_length lawful startLength pieces
    have openedLength := flatten_length cipher.blockSize _ opened
    rw [chainDecrypt_length, blocks_length] at openedLength
    have padded := pad_of_unpad (by rw [openedLength, Nat.mul_mod_left]) accepted
    have cut := blocks_of_flatten cipher.blockSize _ opened
    rw [chainDecrypt_length, blocks_length] at cut
    simp only [encryptMessage]
    rw [padded, openedLength, Nat.mul_div_cancel _ positive, cut,
      chainEncrypt_chainDecrypt lawful startLength pieces, blocks_flatten _ _ _ total]
  · rintro rfl
    exact decryptMessage_encryptMessage lawful startLength message

end Messages

end CipherMode

end LicensingServer.Foundations
