import LicensingServer.Foundations.CipherMode

/-!
Owns AES with 128-bit keys as a block cipher, that each key permutes the
blocks, and the digest CMAC that is built on it.

Does not own modes of encryption, nor other key lengths.
-/

set_option autoImplicit false

namespace LicensingServer.Foundations

namespace Aes

/-! ### Bytes -/

/-- The rows of the substitution table, sixteen bytes each. -/
def sboxRows : List Nat :=
  [ 0x637c777bf26b6fc53001672bfed7ab76, 0xca82c97dfa5947f0add4a2af9ca472c0,
    0xb7fd9326363ff7cc34a5e5f171d83115, 0x04c723c31896059a071280e2eb27b275,
    0x09832c1a1b6e5aa0523bd6b329e32f84, 0x53d100ed20fcb15b6acbbe394a4c58cf,
    0xd0efaafb434d338545f9027f503c9fa8, 0x51a3408f929d38f5bcb6da2110fff3d2,
    0xcd0c13ec5f974417c4a77e3d645d1973, 0x60814fdc222a908846eeb814de5e0bdb,
    0xe0323a0a4906245cc2d3ac629195e479, 0xe7c8376d8dd54ea96c56f4ea657aae08,
    0xba78252e1ca6b4c6e8dd741f4bbd8b8a, 0x703eb5664803f60e613557b986c11d9e,
    0xe1f8981169d98e949b1e87e9ce5528df, 0x8ca1890dbfe6426841992d0fb054bb16 ]

def sboxInverseRows : List Nat :=
  [ 0x52096ad53036a538bf40a39e81f3d7fb, 0x7ce339829b2fff87348e4344c4dee9cb,
    0x547b9432a6c2233dee4c950b42fac34e, 0x082ea16628d924b2765ba2496d8bd125,
    0x72f8f66486689816d4a45ccc5d65b692, 0x6c704850fdedb9da5e154657a78d9d84,
    0x90d8ab008cbcd30af7e45805b8b34506, 0xd02c1e8fca3f0f02c1afbd0301138a6b,
    0x3a9111414f67dcea97f2cfcef0b4e673, 0x96ac7422e7ad3585e2f937e81c75df6e,
    0x47f11a711d29c5896fb7620eaa18be1b, 0xfc563e4bc6d279209adbc0fe78cd5af4,
    0x1fdda8338807c731b11210592780ec5f, 0x60517fa919b54a0d2de57a9f93c99cef,
    0xa0e03b4dae2af5b0c8ebbb3c83539961, 0x172b047eba77d626e169146355210c7d ]

/-- The entry of a byte: its high digit is the row, its low digit the column. -/
def lookup (rows : List Nat) (byte : UInt8) : UInt8 :=
  UInt8.ofNat (rows.getD (byte.toNat / 16) 0 >>> (8 * (15 - byte.toNat % 16)))

def sbox (byte : UInt8) : UInt8 := lookup sboxRows byte

def sboxInverse (byte : UInt8) : UInt8 := lookup sboxInverseRows byte

/-- What holds of the 256 byte values holds of every byte. -/
theorem forall_byte {property : UInt8 → Prop} (all : ∀ value < 256, property (UInt8.ofNat value))
    (byte : UInt8) : property byte := by
  have holds := all byte.toNat byte.toNat_lt
  rwa [UInt8.ofNat_toNat] at holds

theorem sboxInverse_sbox : ∀ byte, sboxInverse (sbox byte) = byte :=
  forall_byte (by decide +kernel)

theorem sbox_sboxInverse : ∀ byte, sbox (sboxInverse byte) = byte :=
  forall_byte (by decide +kernel)

/-- Multiplication by `x` in the field of 256 elements. -/
def xtime (byte : UInt8) : UInt8 :=
  (byte <<< 1) ^^^ if byte.toBitVec.msb then 0x1b else 0

/-- Adding the same byte to both terms of a sum does not change it. -/
theorem xor_both (left right byte : UInt8) :
    left ^^^ right = (left ^^^ byte) ^^^ (right ^^^ byte) := by
  calc left ^^^ right = left ^^^ right ^^^ (byte ^^^ byte) := by simp
    _ = (left ^^^ byte) ^^^ (right ^^^ byte) := by ac_rfl

theorem xtime_xor (left right : UInt8) : xtime (left ^^^ right) = xtime left ^^^ xtime right := by
  have shifted : (left ^^^ right) <<< 1 = (left <<< 1) ^^^ (right <<< 1) := by
    apply UInt8.toBitVec_inj.mp
    simp [BitVec.shiftLeft_xor_distrib]
  unfold xtime
  rw [UInt8.toBitVec_xor, BitVec.msb_xor, shifted]
  cases left.toBitVec.msb <;> cases right.toBitVec.msb
  · simp
  · simp [UInt8.xor_assoc]
  · simp only [Bool.xor_false, if_true, Bool.false_eq_true, if_false, UInt8.xor_zero]
    ac_rfl
  · simp only [Bool.xor_self, Bool.false_eq_true, if_false, if_true, UInt8.xor_zero]
    exact xor_both _ _ _

/-! ### Columns -/

/-- Four bytes of a block. -/
abbrev Column := UInt8 × UInt8 × UInt8 × UInt8

/-- Multiply a column by the circulant matrix of these multiplications. -/
def mixWith (m0 m1 m2 m3 : UInt8 → UInt8) : Column → Column
  | (a, b, c, d) =>
      (m0 a ^^^ m1 b ^^^ m2 c ^^^ m3 d, m3 a ^^^ m0 b ^^^ m1 c ^^^ m2 d,
        m2 a ^^^ m3 b ^^^ m0 c ^^^ m1 d, m1 a ^^^ m2 b ^^^ m3 c ^^^ m0 d)

def times3 (byte : UInt8) : UInt8 := xtime byte ^^^ byte
def times9 (byte : UInt8) : UInt8 := xtime (xtime (xtime byte)) ^^^ byte
def times11 (byte : UInt8) : UInt8 := xtime (xtime (xtime byte)) ^^^ xtime byte ^^^ byte
def times13 (byte : UInt8) : UInt8 := xtime (xtime (xtime byte)) ^^^ xtime (xtime byte) ^^^ byte
def times14 (byte : UInt8) : UInt8 :=
  xtime (xtime (xtime byte)) ^^^ xtime (xtime byte) ^^^ xtime byte

def mixColumn : Column → Column := mixWith xtime times3 id id

def unmixColumn : Column → Column := mixWith times14 times11 times13 times9

/-- Multiplication distributes over sums. -/
def Additive (times : UInt8 → UInt8) : Prop :=
  ∀ left right, times (left ^^^ right) = times left ^^^ times right

theorem additive_id : Additive id := fun _ _ => rfl

theorem additive_xtime : Additive xtime := xtime_xor

theorem additive_times3 : Additive times3 := by
  intro left right
  simp only [times3, xtime_xor]
  ac_rfl

theorem additive_times9 : Additive times9 := by
  intro left right
  simp only [times9, xtime_xor]
  ac_rfl

theorem additive_times11 : Additive times11 := by
  intro left right
  simp only [times11, xtime_xor]
  ac_rfl

theorem additive_times13 : Additive times13 := by
  intro left right
  simp only [times13, xtime_xor]
  ac_rfl

theorem additive_times14 : Additive times14 := by
  intro left right
  simp only [times14, xtime_xor]
  ac_rfl

/-- Two circulant matrices are inverse when their product has the right first row. -/
theorem mixWith_mixWith {u0 u1 u2 u3 m0 m1 m2 m3 : UInt8 → UInt8}
    (add0 : Additive u0) (add1 : Additive u1) (add2 : Additive u2) (add3 : Additive u3)
    (one : ∀ x, u0 (m0 x) ^^^ u1 (m3 x) ^^^ u2 (m2 x) ^^^ u3 (m1 x) = x)
    (zero1 : ∀ x, u0 (m1 x) ^^^ u1 (m0 x) ^^^ u2 (m3 x) ^^^ u3 (m2 x) = 0)
    (zero2 : ∀ x, u0 (m2 x) ^^^ u1 (m1 x) ^^^ u2 (m0 x) ^^^ u3 (m3 x) = 0)
    (zero3 : ∀ x, u0 (m3 x) ^^^ u1 (m2 x) ^^^ u2 (m1 x) ^^^ u3 (m0 x) = 0)
    (column : Column) : mixWith u0 u1 u2 u3 (mixWith m0 m1 m2 m3 column) = column := by
  rcases column with ⟨a, b, c, d⟩
  -- each output byte is a sum of four sums, one for each input byte
  have byColumn : ∀ p0 p1 p2 p3 q0 q1 q2 q3 r0 r1 r2 r3 s0 s1 s2 s3 : UInt8,
      (p0 ^^^ p1 ^^^ p2 ^^^ p3) ^^^ (q0 ^^^ q1 ^^^ q2 ^^^ q3) ^^^ (r0 ^^^ r1 ^^^ r2 ^^^ r3) ^^^
          (s0 ^^^ s1 ^^^ s2 ^^^ s3) =
        (p0 ^^^ q0 ^^^ r0 ^^^ s0) ^^^ (p1 ^^^ q1 ^^^ r1 ^^^ s1) ^^^ (p2 ^^^ q2 ^^^ r2 ^^^ s2) ^^^
          (p3 ^^^ q3 ^^^ r3 ^^^ s3) := by
    intros
    ac_rfl
  have rotate : ∀ p q r s : UInt8, p ^^^ q ^^^ r ^^^ s = q ^^^ r ^^^ s ^^^ p := by
    intros
    ac_rfl
  simp only [mixWith, add0 _ _, add1 _ _, add2 _ _, add3 _ _, Prod.mk.injEq]
  refine ⟨?_, ?_, ?_, ?_⟩
  · rw [byColumn, one, zero1, zero2, zero3]
    simp
  · rw [rotate, byColumn, zero3, one, zero1, zero2]
    simp
  · rw [rotate, rotate, byColumn, zero2, zero3, one, zero1]
    simp
  · rw [rotate, rotate, rotate, byColumn, zero1, zero2, zero3, one]
    simp

theorem unmixColumn_mixColumn (column : Column) : unmixColumn (mixColumn column) = column :=
  mixWith_mixWith additive_times14 additive_times11 additive_times13 additive_times9
    (forall_byte (by decide +kernel)) (forall_byte (by decide +kernel))
    (forall_byte (by decide +kernel)) (forall_byte (by decide +kernel)) column

theorem mixColumn_unmixColumn (column : Column) : mixColumn (unmixColumn column) = column :=
  mixWith_mixWith additive_xtime additive_times3 additive_id additive_id
    (forall_byte (by decide +kernel)) (forall_byte (by decide +kernel))
    (forall_byte (by decide +kernel)) (forall_byte (by decide +kernel)) column

/-! ### Blocks -/

def prepend : Column → Bytes → Bytes
  | (a, b, c, d), rest => a :: b :: c :: d :: rest

def mapColumns (onColumn : Column → Column) : Bytes → Bytes
  | a :: b :: c :: d :: rest => prepend (onColumn (a, b, c, d)) (mapColumns onColumn rest)
  | short => short

theorem mapColumns_prepend (onColumn : Column → Column) (column : Column) (rest : Bytes) :
    mapColumns onColumn (prepend column rest) =
      prepend (onColumn column) (mapColumns onColumn rest) := rfl

theorem mapColumns_length (onColumn : Column → Column) (block : Bytes) :
    (mapColumns onColumn block).length = block.length := by
  induction block using mapColumns.induct with
  | case1 a b c d rest inductionHypothesis =>
      simp [mapColumns, prepend, inductionHypothesis]
  | case2 short notLong => rw [mapColumns]; exact notLong

theorem mapColumns_mapColumns {undo onColumn : Column → Column}
    (inverse : ∀ column, undo (onColumn column) = column) (block : Bytes) :
    mapColumns undo (mapColumns onColumn block) = block := by
  induction block using mapColumns.induct with
  | case1 a b c d rest inductionHypothesis =>
      rw [mapColumns, mapColumns_prepend, inverse, inductionHypothesis]
      rfl
  | case2 short notLong =>
      have same (onColumn : Column → Column) : mapColumns onColumn short = short := by
        rw [mapColumns]
        exact notLong
      rw [same, same]

def shiftRows : Bytes → Bytes
  | [a0, a1, a2, a3, b0, b1, b2, b3, c0, c1, c2, c3, d0, d1, d2, d3] =>
      [a0, b1, c2, d3, b0, c1, d2, a3, c0, d1, a2, b3, d0, a1, b2, c3]
  | other => other

def unshiftRows : Bytes → Bytes
  | [a0, b1, c2, d3, b0, c1, d2, a3, c0, d1, a2, b3, d0, a1, b2, c3] =>
      [a0, a1, a2, a3, b0, b1, b2, b3, c0, c1, c2, c3, d0, d1, d2, d3]
  | other => other

/-- The key of the next round. -/
def nextRoundKey (constant : UInt8) : Bytes → Bytes
  | [a0, a1, a2, a3, b0, b1, b2, b3, c0, c1, c2, c3, d0, d1, d2, d3] =>
      let a0 := a0 ^^^ sbox d1 ^^^ constant
      let a1 := a1 ^^^ sbox d2
      let a2 := a2 ^^^ sbox d3
      let a3 := a3 ^^^ sbox d0
      let (b0, b1, b2, b3) := (b0 ^^^ a0, b1 ^^^ a1, b2 ^^^ a2, b3 ^^^ a3)
      let (c0, c1, c2, c3) := (c0 ^^^ b0, c1 ^^^ b1, c2 ^^^ b2, c3 ^^^ b3)
      let (d0, d1, d2, d3) := (d0 ^^^ c0, d1 ^^^ c1, d2 ^^^ c2, d3 ^^^ c3)
      [a0, a1, a2, a3, b0, b1, b2, b3, c0, c1, c2, c3, d0, d1, d2, d3]
  | other => other

/-- A statement about the bytes of a block is one about the block. -/
theorem sixteen (property : Bytes → Prop)
    (bytes : ∀ a0 a1 a2 a3 b0 b1 b2 b3 c0 c1 c2 c3 d0 d1 d2 d3,
      property [a0, a1, a2, a3, b0, b1, b2, b3, c0, c1, c2, c3, d0, d1, d2, d3])
    {block : Bytes} (isBlock : block.length = 16) : property block := by
  match block, isBlock with
  | [a0, a1, a2, a3, b0, b1, b2, b3, c0, c1, c2, c3, d0, d1, d2, d3], _ => exact bytes ..

theorem shiftRows_length {block : Bytes} (isBlock : block.length = 16) :
    (shiftRows block).length = 16 :=
  sixteen (fun block => (shiftRows block).length = 16) (fun _ _ _ _ _ _ _ _ _ _ _ _ _ _ _ _ => rfl)
    isBlock

theorem unshiftRows_length {block : Bytes} (isBlock : block.length = 16) :
    (unshiftRows block).length = 16 :=
  sixteen (fun block => (unshiftRows block).length = 16)
    (fun _ _ _ _ _ _ _ _ _ _ _ _ _ _ _ _ => rfl) isBlock

theorem unshiftRows_shiftRows {block : Bytes} (isBlock : block.length = 16) :
    unshiftRows (shiftRows block) = block :=
  sixteen (fun block => unshiftRows (shiftRows block) = block)
    (fun _ _ _ _ _ _ _ _ _ _ _ _ _ _ _ _ => rfl) isBlock

theorem shiftRows_unshiftRows {block : Bytes} (isBlock : block.length = 16) :
    shiftRows (unshiftRows block) = block :=
  sixteen (fun block => shiftRows (unshiftRows block) = block)
    (fun _ _ _ _ _ _ _ _ _ _ _ _ _ _ _ _ => rfl) isBlock

theorem nextRoundKey_length (constant : UInt8) {key : Bytes} (isBlock : key.length = 16) :
    (nextRoundKey constant key).length = 16 :=
  sixteen (fun key => (nextRoundKey constant key).length = 16)
    (fun _ _ _ _ _ _ _ _ _ _ _ _ _ _ _ _ => rfl) isBlock

/-! ### Rounds -/

def expand : List UInt8 → Bytes → List Bytes
  | [], key => [key]
  | constant :: rest, key => key :: expand rest (nextRoundKey constant key)

def roundConstants : List UInt8 := [0x01, 0x02, 0x04, 0x08, 0x10, 0x20, 0x40, 0x80, 0x1b, 0x36]

def substitute (block : Bytes) : Bytes := shiftRows (block.map sbox)

def unsubstitute (block : Bytes) : Bytes := (unshiftRows block).map sboxInverse

/-- All rounds but the last mix the columns. -/
def rounds : List Bytes → Bytes → Bytes
  | [], block => block
  | [key], block => CipherMode.xorBlock (substitute block) key
  | key :: next :: rest, block =>
      rounds (next :: rest) (CipherMode.xorBlock (mapColumns mixColumn (substitute block)) key)

def undoRounds : List Bytes → Bytes → Bytes
  | [], block => block
  | [key], block => unsubstitute (CipherMode.xorBlock block key)
  | key :: next :: rest, block =>
      unsubstitute (mapColumns unmixColumn
        (CipherMode.xorBlock (undoRounds (next :: rest) block) key))

def encryptBlock (key block : Bytes) : Bytes :=
  rounds (expand roundConstants key).tail (CipherMode.xorBlock block key)

def decryptBlock (key block : Bytes) : Bytes :=
  CipherMode.xorBlock (undoRounds (expand roundConstants key).tail block) key

def cipher : BlockCipher Bytes := ⟨16, encryptBlock, decryptBlock⟩

theorem mem_expand_length (constants : List UInt8) {key : Bytes} (isBlock : key.length = 16) :
    ∀ roundKey ∈ expand constants key, roundKey.length = 16 := by
  induction constants generalizing key with
  | nil => simpa [expand] using isBlock
  | cons constant rest inductionHypothesis =>
      rw [expand, List.forall_mem_cons]
      exact ⟨isBlock, inductionHypothesis (nextRoundKey_length constant isBlock)⟩

theorem xorBlock_block {block key : Bytes} (isBlock : block.length = 16) (isKey : key.length = 16) :
    (CipherMode.xorBlock block key).length = 16 := by
  rw [CipherMode.xorBlock_length (isBlock.trans isKey.symm), isBlock]

theorem xorBlock_twice {block key : Bytes} (isBlock : block.length = 16) (isKey : key.length = 16) :
    CipherMode.xorBlock (CipherMode.xorBlock block key) key = block :=
  CipherMode.xorBlock_cancel (isBlock.trans isKey.symm)

theorem substitute_length {block : Bytes} (isBlock : block.length = 16) :
    (substitute block).length = 16 := shiftRows_length (by rw [List.length_map, isBlock])

theorem unsubstitute_length {block : Bytes} (isBlock : block.length = 16) :
    (unsubstitute block).length = 16 := by
  rw [unsubstitute, List.length_map, unshiftRows_length isBlock]

theorem unsubstitute_substitute {block : Bytes} (isBlock : block.length = 16) :
    unsubstitute (substitute block) = block := by
  rw [unsubstitute, substitute, unshiftRows_shiftRows (by rw [List.length_map, isBlock]),
    List.map_map]
  simp [Function.comp_def, sboxInverse_sbox]

theorem substitute_unsubstitute {block : Bytes} (isBlock : block.length = 16) :
    substitute (unsubstitute block) = block := by
  rw [substitute, unsubstitute, List.map_map]
  simp [Function.comp_def, sbox_sboxInverse, shiftRows_unshiftRows isBlock]

theorem mixed_length {block key : Bytes} (isBlock : block.length = 16) (isKey : key.length = 16) :
    (CipherMode.xorBlock (mapColumns mixColumn (substitute block)) key).length = 16 :=
  xorBlock_block (by rw [mapColumns_length, substitute_length isBlock]) isKey

section

variable {keys : List Bytes} (isKey : ∀ key ∈ keys, key.length = 16)

include isKey

theorem rounds_length {block : Bytes} (isBlock : block.length = 16) :
    (rounds keys block).length = 16 := by
  induction keys, block using rounds.induct with
  | case1 block => exact isBlock
  | case2 key block => exact xorBlock_block (substitute_length isBlock) (isKey key (by simp))
  | case3 key next rest block inductionHypothesis =>
      exact inductionHypothesis (fun other member => isKey other (List.mem_cons_of_mem _ member))
        (mixed_length isBlock (isKey key (by simp)))

theorem undoRounds_length {block : Bytes} (isBlock : block.length = 16) :
    (undoRounds keys block).length = 16 := by
  induction keys, block using undoRounds.induct with
  | case1 block => exact isBlock
  | case2 key block => exact unsubstitute_length (xorBlock_block isBlock (isKey key (by simp)))
  | case3 key next rest block inductionHypothesis =>
      have tail := inductionHypothesis
        (fun other member => isKey other (List.mem_cons_of_mem _ member)) isBlock
      apply unsubstitute_length
      rw [mapColumns_length, xorBlock_block tail (isKey key (by simp))]

theorem undoRounds_rounds {block : Bytes} (isBlock : block.length = 16) :
    undoRounds keys (rounds keys block) = block := by
  induction keys, block using rounds.induct with
  | case1 block => rfl
  | case2 key block =>
      rw [rounds, undoRounds, xorBlock_twice (substitute_length isBlock) (isKey key (by simp)),
        unsubstitute_substitute isBlock]
  | case3 key next rest block inductionHypothesis =>
      have keyLength := isKey key (by simp)
      have mixed := mapColumns_length mixColumn (substitute block)
      rw [substitute_length isBlock] at mixed
      rw [rounds, undoRounds, inductionHypothesis
        (fun other member => isKey other (List.mem_cons_of_mem _ member))
        (mixed_length isBlock keyLength), xorBlock_twice mixed keyLength,
        mapColumns_mapColumns unmixColumn_mixColumn, unsubstitute_substitute isBlock]

theorem rounds_undoRounds {block : Bytes} (isBlock : block.length = 16) :
    rounds keys (undoRounds keys block) = block := by
  induction keys, block using undoRounds.induct with
  | case1 block => rfl
  | case2 key block =>
      have keyLength := isKey key (by simp)
      rw [undoRounds, rounds, substitute_unsubstitute (xorBlock_block isBlock keyLength),
        xorBlock_twice isBlock keyLength]
  | case3 key next rest block inductionHypothesis =>
      have keyLength := isKey key (by simp)
      have others := fun other member => isKey other (List.mem_cons_of_mem key member)
      have tail := undoRounds_length others isBlock
      have whole := xorBlock_block tail keyLength
      rw [undoRounds, rounds,
        substitute_unsubstitute (by rw [mapColumns_length, whole]),
        mapColumns_mapColumns mixColumn_unmixColumn, xorBlock_twice tail keyLength,
        inductionHypothesis others isBlock]

end

section

variable {key block : Bytes} (isKey : key.length = 16) (isBlock : block.length = 16)

include isKey

theorem roundKeys_length :
    ∀ roundKey ∈ (expand roundConstants key).tail, roundKey.length = 16 :=
  fun roundKey member => mem_expand_length _ isKey roundKey (List.mem_of_mem_tail member)

include isBlock

theorem encryptBlock_length : (encryptBlock key block).length = 16 :=
  rounds_length (roundKeys_length isKey) (xorBlock_block isBlock isKey)

theorem decryptBlock_length : (decryptBlock key block).length = 16 :=
  xorBlock_block (undoRounds_length (roundKeys_length isKey) isBlock) isKey

theorem decryptBlock_encryptBlock : decryptBlock key (encryptBlock key block) = block := by
  unfold decryptBlock encryptBlock
  rw [undoRounds_rounds (roundKeys_length isKey) (xorBlock_block isBlock isKey),
    xorBlock_twice isBlock isKey]

theorem encryptBlock_decryptBlock : encryptBlock key (decryptBlock key block) = block := by
  unfold decryptBlock encryptBlock
  rw [xorBlock_twice (undoRounds_length (roundKeys_length isKey) isBlock) isKey,
    rounds_undoRounds (roundKeys_length isKey) isBlock]

end

/-- Every key of sixteen bytes permutes the blocks. -/
theorem lawful {key : Bytes} (isKey : key.length = 16) : cipher.LawfulAt key where
  blockSize_pos := by decide
  blockSize_lt := by decide
  encrypt_length block isBlock := by
    have isBlock : block.length = 16 := isBlock
    simpa only [cipher] using encryptBlock_length isKey isBlock
  decrypt_length block isBlock := by
    have isBlock : block.length = 16 := isBlock
    simpa only [cipher] using decryptBlock_length isKey isBlock
  decrypt_encrypt block isBlock := by
    have isBlock : block.length = 16 := isBlock
    simpa only [cipher] using decryptBlock_encryptBlock isKey isBlock
  encrypt_decrypt block isBlock := by
    have isBlock : block.length = 16 := isBlock
    simpa only [cipher] using encryptBlock_decryptBlock isKey isBlock

/-- The standard's example vector. -/
example : encryptBlock
    (BigEndian.encode 0x000102030405060708090a0b0c0d0e0f 16)
    (BigEndian.encode 0x00112233445566778899aabbccddeeff 16) =
      BigEndian.encode 0x69c4e0d86a7b0430d8cdb78070b4c55a 16 := by
  decide +kernel

/-! ### Digests -/

/-- Twice the block as a polynomial. -/
def double (block : Bytes) : Bytes :=
  let value := BigEndian.decode block
  BigEndian.encode ((2 * value) ^^^ if value.testBit 127 then 0x87 else 0) 16

/-- The last block of a message, combined with the subkey for its kind. -/
def lastBlock (key last : Bytes) : Bytes :=
  let subkey := double (encryptBlock key (List.replicate 16 0))
  if last.length = 16 then CipherMode.xorBlock last subkey
  else
    CipherMode.xorBlock (last ++ 0x80 :: List.replicate (15 - last.length) 0) (double subkey)

/-- CMAC: the last block of a chained encryption. -/
def cmac (key message : Bytes) : Bytes :=
  let count := (message.length - 1) / 16
  let pieces := CipherMode.blocks 16 count (message.take (count * 16)) ++
    [lastBlock key (message.drop (count * 16))]
  (CipherMode.chainEncrypt cipher key (List.replicate 16 0) pieces).getLastD []

theorem lastBlock_length (key : Bytes) {last : Bytes} (short : last.length ≤ 16) :
    (lastBlock key last).length = 16 := by
  simp only [lastBlock]
  split_ifs with full
  · exact xorBlock_block full (BigEndian.encode_length _ _)
  · refine xorBlock_block ?_ (BigEndian.encode_length _ _)
    rw [List.length_append, List.length_cons, List.length_replicate]
    omega

theorem cmac_length {key : Bytes} (isKey : key.length = 16) (message : Bytes) :
    (cmac key message).length = 16 := by
  simp only [cmac]
  generalize chained : CipherMode.chainEncrypt cipher key (List.replicate 16 0) _ = sealedPieces
  have nonempty : sealedPieces ≠ [] := by
    intro empty
    have count := congrArg List.length (chained.trans empty)
    rw [CipherMode.chainEncrypt_length] at count
    simp at count
  have exact : ∀ block ∈ sealedPieces, block.length = 16 := by
    rw [← chained]
    apply CipherMode.mem_chainEncrypt_length (lawful isKey) (by simp [cipher])
    intro block member
    rcases List.mem_append.mp member with front | last
    · refine CipherMode.mem_blocks_length 16 _ _ ?_ block front
      rw [List.length_take]
      omega
    · rw [List.mem_singleton.mp last]
      apply lastBlock_length key
      rw [List.length_drop]
      omega
  rw [List.getLastD_eq_getLast?, List.getLast?_eq_some_getLast nonempty]
  exact exact _ (List.getLast_mem nonempty)

example : cmac
    (BigEndian.encode 0x2b7e151628aed2a6abf7158809cf4f3c 16)
    (BigEndian.encode 0x6bc1bee22e409f96e93d7e117393172a 16) =
      BigEndian.encode 0x070a16b46b4d4144f79bdd9dd04a287c 16 := by
  decide +kernel

-- elsewhere the cipher is known by its laws
attribute [irreducible] encryptBlock decryptBlock cmac

end Aes

end LicensingServer.Foundations
