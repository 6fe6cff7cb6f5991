import Mathlib.Data.List.TakeWhile
import Mathlib.Data.Nat.Log
import Mathlib.Tactic.Ring
import Mathlib.Tactic.NormNum

/-!
Owns unsigned big-endian byte encodings of natural numbers: decoding a block,
encoding into a given number of bytes, the shortest encoding, how the shortest
encoding of a decoded block relates to the block it came from, and leading
zeros.

Does not own any text form of numbers.
-/

set_option autoImplicit false

namespace LicensingServer.Foundations

/-- A byte string, of any length and with any byte values. -/
abbrev Bytes := List UInt8

namespace BigEndian

/-- The number whose unsigned big-endian digits in base 256 are `block`. -/
def decode : Bytes → Nat
  | [] => 0
  | byte :: rest => byte.toNat * 256 ^ rest.length + decode rest

/-- The `size` low bytes of `value`, most significant first. -/
def encode (value : Nat) : Nat → Bytes
  | 0 => []
  | size + 1 => UInt8.ofNat (value / 256 ^ size % 256) :: encode value size

/-- The number of bytes of `value` without leading zeros; zero has none. -/
def byteCount (value : Nat) : Nat :=
  if value = 0 then 0 else Nat.log2 value / 8 + 1

/-- Drop the zero bytes at the front of a block. -/
def stripZeros (block : Bytes) : Bytes :=
  block.dropWhile (· == 0)

/-! ### Fixed-size encodings -/

@[simp] theorem decode_nil : decode [] = 0 := rfl

@[simp] theorem decode_cons (byte : UInt8) (rest : Bytes) :
    decode (byte :: rest) = byte.toNat * 256 ^ rest.length + decode rest := rfl

@[simp] theorem encode_length (value size : Nat) : (encode value size).length = size := by
  induction size with
  | zero => rfl
  | succ size inductionHypothesis => simp [encode, inductionHypothesis]

theorem decode_lt (block : Bytes) : decode block < 256 ^ block.length := by
  induction block with
  | nil => simp
  | cons byte rest inductionHypothesis =>
      have byteLt : byte.toNat < 256 := byte.toNat_lt
      rw [decode_cons, List.length_cons, pow_succ']
      calc byte.toNat * 256 ^ rest.length + decode rest
          < byte.toNat * 256 ^ rest.length + 256 ^ rest.length := by omega
        _ = (byte.toNat + 1) * 256 ^ rest.length := by ring
        _ ≤ 256 * 256 ^ rest.length := Nat.mul_le_mul_right _ byteLt

/-- Only the low bytes of the value are written. -/
theorem encode_add_mul (value high size : Nat) :
    encode (high * 256 ^ size + value) size = encode value size := by
  induction size generalizing high with
  | zero => rfl
  | succ size inductionHypothesis =>
      have split : high * 256 ^ (size + 1) = high * 256 * 256 ^ size := by ring
      have digit : (high * 256 * 256 ^ size + value) / 256 ^ size % 256 =
          value / 256 ^ size % 256 := by
        rw [Nat.add_comm, Nat.add_mul_div_right _ _ (by positivity), Nat.add_mul_mod_self_right]
      rw [encode, encode, split, inductionHypothesis (high * 256), digit]

/-- Encoding a decoded block at its own length gives the block back. -/
theorem encode_decode (block : Bytes) : encode (decode block) block.length = block := by
  induction block with
  | nil => rfl
  | cons byte rest inductionHypothesis =>
      have digit : decode (byte :: rest) / 256 ^ rest.length % 256 = byte.toNat := by
        rw [decode_cons, Nat.add_comm, Nat.add_mul_div_right _ _ (by positivity),
          Nat.div_eq_of_lt (decode_lt rest), Nat.zero_add, Nat.mod_eq_of_lt byte.toNat_lt]
      rw [List.length_cons, encode, digit, UInt8.ofNat_toNat, decode_cons, encode_add_mul,
        inductionHypothesis]

theorem decode_encode (value size : Nat) : decode (encode value size) = value % 256 ^ size := by
  induction size with
  | zero => simp [encode, Nat.mod_one]
  | succ size inductionHypothesis =>
      rw [encode, decode_cons, inductionHypothesis, encode_length, UInt8.toNat_ofNat',
        Nat.mod_mod, pow_succ, Nat.mod_mul, Nat.add_comm, Nat.mul_comm]

/-! ### Shortest encodings -/

theorem byteCount_le_iff (value size : Nat) : byteCount value ≤ size ↔ value < 256 ^ size := by
  unfold byteCount
  split_ifs with zero
  · simp [zero]
  · have base : 256 ^ size = 2 ^ (8 * size) := by rw [pow_mul]; norm_num
    rw [base, ← Nat.log2_lt zero]
    omega

/-- A block whose first byte is not zero is the shortest encoding of its value. -/
theorem byteCount_decode {byte : UInt8} {rest : Bytes} (nonzero : byte ≠ 0) :
    byteCount (decode (byte :: rest)) = (byte :: rest).length := by
  apply Nat.le_antisymm
  · exact (byteCount_le_iff _ _).mpr (decode_lt _)
  · rw [List.length_cons, Nat.succ_le_iff, ← Nat.not_le, byteCount_le_iff, Nat.not_lt,
      decode_cons]
    have positive : 1 ≤ byte.toNat := by
      have : byte.toNat ≠ 0 := fun zero => nonzero (UInt8.toNat_inj.mp zero)
      omega
    calc 256 ^ rest.length = 1 * 256 ^ rest.length := (Nat.one_mul _).symm
      _ ≤ byte.toNat * 256 ^ rest.length := Nat.mul_le_mul_right _ positive
      _ ≤ byte.toNat * 256 ^ rest.length + decode rest := Nat.le_add_right _ _

@[simp] theorem stripZeros_zero_cons (rest : Bytes) : stripZeros (0 :: rest) = stripZeros rest := by
  simp [stripZeros]

theorem stripZeros_cons_of_ne {byte : UInt8} (nonzero : byte ≠ 0) (rest : Bytes) :
    stripZeros (byte :: rest) = byte :: rest := by
  simp [stripZeros, nonzero]

theorem stripZeros_length_le (block : Bytes) : (stripZeros block).length ≤ block.length :=
  (List.dropWhile_suffix _).length_le

/-- The shortest encoding of a decoded block is the block without its leading
zeros. -/
theorem encode_byteCount_decode (block : Bytes) :
    encode (decode block) (byteCount (decode block)) = stripZeros block := by
  induction block with
  | nil => rfl
  | cons byte rest inductionHypothesis =>
      by_cases zero : byte = 0
      · subst zero
        have same : decode (0 :: rest) = decode rest := by simp
        rw [same, inductionHypothesis, stripZeros_zero_cons]
      · rw [byteCount_decode zero, encode_decode, stripZeros_cons_of_ne zero]

/-- The first byte of a stripped block is not zero. -/
theorem head_stripZeros_ne_zero {block : Bytes} {byte : UInt8} {rest : Bytes}
    (stripped : stripZeros block = byte :: rest) : byte ≠ 0 := by
  intro zero
  have head := List.head?_dropWhile_not (· == (0 : UInt8)) block
  rw [stripZeros] at stripped
  rw [stripped] at head
  simp [zero] at head

/-! ### Leading zeros -/

/-- Two blocks with the same bytes behind some zeros. -/
def SameUpToLeadingZeros (left right : Bytes) : Prop :=
  ∃ leftZeros rightZeros rest,
    left = List.replicate leftZeros 0 ++ rest ∧ right = List.replicate rightZeros 0 ++ rest

theorem exists_replicate_append_stripZeros (block : Bytes) :
    ∃ zeros, block = List.replicate zeros 0 ++ stripZeros block := by
  refine ⟨(block.takeWhile (· == 0)).length, ?_⟩
  have zeros : block.takeWhile (· == 0) =
      List.replicate (block.takeWhile (· == 0)).length 0 := by
    apply List.eq_replicate_iff.mpr
    constructor
    · rfl
    · intro byte member
      simpa using List.mem_takeWhile_imp member
  rw [← zeros, stripZeros]
  exact List.takeWhile_append_dropWhile.symm

theorem stripZeros_replicate_append (zeros : Nat) (rest : Bytes) :
    stripZeros (List.replicate zeros 0 ++ rest) = stripZeros rest := by
  induction zeros with
  | zero => rw [List.replicate_zero, List.nil_append]
  | succ zeros inductionHypothesis =>
      rw [List.replicate_succ, List.cons_append, stripZeros_zero_cons, inductionHypothesis]

theorem stripZeros_eq_iff {left right : Bytes} :
    stripZeros left = stripZeros right ↔ SameUpToLeadingZeros left right := by
  constructor
  · intro same
    rcases exists_replicate_append_stripZeros left with ⟨leftZeros, leftShape⟩
    rcases exists_replicate_append_stripZeros right with ⟨rightZeros, rightShape⟩
    rw [← same] at rightShape
    exact ⟨leftZeros, rightZeros, stripZeros left, leftShape, rightShape⟩
  · intro same
    rcases same with ⟨leftZeros, rightZeros, rest, leftShape, rightShape⟩
    rw [leftShape, rightShape, stripZeros_replicate_append, stripZeros_replicate_append]

theorem stripZeros_eq_nil_iff {block : Bytes} :
    stripZeros block = [] ↔ ∀ byte ∈ block, byte = 0 := by
  rw [stripZeros, List.dropWhile_eq_nil_iff]
  simp only [beq_iff_eq]

theorem decode_stripZeros (block : Bytes) : decode (stripZeros block) = decode block := by
  rw [← encode_byteCount_decode, decode_encode]
  apply Nat.mod_eq_of_lt
  exact (byteCount_le_iff _ _).mp (Nat.le_refl _)

theorem decode_eq_zero_iff {block : Bytes} :
    decode block = 0 ↔ ∀ byte ∈ block, byte = 0 := by
  have bound := byteCount_le_iff (decode block) 0
  rw [← stripZeros_eq_nil_iff, ← encode_byteCount_decode, ← List.length_eq_zero_iff,
    encode_length]
  omega

theorem stripZeros_length_eq_iff {block : Bytes} :
    (stripZeros block).length = block.length ↔ block.head? ≠ some 0 := by
  cases block with
  | nil => simp [stripZeros]
  | cons byte rest =>
      by_cases zero : byte = 0
      · subst zero
        have below := stripZeros_length_le rest
        rw [stripZeros_zero_cons, List.length_cons, List.head?_cons]
        constructor
        · intro same
          omega
        · intro differs
          exact absurd rfl differs
      · rw [stripZeros_cons_of_ne zero, List.head?_cons]
        constructor
        · intro _ same
          exact zero (Option.some.inj same)
        · intro _
          rfl

end BigEndian

end LicensingServer.Foundations
