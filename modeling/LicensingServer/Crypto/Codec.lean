import LicensingServer.Crypto.Reference
import Mathlib.Data.FinEnum

/-!
Owns what a block becomes on its way through the text of a key and back: which
bytes are kept, which blocks become the same one, and when the length survives.

Does not own which blocks are sent, nor what a reader needs of them.
-/

set_option autoImplicit false

namespace LicensingServer

open LicensingServer.Foundations

namespace Crypto

/-! ### The number behind a block -/

theorem received_of_decode_eq {left right : Bytes}
    (sameValue : BigEndian.decode left = BigEndian.decode right) :
    received left = received right := by
  rw [received, received, sameValue]

theorem received_eq {block : Bytes} :
    received block =
      if ∀ byte ∈ block, byte = 0 then [0] else BigEndian.stripZeros block := by
  rw [received, unsignedIntegerToByteBlock_decode]
  simp only [BigEndian.decode_eq_zero_iff]

theorem decode_received (block : Bytes) :
    BigEndian.decode (received block) = BigEndian.decode block := by
  rw [received_eq]
  split_ifs with zeros
  · rw [BigEndian.decode_eq_zero_iff.mpr zeros]
    decide
  · exact BigEndian.decode_stripZeros block

/-- The second trip changes nothing. -/
theorem received_received (block : Bytes) : received (received block) = received block := by
  apply received_of_decode_eq
  exact decode_received block

theorem decode_eq_iff {left right : Bytes} :
    BigEndian.decode left = BigEndian.decode right ↔
      BigEndian.SameUpToLeadingZeros left right := by
  rw [← BigEndian.stripZeros_eq_iff]
  constructor
  · intro sameValue
    rw [← BigEndian.encode_byteCount_decode left, ← BigEndian.encode_byteCount_decode right,
      sameValue]
  · intro sameBytes
    rw [← BigEndian.decode_stripZeros left, ← BigEndian.decode_stripZeros right, sameBytes]

theorem received_eq_iff {left right : Bytes} :
    received left = received right ↔ BigEndian.SameUpToLeadingZeros left right := by
  rw [← decode_eq_iff]
  constructor
  · intro sameBlock
    rw [← decode_received left, ← decode_received right, sameBlock]
  · intro sameValue
    exact received_of_decode_eq sameValue

theorem received_length_eq_iff {block : Bytes} (nonempty : block ≠ []) :
    (received block).length = block.length ↔ block.length = 1 ∨ ¬ LeadsWithZero block := by
  rw [received_eq]
  split_ifs with zeros
  · have leads : LeadsWithZero block := by
      rcases List.exists_cons_of_ne_nil nonempty with ⟨byte, rest, rfl⟩
      rw [LeadsWithZero, List.head?_cons, zeros byte List.mem_cons_self]
    rw [List.length_singleton]
    constructor
    · intro single
      exact .inl single.symm
    · intro either
      rcases either with single | full
      · exact single.symm
      · exact absurd leads full
  · rw [BigEndian.stripZeros_length_eq_iff, LeadsWithZero]
    constructor
    · intro full
      exact .inr full
    · intro either
      rcases either with single | full
      · -- a single byte that is zero would make the whole block zero
        intro leads
        apply zeros
        rcases List.length_eq_one_iff.mp single with ⟨byte, rfl⟩
        intro other member
        rw [List.mem_singleton.mp member]
        exact Option.some.inj leads
      · exact full

/-! ### The text -/

variable {lib : CryptoPP}

/-- A block of any length, sent as the text of a key and rebuilt by the
receiver. -/
def acrossWire (lib : CryptoPP) (block : Bytes) : Bytes := keyBlock lib (blockHexStr lib block)

/-- The exact image of the codec. -/
theorem acrossWire_exact (lawful : lib.Lawful) {block : Bytes} (nonempty : block ≠ []) :
    acrossWire lib block =
        (if ∀ byte ∈ block, byte = 0 then [0] else BigEndian.stripZeros block) ∧
      BigEndian.decode (acrossWire lib block) = BigEndian.decode block ∧
      acrossWire lib (acrossWire lib block) = acrossWire lib block ∧
      (∀ other, other ≠ [] → (acrossWire lib block = acrossWire lib other ↔
        BigEndian.SameUpToLeadingZeros block other)) ∧
      ((acrossWire lib block).length = block.length ↔
        block.length = 1 ∨ ¬ LeadsWithZero block) := by
  have image : ∀ sent, acrossWire lib sent = received sent := by
    intro sent
    exact keyBlock_blockHexStr lawful sent
  simp only [image]
  refine ⟨received_eq, decode_received block, received_received block, ?_,
    received_length_eq_iff nonempty⟩
  intro other _
  exact received_eq_iff

/-- The codec on a block of three bytes, of which the first is zero. -/
theorem acrossWire_exact_leading_zero :
    acrossWire Reference.library [0, 7, 0] =
        (if ∀ byte ∈ [0, 7, 0], byte = 0 then [0] else BigEndian.stripZeros [0, 7, 0]) ∧
      BigEndian.decode (acrossWire Reference.library [0, 7, 0]) =
        BigEndian.decode [0, 7, 0] ∧
      acrossWire Reference.library (acrossWire Reference.library [0, 7, 0]) =
        acrossWire Reference.library [0, 7, 0] ∧
      (∀ other, other ≠ [] →
        (acrossWire Reference.library [0, 7, 0] = acrossWire Reference.library other ↔
          BigEndian.SameUpToLeadingZeros [0, 7, 0] other)) ∧
      ((acrossWire Reference.library [0, 7, 0]).length = ([0, 7, 0] : Bytes).length ↔
        ([0, 7, 0] : Bytes).length = 1 ∨ ¬ LeadsWithZero [0, 7, 0]) :=
  acrossWire_exact Reference.library_lawful (by decide)

end Crypto

end LicensingServer
