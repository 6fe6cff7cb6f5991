import Mathlib.Data.Nat.Log
import Mathlib.Data.Nat.ModEq
import Mathlib.Tactic.Ring

/-!
Owns modular exponentiation by squaring and multiplying, and its agreement with
the power of which it is the residue.
-/

set_option autoImplicit false

namespace LicensingServer.Foundations

/-- The power modulo `modulus`, from the lowest bits of the exponent. -/
def squareAndMultiply (modulus : Nat) : Nat → Nat → Nat → Nat
  | 0, _, _ => 1 % modulus
  | bits + 1, base, exponent =>
      let rest := squareAndMultiply modulus bits (base * base % modulus) (exponent / 2)
      if exponent % 2 = 1 then base * rest % modulus else rest

def modularExponentiation (base exponent modulus : Nat) : Nat :=
  squareAndMultiply modulus (exponent.log2 + 1) base exponent

theorem squareAndMultiply_eq (modulus bits base exponent : Nat) (enough : exponent < 2 ^ bits) :
    squareAndMultiply modulus bits base exponent = base ^ exponent % modulus := by
  induction bits generalizing base exponent with
  | zero =>
      obtain rfl : exponent = 0 := by simpa using enough
      simp [squareAndMultiply]
  | succ bits inductionHypothesis =>
      have half : exponent / 2 < 2 ^ bits := by
        rw [pow_succ] at enough
        omega
      have squared : squareAndMultiply modulus bits (base * base % modulus) (exponent / 2) =
          base ^ (2 * (exponent / 2)) % modulus := by
        rw [inductionHypothesis _ _ half, ← Nat.pow_mod, pow_mul, pow_two]
      unfold squareAndMultiply
      rw [squared]
      by_cases odd : exponent % 2 = 1
      · have whole : exponent = 2 * (exponent / 2) + 1 := by omega
        rw [if_pos odd, Nat.mul_mod_mod]
        conv_rhs => rw [whole, pow_succ']
      · have whole : exponent = 2 * (exponent / 2) := by omega
        rw [if_neg odd]
        conv_rhs => rw [whole]

theorem modularExponentiation_eq (base exponent modulus : Nat) :
    modularExponentiation base exponent modulus = base ^ exponent % modulus :=
  squareAndMultiply_eq modulus _ base exponent Nat.lt_log2_self

/-- Two parties that raise each other's powers to their own exponents meet. -/
theorem modularExponentiation_comm (base left right modulus : Nat) :
    modularExponentiation (modularExponentiation base left modulus) right modulus =
      modularExponentiation (modularExponentiation base right modulus) left modulus := by
  simp only [modularExponentiation_eq, ← Nat.pow_mod, ← pow_mul, Nat.mul_comm left right]

end LicensingServer.Foundations
