import LicensingServer.Foundations.BigEndian
import Mathlib.Data.List.TakeWhile

/-!
Owns the data that both programs share: byte strings as `std::string` and as C
strings, the compile-time constants, login requests, and the ways in which a
call can fail.
-/

set_option autoImplicit false

namespace LicensingServer

open LicensingServer.Foundations

/-- The bytes of an ASCII literal. -/
def ascii (text : String) : Bytes := text.toList.map fun char => UInt8.ofNat char.toNat

/-- What a reader of `data.c_str()` sees: the bytes before the first zero. -/
def cString (data : Bytes) : Bytes := data.takeWhile (· != 0)

theorem cString_of_no_zero {data : Bytes} (clean : (0 : UInt8) ∉ data) : cString data = data := by
  rw [cString, List.takeWhile_eq_self_iff]
  intro byte member
  have nonzero : byte ≠ 0 := fun zero => clean (zero ▸ member)
  simp [nonzero]

theorem no_zero_cString (data : Bytes) : (0 : UInt8) ∉ cString data := by
  intro member
  have nonzero := List.mem_takeWhile_imp member
  simp at nonzero

theorem cString_cString (data : Bytes) : cString (cString data) = cString data :=
  cString_of_no_zero (no_zero_cString data)

/-! ### Constants -/

def greeting : Bytes := ascii "Hello World!"
def groupLicense : Bytes := ascii "Group"
def individualLicense : Bytes := ascii "Individual"
def successfulLoginReply : Bytes := ascii "ACK"
def failedLoginReply : Bytes := ascii "BYE"

/-- A request as the receive thread hands it over. -/
structure LoginRequest where
  clientIdentity : Bytes
  clientID : Bytes
  ip : Bytes
deriving DecidableEq, Repr

/-! ### Failures -/

/-- The C++ exceptions that the program can raise. -/
inductive Exception
  /-- `throw std::exception()`. -/
  | exception
  | runtimeError (what : String)
  /-- Raised by the decryption filter for a text that is not padded. -/
  | invalidCiphertext
  /-- Raised by a cipher for a key whose length it does not know. -/
  | invalidKeyLength
deriving DecidableEq, Repr

/-- Why a call does not return. -/
inductive Fault
  | thrown (what : Exception)
  /-- A fixed-length read runs past the end of its block: no result is defined. -/
  | readPastEnd
  /-- A pointer that is not live is dereferenced. -/
  | deadPointer
  /-- `front` or `pop` on an empty queue. -/
  | emptyQueue
deriving DecidableEq, Repr

end LicensingServer
