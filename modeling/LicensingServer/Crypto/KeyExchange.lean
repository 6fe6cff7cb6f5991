import LicensingServer.Crypto.Object
import Mathlib.Data.List.GetD

/-!
Owns what a call of `genXport` amounts to: the key block that is read out of
the other party's text, and the members that the call leaves behind.

Does not own what the two parties of an exchange end up with.
-/

set_option autoImplicit false

namespace LicensingServer

open LicensingServer.Foundations

namespace Crypto

variable (lib : CryptoPP)

/-- The block that `genXport` makes of a public key's text. -/
def keyBlock (hexStr : Bytes) : Bytes := unsignedIntegerToByteBlock (lib.integer (cString hexStr))

/-- The key-encryption key is the front of the shared secret. -/
def kekOf (shared : Bytes) : Bytes := shared.take defaultKeyLength

/-- The key of the digest comes behind it. -/
def mackOf (shared : Bytes) : Bytes := (shared.drop defaultKeyLength).take blockSize

/-- `[ Enc(CEK) ][ CMAC(Enc(CEK)) ]`. -/
def wrap (shared contentKey : Bytes) : Bytes :=
  let wrapped := lib.aesEncrypt (kekOf shared) contentKey
  wrapped ++ lib.cmac (mackOf shared) wrapped

variable {lib}

/-- The members after `genXport`. -/
def withXport (crypto : Crypto) (draw : KeyDraw lib) (shared : Bytes) : Crypto :=
  { crypto with
    kek := kekOf shared
    cek := draw.contentKey
    xport := wrap lib shared draw.contentKey
    dhA := .null }

/-- The shared secret, or why there is none. -/
def agreedValue (lib : CryptoPP) (spubBHex epubBHex : Bytes) (crypto : Crypto) :
    Except Fault Bytes := do
  let spub ← readBlock publicKeyLength (keyBlock lib spubBHex)
  let epub ← readBlock publicKeyLength (keyBlock lib epubBHex)
  match lib.agree crypto.sprivA crypto.eprivA spub epub with
  | none => .error (.thrown (.runtimeError "Failed to reach shared secret (A)"))
  | some shared => return shared

/-- `genXport` as one step. -/
def agreed (draw : KeyDraw lib) (spubBHex epubBHex : Bytes) (crypto : Crypto) :
    Except Fault Crypto :=
  (agreedValue lib spubBHex epubBHex crypto).map fun shared => crypto.withXport draw shared

theorem agreedValue_length (lawful : lib.Lawful) {spubBHex epubBHex : Bytes}
    {crypto : Crypto} {shared : Bytes}
    (met : agreedValue lib spubBHex epubBHex crypto = .ok shared) :
    shared.length = agreedValueLength := by
  unfold agreedValue at met
  generalize readBlock publicKeyLength (keyBlock lib spubBHex) = spub at met
  generalize readBlock publicKeyLength (keyBlock lib epubBHex) = epub at met
  cases spub with
  | error fault => cases met
  | ok spub =>
      cases epub with
      | error fault => cases met
      | ok epub =>
          cases found : lib.agree crypto.sprivA crypto.eprivA spub epub with
          | none => simp [bind, Except.bind, found] at met
          | some value =>
              simp only [bind, Except.bind, found, pure, Except.pure, Except.ok.injEq] at met
              rw [← met]
              exact lawful.agree_length found

theorem effect_agree (draw : KeyDraw lib) {crypto : Crypto} (live : crypto.dhA = .live)
    (spubBHex epubBHex sharedA : Bytes) :
    XportStatement.effect lib draw crypto
        ⟨spubBHex, epubBHex, keyBlock lib spubBHex, keyBlock lib epubBHex, sharedA, []⟩ .agree =
      (agreedValue lib spubBHex epubBHex crypto).map fun shared =>
        (crypto, ⟨spubBHex, epubBHex, keyBlock lib spubBHex, keyBlock lib epubBHex, shared, []⟩) := by
  simp only [XportStatement.effect, agreedValue, dereference, live, if_true, bind, Except.bind]
  cases readBlock publicKeyLength (keyBlock lib spubBHex) with
  | error fault => rfl
  | ok spub =>
      cases readBlock publicKeyLength (keyBlock lib epubBHex) with
      | error fault => rfl
      | ok epub =>
          cases found : lib.agree crypto.sprivA crypto.eprivA spub epub with
          | none => simp only [found, Except.map]
          | some shared => simp only [found, Except.map, pure, Except.pure]

theorem kekOf_length {shared : Bytes} (sharedLength : shared.length = agreedValueLength) :
    (kekOf shared).length = defaultKeyLength := by
  rw [kekOf, List.length_take, sharedLength, agreedValueLength, publicKeyLength_eq]
  rfl

theorem mackOf_length {shared : Bytes} (sharedLength : shared.length = agreedValueLength) :
    (mackOf shared).length = blockSize := by
  rw [mackOf, List.length_take, List.length_drop, sharedLength, agreedValueLength,
    publicKeyLength_eq]
  rfl

/-- `GenerateBlock` overwrites the block from the front. -/
theorem execute_fillCek (draw : KeyDraw lib) (crypto : Crypto) (locals : XportLocals)
    (cekLength : crypto.cek.length = defaultKeyLength) {count : Nat}
    (within : count ≤ defaultKeyLength) :
    StraightLine.execute (fun statement (state : Crypto × XportLocals) =>
        XportStatement.effect lib draw state.1 state.2 statement)
        ((List.range count).map .fillCek) (crypto, locals) =
      .ok ({ crypto with cek := draw.contentKey.take count ++ crypto.cek.drop count }, locals) := by
  induction count with
  | zero => rfl
  | succ count inductionHypothesis =>
      have drawLength := draw.contentKey_length
      have taken : (draw.contentKey.take count).length = count := by
        rw [List.length_take, drawLength]
        omega
      have next : (draw.contentKey.take count ++ crypto.cek.drop count).set count
          (draw.contentKey.getD count 0) =
            draw.contentKey.take (count + 1) ++ crypto.cek.drop (count + 1) := by
        rw [List.set_append_right _ _ (Nat.le_of_eq taken), taken, Nat.sub_self,
          List.drop_eq_getElem_cons (by omega), List.set_cons_zero,
          List.take_succ_eq_append_getElem (by omega), List.append_assoc,
          List.getD_eq_getElem _ _ (by omega)]
        rfl
      rw [List.range_succ, List.map_append,
        StraightLine.execute_append _ _ _ (inductionHypothesis (by omega))]
      simp only [List.map_cons, List.map_nil, StraightLine.execute, XportStatement.effect, next]

/-- The statements of `genXport` after the shared secret is known. -/
theorem execute_afterAgree (lawful : lib.Lawful) (draw : KeyDraw lib) (crypto : Crypto)
    (locals : XportLocals) (sharedLength : locals.sharedA.length = agreedValueLength) :
    (StraightLine.execute (fun statement (state : Crypto × XportLocals) =>
        XportStatement.effect lib draw state.1 state.2 statement)
        (genXport.drop 4) (crypto, locals)).map Prod.fst =
      .ok (crypto.withXport draw locals.sharedA) := by
  have long : defaultKeyLength + blockSize ≤ locals.sharedA.length := by
    rw [sharedLength, agreedValueLength, publicKeyLength_eq]
    decide
  have kekLength := kekOf_length sharedLength
  have mackLength := mackOf_length sharedLength
  have wrappedLength : (lib.aesEncrypt (kekOf locals.sharedA) draw.contentKey).length = blockSize :=
    (lawful.aes_lawful _ kekLength).encrypt_length _ draw.contentKey_length
  have digestLength := lawful.cmac_length (mackOf locals.sharedA)
    (lib.aesEncrypt (kekOf locals.sharedA) draw.contentKey) mackLength
  have kekRead : readBlock defaultKeyLength locals.sharedA = .ok (kekOf locals.sharedA) :=
    readBlock_of_le (by omega)
  have mackRead : readBlock blockSize (locals.sharedA.drop defaultKeyLength) =
      .ok (mackOf locals.sharedA) :=
    readBlock_of_le (by rw [List.length_drop]; omega)
  have split : genXport.drop 4 = [.assignKek, .copyMack, .cleanCek] ++
      ((List.range defaultKeyLength).map .fillCek ++
        [.cleanXport, .wrapCek, .digest, .deleteDh2, .clearDh2]) := rfl
  have keys : StraightLine.execute (fun statement (state : Crypto × XportLocals) =>
      XportStatement.effect lib draw state.1 state.2 statement)
      [.assignKek, .copyMack, .cleanCek] (crypto, locals) =
        .ok ({ crypto with kek := kekOf locals.sharedA, cek := cleanNew defaultKeyLength },
          { locals with mack := mackOf locals.sharedA }) := by
    simp only [StraightLine.execute, XportStatement.effect, kekRead, mackRead, bind, Except.bind,
      pure, Except.pure]
  have cekRead : readBlock blockSize draw.contentKey = .ok draw.contentKey :=
    readBlock_of_eq draw.contentKey_length
  have filled : draw.contentKey.take defaultKeyLength ++
      (cleanNew defaultKeyLength).drop defaultKeyLength = draw.contentKey := by
    rw [List.take_of_length_le (Nat.le_of_eq draw.contentKey_length)]
    simp [cleanNew]
  rw [split, StraightLine.execute_append _ _ _ keys,
    StraightLine.execute_append _ _ _ (execute_fillCek draw _ _ (by simp [cleanNew]) (Nat.le_refl _)),
    filled]
  have wrappedRead : readBlock blockSize
      (lib.aesEncrypt (kekOf locals.sharedA) draw.contentKey ++
        (cleanNew (blockSize + blockSize)).drop blockSize) =
        .ok (lib.aesEncrypt (kekOf locals.sharedA) draw.contentKey) := by
    rw [readBlock_of_le (by rw [List.length_append]; omega), List.take_left' wrappedLength]
  simp only [StraightLine.execute, XportStatement.effect, cekRead, wrappedRead, bind, Except.bind,
    pure, Except.pure, List.take_of_length_le (Nat.le_of_eq digestLength)]
  rfl

/-- The statements of `genXport` before the shared secret is asked for. -/
theorem execute_beforeAgree (draw : KeyDraw lib) {crypto : Crypto} (live : crypto.dhA = .live)
    (spubBHex epubBHex : Bytes) :
    StraightLine.execute (fun statement (state : Crypto × XportLocals) =>
        XportStatement.effect lib draw state.1 state.2 statement)
        [.decodeSpub, .decodeEpub, .allocateShared] (crypto, .enter spubBHex epubBHex) =
      .ok (crypto, ⟨spubBHex, epubBHex, keyBlock lib spubBHex, keyBlock lib epubBHex,
        cleanNew agreedValueLength, []⟩) := by
  simp only [StraightLine.execute, XportStatement.effect, dereference, live, if_true, bind,
    Except.bind, pure, Except.pure]
  rfl

theorem runGenXport_eq (lawful : lib.Lawful) (draw : KeyDraw lib) (spubBHex epubBHex : Bytes)
    {crypto : Crypto} (live : crypto.dhA = .live) :
    runGenXport draw spubBHex epubBHex crypto = agreed draw spubBHex epubBHex crypto := by
  have split : genXport =
      [.decodeSpub, .decodeEpub, .allocateShared, .agree] ++ genXport.drop 4 := rfl
  have reach := execute_beforeAgree draw live spubBHex epubBHex
  have front : StraightLine.execute (fun statement (state : Crypto × XportLocals) =>
      XportStatement.effect lib draw state.1 state.2 statement) genXport
      (crypto, .enter spubBHex epubBHex) =
        StraightLine.execute (fun statement (state : Crypto × XportLocals) =>
          XportStatement.effect lib draw state.1 state.2 statement) (.agree :: genXport.drop 4)
          (crypto, ⟨spubBHex, epubBHex, keyBlock lib spubBHex, keyBlock lib epubBHex,
            cleanNew agreedValueLength, []⟩) := by
    rw [← StraightLine.execute_append _ _ (.agree :: genXport.drop 4) reach]
    rfl
  unfold runGenXport
  rw [front]
  generalize cleanNew agreedValueLength = sharedA
  cases met : agreedValue lib spubBHex epubBHex crypto with
  | error fault =>
      have stopped := effect_agree draw live spubBHex epubBHex sharedA
      rw [met] at stopped
      rw [StraightLine.execute_cons_error _ _ stopped, agreed, met]
      rfl
  | ok shared =>
      have done := effect_agree draw live spubBHex epubBHex sharedA
      rw [met] at done
      rw [StraightLine.execute_cons_ok _ _ done, agreed, met]
      exact execute_afterAgree lawful draw crypto _ (agreedValue_length lawful met)

end Crypto

end LicensingServer
