import LicensingServer.Server.Threads

/-!
Owns what the members of the shared `Crypto` object hold while the receive
thread is at each of its statements, and which of these statements can fail.

Does not own when the processing thread reads them.
-/

set_option autoImplicit false

namespace LicensingServer

open LicensingServer.Foundations

namespace Crypto

variable {lib : CryptoPP} {draw : KeyDraw lib}

/-! ### Inside `initKeyExchangeParams` -/

/-- The call has come to these remaining statements. -/
def InitReaches (draw : KeyDraw lib) (remaining : List InitStatement) (crypto : Crypto) : Prop :=
  ∃ start consumed, consumed ++ remaining = initKeyExchangeParams ∧
    StraightLine.execute (fun statement crypto => InitStatement.effect draw crypto statement)
      consumed start = .ok crypto

theorem InitReaches.begin (draw : KeyDraw lib) (crypto : Crypto) :
    InitReaches draw initKeyExchangeParams crypto := ⟨crypto, [], rfl, rfl⟩

theorem InitReaches.next {statement : InitStatement} {rest : List InitStatement}
    {crypto after : Crypto} (reaches : InitReaches draw (statement :: rest) crypto)
    (done : statement.effect draw crypto = .ok after) : InitReaches draw rest after := by
  rcases reaches with ⟨start, consumed, whole, ran⟩
  exact ⟨start, consumed ++ [statement], by simpa using whole,
    StraightLine.execute_concat _ ran done⟩

theorem InitReaches.returned {crypto : Crypto} (reaches : InitReaches draw [] crypto) :
    ∃ start : Crypto, crypto = start.withKeys draw := by
  rcases reaches with ⟨start, consumed, whole, ran⟩
  rw [List.append_nil] at whole
  rw [whole] at ran
  have value := runInitKeyExchangeParams_eq draw start
  rw [runInitKeyExchangeParams, ran] at value
  split_ifs at value
  exact ⟨start, Except.ok.inj value⟩

/-- Only `ValidateGroup` can fail. -/
theorem InitReaches.fails_iff {statement : InitStatement} {rest : List InitStatement}
    {crypto : Crypto} (reaches : InitReaches draw (statement :: rest) crypto) :
    (∃ fault, statement.effect draw crypto = .error fault) ↔
      statement = .validateGroup ∧ draw.groupValid = false := by
  rcases reaches with ⟨start, consumed, whole, ran⟩
  constructor
  · intro fails
    rcases fails with ⟨fault, failed⟩
    cases valid : draw.groupValid with
    | true =>
        have value := runInitKeyExchangeParams_eq draw start
        rw [runInitKeyExchangeParams, if_pos valid, ← whole] at value
        obtain ⟨next, done⟩ := StraightLine.execute_split_ok _ ran value
        cases failed.symm.trans done
    | false =>
        cases consumed with
        | nil => exact ⟨(List.cons.inj whole).1, rfl⟩
        | cons first more =>
            obtain rfl : first = .validateGroup := (List.cons.inj whole).1
            have stopped : InitStatement.validateGroup.effect draw start =
                .error (.thrown (.runtimeError "Failed to validate prime and generator")) := by
              rw [InitStatement.effect, valid]
              rfl
            rw [StraightLine.execute_cons_error _ _ stopped] at ran
            cases ran
  · rintro ⟨rfl, invalid⟩
    exact ⟨_, by rw [InitStatement.effect, invalid]; rfl⟩

/-! ### Inside `genXport` -/

def XportReaches (draw : KeyDraw lib) (spubBHex epubBHex : Bytes)
    (remaining : List XportStatement) (crypto : Crypto) (locals : XportLocals) : Prop :=
  ∃ (start : Crypto) (consumed : List XportStatement), consumed ++ remaining = genXport ∧
    StraightLine.execute (fun statement (state : Crypto × XportLocals) =>
        XportStatement.effect lib draw state.1 state.2 statement)
      consumed (start.withKeys draw, .enter spubBHex epubBHex) = .ok (crypto, locals)

/-- What `genXport` leaves behind. -/
def Exchanged (draw : KeyDraw lib) (spubBHex epubBHex : Bytes) (crypto : Crypto) : Prop :=
  ∃ start : Crypto, runGenXport draw spubBHex epubBHex (start.withKeys draw) = .ok crypto

variable {spubBHex epubBHex : Bytes}

theorem XportReaches.begin (draw : KeyDraw lib) (spubBHex epubBHex : Bytes) (start : Crypto) :
    XportReaches draw spubBHex epubBHex genXport (start.withKeys draw)
      (.enter spubBHex epubBHex) := ⟨start, [], rfl, rfl⟩

theorem XportReaches.next {statement : XportStatement} {rest : List XportStatement}
    {crypto nextCrypto : Crypto} {locals nextLocals : XportLocals}
    (reaches : XportReaches draw spubBHex epubBHex (statement :: rest) crypto locals)
    (done : statement.effect lib draw crypto locals = .ok (nextCrypto, nextLocals)) :
    XportReaches draw spubBHex epubBHex rest nextCrypto nextLocals := by
  rcases reaches with ⟨start, consumed, whole, ran⟩
  exact ⟨start, consumed ++ [statement], by simpa using whole,
    StraightLine.execute_concat _ ran done⟩

theorem XportReaches.returned {crypto : Crypto} {locals : XportLocals}
    (reaches : XportReaches draw spubBHex epubBHex [] crypto locals) :
    Exchanged draw spubBHex epubBHex crypto := by
  rcases reaches with ⟨start, consumed, whole, ran⟩
  rw [List.append_nil] at whole
  rw [whole] at ran
  exact ⟨start, by rw [runGenXport, ran]; rfl⟩

/-- Only the private keys of the object matter to the shared secret. -/
theorem agreedValue_withKeys (start : Crypto) :
    agreedValue lib spubBHex epubBHex (start.withKeys draw) =
      agreedValue lib spubBHex epubBHex (initial.withKeys draw) := rfl

/-- Where the whole call returns, no statement of it fails. -/
theorem XportReaches.done_of_agreed (lawful : lib.Lawful) {statement : XportStatement}
    {rest : List XportStatement} {crypto : Crypto} {locals : XportLocals}
    (reaches : XportReaches draw spubBHex epubBHex (statement :: rest) crypto locals)
    {shared : Bytes}
    (met : agreedValue lib spubBHex epubBHex (initial.withKeys draw) = .ok shared) :
    ∃ next, statement.effect lib draw crypto locals = .ok next := by
  rcases reaches with ⟨start, consumed, whole, ran⟩
  have value := runGenXport_eq lawful draw spubBHex epubBHex
    (show (start.withKeys draw).dhA = .live from rfl)
  rw [agreed, agreedValue_withKeys, met, runGenXport, ← whole] at value
  cases result : StraightLine.execute (fun statement (state : Crypto × XportLocals) =>
      XportStatement.effect lib draw state.1 state.2 statement) (consumed ++ statement :: rest)
      (start.withKeys draw, .enter spubBHex epubBHex) with
  | error fault => rw [result] at value; cases value
  | ok last =>
      exact StraightLine.execute_split_ok (fun statement (state : Crypto × XportLocals) =>
        XportStatement.effect lib draw state.1 state.2 statement) ran result

/-- Whoever gets past `Agree` has a shared secret. -/
theorem agreedValue_of_executed {start : Crypto} {more : List XportStatement}
    {state : Crypto × XportLocals}
    (ran : StraightLine.execute (fun statement (state : Crypto × XportLocals) =>
        XportStatement.effect lib draw state.1 state.2 statement)
      ([.decodeSpub, .decodeEpub, .allocateShared] ++ .agree :: more)
      (start.withKeys draw, .enter spubBHex epubBHex) = .ok state) :
    ∃ shared, agreedValue lib spubBHex epubBHex (initial.withKeys draw) = .ok shared := by
  have live : (start.withKeys draw).dhA = .live := rfl
  have asked := execute_beforeAgree draw live spubBHex epubBHex
  obtain ⟨next, done⟩ := StraightLine.execute_split_ok _ asked ran
  cases met : agreedValue lib spubBHex epubBHex (initial.withKeys draw) with
  | ok shared => exact ⟨shared, rfl⟩
  | error fault =>
      have stopped := effect_agree draw live spubBHex epubBHex (cleanNew agreedValueLength)
      rw [agreedValue_withKeys, met] at stopped
      cases done.symm.trans stopped

/-- Only `Agree` can fail. -/
theorem XportReaches.fails_iff (lawful : lib.Lawful) {statement : XportStatement}
    {rest : List XportStatement} {crypto : Crypto} {locals : XportLocals}
    (reaches : XportReaches draw spubBHex epubBHex (statement :: rest) crypto locals) :
    (∃ fault, statement.effect lib draw crypto locals = .error fault) ↔
      statement = .agree ∧
        ∀ shared, agreedValue lib spubBHex epubBHex (initial.withKeys draw) ≠ .ok shared := by
  have unlessAgreed := @XportReaches.done_of_agreed _ _ _ _ lawful _ _ _ _ reaches
  rcases reaches with ⟨start, consumed, whole, ran⟩
  have live : (start.withKeys draw).dhA = .live := rfl
  have shape : genXport = .decodeSpub :: .decodeEpub :: .allocateShared :: .agree ::
      genXport.drop 4 := rfl
  rw [shape] at whole
  rcases consumed with _ | ⟨first, _ | ⟨second, _ | ⟨third, _ | ⟨fourth, more⟩⟩⟩⟩ <;>
    simp only [List.nil_append, List.cons_append, List.cons.injEq] at whole
  · rcases whole with ⟨rfl, -⟩
    simp [XportStatement.effect]
  · rcases whole with ⟨rfl, rfl, -⟩
    simp [XportStatement.effect]
  · rcases whole with ⟨rfl, rfl, rfl, -⟩
    obtain ⟨rfl, rfl⟩ := Prod.mk.inj (Except.ok.inj ran)
    simp [XportStatement.effect, dereference, live]
  · rcases whole with ⟨rfl, rfl, rfl, rfl, -⟩
    rw [execute_beforeAgree draw live] at ran
    obtain ⟨rfl, rfl⟩ := Prod.mk.inj (Except.ok.inj ran)
    rw [effect_agree draw live, agreedValue_withKeys]
    cases agreedValue lib spubBHex epubBHex (initial.withKeys draw) with
    | error fault => simp [Except.map]
    | ok shared => simp [Except.map]
  · rcases whole with ⟨rfl, rfl, rfl, rfl, -⟩
    obtain ⟨shared, met⟩ := agreedValue_of_executed ran
    obtain ⟨next, done⟩ := unlessAgreed met
    constructor
    · intro fails
      rcases fails with ⟨fault, failed⟩
      cases failed.symm.trans done
    · rintro ⟨-, never⟩
      exact absurd met (never shared)

/-! ### The content key -/

theorem init_effect_cek {crypto next : Crypto} {statement : InitStatement}
    (done : statement.effect draw crypto = .ok next) : next.cek = crypto.cek := by
  cases statement with
  | validateGroup | verifyOrder =>
      simp only [InitStatement.effect] at done
      split_ifs at done
      cases done
      rfl
  | newDh2 =>
      cases done
      rfl
  | _ =>
      obtain ⟨_, _, done⟩ := except_bind_ok done
      cases done
      rfl

/-- A statement of `genXport` that writes into `_cek`. -/
def XportStatement.WritesCek : XportStatement → Prop
  | .cleanCek | .fillCek _ => True
  | _ => False

theorem xport_effect_cek {crypto next : Crypto} {locals after : XportLocals}
    {statement : XportStatement} (apart : ¬ statement.WritesCek)
    (done : statement.effect lib draw crypto locals = .ok (next, after)) :
    next.cek = crypto.cek := by
  cases statement with
  | cleanCek | fillCek place => exact absurd trivial apart
  | agree =>
      obtain ⟨_, _, done⟩ := except_bind_ok done
      obtain ⟨_, _, done⟩ := except_bind_ok done
      obtain ⟨_, _, done⟩ := except_bind_ok done
      split at done
      · cases done
      · cases done
        rfl
  | allocateShared | assignKek | copyMack | wrapCek | digest =>
      obtain ⟨_, _, done⟩ := except_bind_ok done
      cases done
      rfl
  | _ =>
      cases done
      rfl

theorem xport_effect_cek_length {crypto next : Crypto} {locals after : XportLocals}
    {statement : XportStatement} (allocated : crypto.cek.length = defaultKeyLength)
    (done : statement.effect lib draw crypto locals = .ok (next, after)) :
    next.cek.length = defaultKeyLength := by
  by_cases writes : statement.WritesCek
  · cases statement with
    | cleanCek =>
        cases done
        exact List.length_replicate
    | fillCek place =>
        cases done
        rw [List.length_set]
        exact allocated
    | _ => exact writes.elim
  · rw [xport_effect_cek writes done]
    exact allocated

/-! ### After both -/

/-- The key pairs are the ones of this exchange. -/
structure HoldsKeys (draw : KeyDraw lib) (crypto : Crypto) : Prop where
  spubA : crypto.spubA = draw.staticPublic
  epubA : crypto.epubA = draw.ephemeralPublic

/-- After an exchange the object holds the content key, wrapped under the
secret that is shared with the other party. -/
theorem Exchanged.keys (lawful : lib.Lawful) {crypto : Crypto}
    (exchanged : Exchanged draw spubBHex epubBHex crypto) :
    ∃ shared, agreedValue lib spubBHex epubBHex (initial.withKeys draw) = .ok shared ∧
      crypto.kek = kekOf shared ∧ crypto.cek = draw.contentKey ∧
      crypto.xport = wrap lib shared draw.contentKey ∧ HoldsKeys draw crypto := by
  rcases exchanged with ⟨start, done⟩
  rw [runGenXport_eq lawful draw _ _ (show (start.withKeys draw).dhA = .live from rfl),
    agreed, agreedValue_withKeys] at done
  cases met : agreedValue lib spubBHex epubBHex (initial.withKeys draw) with
  | error fault => rw [met] at done; cases done
  | ok shared =>
      rw [met] at done
      obtain rfl := Except.ok.inj done
      exact ⟨shared, rfl, rfl, rfl, rfl, rfl, rfl⟩

end Crypto

namespace Server

variable {Peer : Type} (config : Config Peer)

/-- What the object holds, by the statement that the receive thread is at. -/
def CryptoInPlace (server : Server Peer) : Prop :=
  match server.wait with
  | .initKeys session remaining =>
      Crypto.InitReaches (config.draws session.number) remaining server.crypto
  | .genXport session locals remaining =>
      Crypto.XportReaches (config.draws session.number) (session.spub.data config.network)
        (session.epub.data config.network) remaining server.crypto locals
  | .sendIdentity session | .sendSpub session | .sendEpub session | .sendXport session
  | .recvDummy session | .recvClientID session | .testFlag session _ | .push session _
  | .setFlag session _ =>
      Crypto.Exchanged (config.draws session.number) (session.spub.data config.network)
        (session.epub.data config.network) server.crypto
  | _ => True

variable {config}

theorem cryptoInPlace_waitMoves {server next : Server Peer} (inPlace : CryptoInPlace config server)
    (moves : WaitMoves config server next) : CryptoInPlace config next := by
  cases moves with
  | recvIdentity | refuse | greet | recvSpub | setFlag => trivial
  | recvEpub => exact .begin _ server.crypto
  | initFails | xportFails | spin => exact inPlace
  | initKeys place done =>
      simp only [CryptoInPlace, place] at inPlace
      exact inPlace.next done
  | callGenXport place =>
      simp only [CryptoInPlace, place] at inPlace
      obtain ⟨start, same⟩ := inPlace.returned
      simp only [CryptoInPlace, same]
      exact .begin _ _ _ start
  | genXport place done =>
      simp only [CryptoInPlace, place] at inPlace
      exact inPlace.next done
  | returnXport place =>
      simp only [CryptoInPlace, place] at inPlace
      exact inPlace.returned
  | sendIdentity place | sendSpub place | sendEpub place | sendXport place | recvDummy place
  | recvClientID place | seeClear place | push place =>
      simp only [CryptoInPlace, place] at inPlace
      exact inPlace

theorem cryptoInPlace_of_reachable {server : Server Peer}
    (reached : (system config).Reachable server) : CryptoInPlace config server := by
  refine TransitionSystem.Reachable.invariant (CryptoInPlace config) ?_ ?_ reached
  · intro start initially
    rcases initially with ⟨crypto, rfl⟩
    trivial
  · intro server who next before taken
    rcases step_cases taken with ⟨-, ⟨message, -, rfl⟩ | ⟨-, waits⟩ | ⟨-, processes⟩⟩
    · exact before
    · exact cryptoInPlace_waitMoves before waits
    · have leaves := processes.leavesReceive
      unfold CryptoInPlace
      rw [leaves.wait, leaves.crypto]
      exact before

end Server

end LicensingServer
