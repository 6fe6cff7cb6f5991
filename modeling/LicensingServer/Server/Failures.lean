import LicensingServer.Server.Survival

/-!
Owns why the server process ends: every failure that can escape one of its two
threads, each with what causes it.

Does not own which inputs keep the process alive.
-/

set_option autoImplicit false

namespace LicensingServer

open LicensingServer.Foundations

namespace Crypto

variable {lib : CryptoPP} {draw : KeyDraw lib} {fault : Fault}

/-- What fails in `initKeyExchangeParams` is the group test. -/
theorem InitReaches.fault_eq {statement : InitStatement} {rest : List InitStatement}
    {crypto : Crypto} (reaches : InitReaches draw (statement :: rest) crypto)
    (failed : statement.effect draw crypto = .error fault) :
    draw.groupValid = false ∧
      fault = .thrown (.runtimeError "Failed to validate prime and generator") := by
  obtain ⟨rfl, invalid⟩ := reaches.fails_iff.mp ⟨fault, failed⟩
  refine ⟨invalid, ?_⟩
  rw [InitStatement.effect, invalid] at failed
  exact (Except.error.inj failed).symm

/-- What fails in `genXport` is the agreement. -/
theorem XportReaches.fault_eq (lawful : lib.Lawful) {spubBHex epubBHex : Bytes}
    {statement : XportStatement} {rest : List XportStatement} {crypto : Crypto}
    {locals : XportLocals}
    (reaches : XportReaches draw spubBHex epubBHex (statement :: rest) crypto locals)
    (failed : statement.effect lib draw crypto locals = .error fault) :
    agreedValue lib spubBHex epubBHex (initial.withKeys draw) = .error fault := by
  obtain ⟨start, consumed, whole, ran⟩ := reaches
  have value := runGenXport_eq lawful draw spubBHex epubBHex
    (show (start.withKeys draw).dhA = .live from rfl)
  rw [runGenXport, ← whole, StraightLine.execute_append _ _ _ ran,
    StraightLine.execute_cons_error _ _ failed, agreed, agreedValue_withKeys] at value
  cases met : agreedValue lib spubBHex epubBHex (initial.withKeys draw) with
  | ok shared =>
      rw [met] at value
      cases value
  | error other =>
      rw [met] at value
      exact (congrArg Except.error (Except.error.inj value)).symm

/-- The agreement fails on a short key block, or on keys that it refuses. -/
theorem agreedValue_error {spubBHex epubBHex : Bytes} {crypto : Crypto}
    (failed : agreedValue lib spubBHex epubBHex crypto = .error fault) :
    (fault = .readPastEnd ∧
        ((keyBlock lib spubBHex).length < publicKeyLength ∨
          (keyBlock lib epubBHex).length < publicKeyLength)) ∨
      (fault = .thrown (.runtimeError "Failed to reach shared secret (A)") ∧
        publicKeyLength ≤ (keyBlock lib spubBHex).length ∧
        publicKeyLength ≤ (keyBlock lib epubBHex).length ∧
        lib.agree crypto.sprivA crypto.eprivA ((keyBlock lib spubBHex).take publicKeyLength)
          ((keyBlock lib epubBHex).take publicKeyLength) = none) := by
  unfold agreedValue at failed
  by_cases spubFull : publicKeyLength ≤ (keyBlock lib spubBHex).length
  · by_cases epubFull : publicKeyLength ≤ (keyBlock lib epubBHex).length
    · rw [readBlock_of_le spubFull, readBlock_of_le epubFull] at failed
      simp only [bind, Except.bind] at failed
      split at failed
      · rename_i refused
        exact .inr ⟨(Except.error.inj failed).symm, spubFull, epubFull, refused⟩
      · cases failed
    · rw [readBlock_of_le spubFull, readBlock_of_lt (Nat.lt_of_not_le epubFull)] at failed
      exact .inl ⟨(Except.error.inj failed).symm, .inr (Nat.lt_of_not_le epubFull)⟩
  · rw [readBlock_of_lt (Nat.lt_of_not_le spubFull)] at failed
    exact .inl ⟨(Except.error.inj failed).symm, .inl (Nat.lt_of_not_le spubFull)⟩

end Crypto

namespace Server

variable {Peer : Type} (config : Config Peer)

/-- What ends the process, in the handshake begun last or in the call of
`checkLoginRequest` made last. -/
inductive Failure (server : Server Peer) : Fault → Prop
  /-- `ValidateGroup` refuses the fixed group. -/
  | group {session : Session Peer} (begun : server.sessions.getLast? = some session)
      (invalid : (config.draws session.number).groupValid = false) :
      Failure server (.thrown (.runtimeError "Failed to validate prime and generator"))
  /-- `Agree` reads past the end of a key block of the peer. -/
  | shortKey {session : Session Peer} (begun : server.sessions.getLast? = some session)
      (short : (Crypto.keyBlock config.lib (session.spub.data config.network)).length <
          publicKeyLength ∨
        (Crypto.keyBlock config.lib (session.epub.data config.network)).length <
          publicKeyLength) :
      Failure server .readPastEnd
  /-- `Agree` refuses the keys of the peer. -/
  | refusedKey {session : Session Peer} (begun : server.sessions.getLast? = some session)
      (spubFull : publicKeyLength ≤
        (Crypto.keyBlock config.lib (session.spub.data config.network)).length)
      (epubFull : publicKeyLength ≤
        (Crypto.keyBlock config.lib (session.epub.data config.network)).length)
      (refused : config.lib.agree (config.draws session.number).staticPrivate
        (config.draws session.number).ephemeralPrivate
        ((Crypto.keyBlock config.lib (session.spub.data config.network)).take publicKeyLength)
        ((Crypto.keyBlock config.lib (session.epub.data config.network)).take
          publicKeyLength) = none) :
      Failure server (.thrown (.runtimeError "Failed to reach shared secret (A)"))
  /-- `checkLoginRequest` throws. -/
  | check {earlier : List Queued} {req : Queued} {what : Exception}
      (checked : server.checked = earlier ++ [req]) (isPushed : req ∈ server.pushed)
      (thrown : config.check (earlier.map Queued.login) req.login = .error what) :
      Failure server (.thrown what)

variable {config}

theorem failure_waitMoves (lawful : config.lib.Lawful) {server next : Server Peer}
    (inPlace : CryptoInPlace config server) (numbered : Numbered server)
    (alive : server.terminated = none) (moves : WaitMoves config server next) {fault : Fault}
    (ended : next.terminated = some fault) : Failure config next fault := by
  cases moves with
  | initFails place failed =>
      obtain rfl := Option.some.inj ended
      have begun := numbered.current _ (by rw [place]; rfl)
      simp only [CryptoInPlace, place] at inPlace
      obtain ⟨invalid, rfl⟩ := inPlace.fault_eq failed
      exact .group begun invalid
  | xportFails place failed =>
      obtain rfl := Option.some.inj ended
      have begun := numbered.current _ (by rw [place]; rfl)
      simp only [CryptoInPlace, place] at inPlace
      rcases Crypto.agreedValue_error (inPlace.fault_eq lawful failed) with
        ⟨rfl, short⟩ | ⟨rfl, spubFull, epubFull, refused⟩
      · exact .shortKey begun short
      · exact .refusedKey begun spubFull epubFull refused
  | _ => cases alive.symm.trans ended

theorem failure_processMoves (lawful : config.lib.Lawful) {server next : Server Peer}
    (reached : (system config).Reachable server) (alive : server.terminated = none)
    (moves : ProcessMoves config server next) {fault : Fault}
    (ended : next.terminated = some fault) : Failure config next fault := by
  have handOff := handOff_of_reachable reached alive
  cases moves with
  | frontOfEmpty place empty | popOfEmpty place empty =>
      exact absurd empty (handOff.queue_ne_nil (by rw [place]; trivial) (by rw [place]; rfl))
  | checkFails place failed =>
      obtain rfl := Option.some.inj ended
      exact .check rfl (handOff.inHand_pushed (by simp [place, ProcessThread.inHand])) failed
  | encryptFails place failed =>
      obtain ⟨result, done⟩ := exists_encrypt_reply lawful reached place
      cases failed.symm.trans done
  | _ => cases alive.symm.trans ended

theorem failure_of_ended (lawful : config.lib.Lawful) {server : Server Peer}
    (reached : (system config).Reachable server) {fault : Fault}
    (ended : server.terminated = some fault) : Failure config server fault := by
  cases reached with
  | initial start =>
      obtain ⟨crypto, rfl⟩ := start
      cases ended
  | step before _ taken =>
      rcases step_cases taken with ⟨alive, ⟨message, -, rfl⟩ | ⟨-, waits⟩ | ⟨-, processes⟩⟩
      · cases alive.symm.trans ended
      · exact failure_waitMoves lawful (cryptoInPlace_of_reachable before)
          (numbered_of_reachable before) alive waits ended
      · exact failure_processMoves lawful before alive processes ended

/-- Whatever arrives and however the threads interleave, the process ends in one
of four ways only: no pointer is used that is not live, and no empty queue is
read. Nor does `encrypt` end it, which never fails where a reply is to be
encrypted. -/
theorem failure_of_terminated {config : Config Peer} (lawful : config.lib.Lawful)
    {server : Server Peer} (reached : (system config).Reachable server) {fault : Fault}
    (ended : server.terminated = some fault) :
    Failure config server fault ∧
      ∀ req isValid, server.process = .encrypt req isValid →
        ∃ result, Crypto.encrypt config.lib server.crypto (reply isValid) = .ok result :=
  ⟨failure_of_ended lawful reached ended,
    fun _ _ place => exists_encrypt_reply lawful reached place⟩

/-- The failure that two keys of all ones lead to. -/
theorem failure_of_terminated_huge_keys : ∃ server : Server Bool,
    server.terminated =
        some (.thrown (.runtimeError "Failed to reach shared secret (A)")) ∧
      Failure testConfig server (.thrown (.runtimeError "Failed to reach shared secret (A)")) ∧
      ∀ req isValid, server.process = .encrypt req isValid →
        ∃ result, Crypto.encrypt testConfig.lib server.crypto (reply isValid) = .ok result := by
  obtain ⟨server, ran, thrown⟩ := hugeKeys_refused
  have lawful : testConfig.lib.Lawful := Reference.library_lawful
  have start : (system testConfig).Reachable (boot .initial) := .start ⟨.initial, rfl⟩
  exact ⟨server, thrown, failure_of_terminated lawful (start.of_run ran) thrown⟩

end Server

end LicensingServer
