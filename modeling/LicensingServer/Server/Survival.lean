import LicensingServer.Server.HandOff
import LicensingServer.Server.Handshakes
import LicensingServer.Authorization.Calls

/-!
Owns which inputs the server survives: a run ends with both loops going on
exactly when no step of it meets one of the exceptions that nothing catches.

Does not own what is sent to the clients.
-/

set_option autoImplicit false

namespace LicensingServer

open LicensingServer.Foundations

/-- The next statement blocks while there is no frame. -/
def WaitThread.Reads {Peer : Type} : WaitThread Peer → Prop
  | .recvIdentity | .recvWorkload _ | .recvSpub _ _ | .recvEpub _ _ _ | .recvDummy _
  | .recvClientID _ => True
  | _ => False

namespace Server

variable {Peer : Type} (config : Config Peer)

/-- No exception has left a loop: the processing thread can take its next step,
and so can the receive thread unless it waits for a frame. -/
structure GoesOn (server : Server Peer) : Prop where
  alive : server.terminated = none
  processRequest : ∃ next, (system config).step server .processRequest = some next
  waitRequest : server.inbox ≠ [] → ∃ next, (system config).step server .waitRequest = some next

/-- Both public keys fill their blocks, and `Agree` takes them. -/
def KeysAccepted (session : Session Peer) : Prop :=
  publicKeyLength ≤ (Crypto.keyBlock config.lib (session.spub.data config.network)).length ∧
    publicKeyLength ≤ (Crypto.keyBlock config.lib (session.epub.data config.network)).length ∧
    (config.lib.agree (config.draws session.number).staticPrivate
      (config.draws session.number).ephemeralPrivate
      ((Crypto.keyBlock config.lib (session.spub.data config.network)).take publicKeyLength)
      ((Crypto.keyBlock config.lib (session.epub.data config.network)).take
        publicKeyLength)).isSome = true

variable (moments : Nat → Authorization.Moment)

/-- `checkLoginRequest` is called on one object with an open database. -/
def ChecksDatabase : Prop :=
  ∃ statementdirty world, ∀ earlier req,
    Authorization.callAfter moments req earlier 0 (Database.initial true statementdirty) world =
      some (config.check earlier req)

/-- The next statement throws nothing: `ValidateGroup` accepts the group,
`Agree` the keys, and the license that is found is not an individual one. -/
def Servable (server : Server Peer) : Step Peer → Prop
  | .arrive _ => True
  | .waitRequest =>
      match server.wait with
      | .initKeys session (.validateGroup :: _) => (config.draws session.number).groupValid = true
      | .genXport session _ (.agree :: _) => KeysAccepted config session
      | _ => True
  | .processRequest =>
      match server.process with
      | .check req =>
          ¬ Authorization.ReadsLicense individualLicense (moments server.checked.length).tables
            (moments server.checked.length).now req.login.clientID
      | _ => True

variable {config} {moments}

/-! ### Going on -/

theorem exists_processStep (server : Server Peer) : ∃ next, server.processStep config = some next := by
  unfold processStep
  cases server.process with
  | testFlag | testEmpty =>
      simp only
      split_ifs <;> exact ⟨_, rfl⟩
  | front | pop req | check req | encrypt req isValid =>
      simp only
      split <;> exact ⟨_, rfl⟩
  | clearFlag req | sendIdentity reply | sendResult reply => exact ⟨_, rfl⟩

theorem exists_waitStep {server : Server Peer} (arrived : server.wait.Reads → server.inbox ≠ []) :
    ∃ next, server.waitStep config = some next := by
  have reads (goOn : Frame Peer → Server Peer → Server Peer) (stands : server.wait.Reads) :
      ∃ next, server.read goOn = some next := by
    obtain ⟨frame, rest, waiting⟩ := List.exists_cons_of_ne_nil (arrived stands)
    rw [read, waiting]
    exact ⟨_, rfl⟩
  unfold waitStep
  cases place : server.wait with
  | initKeys session remaining | genXport session locals remaining =>
      cases remaining with
      | nil => exact ⟨_, rfl⟩
      | cons statement rest =>
          simp only
          split <;> exact ⟨_, rfl⟩
  | sendIdentity session | sendSpub session | sendEpub session | sendXport session
  | push session message | setFlag session message => exact ⟨_, rfl⟩
  | testFlag session message =>
      simp only
      split_ifs <;> exact ⟨_, rfl⟩
  | _ => exact reads _ (by rw [place]; trivial)

theorem goesOn_iff {server : Server Peer} : GoesOn config server ↔ server.terminated = none := by
  refine ⟨GoesOn.alive, fun alive => ⟨alive, ?_, fun arrived => ?_⟩⟩
  · rw [step_processRequest alive]
    exact exists_processStep server
  · rw [step_waitRequest alive]
    exact exists_waitStep fun _ => arrived

/-! ### What cannot fail -/

/-- Whoever encrypts finds a key block. -/
structure Allocated (server : Server Peer) : Prop where
  xports : server.pushed ≠ [] → server.xports ≠ []
  cek : server.xports ≠ [] → server.crypto.cek.length = defaultKeyLength

theorem allocated_waitMoves (lawful : config.lib.Lawful) {server next : Server Peer}
    (allocated : Allocated server) (inPlace : CryptoInPlace config server)
    (numbered : Numbered server) (moves : WaitMoves config server next) : Allocated next := by
  cases moves with
  | initKeys place done =>
      refine ⟨allocated.xports, fun sent => ?_⟩
      rw [Crypto.init_effect_cek done]
      exact allocated.cek sent
  | genXport place done =>
      exact ⟨allocated.xports, fun sent => Crypto.xport_effect_cek_length (allocated.cek sent) done⟩
  | @sendXport session place =>
      simp only [CryptoInPlace, place] at inPlace
      obtain ⟨shared, -, -, sameKey, -⟩ := inPlace.keys lawful
      refine ⟨fun _ => List.concat_ne_nil _ _, fun _ => ?_⟩
      show server.crypto.cek.length = defaultKeyLength
      rw [sameKey]
      exact (config.draws session.number).contentKey_length
  | @push session message place =>
      have begun := (numbered.session_mem session (by rw [place]; rfl)).2
      have count := numbered.count
      rw [place] at count
      have sent : server.xports ≠ [] := by
        intro none
        rw [none] at count
        simp only [List.length_nil, WaitThread.unsent] at count
        omega
      exact ⟨fun _ => sent, allocated.cek⟩
  | _ => exact ⟨allocated.xports, allocated.cek⟩

theorem allocated_of_reachable (lawful : config.lib.Lawful) {server : Server Peer}
    (reached : (system config).Reachable server) : Allocated server := by
  induction reached with
  | initial start =>
      rcases start with ⟨crypto, rfl⟩
      exact ⟨fun none => absurd rfl none, fun none => absurd rfl none⟩
  | step before met taken allocated =>
      rcases step_cases taken with ⟨-, ⟨message, -, rfl⟩ | ⟨-, waits⟩ | ⟨-, processes⟩⟩
      · exact ⟨allocated.xports, allocated.cek⟩
      · exact allocated_waitMoves lawful allocated (cryptoInPlace_of_reachable before)
          (numbered_of_reachable before) waits
      · have leaves := processes.leavesReceive
        refine ⟨fun pushed => ?_, fun sent => ?_⟩
        · rw [leaves.xports]
          rw [leaves.pushed] at pushed
          exact allocated.xports pushed
        · rw [leaves.crypto]
          rw [leaves.xports] at sent
          exact allocated.cek sent

/-- `encrypt` does not fail once a request is pushed. -/
theorem exists_encrypt (lawful : config.lib.Lawful) {server : Server Peer}
    (reached : (system config).Reachable server) (pushed : server.pushed ≠ []) (text : Bytes) :
    ∃ result, Crypto.encrypt config.lib server.crypto text = .ok result := by
  have allocated := allocated_of_reachable lawful reached
  rw [Crypto.encrypt, readBlock_of_eq (allocated.cek (allocated.xports pushed))]
  exact ⟨_, rfl⟩

/-- No reply fails to be encrypted. -/
theorem exists_encrypt_reply (lawful : config.lib.Lawful) {server : Server Peer}
    (reached : (system config).Reachable server) {req : Queued} {isValid : Bool}
    (place : server.process = .encrypt req isValid) :
    ∃ result, Crypto.encrypt config.lib server.crypto (reply isValid) = .ok result := by
  have inHand : req ∈ server.process.inHand := by
    rw [place]
    exact List.mem_singleton.mpr rfl
  exact exists_encrypt lawful reached
    (List.ne_nil_of_mem (inHand_pushed_of_reachable reached inHand)) _

/-! ### One step -/

theorem keysAccepted_iff {session : Session Peer} :
    KeysAccepted config session ↔
      ∃ shared, Crypto.agreedValue config.lib (session.spub.data config.network)
        (session.epub.data config.network)
        (Crypto.initial.withKeys (config.draws session.number)) = .ok shared := by
  unfold KeysAccepted Crypto.agreedValue
  generalize Crypto.keyBlock config.lib (session.spub.data config.network) = spub
  generalize Crypto.keyBlock config.lib (session.epub.data config.network) = epub
  by_cases spubFull : publicKeyLength ≤ spub.length
  · by_cases epubFull : publicKeyLength ≤ epub.length
    · rw [readBlock_of_le spubFull, readBlock_of_le epubFull]
      simp only [spubFull, epubFull, true_and, bind, Except.bind, Crypto.withKeys]
      cases config.lib.agree (config.draws session.number).staticPrivate
          (config.draws session.number).ephemeralPrivate (spub.take publicKeyLength)
          (epub.take publicKeyLength) with
      | none => simp
      | some shared => simp [pure, Except.pure]
    · rw [readBlock_of_le spubFull, readBlock_of_lt (Nat.lt_of_not_le epubFull)]
      simp [epubFull, bind, Except.bind]
  · rw [readBlock_of_lt (Nat.lt_of_not_le spubFull)]
    simp [spubFull, bind, Except.bind]

theorem not_keysAccepted_iff {session : Session Peer} :
    ¬ KeysAccepted config session ↔
      ∀ shared, Crypto.agreedValue config.lib (session.spub.data config.network)
        (session.epub.data config.network)
        (Crypto.initial.withKeys (config.draws session.number)) ≠ .ok shared := by
  rw [keysAccepted_iff, not_exists]

/-- The receive thread fails in `ValidateGroup` and in `Agree` only. -/
theorem alive_waitMoves_iff (lawful : config.lib.Lawful) {server next : Server Peer}
    (inPlace : CryptoInPlace config server) (alive : server.terminated = none)
    (moves : WaitMoves config server next) :
    next.terminated = none ↔ Servable config moments server .waitRequest := by
  cases moves with
  | initFails place failed =>
      simp only [CryptoInPlace, place] at inPlace
      obtain ⟨rfl, invalid⟩ := inPlace.fails_iff.mp ⟨_, failed⟩
      simp [Servable, place, terminate, invalid]
  | @initKeys session statement rest crypto place done =>
      simp only [CryptoInPlace, place] at inPlace
      apply iff_of_true alive
      simp only [Servable, place]
      split
      · rename_i same
        obtain ⟨rfl, sameRest⟩ := WaitThread.initKeys.inj same
        obtain ⟨rfl, -⟩ := List.cons.inj sameRest
        by_contra invalid
        obtain ⟨fault, failed⟩ := inPlace.fails_iff.mpr ⟨rfl, Bool.not_eq_true _ ▸ invalid⟩
        cases failed.symm.trans done
      · rename_i same
        cases same
      · trivial
  | xportFails place failed =>
      simp only [CryptoInPlace, place] at inPlace
      obtain ⟨rfl, never⟩ := (inPlace.fails_iff lawful).mp ⟨_, failed⟩
      simpa [Servable, place, terminate] using not_keysAccepted_iff.mpr never
  | @genXport session locals statement rest crypto after place done =>
      simp only [CryptoInPlace, place] at inPlace
      apply iff_of_true alive
      simp only [Servable, place]
      split
      · rename_i same
        cases same
      · rename_i same
        obtain ⟨rfl, rfl, sameRest⟩ := WaitThread.genXport.inj same
        obtain ⟨rfl, -⟩ := List.cons.inj sameRest
        by_contra refused
        obtain ⟨fault, failed⟩ :=
          (inPlace.fails_iff lawful).mpr ⟨rfl, not_keysAccepted_iff.mp refused⟩
        cases failed.symm.trans done
      · trivial
  | spin place => exact iff_of_true alive (by simp only [Servable, place])
  | recvIdentity place | refuse place | greet place | recvSpub place | recvEpub place
  | callGenXport place | returnXport place | sendIdentity place | sendSpub place | sendEpub place
  | sendXport place | recvDummy place | recvClientID place | seeClear place | push place
  | setFlag place => exact iff_of_true alive (by simp only [Servable, place])

/-- The processing thread fails in `checkLoginRequest` only. -/
theorem alive_processMoves_iff (lawful : config.lib.Lawful)
    (checked : ChecksDatabase config moments) {server next : Server Peer}
    (reached : (system config).Reachable server) (alive : server.terminated = none)
    (moves : ProcessMoves config server next) :
    next.terminated = none ↔ Servable config moments server .processRequest := by
  have handOff := handOff_of_reachable reached alive
  have answers (req : Queued) : config.check (server.checked.map Queued.login) req.login =
      Authorization.answer (moments server.checked.length) req.login := by
    rcases checked with ⟨statementdirty, world, returns⟩
    have value := returns (server.checked.map Queued.login) req.login
    rw [Authorization.callAfter_eq moments req.login _ 0 world rfl rfl, List.length_map,
      Nat.zero_add] at value
    exact (Option.some.inj value).symm
  cases moves with
  | frontOfEmpty place empty | popOfEmpty place empty =>
      exact absurd empty (handOff.queue_ne_nil (by rw [place]; trivial) (by rw [place]; rfl))
  | @checkFails req what place failed =>
      rw [answers req] at failed
      have individual := (Authorization.answer_throws_iff _ _).mp ⟨what, failed⟩
      simpa [Servable, place, terminate] using individual
  | @check req isValid place done =>
      rw [answers req] at done
      apply iff_of_true alive
      simp only [Servable, place]
      intro individual
      obtain ⟨what, thrown⟩ := (Authorization.answer_throws_iff _ _).mpr individual
      cases thrown.symm.trans done
  | encryptFails place failed =>
      obtain ⟨result, done⟩ := exists_encrypt_reply lawful reached place
      cases failed.symm.trans done
  | spin place | seeSet place | goBack place | goOn place | front place | pop place
  | clearFlag place | encrypt place | sendIdentity place | sendResult place =>
      exact iff_of_true alive (by simp only [Servable, place])

/-- Both loops go on after a run exactly when every step of it was one that
throws nothing. -/
theorem goesOn_iff_servable {config : Config Peer} {moments : Nat → Authorization.Moment}
    (lawful : config.lib.Lawful) (checked : ChecksDatabase config moments) (crypto : Crypto)
    {steps : List (Step Peer)} {last : Server Peer}
    (ran : (system config).run (boot crypto) steps = some last) :
    GoesOn config last ↔
      (system config).Along (Servable config moments) (boot crypto) steps := by
  have start : (system config).Reachable (boot crypto) := .start ⟨crypto, rfl⟩
  refine TransitionSystem.good_iff_along (fun _ _ _ reached taken => reached.next taken) ?_ ?_
    start (goesOn_iff.mpr rfl) ran
  · intro server who next reached good taken
    rw [goesOn_iff] at good ⊢
    rcases step_cases taken with ⟨-, ⟨message, rfl, rfl⟩ | ⟨rfl, waits⟩ | ⟨rfl, processes⟩⟩
    · exact iff_of_true good trivial
    · exact alive_waitMoves_iff lawful (cryptoInPlace_of_reachable reached) good waits
    · exact alive_processMoves_iff lawful checked reached good processes
  · intro server who bad
    cases ended : server.terminated with
    | none => exact absurd (goesOn_iff.mpr ended) bad
    | some fault => simp [system, ended]

/-! ### A key that is no group element -/

/-- The sample server over the test data. -/
def testConfig : Config Bool :=
  { sampleConfig with check := fun _ req =>
      Authorization.answer ⟨Authorization.testTables, 1500000000⟩ req }

theorem testConfig_checksDatabase :
    ChecksDatabase testConfig fun _ => ⟨Authorization.testTables, 1500000000⟩ :=
  ⟨false, Authorization.testWorld, fun earlier req =>
    Authorization.callAfter_eq (fun _ => ⟨Authorization.testTables, 1500000000⟩) req earlier 0
      Authorization.testWorld rfl rfl⟩

/-- A greeting with two keys of all ones, which exceed the modulus. -/
def hugeKeys : Message Bool where
  sender := true
  payload := [greeting, ascii "0x" ++ List.replicate 256 102, ascii "0x" ++ List.replicate 256 102]
  nonempty := List.cons_ne_nil _ _

def hugeKeysSteps : List (Step Bool) := .arrive hugeKeys :: List.replicate 18 .waitRequest

theorem hugeKeys_refused : ∃ server,
    (system testConfig).run (boot .initial) hugeKeysSteps = some server ∧
      server.terminated =
        some (.thrown (.runtimeError "Failed to reach shared secret (A)")) := by
  apply TransitionSystem.ends_in
  decide +kernel

theorem goesOn_iff_servable_huge_keys : ∃ server : Server Bool,
    server.terminated =
        some (.thrown (.runtimeError "Failed to reach shared secret (A)")) ∧
      (GoesOn testConfig server ↔
        (system testConfig).Along
          (Servable testConfig fun _ => ⟨Authorization.testTables, 1500000000⟩)
          (boot .initial) hugeKeysSteps) := by
  obtain ⟨server, ran, thrown⟩ := hugeKeys_refused
  have lawful : testConfig.lib.Lawful := Reference.library_lawful
  exact ⟨server, thrown, goesOn_iff_servable lawful testConfig_checksDatabase .initial ran⟩

/-- One message of a stranger ends the server. -/
theorem huge_keys_end_server :
    ¬ ∀ server : Server Bool, (system testConfig).Reachable server → GoesOn testConfig server := by
  intro survives
  obtain ⟨server, ran, thrown⟩ := hugeKeys_refused
  have start : (system testConfig).Reachable (boot .initial) := .start ⟨.initial, rfl⟩
  have alive := (survives server (start.of_run ran)).alive
  rw [thrown] at alive
  cases alive

end Server

end LicensingServer
