import LicensingServer.Server.ReceiveLoop
import LicensingServer.Crypto.KeyExchange
import LicensingServer.Foundations.TransitionSystem

/-!
Owns the server process: its shared variables, its two threads statement by
statement, and every interleaving of their steps with the arrival of messages.

Memory is sequentially consistent, and what the threads print is left out.
Beside the variables of the program a state records what has happened so far.
-/

set_option autoImplicit false

namespace LicensingServer

open LicensingServer.Foundations

/-- What the server runs with. -/
structure Config (Peer : Type) where
  network : Network Peer
  lib : CryptoPP
  /-- The random choices of each key exchange. -/
  draws : Nat → KeyDraw lib
  /-- What `checkLoginRequest` returns after earlier calls. -/
  check : List LoginRequest → LoginRequest → Except Exception Bool

/-- The variables of a handshake, and its number. -/
structure Session (Peer : Type) where
  clientIdentity : Frame Peer
  workload : Frame Peer
  spub : Frame Peer
  epub : Frame Peer
  number : Nat
deriving DecidableEq, Repr

/-- A request in the queue, and the handshake that it belongs to. -/
structure Queued where
  login : LoginRequest
  handshake : Nat
deriving DecidableEq, Repr

/-- An encrypted result, and the key that encrypted it. -/
structure Sealed where
  queued : Queued
  isValid : Bool
  key : Bytes
  result : Bytes
deriving DecidableEq, Repr

/-- The message that a frame is meant to be part of, by the number of its
handshake. -/
inductive Origin
  | handshake (number : Nat)
  | reply (number : Nat)
deriving DecidableEq, Repr

/-- A frame handed to the socket, with the flag `ZMQ_SNDMORE`. -/
structure OutFrame where
  data : Bytes
  more : Bool
  origin : Origin
deriving DecidableEq, Repr

/-- A wrapped key as it was sent. -/
structure SentXport where
  handshake : Nat
  clientIdentity : Bytes
  kek : Bytes
  xport : Bytes
deriving DecidableEq, Repr

/-- The statement that `waitRequest_t` executes next. -/
inductive WaitThread (Peer : Type)
  | recvIdentity
  | recvWorkload (clientIdentity : Frame Peer)
  | recvSpub (clientIdentity workload : Frame Peer)
  | recvEpub (clientIdentity workload spub : Frame Peer)
  | initKeys (session : Session Peer) (remaining : List Crypto.InitStatement)
  | genXport (session : Session Peer) (locals : Crypto.XportLocals)
      (remaining : List Crypto.XportStatement)
  | sendIdentity (session : Session Peer)
  | sendSpub (session : Session Peer)
  | sendEpub (session : Session Peer)
  | sendXport (session : Session Peer)
  | recvDummy (session : Session Peer)
  | recvClientID (session : Session Peer)
  /-- `while (isAddingQueue.load() == true) {}`. -/
  | testFlag (session : Session Peer) (message : Frame Peer)
  | push (session : Session Peer) (message : Frame Peer)
  | setFlag (session : Session Peer) (message : Frame Peer)
deriving DecidableEq, Repr

/-- The statement that `processRequest_t` executes next. -/
inductive ProcessThread
  /-- `while (isAddingQueue.load() == false) {continue;}`. -/
  | testFlag
  | testEmpty
  | front
  | pop (req : Queued)
  | clearFlag (req : Queued)
  | check (req : Queued)
  | encrypt (req : Queued) (isValid : Bool)
  | sendIdentity (reply : Sealed)
  | sendResult (reply : Sealed)
deriving DecidableEq, Repr

structure Server (Peer : Type) where
  inbox : List (Frame Peer)
  outbox : List OutFrame
  crypto : Crypto
  isAddingQueue : Bool
  clientIdentityQueue : List Queued
  wait : WaitThread Peer
  process : ProcessThread
  /-- The failure that has ended the process. -/
  terminated : Option Fault
  arrived : List (Message Peer)
  received : List (Frame Peer)
  /-- The handshakes begun. -/
  sessions : List (Session Peer)
  xports : List SentXport
  pushed : List Queued
  popped : List Queued
  checked : List Queued
  encrypted : List Sealed
  replied : List Sealed
deriving DecidableEq

/-- Who moves. -/
inductive Step (Peer : Type)
  | arrive (message : Message Peer)
  | waitRequest
  | processRequest

namespace Server

variable {Peer : Type}

/-- The start of `main`, with the object `crypto` as its constructor leaves it
or in any other state. -/
def boot (crypto : Crypto) : Server Peer where
  inbox := []
  outbox := []
  crypto := crypto
  isAddingQueue := false
  clientIdentityQueue := []
  wait := .recvIdentity
  process := .testFlag
  terminated := none
  arrived := []
  received := []
  sessions := []
  xports := []
  pushed := []
  popped := []
  checked := []
  encrypted := []
  replied := []

/-! ### Statements -/

/-- A failure that no handler catches ends the process. -/
def terminate (server : Server Peer) (fault : Fault) : Server Peer :=
  { server with terminated := some fault }

def take (server : Server Peer) (frame : Frame Peer) (rest : List (Frame Peer)) : Server Peer :=
  { server with
    inbox := rest
    received := server.received ++ [frame] }

/-- `s_recv`, which blocks while there is no frame. -/
def read (server : Server Peer) (goOn : Frame Peer → Server Peer → Server Peer) :
    Option (Server Peer) :=
  match server.inbox with
  | [] => none
  | frame :: rest => some (goOn frame (server.take frame rest))

def recv (server : Server Peer) (goOn : Frame Peer → WaitThread Peer) : Option (Server Peer) :=
  server.read fun frame next => { next with wait := goOn frame }

def beginSession (server : Server Peer) (session : Session Peer) : Server Peer :=
  { server with
    sessions := server.sessions ++ [session]
    wait := .initKeys session Crypto.initKeyExchangeParams }

/-- `s_sendmore` or `s_send`. -/
def send (server : Server Peer) (data : Bytes) (more : Bool) (origin : Origin) : Server Peer :=
  { server with outbox := server.outbox ++ [⟨data, more, origin⟩] }

variable (config : Config Peer)

/-- The request that a handshake leads to. -/
def request (session : Session Peer) (message : Frame Peer) : Queued where
  login := {
    clientIdentity := session.clientIdentity.data config.network
    clientID := message.data config.network
    ip := message.peerAddress config.network }
  handshake := session.number

/-- One statement of `waitRequest_t`. -/
def waitStep (server : Server Peer) : Option (Server Peer) :=
  match server.wait with
  | .recvIdentity => server.recv .recvWorkload
  | .recvWorkload clientIdentity => server.recv fun workload =>
      if workload.data config.network ≠ greeting then .recvIdentity
      else .recvSpub clientIdentity workload
  | .recvSpub clientIdentity workload => server.recv (.recvEpub clientIdentity workload)
  | .recvEpub clientIdentity workload spub =>
      server.read fun epub next =>
        next.beginSession ⟨clientIdentity, workload, spub, epub, server.sessions.length⟩
  | .initKeys session [] =>
      some { server with
        wait := .genXport session
          (.enter (session.spub.data config.network) (session.epub.data config.network))
          Crypto.genXport }
  | .initKeys session (statement :: rest) =>
      match statement.effect (config.draws session.number) server.crypto with
      | .error fault => some (server.terminate fault)
      | .ok crypto => some { server with crypto, wait := .initKeys session rest }
  | .genXport session _ [] => some { server with wait := .sendIdentity session }
  | .genXport session locals (statement :: rest) =>
      match statement.effect config.lib (config.draws session.number) server.crypto locals with
      | .error fault => some (server.terminate fault)
      | .ok (crypto, locals) =>
          some { server with crypto, wait := .genXport session locals rest }
  | .sendIdentity session =>
      some { server.send (session.clientIdentity.data config.network) true
          (.handshake session.number) with
        wait := .sendSpub session }
  | .sendSpub session =>
      some { server.send (Crypto.spubHexStr config.lib server.crypto) true
          (.handshake session.number) with
        wait := .sendEpub session }
  | .sendEpub session =>
      some { server.send (Crypto.epubHexStr config.lib server.crypto) true
          (.handshake session.number) with
        wait := .sendXport session }
  | .sendXport session =>
      some { server.send (Crypto.xportHexStr config.lib server.crypto) false
          (.handshake session.number) with
        wait := .recvDummy session
        xports := server.xports ++ [⟨session.number, session.clientIdentity.data config.network,
          server.crypto.kek, server.crypto.xport⟩] }
  | .recvDummy session => server.recv fun _ => .recvClientID session
  | .recvClientID session => server.recv (.testFlag session)
  | .testFlag session message =>
      if server.isAddingQueue then some server
      else some { server with wait := .push session message }
  | .push session message =>
      some { server with
        clientIdentityQueue := server.clientIdentityQueue ++ [request config session message]
        pushed := server.pushed ++ [request config session message]
        wait := .setFlag session message }
  | .setFlag _ _ => some { server with isAddingQueue := true, wait := .recvIdentity }

/-- The text of a result. -/
def reply (isValid : Bool) : Bytes := if isValid then successfulLoginReply else failedLoginReply

/-- One statement of `processRequest_t`. -/
def processStep (server : Server Peer) : Option (Server Peer) :=
  match server.process with
  | .testFlag =>
      if server.isAddingQueue then some { server with process := .testEmpty } else some server
  | .testEmpty =>
      if server.clientIdentityQueue.isEmpty then some { server with process := .testFlag }
      else some { server with process := .front }
  | .front =>
      match server.clientIdentityQueue with
      | [] => some (server.terminate .emptyQueue)
      | req :: _ => some { server with process := .pop req }
  | .pop req =>
      match server.clientIdentityQueue with
      | [] => some (server.terminate .emptyQueue)
      | first :: rest =>
          some { server with
            clientIdentityQueue := rest
            popped := server.popped ++ [first]
            process := .clearFlag req }
  | .clearFlag req => some { server with isAddingQueue := false, process := .check req }
  | .check req =>
      match config.check (server.checked.map Queued.login) req.login with
      | .error what =>
          some { server.terminate (.thrown what) with checked := server.checked ++ [req] }
      | .ok isValid =>
          some { server with checked := server.checked ++ [req], process := .encrypt req isValid }
  | .encrypt req isValid =>
      match Crypto.encrypt config.lib server.crypto (reply isValid) with
      | .error fault => some (server.terminate fault)
      | .ok result =>
          let sealed : Sealed := ⟨req, isValid, server.crypto.cek, result⟩
          some { server with
            encrypted := server.encrypted ++ [sealed]
            process := .sendIdentity sealed }
  | .sendIdentity sealed =>
      some { server.send sealed.queued.login.clientIdentity true (.reply sealed.queued.handshake) with
        process := .sendResult sealed }
  | .sendResult sealed =>
      some { server.send sealed.result false (.reply sealed.queued.handshake) with
        replied := server.replied ++ [sealed]
        process := .testFlag }

/-- A message arrives whole. -/
def arrive (server : Server Peer) (message : Message Peer) : Server Peer :=
  { server with
    inbox := server.inbox ++ message.frames
    arrived := server.arrived ++ [message] }

/-- The server with its two threads. -/
def system : TransitionSystem (Server Peer) (Step Peer) where
  initial server := ∃ crypto, server = boot crypto
  step server who :=
    if server.terminated.isSome then none
    else
      match who with
      | .arrive message => some (server.arrive message)
      | .waitRequest => server.waitStep config
      | .processRequest => server.processStep config

/-- Whether a key exchange returns, as the random choices of its number and the
received texts determine it. -/
def keyExchange (number : Nat) (spub epub : Bytes) : Bool :=
  (config.draws number).groupValid &&
    (Crypto.agreedValue config.lib spub epub
      (Crypto.initial.withKeys (config.draws number))).isOk

/-! ### What a step does -/

theorem step_waitRequest {config : Config Peer} {server : Server Peer}
    (alive : server.terminated = none) :
    (system config).step server .waitRequest = server.waitStep config := by
  simp only [system, alive, Option.isSome_none, Bool.false_eq_true, if_false]

theorem step_processRequest {config : Config Peer} {server : Server Peer}
    (alive : server.terminated = none) :
    (system config).step server .processRequest = server.processStep config := by
  simp only [system, alive, Option.isSome_none, Bool.false_eq_true, if_false]

theorem read_eq_some {server next : Server Peer} {goOn : Frame Peer → Server Peer → Server Peer}
    (taken : server.read goOn = some next) :
    ∃ frame rest, server.inbox = frame :: rest ∧ next = goOn frame (server.take frame rest) := by
  unfold read at taken
  cases waiting : server.inbox with
  | nil => simp [waiting] at taken
  | cons frame rest =>
      rw [waiting] at taken
      exact ⟨frame, rest, rfl, (Option.some.inj taken).symm⟩

theorem recv_eq_some {server next : Server Peer} {goOn : Frame Peer → WaitThread Peer}
    (taken : server.recv goOn = some next) :
    ∃ frame rest, server.inbox = frame :: rest ∧
      next = { server.take frame rest with wait := goOn frame } :=
  read_eq_some taken

/-- The steps of the receive thread, one constructor for each outcome of a
statement. -/
inductive WaitMoves (config : Config Peer) (server : Server Peer) : Server Peer → Prop
  | recvIdentity {frame rest} (place : server.wait = .recvIdentity)
      (waiting : server.inbox = frame :: rest) :
      WaitMoves config server { server.take frame rest with wait := .recvWorkload frame }
  | refuse {clientIdentity frame rest} (place : server.wait = .recvWorkload clientIdentity)
      (waiting : server.inbox = frame :: rest) (other : frame.data config.network ≠ greeting) :
      WaitMoves config server { server.take frame rest with wait := .recvIdentity }
  | greet {clientIdentity frame rest} (place : server.wait = .recvWorkload clientIdentity)
      (waiting : server.inbox = frame :: rest) (greets : frame.data config.network = greeting) :
      WaitMoves config server
        { server.take frame rest with wait := .recvSpub clientIdentity frame }
  | recvSpub {clientIdentity workload frame rest}
      (place : server.wait = .recvSpub clientIdentity workload)
      (waiting : server.inbox = frame :: rest) :
      WaitMoves config server
        { server.take frame rest with wait := .recvEpub clientIdentity workload frame }
  | recvEpub {clientIdentity workload spub frame rest}
      (place : server.wait = .recvEpub clientIdentity workload spub)
      (waiting : server.inbox = frame :: rest) :
      WaitMoves config server ((server.take frame rest).beginSession
        ⟨clientIdentity, workload, spub, frame, server.sessions.length⟩)
  | initFails {session statement rest fault}
      (place : server.wait = .initKeys session (statement :: rest))
      (failed : statement.effect (config.draws session.number) server.crypto = .error fault) :
      WaitMoves config server (server.terminate fault)
  | initKeys {session statement rest crypto}
      (place : server.wait = .initKeys session (statement :: rest))
      (done : statement.effect (config.draws session.number) server.crypto = .ok crypto) :
      WaitMoves config server { server with crypto, wait := .initKeys session rest }
  | callGenXport {session} (place : server.wait = .initKeys session []) :
      WaitMoves config server { server with
        wait := .genXport session
          (.enter (session.spub.data config.network) (session.epub.data config.network))
          Crypto.genXport }
  | xportFails {session locals statement rest fault}
      (place : server.wait = .genXport session locals (statement :: rest))
      (failed : statement.effect config.lib (config.draws session.number) server.crypto locals =
        .error fault) :
      WaitMoves config server (server.terminate fault)
  | genXport {session locals statement rest crypto after}
      (place : server.wait = .genXport session locals (statement :: rest))
      (done : statement.effect config.lib (config.draws session.number) server.crypto locals =
        .ok (crypto, after)) :
      WaitMoves config server { server with crypto, wait := .genXport session after rest }
  | returnXport {session locals} (place : server.wait = .genXport session locals []) :
      WaitMoves config server { server with wait := .sendIdentity session }
  | sendIdentity {session} (place : server.wait = .sendIdentity session) :
      WaitMoves config server
        { server.send (session.clientIdentity.data config.network) true
            (.handshake session.number) with
          wait := .sendSpub session }
  | sendSpub {session} (place : server.wait = .sendSpub session) :
      WaitMoves config server
        { server.send (Crypto.spubHexStr config.lib server.crypto) true
            (.handshake session.number) with
          wait := .sendEpub session }
  | sendEpub {session} (place : server.wait = .sendEpub session) :
      WaitMoves config server
        { server.send (Crypto.epubHexStr config.lib server.crypto) true
            (.handshake session.number) with
          wait := .sendXport session }
  | sendXport {session} (place : server.wait = .sendXport session) :
      WaitMoves config server
        { server.send (Crypto.xportHexStr config.lib server.crypto) false
            (.handshake session.number) with
          wait := .recvDummy session
          xports := server.xports ++ [⟨session.number, session.clientIdentity.data config.network,
            server.crypto.kek, server.crypto.xport⟩] }
  | recvDummy {session frame rest} (place : server.wait = .recvDummy session)
      (waiting : server.inbox = frame :: rest) :
      WaitMoves config server { server.take frame rest with wait := .recvClientID session }
  | recvClientID {session frame rest} (place : server.wait = .recvClientID session)
      (waiting : server.inbox = frame :: rest) :
      WaitMoves config server { server.take frame rest with wait := .testFlag session frame }
  | spin {session message} (place : server.wait = .testFlag session message)
      (isSet : server.isAddingQueue = true) : WaitMoves config server server
  | seeClear {session message} (place : server.wait = .testFlag session message)
      (isClear : server.isAddingQueue = false) :
      WaitMoves config server { server with wait := .push session message }
  | push {session message} (place : server.wait = .push session message) :
      WaitMoves config server { server with
        clientIdentityQueue := server.clientIdentityQueue ++ [request config session message]
        pushed := server.pushed ++ [request config session message]
        wait := .setFlag session message }
  | setFlag {session message} (place : server.wait = .setFlag session message) :
      WaitMoves config server { server with isAddingQueue := true, wait := .recvIdentity }

theorem waitStep_moves {config : Config Peer} {server next : Server Peer}
    (taken : server.waitStep config = some next) : WaitMoves config server next := by
  unfold waitStep at taken
  cases place : server.wait with
  | recvIdentity =>
      rw [place] at taken
      obtain ⟨frame, rest, waiting, rfl⟩ := recv_eq_some taken
      exact .recvIdentity place waiting
  | recvWorkload clientIdentity =>
      rw [place] at taken
      obtain ⟨frame, rest, waiting, rfl⟩ := recv_eq_some taken
      by_cases greets : frame.data config.network = greeting
      · rw [if_neg (not_not_intro greets)]
        exact .greet place waiting greets
      · rw [if_pos greets]
        exact .refuse place waiting greets
  | recvSpub clientIdentity workload =>
      rw [place] at taken
      obtain ⟨frame, rest, waiting, rfl⟩ := recv_eq_some taken
      exact .recvSpub place waiting
  | recvEpub clientIdentity workload spub =>
      rw [place] at taken
      obtain ⟨frame, rest, waiting, rfl⟩ := read_eq_some taken
      exact .recvEpub place waiting
  | initKeys session remaining =>
      rw [place] at taken
      cases remaining with
      | nil =>
          obtain rfl := Option.some.inj taken
          exact .callGenXport place
      | cons statement rest =>
          simp only at taken
          split at taken
          case h_1 fault failed =>
              obtain rfl := Option.some.inj taken
              exact .initFails place failed
          case h_2 crypto done =>
              obtain rfl := Option.some.inj taken
              exact .initKeys place done
  | genXport session locals remaining =>
      rw [place] at taken
      cases remaining with
      | nil =>
          obtain rfl := Option.some.inj taken
          exact .returnXport place
      | cons statement rest =>
          simp only at taken
          split at taken
          case h_1 fault failed =>
              obtain rfl := Option.some.inj taken
              exact .xportFails place failed
          case h_2 crypto after done =>
              obtain rfl := Option.some.inj taken
              exact .genXport place done
  | sendIdentity session =>
      rw [place] at taken
      obtain rfl := Option.some.inj taken
      exact .sendIdentity place
  | sendSpub session =>
      rw [place] at taken
      obtain rfl := Option.some.inj taken
      exact .sendSpub place
  | sendEpub session =>
      rw [place] at taken
      obtain rfl := Option.some.inj taken
      exact .sendEpub place
  | sendXport session =>
      rw [place] at taken
      obtain rfl := Option.some.inj taken
      exact .sendXport place
  | recvDummy session =>
      rw [place] at taken
      obtain ⟨frame, rest, waiting, rfl⟩ := recv_eq_some taken
      exact .recvDummy place waiting
  | recvClientID session =>
      rw [place] at taken
      obtain ⟨frame, rest, waiting, rfl⟩ := recv_eq_some taken
      exact .recvClientID place waiting
  | testFlag session message =>
      simp only [place] at taken
      split_ifs at taken with isSet
      · obtain rfl := Option.some.inj taken
        exact .spin place isSet
      · obtain rfl := Option.some.inj taken
        exact .seeClear place (Bool.not_eq_true _ ▸ isSet)
  | push session message =>
      rw [place] at taken
      obtain rfl := Option.some.inj taken
      exact .push place
  | setFlag session message =>
      rw [place] at taken
      obtain rfl := Option.some.inj taken
      exact .setFlag place

/-- The steps of the processing thread. -/
inductive ProcessMoves (config : Config Peer) (server : Server Peer) : Server Peer → Prop
  | spin (place : server.process = .testFlag) (isClear : server.isAddingQueue = false) :
      ProcessMoves config server server
  | seeSet (place : server.process = .testFlag) (isSet : server.isAddingQueue = true) :
      ProcessMoves config server { server with process := .testEmpty }
  | goBack (place : server.process = .testEmpty) (empty : server.clientIdentityQueue = []) :
      ProcessMoves config server { server with process := .testFlag }
  | goOn (place : server.process = .testEmpty) (nonempty : server.clientIdentityQueue ≠ []) :
      ProcessMoves config server { server with process := .front }
  | frontOfEmpty (place : server.process = .front) (empty : server.clientIdentityQueue = []) :
      ProcessMoves config server (server.terminate .emptyQueue)
  | front {req rest} (place : server.process = .front)
      (queue : server.clientIdentityQueue = req :: rest) :
      ProcessMoves config server { server with process := .pop req }
  | popOfEmpty {req} (place : server.process = .pop req)
      (empty : server.clientIdentityQueue = []) :
      ProcessMoves config server (server.terminate .emptyQueue)
  | pop {req first rest} (place : server.process = .pop req)
      (queue : server.clientIdentityQueue = first :: rest) :
      ProcessMoves config server { server with
        clientIdentityQueue := rest
        popped := server.popped ++ [first]
        process := .clearFlag req }
  | clearFlag {req} (place : server.process = .clearFlag req) :
      ProcessMoves config server { server with isAddingQueue := false, process := .check req }
  | checkFails {req what} (place : server.process = .check req)
      (failed : config.check (server.checked.map Queued.login) req.login = .error what) :
      ProcessMoves config server
        { server.terminate (.thrown what) with checked := server.checked ++ [req] }
  | check {req isValid} (place : server.process = .check req)
      (done : config.check (server.checked.map Queued.login) req.login = .ok isValid) :
      ProcessMoves config server { server with
        checked := server.checked ++ [req]
        process := .encrypt req isValid }
  | encryptFails {req isValid fault} (place : server.process = .encrypt req isValid)
      (failed : Crypto.encrypt config.lib server.crypto (reply isValid) = .error fault) :
      ProcessMoves config server (server.terminate fault)
  | encrypt {req isValid result} (place : server.process = .encrypt req isValid)
      (done : Crypto.encrypt config.lib server.crypto (reply isValid) = .ok result) :
      ProcessMoves config server { server with
        encrypted := server.encrypted ++ [⟨req, isValid, server.crypto.cek, result⟩]
        process := .sendIdentity ⟨req, isValid, server.crypto.cek, result⟩ }
  | sendIdentity {sealed} (place : server.process = .sendIdentity sealed) :
      ProcessMoves config server
        { server.send sealed.queued.login.clientIdentity true (.reply sealed.queued.handshake) with
          process := .sendResult sealed }
  | sendResult {sealed} (place : server.process = .sendResult sealed) :
      ProcessMoves config server
        { server.send sealed.result false (.reply sealed.queued.handshake) with
          replied := server.replied ++ [sealed]
          process := .testFlag }

theorem processStep_moves {config : Config Peer} {server next : Server Peer}
    (taken : server.processStep config = some next) : ProcessMoves config server next := by
  unfold processStep at taken
  cases place : server.process with
  | testFlag =>
      simp only [place] at taken
      split_ifs at taken with isSet
      · obtain rfl := Option.some.inj taken
        exact .seeSet place isSet
      · obtain rfl := Option.some.inj taken
        exact .spin place (Bool.not_eq_true _ ▸ isSet)
  | testEmpty =>
      simp only [place] at taken
      split_ifs at taken with empty
      · obtain rfl := Option.some.inj taken
        exact .goBack place (List.isEmpty_iff.mp empty)
      · obtain rfl := Option.some.inj taken
        exact .goOn place fun none => empty (List.isEmpty_iff.mpr none)
  | front =>
      rw [place] at taken
      simp only at taken
      split at taken
      case h_1 empty =>
          obtain rfl := Option.some.inj taken
          exact .frontOfEmpty place empty
      case h_2 req rest queue =>
          obtain rfl := Option.some.inj taken
          exact .front place queue
  | pop req =>
      rw [place] at taken
      simp only at taken
      split at taken
      case h_1 empty =>
          obtain rfl := Option.some.inj taken
          exact .popOfEmpty place empty
      case h_2 first rest queue =>
          obtain rfl := Option.some.inj taken
          exact .pop place queue
  | clearFlag req =>
      rw [place] at taken
      obtain rfl := Option.some.inj taken
      exact .clearFlag place
  | check req =>
      rw [place] at taken
      simp only at taken
      split at taken
      case h_1 what failed =>
          obtain rfl := Option.some.inj taken
          exact .checkFails place failed
      case h_2 isValid done =>
          obtain rfl := Option.some.inj taken
          exact .check place done
  | encrypt req isValid =>
      rw [place] at taken
      simp only at taken
      split at taken
      case h_1 fault failed =>
          obtain rfl := Option.some.inj taken
          exact .encryptFails place failed
      case h_2 result done =>
          obtain rfl := Option.some.inj taken
          exact .encrypt place done
  | sendIdentity sealed =>
      rw [place] at taken
      obtain rfl := Option.some.inj taken
      exact .sendIdentity place
  | sendResult sealed =>
      rw [place] at taken
      obtain rfl := Option.some.inj taken
      exact .sendResult place

theorem step_cases {config : Config Peer} {server next : Server Peer} {who : Step Peer}
    (taken : (system config).step server who = some next) :
    server.terminated = none ∧
      ((∃ message, who = .arrive message ∧ next = server.arrive message) ∨
        (who = .waitRequest ∧ WaitMoves config server next) ∨
        (who = .processRequest ∧ ProcessMoves config server next)) := by
  cases ended : server.terminated with
  | some fault => simp [system, ended] at taken
  | none =>
      refine ⟨rfl, ?_⟩
      simp only [system, ended, Option.isSome_none, Bool.false_eq_true, if_false] at taken
      cases who with
      | arrive message => exact .inl ⟨message, rfl, (Option.some.inj taken).symm⟩
      | waitRequest => exact .inr (.inl ⟨rfl, waitStep_moves taken⟩)
      | processRequest => exact .inr (.inr ⟨rfl, processStep_moves taken⟩)

end Server

/-! ### The queue sections -/

/-- Between seeing the flag clear and setting it. -/
def WaitThread.InQueueSection {Peer : Type} : WaitThread Peer → Prop
  | .push _ _ | .setFlag _ _ => True
  | _ => False

/-- Between seeing the flag set and clearing it. -/
def ProcessThread.InQueueSection : ProcessThread → Prop
  | .testEmpty | .front | .pop _ | .clearFlag _ => True
  | _ => False

/-- The thread is at none of the statements that use the flag or the queue. -/
def WaitThread.Outside {Peer : Type} : WaitThread Peer → Prop
  | .testFlag _ _ | .push _ _ | .setFlag _ _ => False
  | _ => True

namespace Server

variable {Peer : Type}

/-- A step of the receive thread between two uses of the queue. -/
structure LeavesQueue (server next : Server Peer) : Prop where
  isAddingQueue : next.isAddingQueue = server.isAddingQueue
  clientIdentityQueue : next.clientIdentityQueue = server.clientIdentityQueue
  process : next.process = server.process
  pushed : next.pushed = server.pushed
  popped : next.popped = server.popped
  checked : next.checked = server.checked
  encrypted : next.encrypted = server.encrypted
  replied : next.replied = server.replied
  outside : ¬ next.wait.InQueueSection

theorem WaitMoves.leavesQueue {config : Config Peer} {server next : Server Peer}
    (moves : WaitMoves config server next) (outside : server.wait.Outside) :
    LeavesQueue server next := by
  cases moves with
  | spin place | seeClear place | push place | setFlag place =>
      rw [place] at outside
      exact outside.elim
  | initFails place | xportFails place =>
      exact ⟨rfl, rfl, rfl, rfl, rfl, rfl, rfl, rfl, by rw [terminate, place]; exact id⟩
  | _ => exact ⟨rfl, rfl, rfl, rfl, rfl, rfl, rfl, rfl, id⟩

/-- A step of the receive thread, wherever it is. -/
structure LeavesProcess (server next : Server Peer) : Prop where
  process : next.process = server.process
  popped : next.popped = server.popped
  checked : next.checked = server.checked
  encrypted : next.encrypted = server.encrypted
  replied : next.replied = server.replied

theorem WaitMoves.leavesProcess {config : Config Peer} {server next : Server Peer}
    (moves : WaitMoves config server next) : LeavesProcess server next := by
  cases moves <;> exact ⟨rfl, rfl, rfl, rfl, rfl⟩

/-- A step of the processing thread. -/
structure LeavesReceive (server next : Server Peer) : Prop where
  inbox : next.inbox = server.inbox
  crypto : next.crypto = server.crypto
  wait : next.wait = server.wait
  arrived : next.arrived = server.arrived
  received : next.received = server.received
  sessions : next.sessions = server.sessions
  xports : next.xports = server.xports
  pushed : next.pushed = server.pushed

theorem ProcessMoves.leavesReceive {config : Config Peer} {server next : Server Peer}
    (moves : ProcessMoves config server next) : LeavesReceive server next := by
  cases moves <;> exact ⟨rfl, rfl, rfl, rfl, rfl, rfl, rfl, rfl⟩

end Server

end LicensingServer
