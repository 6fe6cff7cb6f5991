import LicensingServer.Sessions.ClientState
import LicensingServer.Foundations.Unwinding
import LicensingServer.Crypto.Reference

/-!
Owns what an observer of the wire sees of an honest client's session, and
exactly when two runs that differ in the client ID and in the result look the
same.

Does not own what a ciphertext reveals: the observer is given its length and
nothing else.
-/

set_option autoImplicit false

namespace LicensingServer

open LicensingServer.Foundations

variable {Peer : Type}

/-! ### One session -/

/-- What two runs of a session have in common: the network, the random choices
of both parties, and the server as earlier sessions have left it. -/
structure Encounter (Peer : Type) where
  network : Network Peer
  lib : CryptoPP
  lawful : lib.Lawful
  /-- The random choices of each key exchange of the server. -/
  draws : Nat → KeyDraw lib
  peer : Peer
  /-- The random choices of the client. -/
  draw : KeyDraw lib
  server : Server Peer
  waits : server.wait = .recvIdentity
  emptied : server.inbox = []
  idle : server.process = .testFlag
  isClear : server.isAddingQueue = false

/-- What the runs may differ in: the client ID, and the result of the check. -/
structure Secret where
  clientID : Bytes
  isValid : Bool

namespace Encounter

/-- The server, and the client whose session it is. -/
structure State (Peer : Type) where
  server : Server Peer
  client : Client
deriving DecidableEq

inductive Mover
  | waitRequest
  | processRequest
  | client
deriving DecidableEq, Repr

variable (encounter : Encounter Peer) (secret : Secret)

def config : Config Peer where
  network := encounter.network
  lib := encounter.lib
  draws := encounter.draws
  check := fun _ _ => .ok secret.isValid

/-- What the socket of the client has been delivered since the session began. -/
def delivered (state : State Peer) : List Bytes :=
  Parties.deliveredTo (encounter.network.identity encounter.peer)
    (state.server.outgoing.complete.drop encounter.server.outgoing.complete.length)

def clientStep (state : State Peer) : Option (State Peer) :=
  match state.client.connectAndGetAuthToken encounter.peer encounter.draw secret.clientID
      (encounter.delivered state) with
  | none => none
  | some (client, none) => some { state with client }
  | some (client, some message) =>
      ((Server.system (encounter.config secret)).step state.server (.arrive message)).map
        fun server => ⟨server, client⟩

def start : State Peer := ⟨encounter.server, .initial⟩

def system : TransitionSystem (State Peer) Mover where
  initial state := state = encounter.start
  step state
    | .waitRequest =>
        ((Server.system (encounter.config secret)).step state.server .waitRequest).map
          fun server => { state with server }
    | .processRequest =>
        ((Server.system (encounter.config secret)).step state.server .processRequest).map
          fun server => { state with server }
    | .client => encounter.clientStep secret state

end Encounter

/-! ### The observer -/

/-- What the observer sees of a frame's bytes. -/
inductive Sight
  | clear (data : Bytes)
  | sealed (length : Nat)
deriving DecidableEq, Repr

/-- The last frame of a reply is encrypted with the content key; all others are
sent as they are. -/
def OutFrame.sight (frame : OutFrame) : Bool × Sight :=
  match frame.origin, frame.more with
  | .reply _, false => (false, .sealed frame.data.length)
  | _, more => (more, .clear frame.data)

/-- All that has passed in both directions. -/
def Encounter.view (state : Encounter.State Peer) : List (Message Peer) × List (Bool × Sight) :=
  (state.server.arrived, state.server.outbox.map OutFrame.sight)

/-! ### Servers that look the same -/

/-- Nothing but the result tells the two sealed results apart. -/
structure Sealed.Alike (sealed other : Sealed) : Prop where
  queued : other.queued = sealed.queued
  length : other.result.length = sealed.result.length

inductive ProcessThread.Alike : ProcessThread → ProcessThread → Prop
  | testFlag : Alike .testFlag .testFlag
  | testEmpty : Alike .testEmpty .testEmpty
  | front : Alike .front .front
  | pop (req : Queued) : Alike (.pop req) (.pop req)
  | clearFlag (req : Queued) : Alike (.clearFlag req) (.clearFlag req)
  | check (req : Queued) : Alike (.check req) (.check req)
  | encrypt (req : Queued) (isValid isValid' : Bool) :
      Alike (.encrypt req isValid) (.encrypt req isValid')
  | sendIdentity {sealed other : Sealed} (alike : sealed.Alike other) :
      Alike (.sendIdentity sealed) (.sendIdentity other)
  | sendResult {sealed other : Sealed} (alike : sealed.Alike other) :
      Alike (.sendResult sealed) (.sendResult other)

theorem ProcessThread.Alike.refl (thread : ProcessThread) : thread.Alike thread := by
  cases thread with
  | testFlag => exact .testFlag
  | testEmpty => exact .testEmpty
  | front => exact .front
  | pop req => exact .pop req
  | clearFlag req => exact .clearFlag req
  | check req => exact .check req
  | encrypt req isValid => exact .encrypt req isValid isValid
  | sendIdentity sealed => exact .sendIdentity ⟨rfl, rfl⟩
  | sendResult sealed => exact .sendResult ⟨rfl, rfl⟩

namespace Server

/-- The receive threads are in the same state, and the other one differs in the
result that it has in hand or has sent. -/
structure Alike (server other : Server Peer) : Prop where
  receive : LeavesReceive server other
  isAddingQueue : other.isAddingQueue = server.isAddingQueue
  clientIdentityQueue : other.clientIdentityQueue = server.clientIdentityQueue
  terminated : other.terminated = server.terminated
  process : server.process.Alike other.process
  outbox : other.outbox.map OutFrame.sight = server.outbox.map OutFrame.sight

namespace Alike

variable {server other : Server Peer}

theorem refl (server : Server Peer) : server.Alike server where
  receive := ⟨rfl, rfl, rfl, rfl, rfl, rfl, rfl, rfl⟩
  isAddingQueue := rfl
  clientIdentityQueue := rfl
  terminated := rfl
  process := .refl _
  outbox := rfl

theorem go (alike : server.Alike other) (wait : WaitThread Peer) :
    Alike { server with wait } { other with wait } :=
  { alike with receive := { alike.receive with wait := rfl } }

theorem take (alike : server.Alike other) (frame : Frame Peer) (rest : List (Frame Peer)) :
    (server.take frame rest).Alike (other.take frame rest) :=
  { alike with
    receive := { alike.receive with
      inbox := rfl
      received := congrArg (· ++ [frame]) alike.receive.received } }

theorem read (alike : server.Alike other) {goOn : Frame Peer → Server Peer → Server Peer}
    (goes : ∀ frame {server other : Server Peer}, server.Alike other →
      (goOn frame server).Alike (goOn frame other)) :
    Option.Rel Alike (server.read goOn) (other.read goOn) := by
  unfold Server.read
  rw [alike.receive.inbox]
  cases server.inbox with
  | nil => exact .none
  | cons frame rest => exact .some (goes frame (alike.take frame rest))

theorem recv (alike : server.Alike other) (goOn : Frame Peer → WaitThread Peer) :
    Option.Rel Alike (server.recv goOn) (other.recv goOn) :=
  alike.read fun frame _ _ next => next.go (goOn frame)

theorem terminate (alike : server.Alike other) (fault : Fault) :
    (server.terminate fault).Alike (other.terminate fault) :=
  { alike with receive := { alike.receive with }, terminated := rfl }

/-- The same bytes are sent. -/
theorem send (alike : server.Alike other) (data : Bytes) (more : Bool) (origin : Origin) :
    (server.send data more origin).Alike (other.send data more origin) := by
  refine { alike with receive := { alike.receive with }, outbox := ?_ }
  show (other.outbox ++ _).map _ = (server.outbox ++ _).map _
  rw [List.map_append, List.map_append, alike.outbox]

theorem turn (alike : server.Alike other) {process process' : ProcessThread}
    (turns : process.Alike process') :
    Alike { server with process } { other with process := process' } :=
  { alike with receive := { alike.receive with }, process := turns }

theorem beginSession (alike : server.Alike other) (session : Session Peer) :
    (server.beginSession session).Alike (other.beginSession session) :=
  { alike with
    receive := { alike.receive with
      wait := rfl
      sessions := congrArg (· ++ [session]) alike.receive.sessions } }

/-- Servers that are alike are one server but for what the processing thread has
made of the result. -/
@[elab_as_elim] theorem same_elim {motive : Server Peer → Server Peer → Prop}
    (same : ∀ inbox outbox outbox' crypto isAddingQueue clientIdentityQueue wait process process'
      terminated arrived received sessions xports pushed popped popped' checked checked' encrypted
      encrypted' replied replied',
      Alike
        ⟨inbox, outbox, crypto, isAddingQueue, clientIdentityQueue, wait, process, terminated,
          arrived, received, sessions, xports, pushed, popped, checked, encrypted, replied⟩
        ⟨inbox, outbox', crypto, isAddingQueue, clientIdentityQueue, wait, process', terminated,
          arrived, received, sessions, xports, pushed, popped', checked', encrypted',
          replied'⟩ →
      motive
        ⟨inbox, outbox, crypto, isAddingQueue, clientIdentityQueue, wait, process, terminated,
          arrived, received, sessions, xports, pushed, popped, checked, encrypted, replied⟩
        ⟨inbox, outbox', crypto, isAddingQueue, clientIdentityQueue, wait, process', terminated,
          arrived, received, sessions, xports, pushed, popped', checked', encrypted', replied'⟩)
    (alike : server.Alike other) : motive server other := by
  rcases server with ⟨inbox, outbox, crypto, isAddingQueue, clientIdentityQueue, wait, process,
    terminated, arrived, received, sessions, xports, pushed, popped, checked, encrypted, replied⟩
  rcases other with ⟨inbox', outbox', crypto', isAddingQueue', clientIdentityQueue', wait',
    process', terminated', arrived', received', sessions', xports', pushed', popped', checked',
    encrypted', replied'⟩
  have fields := alike
  rcases fields with ⟨receive, sameFlag, sameQueue, sameEnd, -, -⟩
  rcases receive with ⟨sameInbox, sameCrypto, sameWait, sameArrived, sameReceived, sameSessions,
    sameXports, samePushed⟩
  simp only at sameInbox sameCrypto sameWait sameArrived sameReceived sameSessions
  simp only at sameXports samePushed sameFlag sameQueue sameEnd
  subst sameInbox sameCrypto sameWait sameArrived sameReceived sameSessions
  subst sameXports samePushed sameFlag sameQueue sameEnd
  apply same
  exact alike

/-- The receive thread does the same in both. -/
theorem waitStep (alike : server.Alike other) (config : Config Peer) :
    Option.Rel Alike (server.waitStep config) (other.waitStep config) := by
  refine same_elim ?_ alike
  clear alike
  intro inbox outbox outbox' crypto isAddingQueue clientIdentityQueue wait process process'
    terminated arrived received sessions xports pushed popped popped' checked checked' encrypted
    encrypted' replied replied' alike
  unfold Server.waitStep
  cases wait with
  | recvIdentity => exact alike.recv _
  | recvWorkload clientIdentity => exact alike.recv _
  | recvSpub clientIdentity workload => exact alike.recv _
  | recvEpub clientIdentity workload spub =>
      exact alike.read fun epub _ _ next => next.beginSession _
  | initKeys session remaining =>
      cases remaining with
      | nil => exact .some (alike.go _)
      | cons statement rest =>
          simp only
          cases statement.effect (config.draws session.number) crypto with
          | error fault => exact .some (alike.terminate fault)
          | ok made =>
              apply Option.Rel.some
              exact { alike with receive := { alike.receive with crypto := rfl, wait := rfl } }
  | genXport session locals remaining =>
      cases remaining with
      | nil => exact .some (alike.go _)
      | cons statement rest =>
          simp only
          cases statement.effect config.lib (config.draws session.number) crypto locals with
          | error fault => exact .some (alike.terminate fault)
          | ok made =>
              apply Option.Rel.some
              exact { alike with receive := { alike.receive with crypto := rfl, wait := rfl } }
  | sendIdentity session => exact .some ((alike.send _ true _).go _)
  | sendSpub session => exact .some ((alike.send _ true _).go _)
  | sendEpub session => exact .some ((alike.send _ true _).go _)
  | sendXport session =>
      apply Option.Rel.some
      have sent := alike.send (Crypto.xportHexStr config.lib crypto) false
        (.handshake session.number)
      exact { sent with
        receive := { sent.receive with
          wait := rfl
          xports := rfl } }
  | recvDummy session => exact alike.recv _
  | recvClientID session => exact alike.recv _
  | testFlag session message =>
      simp only
      split_ifs
      · exact .some alike
      · exact .some (alike.go _)
  | push session message =>
      apply Option.Rel.some
      exact { alike with
        receive := { alike.receive with
          wait := rfl
          pushed := rfl }
        clientIdentityQueue := rfl }
  | setFlag session message =>
      apply Option.Rel.some
      exact { alike with receive := { alike.receive with wait := rfl }, isAddingQueue := rfl }

end Alike

end Server

namespace Encounter

variable (encounter : Encounter Peer) (secret other : Secret)

/-! ### Steps of the server -/

/-- The two results are of one length, and so are their ciphertexts. -/
theorem encrypt_alike (crypto : Crypto) (isValid isValid' : Bool) :
    (∃ fault, Crypto.encrypt encounter.lib crypto (Server.reply isValid) = .error fault ∧
      Crypto.encrypt encounter.lib crypto (Server.reply isValid') = .error fault) ∨
    ∃ result result', Crypto.encrypt encounter.lib crypto (Server.reply isValid) = .ok result ∧
      Crypto.encrypt encounter.lib crypto (Server.reply isValid') = .ok result' ∧
      result'.length = result.length := by
  unfold Crypto.encrypt readBlock
  split_ifs with enough
  · right
    refine ⟨_, _, rfl, rfl, ?_⟩
    have keyLength : (crypto.cek.take defaultKeyLength).length = defaultKeyLength := by
      rw [List.length_take]
      omega
    have lawful := encounter.lawful.aes_lawful _ keyLength
    have replyLength : ∀ result, (Server.reply result).length = 3 := by decide
    rw [CipherMode.encryptMessage_length lawful (by rfl),
      CipherMode.encryptMessage_length lawful (by rfl), replyLength, replyLength]
  · left
    exact ⟨.readPastEnd, rfl, rfl⟩

theorem processStep_alike {server server' : Server Peer} (alike : server.Alike server') :
    Option.Rel Server.Alike (server.processStep (encounter.config secret))
      (server'.processStep (encounter.config other)) := by
  refine Server.Alike.same_elim ?_ alike
  clear alike
  intro inbox outbox outbox' crypto isAddingQueue clientIdentityQueue wait process process'
    terminated arrived received sessions xports pushed popped popped' checked checked' encrypted
    encrypted' replied replied' alike
  have processes := alike.process
  simp only at processes
  unfold Server.processStep
  cases processes with
  | testFlag =>
      simp only
      split_ifs
      · exact .some (alike.turn .testEmpty)
      · exact .some alike
  | testEmpty =>
      simp only
      split_ifs
      · exact .some (alike.turn .testFlag)
      · exact .some (alike.turn .front)
  | front =>
      cases clientIdentityQueue with
      | nil => exact .some (alike.terminate _)
      | cons req rest => exact .some (alike.turn (.pop req))
  | pop req =>
      cases clientIdentityQueue with
      | nil => exact .some (alike.terminate _)
      | cons first rest =>
          have turned := alike.turn (.clearFlag req)
          exact .some { turned with
            receive := { turned.receive with }
            clientIdentityQueue := rfl }
  | clearFlag req =>
      have turned := alike.turn (.check req)
      exact .some { turned with receive := { turned.receive with }, isAddingQueue := rfl }
  | check req =>
      have turned := alike.turn (.encrypt req secret.isValid other.isValid)
      exact .some { turned with receive := { turned.receive with } }
  | encrypt req isValid isValid' =>
      rcases encounter.encrypt_alike crypto isValid isValid' with
        ⟨fault, failed, failed'⟩ | ⟨result, result', done, done', length⟩
      · simp only [config, failed, failed']
        exact .some (alike.terminate fault)
      · simp only [config, done, done']
        have same : Sealed.Alike ⟨req, isValid, crypto.cek, result⟩
            ⟨req, isValid', crypto.cek, result'⟩ := ⟨rfl, length⟩
        have turned := alike.turn (.sendIdentity same)
        exact .some { turned with receive := { turned.receive with } }
  | @sendIdentity sealed sealed' same =>
      simp only [same.queued]
      have sent := alike.send sealed.queued.login.clientIdentity true
        (.reply sealed.queued.handshake)
      exact .some (sent.turn (.sendResult same))
  | @sendResult sealed sealed' same =>
      apply Option.Rel.some
      refine { alike with receive := { alike.receive with }, process := .testFlag, outbox := ?_ }
      show (outbox' ++ _).map _ = (outbox ++ _).map _
      rw [List.map_append, List.map_append, alike.outbox]
      simp [OutFrame.sight, same.length]

/-! ### Steps of the client -/

/-- The second message of the session. -/
def idMessage : Message Peer :=
  ⟨encounter.peer, [secret.clientID], List.cons_ne_nil _ _⟩

/-- The steps of the client, by what they send. -/
inductive ClientMoves (client next : Client) : Option (Message Peer) → Prop
  | greets {keys : Message Peer} (place : client.thread = .sendGreeting)
      (three : keys.payload.length = 3) (after : next.thread = .recvSpub) :
      ClientMoves client next (some keys)
  | identifies (place : client.thread = .sendID) (after : next.thread = .recvAck) :
      ClientMoves client next (some (encounter.idMessage secret))
  | goesOn (greeted : client.thread.remaining ≠ 9) (identified : client.thread.remaining ≠ 3)
      (after : next.thread.remaining + 1 = client.thread.remaining ∨ next.thread.remaining = 0) :
      ClientMoves client next none

theorem recv_goesOn {client next : Client} {delivered : List Bytes}
    {goOn : Bytes → ClientThread} {message : Option (Message Peer)}
    (greeted : client.thread.remaining ≠ 9) (identified : client.thread.remaining ≠ 3)
    (after : ∀ frame, (goOn frame).remaining + 1 = client.thread.remaining)
    (moved : client.recv delivered goOn = some (next, message)) :
    encounter.ClientMoves secret client next message := by
  unfold Client.recv at moved
  rcases Option.map_eq_some_iff.mp moved with ⟨frame, -, same⟩
  cases same
  exact .goesOn greeted identified (.inl (after frame))

theorem call_goesOn {client : Client} {done : Except Fault Crypto}
    {thread : ClientThread} (greeted : client.thread.remaining ≠ 9)
    (identified : client.thread.remaining ≠ 3)
    (after : thread.remaining + 1 = client.thread.remaining) :
    encounter.ClientMoves secret client (client.call done thread) none := by
  apply ClientMoves.goesOn greeted identified
  unfold Client.call
  cases done with
  | error fault => exact .inr rfl
  | ok crypto => exact .inl after

theorem clientMoves {delivered : List Bytes} {client next : Client}
    {message : Option (Message Peer)}
    (moved : client.connectAndGetAuthToken encounter.peer encounter.draw secret.clientID delivered =
      some (next, message)) : encounter.ClientMoves secret client next message := by
  unfold Client.connectAndGetAuthToken at moved
  cases place : client.thread with
  | initKeyExchangeParams =>
      simp only [place] at moved
      cases moved
      apply call_goesOn <;> rw [place] <;> decide
  | sendGreeting =>
      simp only [place] at moved
      cases moved
      exact .greets place rfl rfl
  | recvSpub =>
      simp only [place] at moved
      apply encounter.recv_goesOn secret _ _ _ moved <;> simp [place, ClientThread.remaining]
  | recvEpub spub =>
      simp only [place] at moved
      apply encounter.recv_goesOn secret _ _ _ moved <;> simp [place, ClientThread.remaining]
  | genXport spub epub =>
      simp only [place] at moved
      cases moved
      apply call_goesOn <;> rw [place] <;> simp [ClientThread.remaining]
  | recvXport =>
      simp only [place] at moved
      apply encounter.recv_goesOn secret _ _ _ moved <;> simp [place, ClientThread.remaining]
  | decryptXport xport =>
      simp only [place] at moved
      cases moved
      apply call_goesOn <;> rw [place] <;> simp [ClientThread.remaining]
  | sendID =>
      simp only [place] at moved
      cases moved
      exact .identifies place rfl
  | recvAck =>
      simp only [place] at moved
      apply encounter.recv_goesOn secret _ _ _ moved <;> simp [place, ClientThread.remaining]
  | decrypt ack =>
      simp only [place] at moved
      have greeted : client.thread.remaining ≠ 9 := by simp [place, ClientThread.remaining]
      have identified : client.thread.remaining ≠ 3 := by simp [place, ClientThread.remaining]
      cases decrypted : Crypto.decrypt encounter.lib client.crypto ack with
      | error fault =>
          rw [decrypted] at moved
          cases moved
          exact .goesOn greeted identified (.inr rfl)
      | ok text =>
          rw [decrypted] at moved
          cases moved
          exact .goesOn greeted identified (.inr rfl)
  | returned isValid =>
      simp only [place] at moved
      cases moved
  | failed fault =>
      simp only [place] at moved
      cases moved

/-- A step of the client changes the server by what it sends. -/
theorem clientStep_cases {state next : State Peer}
    (taken : encounter.clientStep secret state = some next) :
    ∃ message, encounter.ClientMoves secret state.client next.client message ∧
      ((message = none ∧ next.server = state.server) ∨
        ∃ sent, message = some sent ∧ next.server = state.server.arrive sent ∧
          state.server.terminated = none) := by
  unfold clientStep at taken
  split at taken
  case h_1 => cases taken
  case h_2 client moved =>
      cases taken
      exact ⟨none, encounter.clientMoves secret moved, .inl ⟨rfl, rfl⟩⟩
  case h_3 client sent moved =>
      rcases Option.map_eq_some_iff.mp taken with ⟨server, arrived, same⟩
      cases same
      rcases Server.step_cases arrived with
        ⟨alive, ⟨message, same, isArrived⟩ | ⟨same, -⟩ | ⟨same, -⟩⟩
      · cases same
        exact ⟨some sent, encounter.clientMoves secret moved, .inr ⟨sent, rfl, isArrived, alive⟩⟩
      · cases same
      · cases same

/-! ### What the client has sent -/

/-- The messages of the client, by the statement that it is at. -/
inductive Sent (thread : ClientThread) : List (Message Peer) → Prop
  | nothing (silent : 9 ≤ thread.remaining ∨ thread.remaining = 0) : Sent thread []
  | keys {keys : Message Peer} (three : keys.payload.length = 3) (greeted : thread.remaining ≤ 8)
      (unidentified : 3 ≤ thread.remaining ∨ thread.remaining = 0) : Sent thread [keys]
  | both {keys : Message Peer} (three : keys.payload.length = 3)
      (identified : thread.remaining ≤ 2) :
      Sent thread [keys, encounter.idMessage secret]

/-- The messages that have arrived since the session began are the client's. -/
def Arrivals (state : State Peer) : Prop :=
  ∃ sent, state.server.arrived = encounter.server.arrived ++ sent ∧
    encounter.Sent secret state.client.thread sent

theorem arrivals_start : encounter.Arrivals secret encounter.start :=
  ⟨[], (List.append_nil _).symm, .nothing (.inl (Nat.le_succ 9))⟩

theorem server_arrived {config : Config Peer} {server next : Server Peer} {mover : Step Peer}
    (isThread : mover = .waitRequest ∨ mover = .processRequest)
    (taken : (Server.system config).step server mover = some next) :
    next.arrived = server.arrived := by
  rcases Server.step_cases taken with ⟨-, ⟨message, same, -⟩ | ⟨-, moves⟩ | ⟨-, moves⟩⟩
  · rcases isThread with wait | process
    · cases wait.symm.trans same
    · cases process.symm.trans same
  · cases moves <;> rfl
  · exact moves.leavesReceive.arrived

theorem Sent.step {client next : Client} {sent : List (Message Peer)}
    (before : encounter.Sent secret client.thread sent) {message : Option (Message Peer)}
    (moves : encounter.ClientMoves secret client next message) :
    encounter.Sent secret next.thread (sent ++ message.toList) := by
  cases moves with
  | greets place three after =>
      have isNine : client.thread.remaining = 9 := by rw [place]; rfl
      have isEight : next.thread.remaining = 8 := by rw [after]; rfl
      cases before with
      | nothing silent => exact .keys three (by omega) (by omega)
      | keys _ greeted _ => omega
      | both _ identified => omega
  | identifies place after =>
      have isThree : client.thread.remaining = 3 := by rw [place]; rfl
      have isTwo : next.thread.remaining = 2 := by rw [after]; rfl
      cases before with
      | nothing silent => omega
      | keys three _ _ => exact .both three (by omega)
      | both _ identified => omega
  | goesOn greeted identified after =>
      rw [Option.toList_none, List.append_nil]
      cases before with
      | nothing silent => exact .nothing (by omega)
      | keys three isGreeted unidentified => exact .keys three (by omega) (by omega)
      | both three isIdentified => exact .both three (by omega)

theorem Arrivals.step {state next : State Peer} (before : encounter.Arrivals secret state)
    {mover : Mover} (taken : (encounter.system secret).step state mover = some next) :
    encounter.Arrivals secret next := by
  rcases before with ⟨sent, arrived, sends⟩
  cases mover with
  | waitRequest =>
      rcases Option.map_eq_some_iff.mp taken with ⟨server, moved, same⟩
      cases same
      exact ⟨sent, (server_arrived (.inl rfl) moved).trans arrived, sends⟩
  | processRequest =>
      rcases Option.map_eq_some_iff.mp taken with ⟨server, moved, same⟩
      cases same
      exact ⟨sent, (server_arrived (.inr rfl) moved).trans arrived, sends⟩
  | client =>
      rcases encounter.clientStep_cases secret taken with
        ⟨message, moves, ⟨isNone, server⟩ | ⟨new, isSome, server, -⟩⟩
      · refine ⟨sent ++ message.toList, ?_, sends.step encounter secret moves⟩
        rw [server, isNone, arrived, Option.toList_none, List.append_nil]
      · refine ⟨sent ++ message.toList, ?_, sends.step encounter secret moves⟩
        rw [server, isSome]
        show state.server.arrived ++ [new] = _
        rw [arrived, List.append_assoc]
        rfl

/-! ### Before the client ID is sent -/

/-- The number of frames that the receive thread has read of a session. -/
def taken : WaitThread Peer → Nat
  | .recvIdentity => 0
  | .recvWorkload _ => 1
  | .recvSpub _ _ => 2
  | .recvEpub _ _ _ => 3
  | .recvClientID _ => 5
  | .testFlag _ _ | .push _ _ | .setFlag _ _ => 6
  | _ => 4

/-- Too few frames have arrived for a request. -/
structure Quiet (state : State Peer) : Prop where
  process : state.server.process = .testFlag
  isClear : state.server.isAddingQueue = false
  few : taken state.server.wait + state.server.inbox.length ≤ 4
  silent : 9 ≤ state.client.thread.remaining →
    taken state.server.wait + state.server.inbox.length = 0

theorem quiet_start : Quiet encounter.start where
  process := encounter.idle
  isClear := encounter.isClear
  few := by
    show taken encounter.server.wait + encounter.server.inbox.length ≤ 4
    rw [encounter.waits, encounter.emptied]
    exact Nat.zero_le 4
  silent _ := by
    show taken encounter.server.wait + encounter.server.inbox.length = 0
    rw [encounter.waits, encounter.emptied]
    rfl

theorem taken_waitMoves {config : Config Peer} {server next : Server Peer}
    (moves : Server.WaitMoves config server next) :
    taken next.wait + next.inbox.length ≤ taken server.wait + server.inbox.length := by
  cases moves with
  | recvIdentity place waiting | refuse place waiting | greet place waiting
  | recvSpub place waiting | recvEpub place waiting | recvDummy place waiting
  | recvClientID place waiting =>
      rw [place, waiting, List.length_cons]
      simp only [taken, Server.take, Server.beginSession]
      omega
  | initFails | xportFails | spin => exact Nat.le_refl _
  | initKeys place | callGenXport place | genXport place | returnXport place
  | sendIdentity place | sendSpub place | sendEpub place | sendXport place | seeClear place
  | push place =>
      rw [place]
      exact Nat.le_refl _
  | setFlag place =>
      rw [place]
      exact Nat.add_le_add_right (Nat.zero_le 6) _

theorem outside_of_few {wait : WaitThread Peer} (few : taken wait ≤ 4) : wait.Outside := by
  cases wait with
  | testFlag | push | setFlag => exact absurd few (by simp [taken])
  | _ => trivial

theorem Quiet.waitRequest {state : State Peer} (quiet : Quiet state) {config : Config Peer}
    {server : Server Peer} (moves : Server.WaitMoves config state.server server) :
    Quiet { state with server } := by
  have few := quiet.few
  have leaves := moves.leavesQueue (outside_of_few (by omega))
  have fewer := taken_waitMoves moves
  exact {
    process := leaves.process.trans quiet.process
    isClear := leaves.isAddingQueue.trans quiet.isClear
    few := Nat.le_trans fewer quiet.few
    silent := fun silent => Nat.le_zero.mp (by rw [← quiet.silent silent]; exact fewer) }

/-- The processing thread waits for the flag. -/
theorem Quiet.processStep {state : State Peer} (quiet : Quiet state) (config : Config Peer) :
    state.server.processStep config = some state.server := by
  unfold Server.processStep
  rw [quiet.process]
  simp only [quiet.isClear, Bool.false_eq_true, if_false]

/-- Up to the client ID the client sends one message of three frames. -/
theorem Quiet.client {state next : State Peer} (quiet : Quiet state)
    (unidentified : state.client.thread ≠ .sendID)
    (taken : encounter.clientStep secret state = some next) : Quiet next := by
  rcases encounter.clientStep_cases secret taken with ⟨message, moves, after⟩
  cases moves with
  | greets place three isAfter =>
      rcases after with ⟨isNone, -⟩ | ⟨sent, isSome, server, -⟩
      · cases isNone
      · cases isSome
        have none := quiet.silent (by rw [place]; exact Nat.le_refl 9)
        constructor
        · rw [server]
          exact quiet.process
        · rw [server]
          exact quiet.isClear
        · rw [server]
          show Encounter.taken state.server.wait + (state.server.inbox ++ _).length ≤ 4
          rw [List.length_append, Message.frames, List.length_cons, List.length_map, three]
          omega
        · intro silent
          rw [isAfter] at silent
          exact absurd silent (by decide)
  | identifies place => exact absurd place unidentified
  | goesOn greeted identified isAfter =>
      rcases after with ⟨-, server⟩ | ⟨sent, isSome, -⟩
      · constructor
        · rw [server]
          exact quiet.process
        · rw [server]
          exact quiet.isClear
        · rw [server]
          exact quiet.few
        · intro silent
          rw [server]
          exact quiet.silent (by omega)
      · cases isSome

/-! ### Two runs -/

/-- The next step sends the client ID. -/
structure SendsID (state : State Peer) (mover : Mover) : Prop where
  client : mover = .client
  place : state.client.thread = .sendID
  alive : state.server.terminated = none

/-- Before the client ID is sent the two states are one, and after it the
servers are alike and neither client sends any more. -/
inductive Alike : State Peer → State Peer → Prop
  | before {state : State Peer} (quiet : Quiet state) : Alike state state
  | after {state state' : State Peer} (server : state.server.Alike state'.server)
      (identified : state.client.thread.remaining ≤ 2)
      (identified' : state'.client.thread.remaining ≤ 2) : Alike state state'

theorem view_of_alike {state state' : State Peer} (alike : Alike state state') :
    view state = view state' := by
  cases alike with
  | before quiet => rfl
  | after server _ _ =>
      unfold view
      rw [server.receive.arrived, server.outbox]

/-- The receive thread does not look at what the runs differ in. -/
theorem waitRequest_eq (server : Server Peer) :
    (Server.system (encounter.config secret)).step server .waitRequest =
      (Server.system (encounter.config other)).step server .waitRequest := by
  have same : server.waitStep (encounter.config secret) =
      server.waitStep (encounter.config other) := rfl
  simp only [Server.system, same]

/-- Nor does the client, up to the statement that sends its ID. -/
theorem clientStep_eq {state : State Peer}
    (same : secret.clientID = other.clientID ∨ state.client.thread ≠ .sendID) :
    encounter.clientStep secret state = encounter.clientStep other state := by
  have moves : state.client.connectAndGetAuthToken encounter.peer encounter.draw secret.clientID
      (encounter.delivered state) =
        state.client.connectAndGetAuthToken encounter.peer encounter.draw other.clientID
          (encounter.delivered state) := by
    rcases same with same | unidentified
    · rw [same]
    · unfold Client.connectAndGetAuthToken
      cases place : state.client.thread with
      | sendID => exact absurd place unidentified
      | _ => rfl
  unfold clientStep
  rw [moves]
  rfl

/-- The client ID is sent to a server that is alive. -/
theorem alive_of_sendID {state next : State Peer} (place : state.client.thread = .sendID)
    (taken : encounter.clientStep secret state = some next) :
    SendsID state .client ∧ next.client.thread.remaining ≤ 2 := by
  rcases encounter.clientStep_cases secret taken with ⟨message, moves, sends⟩
  cases moves with
  | greets isGreeting => cases place.symm.trans isGreeting
  | identifies _ after =>
      rcases sends with ⟨isNone, -⟩ | ⟨_, _, _, alive⟩
      · cases isNone
      · refine ⟨⟨rfl, place, alive⟩, ?_⟩
        rw [after]
        exact Nat.le_refl 2
  | goesOn _ identified =>
      rw [place] at identified
      exact absurd rfl identified

/-- A quiet server does the same in both runs, and so does the client up to its ID. -/
theorem Quiet.step_eq {state : State Peer} (quiet : Quiet state) {mover : Mover}
    (permitted : SendsID state mover → secret.clientID = other.clientID) :
    (encounter.system secret).step state mover = (encounter.system other).step state mover := by
  cases mover with
  | waitRequest =>
      show Option.map _ _ = Option.map _ _
      rw [encounter.waitRequest_eq secret other]
  | processRequest =>
      show Option.map _ _ = Option.map _ _
      cases ended : state.server.terminated with
      | none =>
          rw [Server.step_processRequest ended, Server.step_processRequest ended,
            quiet.processStep, quiet.processStep]
      | some fault => simp [Server.system, ended]
  | client =>
      show encounter.clientStep secret state = encounter.clientStep other state
      by_cases place : state.client.thread = .sendID
      · cases taken : encounter.clientStep secret state with
        | some next =>
            have same := permitted (encounter.alive_of_sendID secret place taken).1
            rw [← taken]
            exact encounter.clientStep_eq secret other (.inl same)
        | none =>
            cases taken' : encounter.clientStep other state with
            | none => rfl
            | some next =>
                have same := permitted (encounter.alive_of_sendID other place taken').1
                rw [encounter.clientStep_eq secret other (.inl same)] at taken
                cases taken.symm.trans taken'
      · exact encounter.clientStep_eq secret other (.inr place)

/-- A quiet step leads to a quiet state, or sends the client ID. -/
theorem Quiet.next {state next : State Peer} (quiet : Quiet state) {mover : Mover}
    (taken : (encounter.system secret).step state mover = some next) :
    Quiet next ∨ SendsID state mover ∧ next.client.thread.remaining ≤ 2 := by
  cases mover with
  | waitRequest =>
      left
      rcases Option.map_eq_some_iff.mp taken with ⟨server, moved, same⟩
      cases same
      rcases Server.step_cases moved with ⟨-, ⟨message, same, -⟩ | ⟨-, moves⟩ | ⟨same, -⟩⟩
      · cases same
      · exact quiet.waitRequest moves
      · cases same
  | processRequest =>
      left
      rcases Option.map_eq_some_iff.mp taken with ⟨server, moved, same⟩
      cases same
      rcases Server.step_cases moved with ⟨alive, -⟩
      rw [Server.step_processRequest alive, quiet.processStep] at moved
      cases moved
      exact quiet
  | client =>
      by_cases place : state.client.thread = .sendID
      · exact .inr (encounter.alive_of_sendID secret place taken)
      · exact .inl (quiet.client encounter secret place taken)

/-- A client that has sent its ID sends nothing more. -/
theorem client_after {state next : State Peer} (identified : state.client.thread.remaining ≤ 2)
    (taken : encounter.clientStep secret state = some next) :
    next.server = state.server ∧ next.client.thread.remaining ≤ 2 := by
  rcases encounter.clientStep_cases secret taken with ⟨message, moves, sends⟩
  cases moves with
  | greets place =>
      rw [place] at identified
      exact absurd identified (by decide)
  | identifies place =>
      rw [place] at identified
      exact absurd identified (by decide)
  | goesOn _ _ after =>
      rcases sends with ⟨-, server⟩ | ⟨_, isSome, -, -⟩
      · exact ⟨server, by omega⟩
      · cases isSome

/-- What the client does then changes nothing that is compared. -/
theorem advance_client_after {state : State Peer}
    (identified : state.client.thread.remaining ≤ 2) :
    ((encounter.system secret).advance state .client).server = state.server ∧
      ((encounter.system secret).advance state .client).client.thread.remaining ≤ 2 := by
  unfold TransitionSystem.advance
  cases taken : (encounter.system secret).step state .client with
  | none => exact ⟨rfl, identified⟩
  | some next => exact encounter.client_after secret identified taken

/-- A step of a server takes both runs along. -/
theorem rel_server {state state' : State Peer} (identified : state.client.thread.remaining ≤ 2)
    (identified' : state'.client.thread.remaining ≤ 2) {step step' : Option (Server Peer)}
    (steps : Option.Rel Server.Alike step step') :
    Option.Rel Alike (step.map fun server => { state with server })
      (step'.map fun server => { state' with server }) := by
  cases steps with
  | none => exact .none
  | some alike => exact .some (.after alike identified identified')

theorem waitRequest_alike {server server' : Server Peer} (alike : server.Alike server') :
    Option.Rel Server.Alike ((Server.system (encounter.config secret)).step server .waitRequest)
      ((Server.system (encounter.config other)).step server' .waitRequest) := by
  rw [encounter.waitRequest_eq secret other]
  cases ended : server.terminated with
  | none =>
      rw [Server.step_waitRequest ended, Server.step_waitRequest (alike.terminated.trans ended)]
      exact alike.waitStep _
  | some fault =>
      simp only [Server.system, ended, alike.terminated, Option.isSome_some, if_true]
      exact .none

theorem processRequest_alike {server server' : Server Peer} (alike : server.Alike server') :
    Option.Rel Server.Alike ((Server.system (encounter.config secret)).step server .processRequest)
      ((Server.system (encounter.config other)).step server' .processRequest) := by
  cases ended : server.terminated with
  | none =>
      rw [Server.step_processRequest ended,
        Server.step_processRequest (alike.terminated.trans ended)]
      exact encounter.processStep_alike secret other alike
  | some fault =>
      simp only [Server.system, ended, alike.terminated, Option.isSome_some, if_true]
      exact .none

/-- The runs stay alike as far as no step sends an ID in which they differ. -/
theorem unwinding :
    TransitionSystem.Unwinding (encounter.system secret) (encounter.system other)
      (fun state mover => SendsID state mover → secret.clientID = other.clientID) Alike where
  advance state state' mover alike permitted := by
    cases alike with
    | before quiet =>
        unfold TransitionSystem.advance
        rw [quiet.step_eq encounter secret other permitted]
        cases taken : (encounter.system other).step state mover with
        | none => exact .before quiet
        | some next =>
            rcases quiet.next encounter other taken with stillQuiet | ⟨-, identified⟩
            · exact .before stillQuiet
            · exact .after (.refl _) identified identified
    | after server identified identified' =>
        cases mover with
        | client =>
            have here := encounter.advance_client_after secret identified
            have there := encounter.advance_client_after other identified'
            apply Alike.after _ here.2 there.2
            rw [here.1, there.1]
            exact server
        | waitRequest =>
            apply TransitionSystem.alike_advance (.after server identified identified')
            apply rel_server identified identified'
            exact encounter.waitRequest_alike secret other server
        | processRequest =>
            apply TransitionSystem.alike_advance (.after server identified identified')
            apply rel_server identified identified'
            exact encounter.processRequest_alike secret other server

/-! ### What the observer learns -/

/-- The client ID arrives as it is. -/
theorem advance_sendsID {state : State Peer} {mover : Mover} (sends : SendsID state mover) :
    ((encounter.system secret).advance state mover).server.arrived =
      state.server.arrived ++ [encounter.idMessage secret] := by
  rcases sends with ⟨rfl, place, alive⟩
  have taken : encounter.clientStep secret state =
      some ⟨state.server.arrive (encounter.idMessage secret),
        { state.client with thread := .recvAck }⟩ := by
    unfold clientStep Client.connectAndGetAuthToken
    simp only [place, Server.system, alive, Option.isSome_none, Bool.false_eq_true, if_false,
      Option.map_some]
    rfl
  have steps : (encounter.system secret).step state .client =
      encounter.clientStep secret state := rfl
  unfold TransitionSystem.advance
  rw [steps, taken]
  rfl

theorem arrivals_trace (schedule : Nat → Mover) (time : Nat) : encounter.Arrivals secret
    ((encounter.system secret).trace schedule encounter.start time) := by
  apply TransitionSystem.trace_invariant
  · intro state mover next before taken
    exact before.step encounter secret taken
  · exact encounter.arrivals_start secret

/-- Two runs that look the same beyond the step that sends the client ID have the
same client ID. -/
theorem clientID_eq_of_sameView {schedule : Nat → Mover} {time earlier : Nat}
    (same : TransitionSystem.SameView view (encounter.system secret) (encounter.system other)
      schedule encounter.start encounter.start time)
    (isEarlier : earlier < time)
    (sends : SendsID ((encounter.system secret).trace schedule encounter.start earlier)
      (schedule earlier)) : secret.clientID = other.clientID := by
  have seen := congrArg Prod.fst (same (earlier + 1) isEarlier)
  have sentID := encounter.advance_sendsID secret sends
  rcases encounter.arrivals_trace secret schedule earlier with ⟨sent, arrived, isSent⟩
  rcases encounter.arrivals_trace other schedule (earlier + 1) with ⟨sent', arrived', isSent'⟩
  have sameSent : sent ++ [encounter.idMessage secret] = sent' := by
    apply List.append_cancel_left
    rw [← List.append_assoc, ← arrived, ← sentID]
    exact seen.trans arrived'
  rw [sends.place] at isSent
  cases isSent with
  | nothing silent => exact absurd silent (by decide)
  | both _ identified => exact absurd identified (by decide)
  | keys three _ _ =>
      cases isSent' with
      | nothing => cases sameSent
      | keys => cases sameSent
      | both =>
          have last := (List.cons.inj (List.cons.inj sameSent).2).1
          exact (List.cons.inj (congrArg Message.payload last)).1

/-- The two runs look the same exactly where the client ID is the same, or has not
been sent: the result shows in no frame. -/
theorem sameView_iff (schedule : Nat → Mover) (time : Nat) :
    TransitionSystem.SameView view (encounter.system secret) (encounter.system other) schedule
        encounter.start encounter.start time ↔
      secret.clientID = other.clientID ∨
        ∀ earlier < time,
          ¬ SendsID ((encounter.system secret).trace schedule encounter.start earlier)
            (schedule earlier) := by
  constructor
  · intro same
    by_cases equal : secret.clientID = other.clientID
    · exact .inl equal
    · right
      intro earlier isEarlier sends
      exact equal (encounter.clientID_eq_of_sameView secret other same isEarlier sends)
  · intro hidden
    apply (encounter.unwinding secret other).sameView (fun _ _ => view_of_alike)
      (.before encounter.quiet_start)
    intro earlier isEarlier sends
    rcases hidden with same | silent
    · exact same
    · exact absurd sends (silent earlier isEarlier)

/-- Whatever the client ID of this length and the result, the frames in both
directions are the same. -/
def Hidden : Prop :=
  ∀ secret other : Secret, secret.clientID.length = other.clientID.length →
    ∀ (schedule : Nat → Mover) (time : Nat),
      TransitionSystem.SameView view (encounter.system secret) (encounter.system other) schedule
        encounter.start encounter.start time

/-- A first session. -/
def firstSession : Encounter Bool where
  network := twoPeers
  lib := Reference.library
  lawful := Reference.library_lawful
  draws := fun _ => Reference.drawA
  peer := false
  draw := Reference.drawB
  server := .boot .initial
  waits := rfl
  emptied := rfl
  idle := rfl
  isClear := rfl

def firstKeys : Message Bool := Server.greetingMessage false

/-- The client has greeted. -/
def greeted : State Bool where
  server := (Server.boot .initial).arrive firstKeys
  client := ⟨Crypto.initial.withKeys Reference.drawB, .recvSpub, 0⟩

/-- What both parties make of the keys. -/
def firstShared : Bytes :=
  (Reference.library.agree Reference.drawA.staticPrivate Reference.drawA.ephemeralPrivate
    Reference.drawB.staticPublic Reference.drawB.ephemeralPublic).getD []

def firstXport : Bytes := Crypto.wrap Reference.library firstShared Reference.drawA.contentKey

def firstHandshake : Session Bool :=
  ⟨.identity false, .payload false greeting, .payload false (Reference.keyText 4),
    .payload false (Reference.keyText 8), 0⟩

/-- The server has its keys. -/
def agreed : State Bool where
  client := greeted.client
  server := { greeted.server with
    inbox := []
    crypto := (Crypto.initial.withKeys Reference.drawA).withXport Reference.drawA firstShared
    wait := .sendIdentity firstHandshake
    received := firstKeys.frames
    sessions := [firstHandshake] }

/-- The server has sent its keys. -/
def answered : State Bool where
  client := greeted.client
  server := { agreed.server with
    outbox := [⟨ascii "peer A", true, .handshake 0⟩,
      ⟨Reference.keyText 1, true, .handshake 0⟩, ⟨Reference.keyText 2, true, .handshake 0⟩,
      ⟨Crypto.blockHexStr Reference.library firstXport, false, .handshake 0⟩]
    wait := .recvDummy firstHandshake
    xports := [⟨0, ascii "peer A", Crypto.kekOf firstShared, firstXport⟩] }

/-- The ID of the test client, whose login succeeds. -/
def testClient : Secret := ⟨ascii "TESTING_CLIENT", true⟩

theorem run_greeted : (firstSession.system testClient).run firstSession.start
    [.client, .client] = some greeted := by
  have made : Crypto.runInitKeyExchangeParams Reference.drawB .initial =
      .ok (Crypto.initial.withKeys Reference.drawB) :=
    (Crypto.runInitKeyExchangeParams_eq Reference.drawB .initial).trans (if_pos rfl)
  have first : (firstSession.system testClient).step firstSession.start .client =
      some ⟨.boot .initial, ⟨Crypto.initial.withKeys Reference.drawB, .sendGreeting, 0⟩⟩ := by
    have calls : Client.initial.call (Crypto.runInitKeyExchangeParams Reference.drawB .initial)
        .sendGreeting = ⟨Crypto.initial.withKeys Reference.drawB, .sendGreeting, 0⟩ := by
      rw [made]
      rfl
    rw [← calls]
    rfl
  have static : Crypto.blockHexStr Reference.library Reference.drawB.staticPublic =
      Reference.keyText 4 :=
    Reference.blockHexStr_eq_keyText (by decide) (by decide) (by decide +kernel)
  have ephemeral : Crypto.blockHexStr Reference.library Reference.drawB.ephemeralPublic =
      Reference.keyText 8 :=
    Reference.blockHexStr_eq_keyText (by decide) (by decide) (by decide +kernel)
  have keys : (⟨false, [greeting,
      Crypto.blockHexStr Reference.library Reference.drawB.staticPublic,
      Crypto.blockHexStr Reference.library Reference.drawB.ephemeralPublic],
      List.cons_ne_nil _ _⟩ : Message Bool) = firstKeys := by
    simp only [static, ephemeral]
    rfl
  rw [TransitionSystem.run_cons_of_step _ _ first, greeted, ← keys]
  rfl

theorem run_agreed : (firstSession.system testClient).run greeted
    (List.replicate 43 .waitRequest) = some agreed := by
  decide +kernel

theorem run_answered : (firstSession.system testClient).run agreed
    (List.replicate 4 .waitRequest) = some answered := by
  have static : Crypto.blockHexStr Reference.library Reference.drawA.staticPublic =
      Reference.keyText 1 :=
    Reference.blockHexStr_eq_keyText (by decide) (by decide) (by decide +kernel)
  have ephemeral : Crypto.blockHexStr Reference.library Reference.drawA.ephemeralPublic =
      Reference.keyText 2 :=
    Reference.blockHexStr_eq_keyText (by decide) (by decide) (by decide +kernel)
  rw [answered, ← static, ← ephemeral]
  rfl

theorem run_sendID : ∃ last, (firstSession.system testClient).run answered
    (List.replicate 5 .client) = some last ∧
      last.client.thread = .sendID ∧ last.server.terminated = none := by
  apply TransitionSystem.ends_in
  decide +kernel

/-- The client greets, the server answers with its keys, and the client goes on up
to its ID. -/
def handshake : List Mover :=
  [.client, .client] ++ List.replicate 43 .waitRequest ++ List.replicate 4 .waitRequest ++
    List.replicate 5 .client

def handshakeFirst (time : Nat) : Mover := handshake[time]?.getD .client

/-- The client ID can be told from another one of its length. -/
theorem client_id_seen : ¬ firstSession.Hidden := by
  intro hidden
  rcases run_sendID with ⟨last, ran, place, alive⟩
  have reached : (firstSession.system testClient).trace handshakeFirst firstSession.start
      handshake.length = last := by
    apply TransitionSystem.trace_of_run
    · intro time mover chosen
      rw [handshakeFirst, chosen]
      rfl
    · rw [handshake, TransitionSystem.run_append, TransitionSystem.run_append,
        TransitionSystem.run_append, run_greeted, Option.bind_some, run_agreed, Option.bind_some,
        run_answered, Option.bind_some]
      exact ran
  have sends : SendsID ((firstSession.system testClient).trace handshakeFirst firstSession.start
      handshake.length) (handshakeFirst handshake.length) := by
    rw [reached]
    exact ⟨rfl, place, alive⟩
  have same := hidden testClient ⟨ascii "ANOTHER_CLIENT", true⟩ (by decide) handshakeFirst
    (handshake.length + 1)
  have equal := firstSession.clientID_eq_of_sameView _ _ same (Nat.lt_succ_self _) sends
  exact absurd equal (by decide)

end Encounter

end LicensingServer
