import LicensingServer.Server.ReplyKeys
import LicensingServer.Foundations.Multipart
import Mathlib.Data.List.Perm.Basic

/-!
Owns the messages that leave the server: they are whole, each from one
handshake or one reply, in every run in which no thread begins a message while
the other is in the middle of one.

Does not own what the receivers make of them.
-/

set_option autoImplicit false

namespace LicensingServer

open LicensingServer.Foundations

variable {Peer : Type}

/-! ### The messages -/

/-- The frames of a handshake's message before the wrapped key. -/
def keyFrames (config : Config Peer) (number : Nat) (clientIdentity : Bytes) : List OutFrame :=
  [⟨clientIdentity, true, .handshake number⟩,
    ⟨Crypto.blockHexStr config.lib (config.draws number).staticPublic, true, .handshake number⟩,
    ⟨Crypto.blockHexStr config.lib (config.draws number).ephemeralPublic, true, .handshake number⟩]

/-- `[identity, signing key, ephemeral key, xport]`. -/
def handshakeMessage (config : Config Peer) (sent : SentXport) : List OutFrame :=
  keyFrames config sent.handshake sent.clientIdentity ++
    [⟨Crypto.blockHexStr config.lib sent.xport, false, .handshake sent.handshake⟩]

/-- `[identity, encrypted result]`. -/
def replyMessage (reply : Sealed) : List OutFrame :=
  [⟨reply.queued.login.clientIdentity, true, .reply reply.queued.handshake⟩,
    ⟨reply.result, false, .reply reply.queued.handshake⟩]

/-- The frames that the thread has sent of the message it is in the middle of. -/
def WaitThread.begun (config : Config Peer) : WaitThread Peer → List OutFrame
  | .sendSpub session =>
      (keyFrames config session.number (session.clientIdentity.data config.network)).take 1
  | .sendEpub session =>
      (keyFrames config session.number (session.clientIdentity.data config.network)).take 2
  | .sendXport session =>
      keyFrames config session.number (session.clientIdentity.data config.network)
  | _ => []

def ProcessThread.begun : ProcessThread → List OutFrame
  | .sendResult reply => (replyMessage reply).take 1
  | _ => []

/-- The thread is about to send the first frame of a message. -/
def WaitThread.begins : WaitThread Peer → Bool
  | .sendIdentity _ => true
  | _ => false

def ProcessThread.begins : ProcessThread → Bool
  | .sendIdentity _ => true
  | _ => false

namespace Server

/-- The messages that the socket sends, and the frames that it holds back. -/
def outgoing (server : Server Peer) : Multipart OutFrame :=
  Multipart.cut OutFrame.more server.outbox

variable (config : Config Peer)

/-- Every message is the one of a handshake or the one of a reply, to the
identity that began that handshake, and no frame is missing. -/
structure OutgoingWhole (server : Server Peer) : Prop where
  frames : server.outgoing.complete.flatten ++ server.outgoing.unfinished = server.outbox
  complete : server.outgoing.complete.Perm
    (server.xports.map (handshakeMessage config) ++ server.replied.map replyMessage)
  unfinished : server.outgoing.unfinished = server.wait.begun config ++ server.process.begun
  /-- Each handshake has at most one message. -/
  handshakes : server.xports.map SentXport.handshake = List.range server.xports.length
  made : ∀ sent ∈ server.xports, MadeIn config server sent
  /-- Each request has at most one reply. -/
  replies : server.replied.map Sealed.queued <+: server.pushed

/-- No thread begins a message while the other is in the middle of one. -/
def SendsAlone (server : Server Peer) : Step Peer → Prop
  | .waitRequest => server.wait.begins = true → server.process.begun = []
  | .processRequest => server.process.begins = true → server.wait.begun config = []
  | .arrive _ => True

instance (server : Server Peer) : ∀ who, Decidable (SendsAlone config server who)
  | .waitRequest | .processRequest => inferInstanceAs (Decidable (_ → _))
  | .arrive _ => .isTrue trivial

/-! ### The frames of a run -/

/-- What the socket has been handed, while only one thread is sending. -/
structure Sending (server : Server Peer) : Prop where
  alone : server.wait.begun config = [] ∨ server.process.begun = []
  complete : server.outgoing.complete.Perm
    (server.xports.map (handshakeMessage config) ++ server.replied.map replyMessage)
  unfinished : server.outgoing.unfinished = server.wait.begun config ++ server.process.begun

variable {config}

theorem sending_boot (crypto : Crypto) : Sending config (boot crypto) where
  alone := .inl rfl
  complete := List.Perm.refl _
  unfinished := rfl

theorem outgoing_send_more (server : Server Peer) (data : Bytes) (origin : Origin) :
    (server.send data true origin).outgoing =
      ⟨server.outgoing.complete, server.outgoing.unfinished ++ [⟨data, true, origin⟩]⟩ :=
  Multipart.cut_concat_more OutFrame.more rfl _

theorem outgoing_send_last (server : Server Peer) (data : Bytes) (origin : Origin) :
    (server.send data false origin).outgoing =
      ⟨server.outgoing.complete ++ [server.outgoing.unfinished ++ [⟨data, false, origin⟩]], []⟩ :=
  Multipart.cut_concat_last OutFrame.more rfl _

/-- Steps that hand nothing to the socket. -/
theorem Sending.of_same {server next : Server Peer} (sending : Sending config server)
    (outbox : next.outbox = server.outbox) (xports : next.xports = server.xports)
    (replied : next.replied = server.replied)
    (wait : next.wait.begun config = server.wait.begun config)
    (process : next.process.begun = server.process.begun) : Sending config next where
  alone := by rw [wait, process]; exact sending.alone
  complete := by
    rw [outgoing, outbox, xports, replied]
    exact sending.complete
  unfinished := by
    rw [outgoing, outbox, wait, process]
    exact sending.unfinished

/-- The receive thread hands over a frame that does not end its message. -/
theorem Sending.more {server : Server Peer} (sending : Sending config server)
    (alone : server.process.begun = []) {wait : WaitThread Peer} {data : Bytes} {origin : Origin}
    (begun : wait.begun config = server.wait.begun config ++ [⟨data, true, origin⟩]) :
    Sending config { server.send data true origin with wait } where
  alone := .inr alone
  complete := by
    change (server.send data true origin).outgoing.complete.Perm _
    rw [outgoing_send_more]
    exact sending.complete
  unfinished := by
    show (server.send data true origin).outgoing.unfinished = wait.begun config ++ server.process.begun
    rw [outgoing_send_more, begun, sending.unfinished, alone, List.append_nil, List.append_nil]

/-- The wrapped key ends the message of its handshake. -/
theorem Sending.outgoing_sendXport {server : Server Peer} (sending : Sending config server)
    {session : Session Peer} (place : server.wait = .sendXport session)
    (idle : server.process.begun = []) :
    (server.send (Crypto.xportHexStr config.lib server.crypto) false
        (.handshake session.number)).outgoing =
      ⟨server.outgoing.complete ++ [handshakeMessage config ⟨session.number,
        session.clientIdentity.data config.network, server.crypto.kek, server.crypto.xport⟩], []⟩ := by
  rw [outgoing_send_last, sending.unfinished, idle, place, List.append_nil]
  rfl

/-- The result ends its reply. -/
theorem Sending.outgoing_sendResult {server : Server Peer} (sending : Sending config server)
    {reply : Sealed} (place : server.process = .sendResult reply)
    (idle : server.wait.begun config = []) :
    (server.send reply.result false (.reply reply.queued.handshake)).outgoing =
      ⟨server.outgoing.complete ++ [replyMessage reply], []⟩ := by
  rw [outgoing_send_last, sending.unfinished, idle, place]
  rfl

theorem sending_waitMoves (lawful : config.lib.Lawful) {server next : Server Peer}
    (sending : Sending config server) (inPlace : CryptoInPlace config server)
    (met : SendsAlone config server .waitRequest)
    (moves : WaitMoves config server next) : Sending config next := by
  have onlyWait : server.wait.begun config ≠ [] → server.process.begun = [] :=
    sending.alone.resolve_left
  cases moves with
  | initFails | xportFails | spin => exact sending.of_same rfl rfl rfl rfl rfl
  | recvIdentity place | refuse place | greet place | recvSpub place | recvEpub place
  | initKeys place | callGenXport place | genXport place | returnXport place | recvDummy place
  | recvClientID place | seeClear place | push place | setFlag place =>
      exact sending.of_same rfl rfl rfl (by rw [place]; rfl) rfl
  | @sendIdentity session place =>
      exact sending.more (met (by rw [place]; rfl)) (by rw [place]; rfl)
  | sendSpub place =>
      simp only [CryptoInPlace, place] at inPlace
      obtain ⟨_, -, -, -, -, holds⟩ := inPlace.keys lawful
      apply sending.more (onlyWait (by rw [place]; exact List.cons_ne_nil _ _))
      rw [place, Crypto.spubHexStr, holds.spubA]
      rfl
  | sendEpub place =>
      simp only [CryptoInPlace, place] at inPlace
      obtain ⟨_, -, -, -, -, holds⟩ := inPlace.keys lawful
      apply sending.more (onlyWait (by rw [place]; exact List.cons_ne_nil _ _))
      rw [place, Crypto.epubHexStr, holds.epubA]
      rfl
  | @sendXport session place =>
      have idle := onlyWait (by rw [place]; exact List.cons_ne_nil _ _)
      have sent := sending.outgoing_sendXport place idle
      refine ⟨.inl rfl, ?_, ?_⟩
      · change (server.send _ false _).outgoing.complete.Perm _
        rw [sent]
        apply (sending.complete.append_right _).trans
        rw [List.map_append, List.append_assoc, List.append_assoc]
        exact List.perm_append_comm.append_left _
      · change (server.send _ false _).outgoing.unfinished = [] ++ server.process.begun
        rw [sent, idle]
        rfl

theorem sending_processMoves {server next : Server Peer} (sending : Sending config server)
    (met : SendsAlone config server .processRequest)
    (moves : ProcessMoves config server next) : Sending config next := by
  cases moves with
  | spin | frontOfEmpty | popOfEmpty | checkFails | encryptFails =>
      exact sending.of_same rfl rfl rfl rfl rfl
  | seeSet place | goBack place | goOn place | front place | pop place | clearFlag place
  | check place | encrypt place =>
      exact sending.of_same rfl rfl rfl rfl (by rw [place]; rfl)
  | @sendIdentity reply place =>
      have idle := met (by rw [place]; rfl)
      have unfinished := sending.unfinished
      rw [idle, place] at unfinished
      refine ⟨.inl idle, ?_, ?_⟩
      · change (server.send _ true _).outgoing.complete.Perm _
        rw [outgoing_send_more]
        exact sending.complete
      · change (server.send _ true _).outgoing.unfinished = server.wait.begun config ++ _
        rw [outgoing_send_more, unfinished, idle]
        rfl
  | @sendResult reply place =>
      have idle : server.wait.begun config = [] := by
        apply sending.alone.resolve_right
        rw [place]
        exact List.cons_ne_nil _ _
      have sent := sending.outgoing_sendResult place idle
      refine ⟨.inl idle, ?_, ?_⟩
      · change (server.send _ false _).outgoing.complete.Perm _
        rw [sent, List.map_append, ← List.append_assoc]
        exact sending.complete.append_right _
      · change (server.send _ false _).outgoing.unfinished = server.wait.begun config ++ []
        rw [sent, idle]
        rfl

theorem sending_of_reachable (lawful : config.lib.Lawful) {server : Server Peer}
    (reached : (system config).ReachableUnder (SendsAlone config) server) :
    Sending config server := by
  induction reached with
  | initial start =>
      rcases start with ⟨crypto, rfl⟩
      exact sending_boot crypto
  | step before met taken sending =>
      rcases step_cases taken with ⟨-, ⟨message, -, rfl⟩ | ⟨rfl, waits⟩ | ⟨rfl, processes⟩⟩
      · exact sending.of_same rfl rfl rfl rfl rfl
      · exact sending_waitMoves lawful sending (cryptoInPlace_of_reachable before.reachable) met waits
      · exact sending_processMoves sending met processes

/-- The receive thread completes the message of a handshake, or none. -/
theorem WaitMoves.completes {server next : Server Peer} (sending : Sending config server)
    (moves : WaitMoves config server next) :
    (next.xports = server.xports ∧ next.outgoing.complete = server.outgoing.complete) ∨
      ∃ session sent, server.wait = .sendXport session ∧
        sent = ⟨session.number, session.clientIdentity.data config.network,
          server.crypto.kek, server.crypto.xport⟩ ∧
        next.xports = server.xports ++ [sent] ∧
        next.outgoing.complete = server.outgoing.complete ++ [handshakeMessage config sent] := by
  cases moves with
  | sendIdentity | sendSpub | sendEpub =>
      refine .inl ⟨rfl, ?_⟩
      change (server.send _ true _).outgoing.complete = _
      rw [outgoing_send_more]
  | sendXport place =>
      have idle := sending.alone.resolve_left (by rw [place]; exact List.cons_ne_nil _ _)
      refine .inr ⟨_, _, place, rfl, rfl, ?_⟩
      change (server.send _ false _).outgoing.complete = _
      rw [sending.outgoing_sendXport place idle]
  | _ => exact .inl ⟨rfl, rfl⟩

/-- The processing thread completes a reply, or nothing. -/
theorem ProcessMoves.completes {server next : Server Peer} (sending : Sending config server)
    (moves : ProcessMoves config server next) :
    (next.replied = server.replied ∧ next.outgoing.complete = server.outgoing.complete) ∨
      ∃ reply, server.process = .sendResult reply ∧ next.replied = server.replied ++ [reply] ∧
        next.outgoing.complete = server.outgoing.complete ++ [replyMessage reply] := by
  cases moves with
  | sendIdentity =>
      refine .inl ⟨rfl, ?_⟩
      change (server.send _ true _).outgoing.complete = _
      rw [outgoing_send_more]
  | sendResult place =>
      have idle := sending.alone.resolve_right (by rw [place]; exact List.cons_ne_nil _ _)
      refine .inr ⟨_, place, rfl, ?_⟩
      change (server.send _ false _).outgoing.complete = _
      rw [sending.outgoing_sendResult place idle]
  | _ => exact .inl ⟨rfl, rfl⟩

/-- Replies are sent in the order of the requests, even where the run ends. -/
theorem replied_prefix_of_reachable {server : Server Peer}
    (reached : (system config).Reachable server) :
    server.replied.map Sealed.queued <+: server.pushed := by
  induction reached with
  | initial start =>
      rcases start with ⟨crypto, rfl⟩
      exact List.prefix_rfl
  | @step server next who before met taken inductionHypothesis =>
      rcases step_cases taken with ⟨alive, ⟨message, -, rfl⟩ | ⟨-, waits⟩ | ⟨-, processes⟩⟩
      · exact inductionHypothesis
      · rw [waits.leavesProcess.replied]
        apply inductionHypothesis.trans
        cases waits with
        | push => exact List.prefix_append _ _
        | _ => exact List.prefix_rfl
      · have handOff := handOff_of_reachable before alive
        cases processes with
        | @sendResult reply place =>
            have popped := handOff.popped
            rw [place] at popped
            show (server.replied ++ [reply]).map Sealed.queued <+: server.pushed
            rw [handOff.pushed, popped, List.map_append]
            exact List.prefix_append _ _
        | _ => exact inductionHypothesis

/-- While no thread begins a message in the middle of the other's, all messages
are whole. -/
theorem outgoing_messages_whole {config : Config Peer} (lawful : config.lib.Lawful)
    {server : Server Peer} (reached : (system config).ReachableUnder (SendsAlone config) server) :
    OutgoingWhole config server := by
  have sending := sending_of_reachable lawful reached
  exact {
    frames := Multipart.flatten_cut OutFrame.more server.outbox
    complete := sending.complete
    unfinished := sending.unfinished
    handshakes := (numbered_of_reachable reached.reachable).xports
    made := madeIn_of_reachable lawful reached.reachable
    replies := replied_prefix_of_reachable reached.reachable }

/-- Two whole sessions, each with its keys and its reply. -/
theorem sessionsInTurn_send : ∃ server,
    (system sampleConfig).runMeeting (SendsAlone sampleConfig) (boot .initial) sessionsInTurn =
        some server ∧
      server.outgoing.complete.length = 4 := by
  apply TransitionSystem.ends_in
  decide +kernel

theorem outgoing_messages_whole_in_turn : ∃ server : Server Bool,
    server.outgoing.complete.length = 4 ∧ OutgoingWhole sampleConfig server := by
  obtain ⟨server, ran, four⟩ := sessionsInTurn_send
  have lawful : sampleConfig.lib.Lawful := Reference.library_lawful
  have start : (system sampleConfig).ReachableUnder (SendsAlone sampleConfig) (boot .initial) :=
    .initial ⟨.initial, rfl⟩
  exact ⟨server, four, outgoing_messages_whole lawful (start.of_runMeeting ran)⟩

/-- The keys for peer B are being sent when the reply to peer A is. -/
theorem overlapping_sends : ∃ server,
    (system sampleConfig).run (boot .initial) (overlappingSessions ++
        [.waitRequest, .processRequest, .processRequest]) = some server ∧
      ∃ message ∈ server.outgoing.complete,
        message.map OutFrame.origin = [.handshake 1, .reply 0, .reply 0] ∧
        message.head?.map OutFrame.data = some (ascii "peer B") := by
  apply TransitionSystem.ends_in
  decide +kernel

/-- The result for peer A goes to peer B. -/
theorem reply_mixed_into_keys :
    ¬ ∀ server : Server Bool, (system sampleConfig).Reachable server →
      OutgoingWhole sampleConfig server := by
  intro whole
  obtain ⟨server, ran, message, member, origins, -⟩ := overlapping_sends
  have start : (system sampleConfig).Reachable (boot .initial) := .start ⟨.initial, rfl⟩
  have mixed := (whole server (start.of_run ran)).complete.subset member
  rcases List.mem_append.mp mixed with keys | reply
  · obtain ⟨sent, -, rfl⟩ := List.mem_map.mp keys
    simp [handshakeMessage, keyFrames] at origins
  · obtain ⟨reply, -, rfl⟩ := List.mem_map.mp reply
    simp [replyMessage] at origins

end Server

end LicensingServer
