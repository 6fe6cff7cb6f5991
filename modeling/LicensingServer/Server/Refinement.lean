import LicensingServer.Server.CryptoState
import LicensingServer.Server.Malformed

/-!
Owns the receive thread as an implementation of the receive loop: whatever the
interleaving, the thread has read a front part of the frames that arrived,
stands where the loop stands after these frames, and has pushed the requests
and sent the keys that the loop does over them.

Does not own what the loop does.
-/

set_option autoImplicit false

namespace LicensingServer

open LicensingServer.Foundations

namespace Server

variable {Peer : Type} (config : Config Peer)

/-- The key exchange of a session returns. -/
def exchanges (session : Session Peer) : Bool :=
  keyExchange config session.number (session.spub.data config.network)
    (session.epub.data config.network)

/-- The call of `s_recv` that comes next in the loop. -/
def awaiting : WaitThread Peer → Awaiting Peer
  | .recvIdentity | .testFlag _ _ | .push _ _ | .setFlag _ _ => .clientIdentity
  | .recvWorkload clientIdentity => .workload clientIdentity
  | .recvSpub clientIdentity workload => .spub clientIdentity workload
  | .recvEpub clientIdentity workload spub => .epub clientIdentity workload spub
  | .initKeys session _ | .genXport session _ _ | .sendIdentity session | .sendSpub session
  | .sendEpub session | .sendXport session | .recvDummy session =>
      if exchanges config session then .dummyIdentity session.clientIdentity session.workload
      else .terminated
  | .recvClientID session => .clientID session.clientIdentity session.workload

/-- The request that is read and not yet pushed. -/
def unpushed : WaitThread Peer → List LoginRequest
  | .testFlag session message | .push session message => [(request config session message).login]
  | _ => []

/-- The identity whose keys are not yet sent. -/
def unkeyed : WaitThread Peer → List Bytes
  | .initKeys session _ | .genXport session _ _ | .sendIdentity session | .sendSpub session
  | .sendEpub session | .sendXport session =>
      if exchanges config session then [session.clientIdentity.data config.network] else []
  | _ => []

/-- A key exchange that has come so far returns. -/
def Accepted : WaitThread Peer → Prop
  | .initKeys session remaining =>
      remaining ≠ Crypto.initKeyExchangeParams →
        (config.draws session.number).groupValid = true
  | .genXport session _ _ => (config.draws session.number).groupValid = true
  | .sendIdentity session | .sendSpub session | .sendEpub session | .sendXport session
  | .recvDummy session | .recvClientID session => exchanges config session = true
  | _ => True

structure Simulates (server : Server Peer) : Prop where
  inbox : server.received ++ server.inbox = wire server.arrived
  loop : (ReceiveLoop.waitRequest config.network (keyExchange config)).after .start
    server.received = ⟨awaiting config server.wait, server.sessions.length⟩
  pushed : ReceiveLoop.pushedRequests
      ((ReceiveLoop.waitRequest config.network (keyExchange config)).outputs .start
        server.received) =
    server.pushed.map Queued.login ++ unpushed config server.wait
  keyed : ReceiveLoop.keyedIdentities
      ((ReceiveLoop.waitRequest config.network (keyExchange config)).outputs .start
        server.received) =
    server.xports.map SentXport.clientIdentity ++ unkeyed config server.wait
  accepted : Accepted config server.wait

variable {config}

theorem simulates_boot (crypto : Crypto) : Simulates config (boot crypto) where
  inbox := rfl
  loop := rfl
  pushed := rfl
  keyed := rfl
  accepted := trivial

/-- A statement that reads nothing. -/
theorem Simulates.of_same {server next : Server Peer} {wait : WaitThread Peer}
    (simulates : Simulates config server) (place : server.wait = wait)
    (inbox : next.inbox = server.inbox) (arrived : next.arrived = server.arrived)
    (received : next.received = server.received) (sessions : next.sessions = server.sessions)
    (awaits : awaiting config next.wait = awaiting config wait)
    (pushed : next.pushed.map Queued.login ++ unpushed config next.wait =
      server.pushed.map Queued.login ++ unpushed config wait)
    (keyed : next.xports.map SentXport.clientIdentity ++ unkeyed config next.wait =
      server.xports.map SentXport.clientIdentity ++ unkeyed config wait)
    (accepted : Accepted config wait → Accepted config next.wait) : Simulates config next where
  inbox := by rw [inbox, arrived, received]; exact simulates.inbox
  loop := by rw [received, awaits, sessions, ← place]; exact simulates.loop
  pushed := by rw [received, pushed, ← place]; exact simulates.pushed
  keyed := by rw [received, keyed, ← place]; exact simulates.keyed
  accepted := by
    apply accepted
    rw [← place]
    exact simulates.accepted

/-- A statement that reads a frame does what the loop does with it. -/
theorem Simulates.reads {server next : Server Peer} {wait : WaitThread Peer}
    (simulates : Simulates config server) (place : server.wait = wait)
    {frame : Frame Peer} {rest : List (Frame Peer)} (waiting : server.inbox = frame :: rest)
    (inbox : next.inbox = rest) (arrived : next.arrived = server.arrived)
    (received : next.received = server.received ++ [frame])
    (loop : ReceiveLoop.next config.network (keyExchange config)
      ⟨awaiting config wait, server.sessions.length⟩ frame =
        ⟨awaiting config next.wait, next.sessions.length⟩)
    (pushed : next.pushed = server.pushed ∧ unpushed config wait = [] ∧
      ReceiveLoop.pushedRequests (ReceiveLoop.emit config.network (keyExchange config)
        ⟨awaiting config wait, server.sessions.length⟩ frame) = unpushed config next.wait)
    (keyed : next.xports = server.xports ∧ unkeyed config wait = [] ∧
      ReceiveLoop.keyedIdentities (ReceiveLoop.emit config.network (keyExchange config)
        ⟨awaiting config wait, server.sessions.length⟩ frame) = unkeyed config next.wait)
    (accepted : Accepted config next.wait) : Simulates config next := by
  rw [← place] at loop pushed keyed
  have outputs : (ReceiveLoop.waitRequest config.network (keyExchange config)).outputs .start
      next.received = (ReceiveLoop.waitRequest config.network (keyExchange config)).outputs .start
        server.received ++ ReceiveLoop.emit config.network (keyExchange config)
          ⟨awaiting config server.wait, server.sessions.length⟩ frame := by
    rw [received, Transducer.outputs_append, simulates.loop, Transducer.outputs_cons,
      Transducer.outputs_nil, List.append_nil]
    rfl
  rcases pushed with ⟨samePushed, noneUnpushed, pushes⟩
  rcases keyed with ⟨sameXports, noneUnkeyed, keys⟩
  refine ⟨?_, ?_, ?_, ?_, accepted⟩
  · rw [inbox, arrived, received, ← simulates.inbox, waiting, List.append_assoc]
    rfl
  · rw [received, Transducer.after_append, simulates.loop, Transducer.after_cons,
      Transducer.after_nil]
    exact loop
  · rw [outputs, ReceiveLoop.pushedRequests_append, simulates.pushed, pushes, samePushed,
      noneUnpushed, List.append_nil]
  · rw [outputs, ReceiveLoop.keyedIdentities_append, simulates.keyed, keys, sameXports,
      noneUnkeyed, List.append_nil]

/-- The first statement of `initKeyExchangeParams` validates the group. -/
theorem groupValid_of_done {lib : CryptoPP} {draw : KeyDraw lib} {crypto next : Crypto}
    {statement : Crypto.InitStatement} {rest : List Crypto.InitStatement}
    (accepted : statement :: rest ≠ Crypto.initKeyExchangeParams → draw.groupValid = true)
    (done : statement.effect draw crypto = .ok next) : draw.groupValid = true := by
  by_cases first : statement :: rest = Crypto.initKeyExchangeParams
  · obtain ⟨rfl, -⟩ := List.cons.inj first
    simp only [Crypto.InitStatement.effect] at done
    split_ifs at done with valid
    exact valid
  · exact accepted first

theorem exchanges_of_exchanged (lawful : config.lib.Lawful) {session : Session Peer}
    {crypto : Crypto} (valid : (config.draws session.number).groupValid = true)
    (exchanged : Crypto.Exchanged (config.draws session.number)
      (session.spub.data config.network) (session.epub.data config.network) crypto) :
    exchanges config session = true := by
  obtain ⟨shared, met, -⟩ := exchanged.keys lawful
  rw [exchanges, keyExchange, valid, met]
  rfl

theorem simulates_waitMoves (lawful : config.lib.Lawful) {server next : Server Peer}
    (simulates : Simulates config server) (inPlace : CryptoInPlace config server)
    (moves : WaitMoves config server next) : Simulates config next := by
  cases moves with
  | initFails | xportFails =>
      exact simulates.of_same rfl rfl rfl rfl rfl rfl rfl rfl id
  | spin => exact simulates
  | recvIdentity place waiting | recvSpub place waiting | recvClientID place waiting =>
      exact simulates.reads place waiting rfl rfl rfl rfl ⟨rfl, rfl, rfl⟩ ⟨rfl, rfl, rfl⟩ trivial
  | refuse place waiting other =>
      exact simulates.reads place waiting rfl rfl rfl (if_pos other) ⟨rfl, rfl, rfl⟩
        ⟨rfl, rfl, rfl⟩ trivial
  | greet place waiting greets =>
      exact simulates.reads place waiting rfl rfl rfl (if_neg (not_not_intro greets))
        ⟨rfl, rfl, rfl⟩ ⟨rfl, rfl, rfl⟩ trivial
  | @recvEpub clientIdentity workload spub frame rest place waiting =>
      -- the loop decides here what the thread finds out statement by statement
      have begun : (server.sessions ++ [(⟨clientIdentity, workload, spub, frame,
          server.sessions.length⟩ : Session Peer)]).length = server.sessions.length + 1 :=
        List.length_append
      refine simulates.reads place waiting rfl rfl rfl ?_ ?_ ?_ fun other => absurd rfl other
      all_goals
        by_cases returns : keyExchange config server.sessions.length
            (spub.data config.network) (frame.data config.network) = true
      · simp only [ReceiveLoop.next, awaiting, exchanges, beginSession, take, returns, begun,
          if_true]
      · simp only [ReceiveLoop.next, awaiting, exchanges, beginSession, take, returns, begun,
          Bool.false_eq_true, if_false]
      · refine ⟨rfl, rfl, ?_⟩
        simp only [ReceiveLoop.emit, awaiting, returns, if_true]
        rfl
      · refine ⟨rfl, rfl, ?_⟩
        simp only [ReceiveLoop.emit, awaiting, returns, Bool.false_eq_true, if_false]
        rfl
      · refine ⟨rfl, rfl, ?_⟩
        simp only [ReceiveLoop.emit, awaiting, unkeyed, exchanges, beginSession, returns, if_true]
        rfl
      · refine ⟨rfl, rfl, ?_⟩
        simp only [ReceiveLoop.emit, awaiting, unkeyed, exchanges, beginSession, returns,
          Bool.false_eq_true, if_false]
        rfl
  | initKeys place done =>
      refine simulates.of_same place rfl rfl rfl rfl rfl rfl rfl ?_
      intro accepted _
      exact groupValid_of_done accepted done
  | callGenXport place =>
      refine simulates.of_same place rfl rfl rfl rfl rfl rfl rfl ?_
      intro accepted
      exact accepted (List.cons_ne_nil _ _).symm
  | returnXport place =>
      simp only [CryptoInPlace, place] at inPlace
      refine simulates.of_same place rfl rfl rfl rfl rfl rfl rfl ?_
      intro accepted
      exact exchanges_of_exchanged lawful accepted inPlace.returned
  | genXport place | sendIdentity place | sendSpub place | sendEpub place | seeClear place
  | setFlag place => exact simulates.of_same place rfl rfl rfl rfl rfl rfl rfl id
  | @sendXport session place =>
      have accepted := simulates.accepted
      rw [place] at accepted
      have returns : exchanges config session = true := accepted
      refine simulates.of_same place rfl rfl rfl rfl rfl rfl ?_ id
      simp only [unkeyed, returns, if_true, List.map_append, List.append_nil]
      rfl
  | @recvDummy session frame rest place waiting =>
      have accepted := simulates.accepted
      rw [place] at accepted
      have returns : exchanges config session = true := accepted
      have awaits : awaiting config (.recvDummy session) =
          .dummyIdentity session.clientIdentity session.workload := by
        simp only [awaiting, returns, if_true]
      refine simulates.reads place waiting rfl rfl rfl ?_ ?_ ?_ accepted
      all_goals rw [awaits]
      · rfl
      · exact ⟨rfl, rfl, rfl⟩
      · exact ⟨rfl, rfl, rfl⟩
  | push place =>
      refine simulates.of_same place rfl rfl rfl rfl rfl ?_ rfl fun _ => trivial
      rw [List.map_append, List.append_assoc]
      rfl

/-- The receive thread refines the receive loop. -/
theorem simulates_of_reachable (lawful : config.lib.Lawful) {server : Server Peer}
    (reached : (system config).Reachable server) : Simulates config server := by
  induction reached with
  | initial start =>
      rcases start with ⟨crypto, rfl⟩
      exact simulates_boot crypto
  | @step server next who before met taken simulates =>
      rcases step_cases taken with ⟨-, ⟨message, -, rfl⟩ | ⟨-, waits⟩ | ⟨-, processes⟩⟩
      · refine ⟨?_, simulates.loop, simulates.pushed, simulates.keyed, simulates.accepted⟩
        show server.received ++ (server.inbox ++ message.frames) =
          wire (server.arrived ++ [message])
        rw [wire_append, ← simulates.inbox, wire_cons, wire_nil, List.append_nil, List.append_assoc]
      · exact simulates_waitMoves lawful simulates (cryptoInPlace_of_reachable before) waits
      · have leaves := processes.leavesReceive
        rcases leaves with ⟨inbox, -, wait, arrived, received, sessions, xports, pushed⟩
        exact simulates.of_same wait.symm inbox arrived received sessions rfl (by rw [pushed])
          (by rw [xports]) id

/-- Every request that the server has pushed is one that the loop pushes over
the frames that arrived. -/
theorem pushed_prefix_of_reachable (lawful : config.lib.Lawful) {server : Server Peer}
    (reached : (system config).Reachable server) :
    server.pushed.map Queued.login <+: ReceiveLoop.pushedRequests
      (ReceiveLoop.effects config.network (keyExchange config) server.arrived) := by
  have simulates := simulates_of_reachable lawful reached
  rw [ReceiveLoop.effects, ← simulates.inbox, Transducer.outputs_append,
    ReceiveLoop.pushedRequests_append, simulates.pushed, List.append_assoc]
  exact List.prefix_append _ _

end Server

end LicensingServer
