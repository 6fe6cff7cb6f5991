import LicensingServer.Server.CryptoState

/-!
Owns the numbering of the handshakes, and what is in the wrapped keys that the
server has sent: each belongs to the handshake of its number.

Does not own the frames that they are sent in.
-/

set_option autoImplicit false

namespace LicensingServer

open LicensingServer.Foundations

/-- The handshake that the thread is in. -/
def WaitThread.session? {Peer : Type} : WaitThread Peer → Option (Session Peer)
  | .initKeys session _ | .genXport session _ _ | .sendIdentity session | .sendSpub session
  | .sendEpub session | .sendXport session | .recvDummy session | .recvClientID session
  | .testFlag session _ | .push session _ | .setFlag session _ => some session
  | _ => none

/-- A handshake is begun whose wrapped key is not yet sent. -/
def WaitThread.unsent {Peer : Type} : WaitThread Peer → Nat
  | .initKeys _ _ | .genXport _ _ _ | .sendIdentity _ | .sendSpub _ | .sendEpub _
  | .sendXport _ => 1
  | _ => 0

namespace Server

variable {Peer : Type}

/-- Handshakes are numbered in the order in which they begin, and each sends its
wrapped key before the next one begins. -/
structure Numbered (server : Server Peer) : Prop where
  sessions : server.sessions.map Session.number = List.range server.sessions.length
  current : ∀ session, server.wait.session? = some session →
    server.sessions.getLast? = some session
  xports : server.xports.map SentXport.handshake = List.range server.xports.length
  count : server.sessions.length = server.xports.length + server.wait.unsent

theorem numbered_boot (crypto : Crypto) : Numbered (boot crypto : Server Peer) where
  sessions := rfl
  current _ isIn := by cases isIn
  xports := rfl
  count := rfl

theorem Numbered.session_mem {server : Server Peer} (numbered : Numbered server)
    (session : Session Peer) (isIn : server.wait.session? = some session) :
    server.sessions[session.number]? = some session ∧
      session.number + 1 = server.sessions.length := by
  have last := numbered.current session isIn
  have nonempty : server.sessions ≠ [] := by
    intro empty
    rw [empty] at last
    cases last
  have positive : 0 < server.sessions.length := List.length_pos_iff.mpr nonempty
  rw [List.getLast?_eq_getElem?] at last
  have number : (server.sessions.map Session.number)[server.sessions.length - 1]? =
      some session.number := by
    rw [List.getElem?_map, last]
    rfl
  rw [numbered.sessions, List.getElem?_range (by omega)] at number
  have same : server.sessions.length - 1 = session.number := Option.some.inj number
  exact ⟨same ▸ last, by omega⟩

/-- A step that begins no handshake and sends no wrapped key. -/
theorem Numbered.of_same {server next : Server Peer} (numbered : Numbered server)
    (sessions : next.sessions = server.sessions) (xports : next.xports = server.xports)
    (current : ∀ session, next.wait.session? = some session →
      server.wait.session? = some session)
    (unsent : next.wait.unsent = server.wait.unsent) : Numbered next where
  sessions := by rw [sessions]; exact numbered.sessions
  current session isIn := by rw [sessions]; exact numbered.current session (current session isIn)
  xports := by rw [xports]; exact numbered.xports
  count := by rw [sessions, xports, unsent]; exact numbered.count

theorem numbered_waitMoves {config : Config Peer} {server next : Server Peer}
    (numbered : Numbered server) (moves : WaitMoves config server next) : Numbered next := by
  cases moves with
  | recvIdentity place | refuse place | greet place | recvSpub place | setFlag place =>
      exact numbered.of_same rfl rfl (fun _ isIn => by cases isIn) (by rw [place]; rfl)
  | recvEpub place =>
      have count := numbered.count
      rw [place] at count
      refine ⟨?_, fun session isIn => ?_, numbered.xports, ?_⟩
      · change (server.sessions ++ [_]).map Session.number = List.range (server.sessions ++ [_]).length
        rw [List.map_append, numbered.sessions, List.length_append, List.length_singleton,
          List.range_succ]
        rfl
      · obtain rfl := Option.some.inj isIn
        exact List.getLast?_concat
      · change (server.sessions ++ [_]).length = _
        rw [List.length_append, count]
        rfl
  | initFails | xportFails | spin => exact numbered.of_same rfl rfl (fun _ isIn => isIn) rfl
  | initKeys place | callGenXport place | genXport place | returnXport place | sendIdentity place
  | sendSpub place | sendEpub place | recvDummy place | recvClientID place | seeClear place
  | push place =>
      exact numbered.of_same rfl rfl (fun _ isIn => by rw [place]; exact isIn) (by rw [place]; rfl)
  | @sendXport session place =>
      have count := numbered.count
      obtain ⟨-, number⟩ := numbered.session_mem session (by rw [place]; rfl)
      rw [place] at count
      refine ⟨numbered.sessions, fun other isIn => ?_, ?_, ?_⟩
      · exact numbered.current other (by rw [place]; exact isIn)
      · change (server.xports ++ [_]).map SentXport.handshake = List.range (server.xports ++ [_]).length
        have here : session.number = server.xports.length := by
          have count : server.sessions.length = server.xports.length + 1 := count
          omega
        rw [List.map_append, numbered.xports, List.length_append, List.length_singleton,
          List.range_succ, ← here]
        rfl
      · change server.sessions.length = (server.xports ++ [_]).length + 0
        rw [count, List.length_append]
        rfl

theorem numbered_of_reachable {config : Config Peer} {server : Server Peer}
    (reached : (system config).Reachable server) : Numbered server := by
  refine TransitionSystem.Reachable.invariant Numbered ?_ ?_ reached
  · intro start initially
    rcases initially with ⟨crypto, rfl⟩
    exact numbered_boot crypto
  · intro server who next before taken
    rcases step_cases taken with ⟨-, ⟨message, -, rfl⟩ | ⟨-, waits⟩ | ⟨-, processes⟩⟩
    · exact before.of_same rfl rfl (fun _ isIn => isIn) rfl
    · exact numbered_waitMoves before waits
    · have leaves := processes.leavesReceive
      exact before.of_same leaves.sessions leaves.xports
        (fun _ isIn => by rw [← leaves.wait]; exact isIn) (by rw [leaves.wait])

/-! ### What was sent -/

/-- A wrapped key is the one that `genXport` made in the handshake of its
number, from the keys that were received in it. -/
def MadeIn (config : Config Peer) (server : Server Peer) (sent : SentXport) : Prop :=
  ∃ session shared, server.sessions[sent.handshake]? = some session ∧
    sent.clientIdentity = session.clientIdentity.data config.network ∧
    Crypto.agreedValue config.lib (session.spub.data config.network)
        (session.epub.data config.network)
        (Crypto.initial.withKeys (config.draws sent.handshake)) = .ok shared ∧
    sent.kek = Crypto.kekOf shared ∧
    sent.xport = Crypto.wrap config.lib shared (config.draws sent.handshake).contentKey

theorem MadeIn.mono {config : Config Peer} {server next : Server Peer} {sent : SentXport}
    (made : MadeIn config server sent) (more : server.sessions <+: next.sessions) :
    MadeIn config next sent := by
  rcases made with ⟨session, shared, found, rest⟩
  rcases more with ⟨added, same⟩
  have within := (List.getElem?_eq_some_iff.mp found).1
  refine ⟨session, shared, ?_, rest⟩
  rw [← same, List.getElem?_append_left within]
  exact found

theorem WaitMoves.sessions_prefix {config : Config Peer} {server next : Server Peer}
    (moves : WaitMoves config server next) : server.sessions <+: next.sessions := by
  cases moves with
  | recvEpub => exact List.prefix_append _ _
  | _ => exact List.prefix_rfl

theorem madeIn_of_reachable {config : Config Peer} (lawful : config.lib.Lawful)
    {server : Server Peer} (reached : (system config).Reachable server) :
    ∀ sent ∈ server.xports, MadeIn config server sent := by
  induction reached with
  | initial start =>
      rcases start with ⟨crypto, rfl⟩
      intro sent member
      cases member
  | @step server next who before met taken inductionHypothesis =>
      rcases step_cases taken with ⟨-, ⟨message, -, rfl⟩ | ⟨-, waits⟩ | ⟨-, processes⟩⟩
      · exact inductionHypothesis
      · have grows := waits.sessions_prefix
        cases waits with
        | @sendXport session place =>
            have inPlace := cryptoInPlace_of_reachable before
            simp only [CryptoInPlace, place] at inPlace
            obtain ⟨shared, meets, kek, -, xport, -⟩ := inPlace.keys lawful
            have found := (numbered_of_reachable before).session_mem session
              (by rw [place]; rfl)
            intro sent member
            rcases List.mem_append.mp member with old | new
            · exact inductionHypothesis sent old
            · obtain rfl := List.mem_singleton.mp new
              exact ⟨session, shared, found.1, rfl, meets, kek, xport⟩
        | _ => exact fun sent member => (inductionHypothesis sent member).mono grows
      · have leaves := processes.leavesReceive
        rw [leaves.xports]
        intro sent member
        apply (inductionHypothesis sent member).mono
        have same : next.sessions = server.sessions := leaves.sessions
        exact same ▸ List.prefix_rfl

/-- Whoever shares the secret of a wrapped key gets the content key out of it. -/
theorem MadeIn.unwraps {config : Config Peer} (lawful : config.lib.Lawful) {server : Server Peer}
    {sent : SentXport} (made : MadeIn config server sent) :
    config.lib.aesDecrypt sent.kek (sent.xport.take blockSize) =
      (config.draws sent.handshake).contentKey := by
  rcases made with ⟨session, shared, -, -, meets, kek, xport⟩
  have kekLength := Crypto.kekOf_length (Crypto.agreedValue_length lawful meets)
  have aes := lawful.aes_lawful _ kekLength
  have contentLength := (config.draws sent.handshake).contentKey_length
  have front : sent.xport.take blockSize =
      config.lib.aesEncrypt (Crypto.kekOf shared) (config.draws sent.handshake).contentKey := by
    rw [xport]
    exact List.take_left' (aes.encrypt_length _ contentLength)
  rw [front, kek]
  exact aes.decrypt_encrypt _ contentLength

end Server

end LicensingServer
