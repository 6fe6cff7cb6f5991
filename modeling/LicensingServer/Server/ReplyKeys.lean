import LicensingServer.Server.HandOff
import LicensingServer.Server.Handshakes
import Mathlib.Data.List.Infix

/-!
Owns under which key a result is encrypted: the key of its own handshake, in
every run in which no handshake overwrites the content key while a request is
still waiting for its result to be encrypted.

Does not own how the frames of the results reach the socket.
-/

set_option autoImplicit false

namespace LicensingServer

open LicensingServer.Foundations

/-- The request that is popped and whose result is not yet encrypted. -/
def ProcessThread.unencrypted : ProcessThread → List Queued
  | .clearFlag req | .check req | .encrypt req _ => [req]
  | _ => []

/-- The result that is being sent. -/
def ProcessThread.sending : ProcessThread → List Sealed
  | .sendIdentity reply | .sendResult reply => [reply]
  | _ => []

/-- The next statement begins to overwrite the content key. -/
def WaitThread.overwritesKey {Peer : Type} : WaitThread Peer → Bool
  | .genXport _ _ (.cleanCek :: _) => true
  | _ => false

namespace Crypto

/-- The first statement that writes into `_cek` is `CleanNew`. -/
theorem cleanCek_first {statement : XportStatement} {rest : List XportStatement}
    (suffix : statement :: rest <:+ genXport) (writes : statement.WritesCek)
    (notFirst : statement ≠ .cleanCek) : .cleanCek ∉ statement :: rest := by
  have all : ∀ remaining ∈ genXport.tails, ∀ statement ∈ remaining.head?,
      (∃ place < defaultKeyLength, statement = .fillCek place) → .cleanCek ∉ remaining := by decide
  apply all _ ((List.mem_tails _ _).mpr suffix) statement rfl
  have member := suffix.subset (List.mem_cons_self)
  cases statement with
  | cleanCek => exact absurd rfl notFirst
  | fillCek place =>
      refine ⟨place, ?_, rfl⟩
      simp [genXport] at member
      exact member
  | _ => exact writes.elim

end Crypto

namespace Server

variable {Peer : Type} (config : Config Peer)

/-- The requests that are pushed and whose results are not yet encrypted. -/
def pending (server : Server Peer) : List Queued :=
  server.process.unencrypted ++ server.clientIdentityQueue

/-- The content key of this handshake was sent to this identity. -/
def KeySent (server : Server Peer) (handshake : Nat) (clientIdentity : Bytes) : Prop :=
  ∃ sent ∈ server.xports, sent.handshake = handshake ∧ sent.clientIdentity = clientIdentity

/-- The result is encrypted under the key that was wrapped in the `xport` sent
to its identity in the handshake of its request. -/
def BoundToHandshake (server : Server Peer) (reply : Sealed) : Prop :=
  ∃ sent ∈ server.xports, sent.handshake = reply.queued.handshake ∧
    sent.clientIdentity = reply.queued.login.clientIdentity ∧
    config.lib.aesDecrypt sent.kek (sent.xport.take blockSize) = reply.key ∧
    reply.result =
      CipherMode.encryptMessage config.lib.aes reply.key Crypto.iv (Server.reply reply.isValid)

/-- `genXport` begins to overwrite the content key only while no request waits
for its result to be encrypted. -/
def KeyNotInUse (server : Server Peer) : Step Peer → Prop
  | .waitRequest => server.wait.overwritesKey = true → server.pending = []
  | _ => True

instance (server : Server Peer) : ∀ who, Decidable (KeyNotInUse server who)
  | .waitRequest => inferInstanceAs (Decidable (_ → _))
  | .processRequest | .arrive _ => .isTrue trivial

/-- What the places of the receive thread say about the key. -/
def KeyProgress (server : Server Peer) : Prop :=
  match server.wait with
  | .genXport _ _ remaining =>
      remaining <:+ Crypto.genXport ∧ (.cleanCek ∉ remaining → server.pending = [])
  | .sendIdentity _ | .sendSpub _ | .sendEpub _ | .sendXport _ => server.pending = []
  | .recvDummy session | .recvClientID session | .testFlag session _ | .push session _ =>
      server.pending = [] ∧
        KeySent server session.number (session.clientIdentity.data config.network)
  | _ => True

structure KeysBound (server : Server Peer) : Prop where
  progress : KeyProgress config server
  pending : ∀ queued ∈ server.pending,
    server.crypto.cek = (config.draws queued.handshake).contentKey ∧
      KeySent server queued.handshake queued.login.clientIdentity
  encrypted : ∀ reply ∈ server.encrypted, BoundToHandshake config server reply

variable {config}

theorem KeySent.mono {server next : Server Peer} {handshake : Nat} {clientIdentity : Bytes}
    (sent : KeySent server handshake clientIdentity)
    (more : server.xports ⊆ next.xports) : KeySent next handshake clientIdentity := by
  rcases sent with ⟨entry, member, rest⟩
  exact ⟨entry, more member, rest⟩

theorem BoundToHandshake.mono {server next : Server Peer} {reply : Sealed}
    (bound : BoundToHandshake config server reply)
    (more : server.xports ⊆ next.xports) : BoundToHandshake config next reply := by
  rcases bound with ⟨entry, member, rest⟩
  exact ⟨entry, more member, rest⟩

/-- Steps that change neither the key, nor the requests, nor what was sent. -/
theorem KeysBound.of_same {server next : Server Peer} (bound : KeysBound config server)
    (cek : next.crypto.cek = server.crypto.cek) (requests : next.pending = server.pending)
    (encrypted : next.encrypted = server.encrypted) (xports : next.xports = server.xports)
    (progress : KeyProgress config next) : KeysBound config next where
  progress := progress
  pending queued member := by
    rw [requests] at member
    obtain ⟨sameKey, sent⟩ := bound.pending queued member
    exact ⟨cek.trans sameKey, sent.mono (by rw [xports]; exact List.Subset.refl _)⟩
  encrypted reply member := by
    rw [encrypted] at member
    exact (bound.encrypted reply member).mono (by rw [xports]; exact List.Subset.refl _)

theorem keysBound_boot (crypto : Crypto) : KeysBound config (boot crypto) where
  progress := trivial
  pending _ member := by cases member
  encrypted _ member := by cases member

theorem keysBound_genXport {server : Server Peer} (bound : KeysBound config server)
    {session : Session Peer} {locals after : Crypto.XportLocals} {crypto : Crypto}
    {statement : Crypto.XportStatement} {rest : List Crypto.XportStatement}
    (place : server.wait = .genXport session locals (statement :: rest))
    (met : KeyNotInUse server .waitRequest)
    (done : statement.effect config.lib (config.draws session.number) server.crypto locals =
      .ok (crypto, after)) :
    KeysBound config { server with crypto, wait := .genXport session after rest } := by
  have progress := bound.progress
  simp only [KeyProgress, place] at progress
  rcases progress with ⟨suffix, idle⟩
  have tail : rest <:+ Crypto.genXport := (List.suffix_cons _ _).trans suffix
  by_cases writes : statement.WritesCek
  · -- nothing is pending while the key is overwritten
    have none : server.pending = [] := by
      by_cases first : statement = .cleanCek
      · subst first
        exact met (by rw [place]; rfl)
      · exact idle (Crypto.cleanCek_first suffix writes first)
    refine ⟨⟨tail, fun _ => none⟩, fun queued member => ?_, fun reply member =>
      (bound.encrypted reply member).mono (List.Subset.refl _)⟩
    change queued ∈ server.pending at member
    rw [none] at member
    cases member
  · refine bound.of_same (Crypto.xport_effect_cek writes done) rfl rfl rfl ⟨tail, fun absent => ?_⟩
    refine idle fun member => ?_
    rcases List.mem_cons.mp member with same | later
    · subst same
      exact writes trivial
    · exact absent later

theorem keysBound_waitMoves (lawful : config.lib.Lawful) {server next : Server Peer}
    (bound : KeysBound config server) (inPlace : CryptoInPlace config server)
    (met : KeyNotInUse server .waitRequest)
    (moves : WaitMoves config server next) : KeysBound config next := by
  have progress := bound.progress
  cases moves with
  | recvIdentity | refuse | greet | recvSpub | recvEpub | setFlag =>
      exact bound.of_same rfl rfl rfl rfl trivial
  | initFails | xportFails | spin => exact bound.of_same rfl rfl rfl rfl progress
  | initKeys place done =>
      exact bound.of_same (Crypto.init_effect_cek done) rfl rfl rfl trivial
  | callGenXport =>
      exact bound.of_same rfl rfl rfl rfl
        ⟨List.suffix_rfl, fun absent => absurd (by decide) absent⟩
  | genXport place done => exact keysBound_genXport bound place met done
  | returnXport place =>
      simp only [KeyProgress, place] at progress
      exact bound.of_same rfl rfl rfl rfl (progress.2 (by simp))
  | sendIdentity place | sendSpub place | sendEpub place | recvDummy place | recvClientID place
  | seeClear place =>
      simp only [KeyProgress, place] at progress
      exact bound.of_same rfl rfl rfl rfl progress
  | @sendXport session place =>
      simp only [KeyProgress, place] at progress
      have more : server.xports ⊆ server.xports ++ [⟨session.number,
          session.clientIdentity.data config.network, server.crypto.kek, server.crypto.xport⟩] :=
        List.subset_append_left _ _
      refine ⟨⟨progress, ?_⟩, fun queued member => ?_, fun reply member =>
        (bound.encrypted reply member).mono more⟩
      · exact ⟨_, List.mem_append_right _ (List.mem_singleton.mpr rfl), rfl, rfl⟩
      · obtain ⟨sameKey, sent⟩ := bound.pending queued member
        exact ⟨sameKey, sent.mono more⟩
  | @push session message place =>
      simp only [KeyProgress, place] at progress
      simp only [CryptoInPlace, place] at inPlace
      rcases progress with ⟨none, sent⟩
      obtain ⟨shared, -, -, sameKey, -⟩ := inPlace.keys lawful
      refine ⟨trivial, fun queued member => ?_, fun reply member =>
        (bound.encrypted reply member).mono (List.Subset.refl _)⟩
      change queued ∈ server.process.unencrypted ++
        (server.clientIdentityQueue ++ [request config session message]) at member
      rw [← List.append_assoc] at member
      change queued ∈ server.pending ++ [request config session message] at member
      rw [none, List.nil_append] at member
      obtain rfl := List.mem_singleton.mp member
      exact ⟨sameKey, sent⟩

/-- What a step of the processing thread does to the pending requests. -/
theorem ProcessMoves.pending {server next : Server Peer} (handOff : HandOff server)
    (moves : ProcessMoves config server next) :
    next.pending ⊆ server.pending ∧
      (next.encrypted = server.encrypted ∨
        ∃ req isValid result, req ∈ server.pending ∧
          Crypto.encrypt config.lib server.crypto (reply isValid) = .ok result ∧
          next.encrypted =
            server.encrypted ++ [⟨req, isValid, server.crypto.cek, result⟩]) := by
  unfold Server.pending
  cases moves with
  | spin => exact ⟨List.Subset.refl _, .inl rfl⟩
  | encrypt place done =>
      rw [place]
      exact ⟨List.subset_cons_self _ _, .inr ⟨_, _, _, List.mem_cons_self, done, rfl⟩⟩
  | @pop req head rest place queue =>
      have isHead := handOff.first req place
      rw [queue] at isHead
      obtain rfl : head = req := Option.some.inj isHead
      rw [place, queue]
      exact ⟨List.Subset.refl _, .inl rfl⟩
  | seeSet place | goBack place | goOn place | frontOfEmpty place | front place | popOfEmpty place
  | clearFlag place | checkFails place | check place | encryptFails place | sendIdentity place
  | sendResult place =>
      refine ⟨?_, .inl rfl⟩
      simp only [terminate, place]
      exact List.Subset.refl _

theorem keysBound_processMoves {server next : Server Peer} (bound : KeysBound config server)
    (handOff : HandOff server)
    (unwraps : ∀ sent ∈ server.xports, config.lib.aesDecrypt sent.kek (sent.xport.take blockSize) =
      (config.draws sent.handshake).contentKey)
    (moves : ProcessMoves config server next) : KeysBound config next := by
  have leaves := moves.leavesReceive
  obtain ⟨fewer, encrypts⟩ := moves.pending handOff
  have sameXports : server.xports ⊆ next.xports := by
    rw [leaves.xports]
    exact List.Subset.refl _
  have idle : server.pending = [] → next.pending = [] := fun none =>
    List.subset_nil.mp (none ▸ fewer)
  refine ⟨?_, fun queued member => ?_, fun reply member => ?_⟩
  · have progress := bound.progress
    unfold KeyProgress at progress ⊢
    rw [leaves.wait]
    cases place : server.wait <;> rw [place] at progress <;> simp only at progress ⊢
    case genXport => exact ⟨progress.1, fun absent => idle (progress.2 absent)⟩
    case sendIdentity | sendSpub | sendEpub | sendXport => exact idle progress
    case recvDummy | recvClientID | testFlag | push =>
      exact ⟨idle progress.1, progress.2.mono sameXports⟩
  · obtain ⟨sameKey, sent⟩ := bound.pending queued (fewer member)
    exact ⟨by rw [leaves.crypto]; exact sameKey, sent.mono sameXports⟩
  · rcases encrypts with same | ⟨req, isValid, result, waits, done, same⟩
    · rw [same] at member
      exact (bound.encrypted reply member).mono sameXports
    · rw [same] at member
      rcases List.mem_append.mp member with old | new
      · exact (bound.encrypted reply old).mono sameXports
      · obtain rfl := List.mem_singleton.mp new
        obtain ⟨sameKey, entry, isSent, handshake, identity⟩ := bound.pending req waits
        have key : config.lib.aesDecrypt entry.kek (entry.xport.take blockSize) =
            server.crypto.cek := by
          rw [unwraps entry isSent, handshake, sameKey]
        refine ⟨entry, sameXports isSent, handshake, identity, key, ?_⟩
        unfold Crypto.encrypt at done
        obtain ⟨key, read, done⟩ := except_bind_ok done
        rw [readBlock_of_eq (by rw [sameKey]; exact (config.draws _).contentKey_length)] at read
        obtain rfl := Except.ok.inj read
        exact (Except.ok.inj done).symm

theorem keysBound_of_reachable (lawful : config.lib.Lawful) {server : Server Peer}
    (reached : (system config).ReachableUnder KeyNotInUse server) : KeysBound config server := by
  induction reached with
  | initial start =>
      rcases start with ⟨crypto, rfl⟩
      exact keysBound_boot crypto
  | step before met taken bound =>
      rcases step_cases taken with ⟨alive, ⟨message, -, rfl⟩ | ⟨rfl, waits⟩ | ⟨-, processes⟩⟩
      · exact bound.of_same rfl rfl rfl rfl bound.progress
      · exact keysBound_waitMoves lawful bound (cryptoInPlace_of_reachable before.reachable) met waits
      · exact keysBound_processMoves bound (handOff_of_reachable before.reachable alive)
          (fun sent member => (madeIn_of_reachable lawful before.reachable sent member).unwraps lawful)
          processes

theorem encrypted_of_reachable {server : Server Peer}
    (reached : (system config).Reachable server) :
    server.encrypted = server.replied ++ server.process.sending := by
  refine TransitionSystem.Reachable.invariant
    (fun server => server.encrypted = server.replied ++ server.process.sending) ?_ ?_ reached
  · intro start initially
    rcases initially with ⟨crypto, rfl⟩
    rfl
  · intro server who next before taken
    rcases step_cases taken with ⟨-, ⟨message, -, rfl⟩ | ⟨-, waits⟩ | ⟨-, processes⟩⟩
    · exact before
    · have leaves := waits.leavesProcess
      rw [leaves.encrypted, leaves.replied, leaves.process]
      exact before
    · cases processes with
      | spin => exact before
      | seeSet place | goBack place | goOn place | frontOfEmpty place | front place
      | popOfEmpty place | pop place | clearFlag place | checkFails place | check place
      | encryptFails place | encrypt place | sendIdentity place | sendResult place =>
          simpa [terminate, send, place, ProcessThread.sending] using before

/-- While no handshake overwrites a content key in use, every result is
encrypted under the key of its own handshake. -/
theorem results_bound_to_handshakes {config : Config Peer} (lawful : config.lib.Lawful)
    {server : Server Peer} (reached : (system config).ReachableUnder KeyNotInUse server) :
    server.replied <+: server.encrypted ∧
      ∀ reply ∈ server.encrypted, BoundToHandshake config server reply := by
  refine ⟨?_, (keysBound_of_reachable lawful reached).encrypted⟩
  rw [encrypted_of_reachable reached.reachable]
  exact List.prefix_append _ _

/-- A result is bound to its handshake under no other key than that one's. -/
theorem BoundToHandshake.key (lawful : config.lib.Lawful) {server : Server Peer}
    (reached : (system config).Reachable server) {reply : Sealed}
    (bound : BoundToHandshake config server reply) :
    reply.key = (config.draws reply.queued.handshake).contentKey := by
  rcases bound with ⟨sent, member, handshake, -, unwrapped, -⟩
  rw [← handshake, ← (madeIn_of_reachable lawful reached sent member).unwraps lawful, unwrapped]

/-- Peer B comes after the result for peer A has been sent. -/
def sessionsInTurn : List (Step Bool) :=
  oneSession ++ List.replicate 9 .processRequest ++
    [.arrive (greetingMessage true), .arrive (clientIDMessage true)] ++
    List.replicate 52 .waitRequest ++ List.replicate 9 .processRequest

theorem sessionsInTurn_reply : ∃ server,
    (system sampleConfig).runMeeting KeyNotInUse (boot .initial) sessionsInTurn = some server ∧
      server.replied.map (fun reply => (reply.queued.login.clientIdentity, reply.key)) =
        [(ascii "peer A", Reference.drawA.contentKey),
          (ascii "peer B", Reference.drawB.contentKey)] := by
  apply TransitionSystem.ends_in
  decide +kernel

theorem results_bound_to_handshakes_in_turn : ∃ server : Server Bool,
    server.replied.map (fun reply => (reply.queued.login.clientIdentity, reply.key)) =
        [(ascii "peer A", Reference.drawA.contentKey),
          (ascii "peer B", Reference.drawB.contentKey)] ∧
      server.replied <+: server.encrypted ∧
      ∀ reply ∈ server.encrypted, BoundToHandshake sampleConfig server reply := by
  obtain ⟨server, ran, replies⟩ := sessionsInTurn_reply
  have lawful : sampleConfig.lib.Lawful := Reference.library_lawful
  have start : (system sampleConfig).ReachableUnder KeyNotInUse (boot .initial) :=
    .initial ⟨.initial, rfl⟩
  exact ⟨server, replies, results_bound_to_handshakes lawful (start.of_runMeeting ran)⟩

/-- Peer B greets while the request of peer A is being checked. -/
def overlappingSessions : List (Step Bool) :=
  oneSession ++ List.replicate 6 .processRequest ++
    [.arrive (greetingMessage true)] ++ List.replicate 43 .waitRequest ++
    [.processRequest]

theorem overlapping_key : ∃ server,
    (system sampleConfig).run (boot .initial)
        (overlappingSessions ++ List.replicate 2 .processRequest) = some server ∧
      ∃ reply ∈ server.replied,
        reply.queued = ⟨⟨ascii "peer A", ascii "TESTING_CLIENT", ascii "127.0.0.1"⟩, 0⟩ ∧
        reply.key = Reference.drawB.contentKey := by
  apply TransitionSystem.ends_in
  decide +kernel

/-- The result sent to peer A is encrypted under the key of the handshake with
peer B, which no `xport` to peer A has wrapped. -/
theorem reply_under_later_key :
    ¬ ∀ server : Server Bool, (system sampleConfig).Reachable server →
      ∀ reply ∈ server.replied, BoundToHandshake sampleConfig server reply := by
  intro bound
  obtain ⟨server, ran, reply, member, request, laterKey⟩ := overlapping_key
  have lawful : sampleConfig.lib.Lawful := Reference.library_lawful
  have start : (system sampleConfig).Reachable (boot .initial) := .start ⟨.initial, rfl⟩
  have reached := start.of_run ran
  have ownKey := (bound server reached reply member).key lawful reached
  rw [request, laterKey] at ownKey
  exact absurd ownKey (by decide)

end Server

end LicensingServer
