import LicensingServer.Sessions.Orderly
import Mathlib.Algebra.BigOperators.Fin
import Mathlib.Algebra.Order.BigOperators.Group.Finset

/-!
Owns that clients that take turns are all served, whatever the order in which
the threads of the server and the clients move, as long as each moves again and
again.
-/

set_option autoImplicit false

namespace LicensingServer

open LicensingServer.Foundations

/-! ### How much is left to do -/

/-- Every statement of the receive thread that is not repeated lowers it, up to
the one that pushes a request. -/
def WaitThread.remaining {Peer : Type} : WaitThread Peer → Nat
  | .setFlag _ _ => 99
  | .recvIdentity => 98
  | .recvWorkload _ => 97
  | .recvSpub _ _ => 96
  | .recvEpub _ _ _ => 95
  | .initKeys _ remaining => 80 + remaining.length
  | .genXport _ _ remaining => 40 + remaining.length
  | .sendIdentity _ => 30
  | .sendSpub _ => 29
  | .sendEpub _ => 28
  | .sendXport _ => 27
  | .recvDummy _ => 20
  | .recvClientID _ => 19
  | .testFlag _ _ => 18
  | .push _ _ => 17

/-- The same for the processing thread, up to the statement that sends a result. -/
def ProcessThread.remaining : ProcessThread → Nat
  | .testFlag => 9
  | .testEmpty => 8
  | .front => 7
  | .pop _ => 6
  | .clearFlag _ => 5
  | .check _ => 4
  | .encrypt _ _ => 3
  | .sendIdentity _ => 2
  | .sendResult _ => 1

namespace Parties

variable {n : Nat} {parties : Parties n} {answer : Fin n → Bool}

def serverRank (server : Server (Fin n)) : Nat :=
  100 * (n - server.pushed.length) + server.wait.remaining +
    (10 * (n - server.replied.length) + server.process.remaining)

def clientsRank (clients : Fin n → Client) : Nat :=
  Finset.univ.sum fun i => (clients i).thread.remaining

def rank (world : World n) : Nat := serverRank world.server + clientsRank world.clients

theorem clientsRank_update {clients : Fin n → Client} {i : Fin n} {client : Client}
    (less : client.thread.remaining < (clients i).thread.remaining) :
    clientsRank (Function.update clients i client) < clientsRank clients := by
  apply Finset.sum_lt_sum
  · intro j _
    by_cases same : j = i
    · subst same
      rw [Function.update_self]
      exact Nat.le_of_lt less
    · rw [Function.update_of_ne same]
  · exact ⟨i, Finset.mem_univ i, by rw [Function.update_self]; exact less⟩

/-! ### What a move does to it -/

theorem Orderly.rank_waitMoves (regular : parties.Regular answer) {world : World n}
    (orderly : parties.Orderly answer world) {next : Server (Fin n)}
    (moves : Server.WaitMoves parties.config world.server next) :
    (world.server.isAddingQueue = true ∧ next = world.server ∧
        ∃ session message, world.server.wait = .testFlag session message) ∨
      serverRank next < serverRank world.server := by
  have alive := orderly.alive_waitMoves regular moves
  unfold serverRank
  cases moves with
  | initFails | xportFails => cases alive
  | spin place isSet => exact .inl ⟨isSet, rfl, _, _, place⟩
  | refuse place waiting other => exact absurd (orderly.inTurn.greets place waiting) other
  | push place =>
      rcases orderly.inTurn with between | ⟨i, inbox, identified, begun, asked, during⟩
      · cases between.stands.symm.trans place
      · have stands := during.stands
        have count := during.pushed_length
        have turn := i.isLt
        rw [place] at stands
        cases stands
        right
        simp only [place, WaitThread.remaining, List.length_append, List.length_singleton, count]
        omega
  | recvEpub place =>
      have length : Crypto.initKeyExchangeParams.length = 9 := rfl
      right
      simp only [place, WaitThread.remaining, Server.take, Server.beginSession, length]
      omega
  | callGenXport place =>
      have length : Crypto.genXport.length = 28 := rfl
      right
      simp only [place, WaitThread.remaining, length]
      omega
  | _ place =>
      right
      simp only [place, WaitThread.remaining, Server.take, Server.send, List.length_cons]
      omega

theorem Orderly.rank_processMoves (regular : parties.Regular answer) {world : World n}
    (orderly : parties.Orderly answer world) {next : Server (Fin n)}
    (moves : Server.ProcessMoves parties.config world.server next) :
    (world.server.process = .testFlag ∧ world.server.isAddingQueue = false ∧
        next = world.server) ∨
      serverRank next < serverRank world.server := by
  have alive := orderly.alive_processMoves regular moves
  unfold serverRank
  cases moves with
  | frontOfEmpty | popOfEmpty | checkFails | encryptFails => cases alive
  | spin place isClear => exact .inl ⟨place, isClear, rfl⟩
  | goBack place empty =>
      exact absurd empty
        (orderly.handOff.queue_ne_nil (by rw [place]; trivial) (by rw [place]; rfl))
  | sendResult place =>
      obtain ⟨i, serving⟩ := orderly.inTurn.serving orderly.handOff (by rw [place]; rfl)
      have turn := serving.during.replied
      have within := i.isLt
      right
      simp only [place, ProcessThread.remaining, Server.send, List.length_append,
        List.length_singleton]
      omega
  | _ place =>
      right
      simp only [place, ProcessThread.remaining, Server.send]
      omega

theorem Orderly.rank_client (regular : parties.Regular answer) {world next : World n}
    (orderly : parties.Orderly answer world) {i : Fin n}
    (taken : parties.clientStep world i = some next) : rank next < rank world := by
  obtain ⟨-, client, message, moved, after⟩ := clientStep_eq_some taken
  have remaining := (orderly.goesOn regular moved).remaining
  have less : clientsRank (Function.update world.clients i client) < clientsRank world.clients :=
    clientsRank_update (by omega)
  unfold rank
  rcases after with ⟨-, rfl⟩ | ⟨sent, -, rfl⟩
  · exact Nat.add_lt_add_left less _
  · exact Nat.add_lt_add_left less _

/-- A move that is no turn of a waiting loop lowers the rank. -/
theorem Orderly.descends (regular : parties.Regular answer) {world : World n}
    (orderly : parties.Orderly answer world) (turn : Turn n) :
    parties.system.advance world turn = world ∨
      rank (parties.system.advance world turn) < rank world := by
  unfold TransitionSystem.advance
  cases taken : parties.system.step world turn with
  | none => exact .inl rfl
  | some next =>
      cases turn with
      | waitRequest =>
          obtain ⟨server, moved, rfl⟩ := Option.map_eq_some_iff.mp taken
          rcases Server.step_cases moved with ⟨-, ⟨message, same, -⟩ | ⟨-, moves⟩ | ⟨same, -⟩⟩
          · cases same
          · rcases orderly.rank_waitMoves regular moves with ⟨-, rfl, -⟩ | lower
            · exact .inl rfl
            · exact .inr (Nat.add_lt_add_right lower _)
          · cases same
      | processRequest =>
          obtain ⟨server, moved, rfl⟩ := Option.map_eq_some_iff.mp taken
          rcases Server.step_cases moved with ⟨-, ⟨message, same, -⟩ | ⟨same, -⟩ | ⟨-, moves⟩⟩
          · cases same
          · cases same
          · rcases orderly.rank_processMoves regular moves with ⟨-, -, rfl⟩ | lower
            · exact .inl rfl
            · exact .inr (Nat.add_lt_add_right lower _)
      | client i => exact .inr (orderly.rank_client regular taken)

/-! ### Who can move -/

theorem Orderly.delivered_length {world : World n} (orderly : parties.Orderly answer world)
    (i : Fin n) : (parties.delivered world i).length = frameCount world.server i := by
  rw [orderly.delivered, List.length_take]
  exact Nat.min_eq_left (frameCount_le _ _)

theorem Orderly.helps_client (regular : parties.Regular answer) {world : World n}
    (orderly : parties.Orderly answer world) {i : Fin n}
    (running : (world.clients i).thread.remaining ≠ 0)
    (enough : (world.clients i).thread.needs ≤ frameCount world.server i)
    (turn : i.val ≤ world.server.replied.length) :
    rank (parties.system.advance world (.client i)) < rank world := by
  rw [← orderly.delivered_length] at enough
  obtain ⟨client, message, moved⟩ := (orderly.clients i).exists_next running enough
  have taken : ∃ next, parties.clientStep world i = some next := by
    have mayGreet : MayGreet world i := fun _ => turn
    unfold clientStep
    rw [if_pos mayGreet, moved]
    cases message with
    | none => exact ⟨_, rfl⟩
    | some sent =>
        simp only [Server.system, orderly.alive, Option.isSome_none, Bool.false_eq_true, if_false]
        exact ⟨_, rfl⟩
  rcases taken with ⟨next, taken⟩
  have lower := orderly.rank_client regular taken
  unfold TransitionSystem.advance
  rw [show parties.system.step world (.client i) = some next from taken]
  exact lower

theorem Orderly.helps_wait (regular : parties.Regular answer) {world : World n}
    (orderly : parties.Orderly answer world)
    (arrived : world.server.wait.Reads → world.server.inbox ≠ [])
    (isClear : world.server.isAddingQueue = false ∨ world.server.wait = .recvIdentity) :
    rank (parties.system.advance world .waitRequest) < rank world := by
  obtain ⟨next, moved⟩ : ∃ next, world.server.waitStep parties.config = some next :=
    Server.exists_waitStep arrived
  have taken : parties.system.step world .waitRequest =
      some { world with server := next } := by
    simp only [system, Server.step_waitRequest orderly.alive, moved, Option.map_some]
  unfold TransitionSystem.advance
  rw [taken]
  rcases orderly.rank_waitMoves regular (Server.waitStep_moves moved) with
    ⟨isSet, -, session, message, place⟩ | lower
  · rcases isClear with isClear | stands
    · cases isSet.symm.trans isClear
    · cases stands.symm.trans place
  · exact Nat.add_lt_add_right lower _

/-- The processing thread sees that a request is pushed. -/
theorem Orderly.helps_process (regular : parties.Regular answer) {world : World n}
    (orderly : parties.Orderly answer world) {i : Fin n}
    (stands : world.server.wait = .recvIdentity) (during : parties.During world i [] 1 1 1) :
    rank (parties.system.advance world .processRequest) < rank world := by
  obtain ⟨next, moved⟩ : ∃ next, world.server.processStep parties.config = some next :=
    Server.exists_processStep world.server
  have taken : parties.system.step world .processRequest =
      some { world with server := next } := by
    simp only [system, Server.step_processRequest orderly.alive, moved, Option.map_some]
  unfold TransitionSystem.advance
  rw [taken]
  rcases orderly.rank_processMoves regular (Server.processStep_moves moved) with
    ⟨place, isClear, -⟩ | lower
  · -- no request would be left in the queue
    have handOff := orderly.handOff
    have queue := (handOff.clear isClear).2
    have pushed := congrArg List.length handOff.pushed
    have popped := congrArg List.length handOff.popped
    rw [stands] at queue
    rw [during.pushed_length, List.length_append, queue] at pushed
    rw [place, List.length_append, List.length_map, during.replied] at popped
    have pushed : i.val + 1 = world.server.popped.length + 0 := pushed
    have popped : world.server.popped.length = i.val + 0 := popped
    omega
  · exact Nat.add_lt_add_right lower _

/-- Either the receive thread has something to do, or it waits for a client ID,
or the processing thread has something to do. -/
theorem Stands.progress {i : Fin n} {wait : WaitThread (Fin n)} {inbox : List (Frame (Fin n))}
    {identified begun asked : Nat} (stands : parties.Stands i wait inbox identified begun asked) :
    ((wait.Reads → inbox ≠ []) ∧ (asked = wait.unannounced ∨ wait = .recvIdentity)) ∨
      (identified = 0 ∧ begun = 1 ∧ wait.unsent = 0) ∨
      (wait = .recvIdentity ∧ inbox = [] ∧ identified = 1 ∧ begun = 1 ∧ asked = 1) := by
  cases stands with
  | asked => exact .inr (.inl ⟨rfl, rfl, rfl⟩)
  | pushed => exact .inr (.inr ⟨rfl, rfl, rfl, rfl, rfl⟩)
  | greeted | identity | workload | spub | identified | dummy =>
      exact .inl ⟨fun _ => List.cons_ne_nil _ _, .inl rfl⟩
  | _ => exact .inl ⟨fun reads => reads.elim, .inl rfl⟩

theorem Orderly.helpful (regular : parties.Regular answer) {world : World n}
    (orderly : parties.Orderly answer world)
    (unserved : ¬ ∀ i, (world.clients i).thread.remaining = 0) :
    ∃ turn, rank (parties.system.advance world turn) < rank world := by
  obtain ⟨j, running⟩ := not_forall.mp unserved
  rcases orderly.inTurn with between | ⟨i, inbox, identified, begun, asked, during⟩
  · by_cases replied : j.val < world.server.replied.length
    · refine ⟨.client j, orderly.helps_client regular running ?_ (Nat.le_of_lt replied)⟩
      rw [frameCount, if_pos replied]
      exact ClientThread.needs_le _
    · -- the next client has not even greeted
      have within : world.server.replied.length < n :=
        Nat.lt_of_le_of_lt (Nat.le_of_not_lt replied) j.isLt
      have silent : ¬ (world.clients ⟨_, within⟩).thread.HasGreeted := fun greeted =>
        Nat.lt_irrefl _ ((between.greeted _).mp greeted)
      refine ⟨.client ⟨_, within⟩, orderly.helps_client regular ?_ ?_ (Nat.le_refl _)⟩
      · intro none
        exact silent (by rw [ClientThread.HasGreeted, none]; exact Nat.zero_le 8)
      · rw [ClientThread.needs_of_not_greeted silent]
        exact Nat.zero_le _
  · have stands := during.stands
    have turn := during.replied
    rcases stands.progress with ⟨arrived, clear⟩ | ⟨rfl, rfl, unsent⟩ | ⟨place, rfl, rfl, rfl, rfl⟩
    · refine ⟨.waitRequest, orderly.helps_wait regular ?_ ?_⟩
      · rw [during.inbox]
        exact arrived
      · rcases orderly.inTurn.idle orderly.handOff with ⟨-, isClear⟩ | ⟨-, stands, -⟩
        · exact .inl isClear
        · exact .inr stands
    · have unidentified : ¬ (world.clients i).thread.HasIdentified := fun identified =>
        Nat.lt_irrefl _ ((during.identified i).mp identified)
      have count := (Server.numbered_of_reachable orderly.reached.reachable).count
      rw [during.sessions_length, unsent] at count
      have sent : frameCount world.server i = 3 := by
        unfold frameCount
        split_ifs <;> omega
      refine ⟨.client i, orderly.helps_client regular ?_ ?_ (Nat.le_of_eq turn.symm)⟩
      · intro none
        exact unidentified (by rw [ClientThread.HasIdentified, none]; exact Nat.zero_le 2)
      · rw [sent]
        exact ClientThread.needs_of_not_identified unidentified
    · exact ⟨.processRequest, orderly.helps_process regular place during⟩

/-! ### The sessions -/

/-- What a client that is done has got. -/
theorem Orderly.served {world : World n} (orderly : parties.Orderly answer world) {i : Fin n}
    (done : (world.clients i).thread.remaining = 0) :
    (world.clients i).thread = .returned (answer i) ∧
      parties.delivered world i = parties.frames i (answer i) := by
  have inPlace := orderly.clients i
  have got := orderly.got i
  cases place : (world.clients i).thread with
  | returned result =>
      simp only [ClientInPlace, place] at inPlace
      rcases inPlace with ⟨rfl, all⟩
      rw [all] at got
      refine ⟨rfl, ?_⟩
      rw [orderly.delivered, Nat.le_antisymm (frameCount_le _ _) got]
      rfl
  | failed fault =>
      simp only [ClientInPlace, place] at inPlace
  | _ =>
      rw [place] at done
      cases done

/-- Clients that take turns are delivered, in order, the server's two keys, the
wrapped key and one result, never fail, and return what `checkLoginRequest`
answered; and whoever moves when, they all return. -/
theorem sequential_sessions_served {n : Nat} {parties : Parties n} {answer : Fin n → Bool}
    (regular : parties.Regular answer) :
    (∀ world, parties.system.Reachable world → world.server.terminated = none ∧ ∀ i,
      parties.delivered world i <+: parties.frames i (answer i) ∧
        (∀ fault, (world.clients i).thread ≠ .failed fault) ∧
        ∀ result, (world.clients i).thread = .returned result →
          result = answer i ∧ parties.delivered world i = parties.frames i (answer i)) ∧
    ∀ start, parties.system.initial start → ∀ schedule, TransitionSystem.Fair schedule →
      ∃ time, ∀ i,
        ((parties.system.trace schedule start time).clients i).thread = .returned (answer i) ∧
          parties.delivered (parties.system.trace schedule start time) i =
            parties.frames i (answer i) := by
  constructor
  · intro world reached
    have orderly := orderly_of_reachable regular reached
    refine ⟨orderly.alive, fun i => ⟨?_, fun fault failed => ?_, fun result returned => ?_⟩⟩
    · rw [orderly.delivered]
      exact List.take_prefix _ _
    · have inPlace := orderly.clients i
      simp only [ClientInPlace, failed] at inPlace
    · have done : (world.clients i).thread.remaining = 0 := by
        rw [returned]
        rfl
      obtain ⟨same, all⟩ := orderly.served done
      exact ⟨ClientThread.returned.inj (returned.symm.trans same), all⟩
  · intro start initially schedule fair
    have along (world : World n) (turn : Turn n) (orderly : parties.Orderly answer world) :
        parties.Orderly answer (parties.system.advance world turn) := by
      unfold TransitionSystem.advance
      cases taken : parties.system.step world turn with
      | none => exact orderly
      | some next => exact orderly.next regular taken
    obtain ⟨time, served⟩ : ∃ time, ∀ i,
        ((parties.system.trace schedule start time).clients i).thread.remaining = 0 :=
      fair.eventually (orderly_initial initially) along
        (fun _ turn orderly => orderly.descends regular turn)
        (fun _ orderly unserved => orderly.helpful regular unserved)
    have orderly := orderly_of_reachable regular
      ((TransitionSystem.Reachable.start initially).trace schedule time)
    exact ⟨time, fun i => orderly.served (served i)⟩

/-! ### Two sessions -/

/-- Two clients, of which the first is the one that may log in. -/
def twoClients : Parties 2 where
  config := {
    network := {
      identity := fun i => if i = 0 then ascii "peer A" else ascii "peer B"
      address := fun _ => ascii "127.0.0.1"
      identity_injective := by
        intro left right
        revert left right
        decide }
    lib := Reference.library
    draws := fun number => if number = 0 then Reference.drawA else Reference.drawB
    check := fun _ req => .ok (req.clientID = ascii "TESTING_CLIENT") }
  draw i := if i = 0 then Reference.drawB else Reference.drawA
  clientID i := if i = 0 then ascii "TESTING_CLIENT" else ascii "OTHER_CLIENT"

theorem twoClients_regular : twoClients.Regular fun i => decide (i = 0) where
  lawful := Reference.library_lawful
  serverGroup i := by
    match i with
    | 0 => rfl
    | 1 => rfl
  clientGroup i := by
    match i with
    | 0 => rfl
    | 1 => rfl
  full := by decide +kernel
  answers i := by
    match i with
    | 0 => rfl
    | 1 => rfl

/-- The four of them move in turn. -/
def roundRobin (time : Nat) : Turn 2 :=
  match time % 4 with
  | 0 => .waitRequest
  | 1 => .processRequest
  | 2 => .client 0
  | _ => .client 1

theorem roundRobin_fair : TransitionSystem.Fair roundRobin := by
  intro label time
  have again (offset : Nat) : roundRobin (4 * time + offset) = roundRobin offset := by
    unfold roundRobin
    rw [Nat.mul_add_mod]
  cases label with
  | waitRequest => exact ⟨4 * time + 0, by omega, again 0⟩
  | processRequest => exact ⟨4 * time + 1, by omega, again 1⟩
  | client i =>
      match i with
      | 0 => exact ⟨4 * time + 2, by omega, again 2⟩
      | 1 => exact ⟨4 * time + 3, by omega, again 3⟩

theorem sequential_sessions_served_two_clients : ∃ time,
    ((twoClients.system.trace roundRobin ⟨.boot .initial, fun _ => .initial⟩ time).clients
        0).thread = .returned true ∧
      ((twoClients.system.trace roundRobin ⟨.boot .initial, fun _ => .initial⟩ time).clients
        1).thread = .returned false := by
  obtain ⟨-, eventually⟩ := sequential_sessions_served twoClients_regular
  obtain ⟨time, served⟩ := eventually _ ⟨.initial, rfl⟩ roundRobin roundRobin_fair
  exact ⟨time, (served 0).1, (served 1).1⟩

end Parties

end LicensingServer
