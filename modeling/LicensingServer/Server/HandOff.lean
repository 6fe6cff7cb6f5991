import LicensingServer.Server.Threads
import LicensingServer.Crypto.Reference

/-!
Owns the queue and its flag: the invariant that ties them to the places of the
two threads, and what follows for every request on its way from the receive
thread to its reply.

Does not own the contents of the requests.
-/

set_option autoImplicit false

namespace LicensingServer

open LicensingServer.Foundations

/-- The request that is popped and not yet replied to. -/
def ProcessThread.inHand : ProcessThread → List Queued
  | .clearFlag req | .check req | .encrypt req _ => [req]
  | .sendIdentity reply | .sendResult reply => [reply.queued]
  | _ => []

/-- The request that is popped and not yet checked. -/
def ProcessThread.unchecked : ProcessThread → List Queued
  | .clearFlag req | .check req => [req]
  | _ => []

/-- A request is pushed and the flag not yet set. -/
def WaitThread.unannounced {Peer : Type} : WaitThread Peer → Nat
  | .setFlag _ _ => 1
  | _ => 0

/-- The number of requests that wait in the queue while the flag is set. -/
def ProcessThread.announced : ProcessThread → Nat
  | .clearFlag _ => 0
  | _ => 1

theorem ProcessThread.inHand_length_le (process : ProcessThread) : process.inHand.length ≤ 1 := by
  unfold inHand
  split <;> simp

theorem ProcessThread.announced_le (process : ProcessThread) : process.announced ≤ 1 := by
  unfold announced
  split <;> decide

theorem WaitThread.unannounced_le {Peer : Type} (wait : WaitThread Peer) :
    wait.unannounced ≤ 1 := by
  unfold unannounced
  split <;> decide

namespace Server

variable {Peer : Type}

/-- The invariant of the hand-off. While the flag is clear, the queue and the
right to set the flag are the receive thread's; while it is set, they are the
processing thread's. -/
structure HandOff (server : Server Peer) : Prop where
  pushed : server.pushed = server.popped ++ server.clientIdentityQueue
  popped : server.popped = server.replied.map Sealed.queued ++ server.process.inHand
  checked : server.popped = server.checked ++ server.process.unchecked
  clear : server.isAddingQueue = false →
    ¬ server.process.InQueueSection ∧
      server.clientIdentityQueue.length = server.wait.unannounced
  set : server.isAddingQueue = true →
    ¬ server.wait.InQueueSection ∧
      server.clientIdentityQueue.length = server.process.announced
  first : ∀ req, server.process = .pop req → server.clientIdentityQueue.head? = some req

theorem handOff_boot (crypto : Crypto) : HandOff (boot crypto : Server Peer) where
  pushed := rfl
  popped := rfl
  checked := rfl
  clear _ := ⟨id, rfl⟩
  set isSet := by cases isSet
  first _ stands := by cases stands

theorem WaitThread.unannounced_of_outside {wait : WaitThread Peer}
    (outside : ¬ wait.InQueueSection) : wait.unannounced = 0 := by
  cases wait with
  | setFlag session message => exact absurd trivial outside
  | _ => rfl

theorem HandOff.leavesQueue {server next : Server Peer} (handOff : HandOff server)
    (outside : server.wait.Outside) (leaves : LeavesQueue server next) : HandOff next := by
  have idle : ¬ server.wait.InQueueSection := by
    intro inside
    cases place : server.wait <;> rw [place] at inside outside <;>
      first | exact inside | exact outside
  constructor
  · rw [leaves.pushed, leaves.popped, leaves.clientIdentityQueue, handOff.pushed]
  · rw [leaves.popped, leaves.replied, leaves.process, handOff.popped]
  · rw [leaves.popped, leaves.checked, leaves.process, handOff.checked]
  · intro isClear
    rw [leaves.isAddingQueue] at isClear
    obtain ⟨away, length⟩ := handOff.clear isClear
    rw [leaves.process, leaves.clientIdentityQueue, length,
      WaitThread.unannounced_of_outside idle, WaitThread.unannounced_of_outside leaves.outside]
    exact ⟨away, rfl⟩
  · intro isSet
    rw [leaves.isAddingQueue] at isSet
    rw [leaves.process, leaves.clientIdentityQueue]
    exact ⟨leaves.outside, (handOff.set isSet).2⟩
  · intro req stands
    rw [leaves.process] at stands
    rw [leaves.clientIdentityQueue]
    exact handOff.first req stands

/-- In its queue section the receive thread sees the flag clear. -/
theorem HandOff.clear_of_inside {server : Server Peer} (handOff : HandOff server)
    (inside : server.wait.InQueueSection) : server.isAddingQueue = false := by
  by_contra isSet
  exact (handOff.set (Bool.not_eq_false _ ▸ isSet)).1 inside

/-- In its queue section the processing thread sees the flag set. -/
theorem HandOff.set_of_inside {server : Server Peer} (handOff : HandOff server)
    (inside : server.process.InQueueSection) : server.isAddingQueue = true := by
  by_contra isClear
  exact (handOff.clear (Bool.not_eq_true _ ▸ isClear)).1 inside

theorem handOff_waitMoves {config : Config Peer} {server next : Server Peer}
    (handOff : HandOff server) (moves : WaitMoves config server next) : HandOff next := by
  have leaves := moves.leavesQueue
  cases moves with
  | spin => exact handOff
  | seeClear place isClear =>
      obtain ⟨away, length⟩ := handOff.clear isClear
      rw [place] at length
      exact ⟨handOff.pushed, handOff.popped, handOff.checked, fun _ => ⟨away, length⟩,
        fun isSet => absurd (isClear.symm.trans isSet) (by decide), handOff.first⟩
  | push place =>
      have isClear := handOff.clear_of_inside (by rw [place]; trivial)
      obtain ⟨away, length⟩ := handOff.clear isClear
      rw [place] at length
      refine ⟨?_, handOff.popped, handOff.checked, fun _ => ⟨away, ?_⟩,
        fun isSet => absurd (isClear.symm.trans isSet) (by decide), ?_⟩
      · rw [handOff.pushed, List.append_assoc]
      · rw [List.length_append, length]
        rfl
      · intro req stands
        have stands : server.process = .pop req := stands
        rw [stands] at away
        exact absurd trivial away
  | setFlag place =>
      have isClear := handOff.clear_of_inside (by rw [place]; trivial)
      obtain ⟨away, length⟩ := handOff.clear isClear
      rw [place] at length
      refine ⟨handOff.pushed, handOff.popped, handOff.checked, (fun contrary => by cases contrary),
        fun _ => ⟨id, ?_⟩, handOff.first⟩
      rw [length]
      cases stands : server.process with
      | clearFlag req => rw [stands] at away; exact absurd trivial away
      | _ => rfl
  | recvIdentity place | refuse place | greet place | recvSpub place | recvEpub place
  | initFails place | initKeys place | callGenXport place | xportFails place | genXport place
  | returnXport place | sendIdentity place | sendSpub place | sendEpub place | sendXport place
  | recvDummy place | recvClientID place =>
      have outside : server.wait.Outside := by
        rw [place]
        trivial
      exact handOff.leavesQueue outside (leaves outside)

theorem handOff_processMoves {config : Config Peer} {server next : Server Peer}
    (handOff : HandOff server) (moves : ProcessMoves config server next)
    (alive : next.terminated = none) : HandOff next := by
  obtain ⟨pushed, popped, checked, clear, set, first⟩ := id handOff
  cases moves with
  | spin => exact handOff
  | frontOfEmpty | popOfEmpty | checkFails | encryptFails => cases alive
  | seeSet place isSet =>
      rw [place] at popped checked set
      obtain ⟨away, length⟩ := set isSet
      exact ⟨pushed, popped, checked, fun isClear => absurd (isSet.symm.trans isClear) (by decide),
        fun _ => ⟨away, length⟩, fun _ stands => by cases stands⟩
  | goBack place empty =>
      obtain ⟨-, length⟩ := set (handOff.set_of_inside (by rw [place]; trivial))
      rw [place, empty] at length
      cases length
  | goOn place =>
      have isSet := handOff.set_of_inside (by rw [place]; trivial)
      rw [place] at popped checked set
      exact ⟨pushed, popped, checked, fun isClear => absurd (isSet.symm.trans isClear) (by decide),
        set, fun _ stands => by cases stands⟩
  | @front req rest place queue =>
      rw [place] at popped checked clear set
      refine ⟨pushed, popped, checked, fun isClear => absurd trivial (clear isClear).1, set, ?_⟩
      intro other stands
      obtain rfl : req = other := by simpa using stands
      rw [queue]
      rfl
  | @pop req head rest place queue =>
      have isHead := first req place
      rw [queue] at isHead
      obtain rfl : head = req := Option.some.inj isHead
      rw [place] at popped checked clear set
      have none : server.popped = server.replied.map Sealed.queued := by
        rw [popped]
        exact List.append_nil _
      have allChecked : server.popped = server.checked := by
        rw [checked]
        exact List.append_nil _
      refine ⟨?_, ?_, ?_, fun isClear => absurd trivial (clear isClear).1, ?_, ?_⟩
      · rw [pushed, queue, List.append_assoc]
        rfl
      · rw [none]
        rfl
      · rw [allChecked]
        rfl
      · intro isSet
        obtain ⟨away, length⟩ := set isSet
        rw [queue] at length
        exact ⟨away, by simpa [ProcessThread.announced] using length⟩
      · intro other stands
        cases stands
  | clearFlag place =>
      have isSet := handOff.set_of_inside (by rw [place]; trivial)
      rw [place] at popped checked set
      obtain ⟨away, length⟩ := set isSet
      refine ⟨pushed, popped, checked, fun _ => ⟨id, ?_⟩, (fun contrary => by cases contrary),
        fun _ stands => by cases stands⟩
      rw [length, WaitThread.unannounced_of_outside away]
      rfl
  | check place =>
      rw [place] at popped checked clear set
      exact ⟨pushed, popped, by rw [checked]; exact (List.append_nil _).symm, clear, set,
        fun _ stands => by cases stands⟩
  | encrypt place | sendIdentity place =>
      rw [place] at popped checked clear set
      exact ⟨pushed, popped, checked, clear, set, fun _ stands => by cases stands⟩
  | @sendResult reply place =>
      rw [place] at popped checked clear set
      refine ⟨pushed, ?_, checked, clear, set, fun _ stands => by cases stands⟩
      show server.popped = (server.replied ++ [reply]).map Sealed.queued ++ []
      rw [popped, List.map_append, List.append_nil]
      rfl

/-- The invariant holds as long as no exception has escaped. -/
theorem handOff_of_reachable {config : Config Peer} {server : Server Peer}
    (reached : (system config).Reachable server) (alive : server.terminated = none) :
    HandOff server := by
  refine TransitionSystem.Reachable.invariant
    (fun server => server.terminated = none → HandOff server) ?_ ?_ reached alive
  · intro start initially _
    rcases initially with ⟨crypto, rfl⟩
    exact handOff_boot crypto
  · intro server who next before taken alive
    rcases step_cases taken with ⟨running, ⟨message, -, rfl⟩ | ⟨-, waits⟩ | ⟨-, processes⟩⟩
    · obtain ⟨pushed, popped, checked, clear, set, first⟩ := before running
      exact ⟨pushed, popped, checked, clear, set, first⟩
    · exact handOff_waitMoves (before running) waits
    · exact handOff_processMoves (before running) processes alive

/-! ### What the invariant gives -/

theorem HandOff.not_both {server : Server Peer} (handOff : HandOff server) :
    ¬ (server.wait.InQueueSection ∧ server.process.InQueueSection) := by
  intro both
  rcases both with ⟨waits, processes⟩
  cases isSet : server.isAddingQueue with
  | true => exact (handOff.set isSet).1 waits
  | false => exact (handOff.clear isSet).1 processes

theorem HandOff.queue_length_le {server : Server Peer} (handOff : HandOff server) :
    server.clientIdentityQueue.length ≤ 1 := by
  cases isSet : server.isAddingQueue with
  | true =>
      rw [(handOff.set isSet).2]
      exact ProcessThread.announced_le _
  | false =>
      rw [(handOff.clear isSet).2]
      exact WaitThread.unannounced_le _

theorem HandOff.inHand_pushed {server : Server Peer} (handOff : HandOff server) {req : Queued}
    (inHand : req ∈ server.process.inHand) : req ∈ server.pushed := by
  rw [handOff.pushed, handOff.popped]
  exact List.mem_append_left _ (List.mem_append_right _ inHand)

/-- The same after an exception has ended the process. -/
theorem inHand_pushed_of_reachable {config : Config Peer} {server : Server Peer}
    (reached : (system config).Reachable server) {req : Queued}
    (inHand : req ∈ server.process.inHand) : req ∈ server.pushed := by
  cases ended : server.terminated with
  | none => exact (handOff_of_reachable reached ended).inHand_pushed inHand
  | some fault =>
      cases reached with
      | initial start =>
          obtain ⟨crypto, rfl⟩ := start
          cases ended
      | step before _ taken =>
          -- the statement that failed left both threads where they were
          rcases step_cases taken with ⟨alive, ⟨message, -, rfl⟩ | ⟨-, waits⟩ | ⟨-, processes⟩⟩
          · cases alive.symm.trans ended
          · cases waits with
            | initFails | xportFails =>
                exact (handOff_of_reachable before alive).inHand_pushed inHand
            | _ => cases alive.symm.trans ended
          · cases processes with
            | frontOfEmpty | popOfEmpty | checkFails | encryptFails =>
                exact (handOff_of_reachable before alive).inHand_pushed inHand
            | _ => cases alive.symm.trans ended

/-- Between seeing the flag set and popping, the queue is not empty. -/
theorem HandOff.queue_ne_nil {server : Server Peer} (handOff : HandOff server)
    (inside : server.process.InQueueSection) (announced : server.process.announced = 1) :
    server.clientIdentityQueue ≠ [] := by
  have isSet : server.isAddingQueue = true := by
    by_contra isClear
    exact (handOff.clear (by simpa using isClear)).1 inside
  intro empty
  have length := (handOff.set isSet).2
  rw [empty, announced] at length
  cases length

/-- Where every announced request is replied to, the processing thread waits for
the flag. -/
theorem HandOff.idle {server : Server Peer} (handOff : HandOff server)
    (replied : server.pushed.length = server.replied.length + server.wait.unannounced) :
    server.process = .testFlag ∧ server.isAddingQueue = false := by
  have pushedLength := congrArg List.length handOff.pushed
  have poppedLength := congrArg List.length handOff.popped
  rw [List.length_append] at pushedLength
  rw [List.length_append, List.length_map] at poppedLength
  have isClear : server.isAddingQueue = false := by
    by_contra isSet
    obtain ⟨away, length⟩ := handOff.set (Bool.not_eq_false _ ▸ isSet)
    rw [WaitThread.unannounced_of_outside away] at replied
    have balance : server.process.inHand.length + server.process.announced = 0 := by omega
    cases stands : server.process <;> rw [stands] at balance <;> cases balance
  obtain ⟨away, length⟩ := handOff.clear isClear
  have none : server.process.inHand.length = 0 := by omega
  refine ⟨?_, isClear⟩
  cases stands : server.process with
  | testFlag => rfl
  | testEmpty | front | pop req =>
      rw [stands] at away
      exact absurd trivial away
  | clearFlag req | check req | encrypt req isValid | sendIdentity reply | sendResult reply =>
      rw [stands] at none
      cases none

/-- Both threads are at the loops that test the flag, wherever steps of the two
threads lead. -/
def SpinsForever (config : Config Peer) (server : Server Peer) : Prop :=
  ∀ schedule after, (∀ who ∈ schedule, who = .waitRequest ∨ who = .processRequest) →
    (system config).run server schedule = some after →
    (∃ session message, after.wait = .testFlag session message) ∧
      (after.process = .testFlag ∨ after.process = .testEmpty)

/-- Whoever waits for the flag, the other thread gets past its own test. -/
theorem HandOff.not_spinsForever {config : Config Peer} {server : Server Peer}
    (handOff : HandOff server) (alive : server.terminated = none) :
    ¬ SpinsForever config server := by
  intro spins
  obtain ⟨⟨session, message, waits⟩, processes⟩ := spins [] server (by simp) rfl
  cases isSet : server.isAddingQueue with
  | false =>
      have moves : (system config).step server .waitRequest =
          some { server with wait := .push session message } := by
        rw [step_waitRequest alive]
        simp only [waitStep, waits, isSet, Bool.false_eq_true, if_false]
      obtain ⟨⟨_, _, stays⟩, -⟩ := spins [.waitRequest] _ (by simp)
        (TransitionSystem.run_cons_of_step _ [] moves)
      cases stays
  | true =>
      have queue : server.clientIdentityQueue.isEmpty = false := by
        have length := (handOff.set isSet).2
        have announced : server.process.announced = 1 := by
          rcases processes with stands | stands <;> rw [stands] <;> rfl
        rw [announced] at length
        cases queue : server.clientIdentityQueue with
        | nil => rw [queue] at length; cases length
        | cons req rest => rfl
      have fromEmpty (before : Server Peer) (alive : before.terminated = none)
          (stands : before.process = .testEmpty)
          (nonempty : before.clientIdentityQueue.isEmpty = false) :
          (system config).run before [.processRequest] = some { before with process := .front } := by
        apply TransitionSystem.run_cons_of_step _ []
        rw [step_processRequest alive]
        simp only [processStep, stands, nonempty, Bool.false_eq_true, if_false]
      rcases processes with stands | stands
      · have first : (system config).step server .processRequest =
            some { server with process := .testEmpty } := by
          rw [step_processRequest alive]
          simp only [processStep, stands, isSet, if_true]
        have ran := (TransitionSystem.run_cons_of_step _ [.processRequest] first).trans
          (fromEmpty { server with process := .testEmpty } alive rfl queue)
        obtain ⟨-, moved | moved⟩ :=
          spins [.processRequest, .processRequest] _ (by simp) ran <;> cases moved
      · obtain ⟨-, moved | moved⟩ :=
          spins [.processRequest] _ (by simp) (fromEmpty _ alive stands queue) <;> cases moved

/-- The hand-off, as long as no exception has escaped: the queue sections
exclude each other, the queue holds at most one request and is never found
empty, the threads never spin for ever, and requests are checked in the order
they were pushed in, with at most two on their way. -/
theorem handOff_exactly_once {config : Config Peer} {server : Server Peer}
    (reached : (system config).Reachable server) (alive : server.terminated = none) :
    ¬ (server.wait.InQueueSection ∧ server.process.InQueueSection) ∧
      server.clientIdentityQueue.length ≤ 1 ∧
      (server.process = .testEmpty ∨ server.process = .front ∨
          (∃ req, server.process = .pop req) → server.clientIdentityQueue ≠ []) ∧
      ¬ SpinsForever config server ∧
      server.checked <+: server.pushed ∧
      server.pushed.length ≤ server.popped.length + 1 ∧
      server.pushed.length ≤ server.replied.length + 2 := by
  have handOff := handOff_of_reachable reached alive
  have short := handOff.queue_length_le
  have hand := ProcessThread.inHand_length_le server.process
  have pushedLength := congrArg List.length handOff.pushed
  have poppedLength := congrArg List.length handOff.popped
  rw [List.length_append] at pushedLength
  rw [List.length_append, List.length_map] at poppedLength
  refine ⟨handOff.not_both, short, ?_, handOff.not_spinsForever alive, ?_, by omega, by omega⟩
  · rintro (stands | stands | ⟨req, stands⟩) <;>
      exact handOff.queue_ne_nil (by rw [stands]; trivial) (by rw [stands]; rfl)
  · rw [handOff.pushed, handOff.checked, List.append_assoc]
    exact List.prefix_append _ _

/-! ### One session -/

/-- A server for two peers that accepts every request. -/
def sampleConfig : Config Bool where
  network := twoPeers
  lib := Reference.library
  draws number := if number = 0 then Reference.drawA else Reference.drawB
  check _ _ := .ok true

/-- A greeting with the keys `2 ^ 1018` and `2 ^ 1019`. -/
def greetingMessage (sender : Bool) : Message Bool where
  sender := sender
  payload := [greeting, Reference.keyText 4, Reference.keyText 8]
  nonempty := List.cons_ne_nil _ _

def clientIDMessage (sender : Bool) : Message Bool where
  sender := sender
  payload := [ascii "TESTING_CLIENT"]
  nonempty := List.cons_ne_nil _ _

/-- Both messages of a client, and one turn of the receive loop. -/
def oneSession : List (Step Bool) :=
  [.arrive (greetingMessage false), .arrive (clientIDMessage false)] ++
    List.replicate 52 .waitRequest

theorem oneSession_pushes : ∃ server,
    (system sampleConfig).run (boot .initial) (oneSession ++ List.replicate 3 .processRequest) =
        some server ∧
      server.terminated = none ∧
      server.process =
        .pop ⟨⟨ascii "peer A", ascii "TESTING_CLIENT", ascii "127.0.0.1"⟩, 0⟩ := by
  apply TransitionSystem.ends_in
  decide +kernel

/-- The hand-off while a request is about to be popped. -/
theorem handOff_exactly_once_at_pop : ∃ server : Server Bool,
    server.process = .pop ⟨⟨ascii "peer A", ascii "TESTING_CLIENT", ascii "127.0.0.1"⟩, 0⟩ ∧
      ¬ (server.wait.InQueueSection ∧ server.process.InQueueSection) ∧
      server.clientIdentityQueue.length ≤ 1 ∧
      (server.process = .testEmpty ∨ server.process = .front ∨
          (∃ req, server.process = .pop req) → server.clientIdentityQueue ≠ []) ∧
      ¬ SpinsForever sampleConfig server ∧
      server.checked <+: server.pushed ∧
      server.pushed.length ≤ server.popped.length + 1 ∧
      server.pushed.length ≤ server.replied.length + 2 := by
  obtain ⟨server, ran, alive, stands⟩ := oneSession_pushes
  have start : (system sampleConfig).Reachable (boot .initial) := .start ⟨.initial, rfl⟩
  exact ⟨server, stands, handOff_exactly_once (start.of_run ran) alive⟩

end Server

end LicensingServer
